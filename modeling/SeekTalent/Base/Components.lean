import Mathlib.Data.Set.Insert
import Mathlib.Logic.Relation

/-!
# Connected components, one group at a time

Groups of tokens arrive one after another; all tokens of a group belong together. The
components are the classes of the equivalence this generates (`Joined`). An incremental
structure keeps a *label* for every token it has met; `Labels` says that the labels
separate exactly the components. When a group arrives, everything that carries a label
found in the group is relabelled with one target label, which must not be in use
elsewhere: then the labels separate the new components (`Labels.add`).

Seen from the groups, two tokens are joined exactly when a chain of overlapping groups
leads from one to the other (`joined_iff_connected`).
-/

namespace Components

open Relation (EqvGen)

variable {τ β ι : Type*} {G : Set (Set τ)} {a b t : τ}

/-- The equivalence generated by belonging to one group. -/
def Joined (G : Set (Set τ)) : τ → τ → Prop := EqvGen fun a b => ∃ g ∈ G, a ∈ g ∧ b ∈ g

theorem Joined.of_mem {g : Set τ} (hg : g ∈ G) (ha : a ∈ g) (hb : b ∈ g) : Joined G a b :=
  .rel a b ⟨g, hg, ha, hb⟩

theorem Joined.eq_of_forall {α : Type*} {f : τ → α} (h : Joined G a b)
    (hf : ∀ g ∈ G, ∀ x ∈ g, ∀ y ∈ g, f x = f y) : f a = f b := by
  induction h with
  | rel a b hab =>
    obtain ⟨g, hg, ha, hb⟩ := hab
    exact hf g hg a ha b hb
  | refl a => rfl
  | symm a b _ ih => exact ih.symm
  | trans a b c _ _ ih₁ ih₂ => exact ih₁.trans ih₂

theorem Joined.mono {G' : Set (Set τ)} (h : Joined G a b) (hsub : G ⊆ G') : Joined G' a b := by
  induction h with
  | rel a b hab =>
    obtain ⟨g, hg, ha, hb⟩ := hab
    exact .of_mem (hsub hg) ha hb
  | refl a => exact .refl a
  | symm a b _ ih => exact .symm _ _ ih
  | trans a b c _ _ ih₁ ih₂ => exact .trans _ _ _ ih₁ ih₂

/-! ## Labels -/

/-- The labels separate the components of the tokens met so far. -/
structure Labels (G : Set (Set τ)) (lab : τ → Option β) : Prop where
  occurs : ∀ t, (∃ l, lab t = some l) ↔ ∃ g ∈ G, t ∈ g
  same : ∀ a b l, lab a = some l → (lab b = some l ↔ Joined G a b)

theorem Labels.empty : Labels (∅ : Set (Set τ)) (fun _ => (none : Option β)) :=
  ⟨by simp, by simp⟩

/-- The token is in the new group, or carries the label of a token that is. -/
def Touched (lab : τ → Option β) (g : Set τ) (t : τ) : Prop :=
  t ∈ g ∨ ∃ x ∈ g, ∃ l, lab x = some l ∧ lab t = some l

theorem Labels.joined_of_touched {lab : τ → Option β} (h : Labels G lab) {g : Set τ}
    (ht : Touched lab g t) : ∃ x ∈ g, Joined (insert g G) t x := by
  rcases ht with ht | ⟨x, hx, l, hlx, hlt⟩
  · exact ⟨t, ht, .refl t⟩
  · exact ⟨x, hx, ((h.same t x l hlt).mp hlx).mono (Set.subset_insert g G)⟩

/-- **A new group.** What it touches gets the target label, the rest keeps its own; the
    target is a label of the group, or in use nowhere. -/
theorem Labels.add {lab lab' : τ → Option β} (h : Labels G lab) {g : Set τ} (target : β)
    (hin : ∀ t, Touched lab g t → lab' t = some target)
    (hout : ∀ t, ¬Touched lab g t → lab' t = lab t)
    (hfree : (∃ x ∈ g, lab x = some target) ∨ ∀ t, lab t ≠ some target) :
    Labels (insert g G) lab' := by
  -- a token that has the target label afterwards is a touched one
  have htouched : ∀ t, lab' t = some target → Touched lab g t := by
    intro t ht
    by_contra hnot
    rw [hout t hnot] at ht
    rcases hfree with ⟨x, hx, hlx⟩ | hfree
    · exact hnot (.inr ⟨x, hx, target, hlx, ht⟩)
    · exact hfree t ht
  have hjoin : ∀ a b, Touched lab g a → Touched lab g b → Joined (insert g G) a b := by
    intro a b ha hb
    obtain ⟨x, hx, hax⟩ := h.joined_of_touched ha
    obtain ⟨y, hy, hby⟩ := h.joined_of_touched hb
    exact .trans _ _ _ hax
      (.trans _ _ _ (Joined.of_mem (Set.mem_insert g G) hx hy) (.symm _ _ hby))
  -- the new labels are constant on every group
  have hconst : ∀ a b, Joined (insert g G) a b → lab' a = lab' b := by
    intro a b hab
    refine hab.eq_of_forall fun g' hg' x hx y hy => ?_
    rcases Set.mem_insert_iff.mp hg' with rfl | hg'
    · rw [hin x (.inl hx), hin y (.inl hy)]
    · obtain ⟨l, hlx⟩ := (h.occurs x).mpr ⟨g', hg', hx⟩
      have hly : lab y = some l := (h.same x y l hlx).mpr (Joined.of_mem hg' hx hy)
      have hsame : Touched lab g x ↔ Touched lab g y := by
        constructor
        · intro ht
          rcases ht with ht | ⟨z, hz, k, hkz, hkx⟩
          · exact .inr ⟨x, ht, l, hlx, hly⟩
          · rw [hlx] at hkx
            exact .inr ⟨z, hz, k, hkz, hly.trans hkx⟩
        · intro ht
          rcases ht with ht | ⟨z, hz, k, hkz, hky⟩
          · exact .inr ⟨y, ht, l, hly, hlx⟩
          · rw [hly] at hky
            exact .inr ⟨z, hz, k, hkz, hlx.trans hky⟩
      by_cases ht : Touched lab g x
      · rw [hin x ht, hin y (hsame.mp ht)]
      · rw [hout x ht, hout y (fun h => ht (hsame.mpr h)), hlx, hly]
  refine ⟨fun t => ?_, fun a b l hla => ⟨fun hlb => ?_, fun hab => ?_⟩⟩
  · constructor
    · rintro ⟨l, hl⟩
      by_cases ht : Touched lab g t
      · rcases ht with ht | ⟨x, hx, k, -, hkt⟩
        · exact ⟨g, Set.mem_insert g G, ht⟩
        · obtain ⟨g', hg', htg'⟩ := (h.occurs t).mp ⟨k, hkt⟩
          exact ⟨g', Set.mem_insert_of_mem g hg', htg'⟩
      · rw [hout t ht] at hl
        obtain ⟨g', hg', htg'⟩ := (h.occurs t).mp ⟨l, hl⟩
        exact ⟨g', Set.mem_insert_of_mem g hg', htg'⟩
    · rintro ⟨g', hg', htg'⟩
      by_cases ht : Touched lab g t
      · exact ⟨target, hin t ht⟩
      · rw [hout t ht]
        rcases Set.mem_insert_iff.mp hg' with rfl | hg'
        · exact absurd (.inl htg') ht
        · exact (h.occurs t).mpr ⟨g', hg', htg'⟩
  · by_cases hl : l = target
    · subst hl
      exact hjoin a b (htouched a hla) (htouched b hlb)
    · have hnot : ∀ t, lab' t = some l → lab t = some l := by
        intro t ht
        have hnt : ¬Touched lab g t := fun htt =>
          hl (Option.some.inj (ht.symm.trans (hin t htt)))
        rwa [hout t hnt] at ht
      exact ((h.same a b l (hnot a hla)).mp (hnot b hlb)).mono (Set.subset_insert g G)
  · rw [← hconst a b hab]
    exact hla

/-! ## Chains of groups -/

variable {items : Set ι} {tokens : ι → Set τ} {u v : ι}

/-- A chain of items, each overlapping with the next, leads from one to the other. -/
def Connected (items : Set ι) (tokens : ι → Set τ) : ι → ι → Prop :=
  EqvGen fun u v => u ∈ items ∧ v ∈ items ∧ (tokens u ∩ tokens v).Nonempty

theorem Connected.mem_iff (h : Connected items tokens u v) : u ∈ items ↔ v ∈ items := by
  induction h with
  | rel u v huv => exact ⟨fun _ => huv.2.1, fun _ => huv.1⟩
  | refl u => rfl
  | symm u v _ ih => exact ih.symm
  | trans u v w _ _ ih₁ ih₂ => exact ih₁.trans ih₂

theorem Joined.occurs_iff (h : Joined G a b) : (∃ g ∈ G, a ∈ g) ↔ ∃ g ∈ G, b ∈ g := by
  induction h with
  | rel a b hab =>
    obtain ⟨g, hg, ha, hb⟩ := hab
    exact ⟨fun _ => ⟨g, hg, hb⟩, fun _ => ⟨g, hg, ha⟩⟩
  | refl a => rfl
  | symm a b _ ih => exact ih.symm
  | trans a b c _ _ ih₁ ih₂ => exact ih₁.trans ih₂

theorem Joined.connected (h : Joined (tokens '' items) a b) :
    ∀ u ∈ items, ∀ v ∈ items, a ∈ tokens u → b ∈ tokens v → Connected items tokens u v := by
  have hlink : ∀ {t : τ} {u v : ι}, u ∈ items → v ∈ items → t ∈ tokens u → t ∈ tokens v →
      Connected items tokens u v := fun hu hv htu htv => .rel _ _ ⟨hu, hv, _, htu, htv⟩
  induction h with
  | rel a b hab =>
    intro u hu v hv ha hb
    obtain ⟨_, ⟨w, hw, rfl⟩, haw, hbw⟩ := hab
    exact .trans _ _ _ (hlink hu hw ha haw) (hlink hw hv hbw hb)
  | refl a =>
    intro u hu v hv ha hb
    exact hlink hu hv ha hb
  | symm a b _ ih =>
    intro u hu v hv ha hb
    exact .symm _ _ (ih v hv u hu hb ha)
  | trans a b c hab _ ih₁ ih₂ =>
    intro u hu v hv ha hc
    obtain ⟨_, ⟨w, hw, rfl⟩, hbw⟩ := (Joined.occurs_iff hab).mp ⟨_, ⟨u, hu, rfl⟩, ha⟩
    exact .trans _ _ _ (ih₁ u hu w hw ha hbw) (ih₂ w hw v hv hbw hc)

theorem Connected.joined (h : Connected items tokens u v)
    (hne : ∀ w ∈ items, (tokens w).Nonempty) (hu : u ∈ items) :
    ∀ a ∈ tokens u, ∀ b ∈ tokens v, Joined (tokens '' items) a b := by
  have hitem : ∀ {w : ι} {a b : τ}, w ∈ items → a ∈ tokens w → b ∈ tokens w →
      Joined (tokens '' items) a b := fun hw => .of_mem ⟨_, hw, rfl⟩
  induction h with
  | rel u v huv =>
    intro a ha b hb
    obtain ⟨-, hv, t, htu, htv⟩ := huv
    exact .trans _ _ _ (hitem hu ha htu) (hitem hv htv hb)
  | refl u =>
    intro a ha b hb
    exact hitem hu ha hb
  | symm u v huv ih =>
    intro a ha b hb
    exact .symm _ _ (ih ((Connected.mem_iff huv).mpr hu) b hb a ha)
  | trans u v w huv _ ih₁ ih₂ =>
    intro a ha b hb
    have hv := (Connected.mem_iff huv).mp hu
    obtain ⟨t, ht⟩ := hne v hv
    exact .trans _ _ _ (ih₁ hu a ha t ht) (ih₂ hv t ht b hb)

/-- **Two tokens are joined exactly when the items they are in are connected.** -/
theorem joined_iff_connected (hne : ∀ w ∈ items, (tokens w).Nonempty) (hu : u ∈ items)
    (hv : v ∈ items) (ha : a ∈ tokens u) (hb : b ∈ tokens v) :
    Joined (tokens '' items) a b ↔ Connected items tokens u v :=
  ⟨fun h => h.connected u hu v hv ha hb, fun h => h.joined hne hu a ha b hb⟩

end Components

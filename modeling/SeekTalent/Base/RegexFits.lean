import SeekTalent.Base.Regex

/-!
# What a regular expression fits

`Fits r before read rest` says of the texts on both sides of a match, and of the text that is read,
that the expression matches there. For an expression without captured groups this is all there is
to know of it, whatever the order in which the matcher tries its ways: there is one law for each
construct, and a search finds something if and only if the expression fits some part of the text
(`search_iff`).
-/

namespace Regex

/-- The character before the place that is reached when a text is read. -/
def lastOf (before : Option Char) (read : List Char) : Option Char := read.getLast?.or before

@[simp] theorem lastOf_nil (before : Option Char) : lastOf before [] = before := rfl

theorem lastOf_cons (before : Option Char) (c : Char) (read : List Char) :
    lastOf before (c :: read) = lastOf (some c) read := by
  unfold lastOf
  rw [List.getLast?_cons]
  cases read.getLast? <;> rfl

theorem lastOf_append (before : Option Char) (read read' : List Char) :
    lastOf before (read ++ read') = lastOf (lastOf before read) read' := by
  unfold lastOf
  rw [List.getLast?_append, Option.or_assoc]

/-- The expression can read the text `read` between a character and a text. -/
def Fits (r : Regex) (before : Option Char) (read rest : List Char) : Prop :=
  ⟨lastOf before read, rest⟩ ∈ r.ends ⟨before, read ++ rest⟩

section Fits

variable {r s : Regex} {rs : List Regex} {p q : Place} {before : Option Char}
variable {read rest : List Char} {ok isWord : Char → Bool} {n : Nat}

/-- The second place is reached from the first one. -/
def Reaches (p q : Place) : Prop :=
  ∃ read, p.rest = read ++ q.rest ∧ q.before = lastOf p.before read

theorem Reaches.refl (p : Place) : Reaches p p := ⟨[], rfl, rfl⟩

theorem Reaches.trans {p' : Place} (h : Reaches p q) (h' : Reaches q p') : Reaches p p' := by
  obtain ⟨read, hrest, hbefore⟩ := h
  obtain ⟨read', hrest', hbefore'⟩ := h'
  refine ⟨read ++ read', ?_, ?_⟩
  · rw [hrest, hrest', List.append_assoc]
  · rw [lastOf_append, ← hbefore, hbefore']

theorem reaches_repeatEnds {step : Place → List Place}
    (hstep : ∀ p q, q ∈ step p → Reaches p q) : ∀ {n : Nat} {p : Place},
    q ∈ repeatEnds step n p → Reaches p q := by
  intro n
  induction n with
  | zero =>
    intro p h
    obtain rfl : q = p := by simpa [repeatEnds] using h
    exact .refl q
  | succ n ih =>
    intro p h
    unfold repeatEnds at h
    rcases List.mem_append.mp h with h | h
    · obtain ⟨q', hq', hrest⟩ := List.mem_flatMap.mp h
      exact (hstep p q' (List.mem_of_mem_filter hq')).trans (ih hrest)
    · obtain rfl := List.mem_singleton.mp h
      exact .refl q

theorem reaches_repeatEndsLazy {step : Place → List Place}
    (hstep : ∀ p q, q ∈ step p → Reaches p q) : ∀ {n : Nat} {p : Place},
    q ∈ repeatEndsLazy step n p → Reaches p q := by
  intro n
  induction n with
  | zero =>
    intro p h
    obtain rfl : q = p := by simpa [repeatEndsLazy] using h
    exact .refl q
  | succ n ih =>
    intro p h
    unfold repeatEndsLazy at h
    rcases List.mem_cons.mp h with rfl | h
    · exact .refl q
    · obtain ⟨q', hq', hrest⟩ := List.mem_flatMap.mp h
      exact (hstep p q' (List.mem_of_mem_filter hq')).trans (ih hrest)

theorem reaches_of_mem_ends (h : q ∈ r.ends p) : Reaches p q := by
  induction r generalizing p q with
  | empty =>
    obtain rfl := List.mem_singleton.mp h
    exact .refl q
  | char ok =>
    unfold ends at h
    split at h
    · simp at h
    · rename_i c cs hrest
      split at h
      · obtain rfl := List.mem_singleton.mp h
        exact ⟨[c], hrest, rfl⟩
      · simp at h
  | seq r s ihr ihs =>
    obtain ⟨q', hq', hq⟩ := List.mem_flatMap.mp h
    exact (ihr hq').trans (ihs hq)
  | alt r s ihr ihs =>
    rcases List.mem_append.mp h with h | h
    · exact ihr h
    · exact ihs h
  | star r ih => exact reaches_repeatEnds (fun p q => ih) h
  | boundary isWord =>
    unfold ends at h
    split at h
    · obtain rfl := List.mem_singleton.mp h
      exact .refl q
    · simp at h
  | lazyStar r ih => exact reaches_repeatEndsLazy (fun p q => ih) h
  | look ok =>
    unfold ends at h
    split at h
    · obtain rfl := List.mem_singleton.mp h
      exact .refl q
    · simp at h

theorem mem_ends_iff : q ∈ r.ends p ↔ ∃ read, p.rest = read ++ q.rest ∧
    q.before = lastOf p.before read ∧ r.Fits p.before read q.rest := by
  obtain ⟨before, rest⟩ := p
  obtain ⟨before', rest'⟩ := q
  constructor
  · intro h
    obtain ⟨read, hrest, hbefore⟩ := reaches_of_mem_ends h
    dsimp only at hrest hbefore
    subst hrest hbefore
    exact ⟨read, rfl, rfl, h⟩
  · rintro ⟨read, hrest, hbefore, hfits⟩
    dsimp only at hrest hbefore hfits
    subst hrest hbefore
    exact hfits

/-! ## The laws -/

theorem fits_empty : empty.Fits before read rest ↔ read = [] := by
  constructor
  · intro h
    have hplace := congrArg Place.rest (List.mem_singleton.mp h)
    exact List.self_eq_append_left.mp hplace
  · rintro rfl
    exact List.mem_singleton_self _

theorem fits_char : (char ok).Fits before read rest ↔ ∃ c, read = [c] ∧ ok c = true := by
  constructor
  · intro h
    obtain ⟨read', hread, hok⟩ := between_of_mem_ends (P := fun c => ok c = true)
      (show (char ok).Reads _ from fun _ hc => hc) h
    obtain rfl : read = read' := List.append_cancel_right hread
    cases read with
    | nil =>
      unfold Fits ends at h
      cases rest with
      | nil => simp at h
      | cons c cs =>
        dsimp only [List.nil_append] at h
        split at h
        · have hplace := congrArg Place.rest (List.mem_singleton.mp h)
          simp at hplace
        · simp at h
    | cons c cs =>
      have hc := hok c List.mem_cons_self
      unfold Fits ends at h
      dsimp only [List.cons_append] at h
      rw [if_pos hc] at h
      have hplace := congrArg Place.rest (List.mem_singleton.mp h)
      obtain rfl : cs = [] := List.self_eq_append_left.mp hplace
      exact ⟨c, rfl, hc⟩
  · rintro ⟨c, rfl, hc⟩
    unfold Fits ends
    dsimp only [List.cons_append]
    rw [if_pos hc]
    exact List.mem_singleton_self _

theorem fits_seq : (seq r s).Fits before read rest ↔
    ∃ first second, read = first ++ second ∧ r.Fits before first (second ++ rest) ∧
      s.Fits (lastOf before first) second rest := by
  constructor
  · intro h
    obtain ⟨q, hq, hend⟩ := List.mem_flatMap.mp h
    obtain ⟨first, hrest, hbefore, hfirst⟩ := mem_ends_iff.mp hq
    obtain ⟨second, hrest', -, hsecond⟩ := mem_ends_iff.mp hend
    dsimp only at hrest hbefore hfirst hrest' hsecond
    rw [hrest'] at hrest hfirst
    rw [hbefore] at hsecond
    refine ⟨first, second, ?_, hfirst, hsecond⟩
    rw [← List.append_assoc] at hrest
    exact List.append_cancel_right hrest
  · rintro ⟨first, second, rfl, hfirst, hsecond⟩
    apply List.mem_flatMap.mpr
    refine ⟨⟨lastOf before first, second ++ rest⟩, ?_, ?_⟩
    · rw [List.append_assoc]
      exact hfirst
    · rw [lastOf_append]
      exact hsecond

theorem fits_alt : (alt r s).Fits before read rest ↔
    r.Fits before read rest ∨ s.Fits before read rest :=
  List.mem_append

theorem fits_opt : (opt r).Fits before read rest ↔ r.Fits before read rest ∨ read = [] := by
  unfold opt
  rw [fits_alt, fits_empty]

theorem fits_boundary : (boundary isWord).Fits before read rest ↔
    read = [] ∧ before.any isWord ≠ rest.head?.any isWord := by
  constructor
  · intro h
    unfold Fits ends at h
    split at h
    · rename_i hedge
      have hplace := congrArg Place.rest (List.mem_singleton.mp h)
      obtain rfl : read = [] := List.self_eq_append_left.mp hplace
      exact ⟨rfl, bne_iff_ne.mp hedge⟩
    · simp at h
  · rintro ⟨rfl, hedge⟩
    unfold Fits ends
    rw [List.nil_append, if_pos (bne_iff_ne.mpr hedge)]
    exact List.mem_singleton_self _

theorem fits_star_char : (star (char ok)).Fits before read rest ↔ ∀ c ∈ read, ok c = true := by
  constructor
  · intro h
    obtain ⟨read', hread, hok⟩ := between_of_mem_ends (P := fun c => ok c = true)
      (show (star (char ok)).Reads _ from fun _ hc => hc) h
    obtain rfl : read = read' := List.append_cancel_right hread
    exact hok
  · intro hok
    have hmany : ∀ n, read.length ≤ n →
        ⟨lastOf before read, rest⟩ ∈ repeatEnds (char ok).ends n ⟨before, read ++ rest⟩ := by
      induction read generalizing before with
      | nil =>
        intro n _
        cases n with
        | zero => exact List.mem_singleton_self _
        | succ n => exact List.mem_append_right _ (List.mem_singleton_self _)
      | cons c read ih =>
        intro n hn
        cases n with
        | zero => simp at hn
        | succ n =>
          have hstep : (⟨some c, read ++ rest⟩ : Place) ∈
              (char ok).ends ⟨before, c :: read ++ rest⟩ :=
            fits_char.mpr ⟨c, rfl, hok c List.mem_cons_self⟩
          apply List.mem_append_left
          apply List.mem_flatMap.mpr
          refine ⟨_, List.mem_filter.mpr ⟨hstep, by simp⟩, ?_⟩
          rw [lastOf_cons]
          exact ih (fun d hd => hok d (List.mem_cons_of_mem c hd)) n (Nat.le_of_succ_le_succ hn)
    exact hmany _ (by simp)

theorem fits_exactly_char : (exactly n (char ok)).Fits before read rest ↔
    read.length = n ∧ ∀ c ∈ read, ok c = true := by
  induction n generalizing before read with
  | zero =>
    rw [exactly, fits_empty, List.length_eq_zero_iff]
    exact ⟨fun h => ⟨h, by simp [h]⟩, And.left⟩
  | succ n ih =>
    rw [exactly, fits_seq]
    constructor
    · rintro ⟨first, second, rfl, hfirst, hsecond⟩
      obtain ⟨c, rfl, hc⟩ := fits_char.mp hfirst
      obtain ⟨hlength, hok⟩ := ih.mp hsecond
      exact ⟨by simp [hlength], List.forall_mem_cons.mpr ⟨hc, hok⟩⟩
    · rintro ⟨hlength, hok⟩
      cases read with
      | nil => simp at hlength
      | cons c read =>
        obtain ⟨hc, hok⟩ := List.forall_mem_cons.mp hok
        exact ⟨[c], read, rfl, fits_char.mpr ⟨c, rfl, hc⟩, ih.mpr ⟨by simpa using hlength, hok⟩⟩

theorem fits_atLeast_char : (atLeast n (char ok)).Fits before read rest ↔
    n ≤ read.length ∧ ∀ c ∈ read, ok c = true := by
  unfold atLeast
  rw [fits_seq]
  constructor
  · rintro ⟨first, second, rfl, hfirst, hsecond⟩
    obtain ⟨hlength, hok⟩ := fits_exactly_char.mp hfirst
    have hok' := fits_star_char.mp hsecond
    exact ⟨by simp [hlength], List.forall_mem_append.mpr ⟨hok, hok'⟩⟩
  · rintro ⟨hlength, hok⟩
    refine ⟨read.take n, read.drop n, (List.take_append_drop n read).symm, ?_, ?_⟩
    · refine fits_exactly_char.mpr ⟨List.length_take_of_le hlength, ?_⟩
      exact fun c hc => hok c (List.mem_of_mem_take hc)
    · exact fits_star_char.mpr fun c hc => hok c (List.mem_of_mem_drop hc)

theorem fits_all_nil : (all []).Fits before read rest ↔ read = [] := fits_empty

theorem fits_all_cons : (all (r :: rs)).Fits before read rest ↔
    ∃ first second, read = first ++ second ∧ r.Fits before first (second ++ rest) ∧
      (all rs).Fits (lastOf before first) second rest := fits_seq

theorem fits_text {s : String} : (text s).Fits before read rest ↔ read = s.toList := by
  unfold text
  induction s.toList generalizing before read with
  | nil => exact fits_all_nil
  | cons c cs ih =>
    rw [List.map_cons, fits_all_cons]
    constructor
    · rintro ⟨first, second, rfl, hfirst, hsecond⟩
      obtain ⟨d, rfl, hd⟩ := fits_char.mp hfirst
      rw [ih.mp hsecond, eq_of_beq hd]
      rfl
    · rintro rfl
      exact ⟨[c], cs, rfl, fits_char.mpr ⟨c, rfl, beq_self_eq_true c⟩, ih.mpr rfl⟩

/-! ## Searching -/

theorem searchFrom_iff : r.searchFrom before rest = true ↔
    ∃ skipped read after, rest = skipped ++ (read ++ after) ∧
      r.Fits (lastOf before skipped) read after := by
  have hhere : ∀ before rest, (!(r.ends ⟨before, rest⟩).isEmpty) = true ↔
      ∃ read after, rest = read ++ after ∧ r.Fits before read after := by
    intro before rest
    rw [Bool.not_eq_true', ← Bool.not_eq_true, List.isEmpty_iff, ← ne_eq,
      List.ne_nil_iff_exists_cons]
    constructor
    · rintro ⟨q, qs, hends⟩
      have hmem : q ∈ r.ends ⟨before, rest⟩ := hends ▸ List.mem_cons_self
      obtain ⟨read, hrest, -, hfits⟩ := mem_ends_iff.mp hmem
      exact ⟨read, q.rest, hrest, hfits⟩
    · rintro ⟨read, after, rfl, hfits⟩
      exact List.exists_cons_of_ne_nil (List.ne_nil_of_mem hfits)
  induction rest generalizing before with
  | nil =>
    rw [searchFrom, hhere]
    constructor
    · rintro ⟨read, after, hrest, hfits⟩
      exact ⟨[], read, after, hrest, hfits⟩
    · rintro ⟨skipped, read, after, hrest, hfits⟩
      obtain ⟨rfl, hread⟩ := List.append_eq_nil_iff.mp hrest.symm
      exact ⟨read, after, hread.symm, hfits⟩
  | cons c cs ih =>
    rw [searchFrom, Bool.or_eq_true, hhere]
    refine (or_congr_right ih).trans ?_
    constructor
    · rintro (⟨read, after, hrest, hfits⟩ | ⟨skipped, read, after, rfl, hfits⟩)
      · exact ⟨[], read, after, hrest, hfits⟩
      · exact ⟨c :: skipped, read, after, rfl, by rw [lastOf_cons]; exact hfits⟩
    · rintro ⟨skipped, read, after, hrest, hfits⟩
      cases skipped with
      | nil => exact .inl ⟨read, after, hrest, hfits⟩
      | cons d skipped =>
        obtain ⟨rfl, rfl⟩ := List.cons.inj hrest
        rw [lastOf_cons] at hfits
        exact .inr ⟨skipped, read, after, rfl, hfits⟩

/-- **A search finds something** if and only if the expression fits some part of the text. -/
theorem search_iff {s : String} : r.search s = true ↔
    ∃ skipped read after, s.toList = skipped ++ (read ++ after) ∧
      r.Fits skipped.getLast? read after := by
  unfold search
  rw [searchFrom_iff]
  simp only [lastOf, Option.or_none]

end Fits

end Regex

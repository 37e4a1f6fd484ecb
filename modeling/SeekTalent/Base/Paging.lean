import Mathlib.Data.List.Chain
import Mathlib.Data.List.Infix
import Mathlib.Order.MinMax
import Mathlib.Tactic.Linarith

/-!
# Reading a list page by page

A reader asks for pages `(no, size)` of one list of length `L`; page `no` of size `size`
is the slice `[(no - 1) * size, no * size)`. While the size stays the same consecutive
pages leave no gap, and a reader that changes it may skip items. The reading leaves no gap
after any request (`Contiguous`) exactly when every page starts inside what has been
reached or past the end of the list (`contiguous_concat_iff`). In a *run* — pages that
each start at or before the end of the one before — only the first page can break this
(`contiguous_append_run_iff`), so a reading made of runs is judged by their first pages
(`contiguous_flatten_iff`).
-/

namespace Paging

structure Page where
  no : Nat
  size : Nat
  deriving DecidableEq

def Page.start (p : Page) : Nat := (p.no - 1) * p.size

def Page.stop (p : Page) : Nat := p.no * p.size

def Page.Proper (p : Page) : Prop := 0 < p.no ∧ 0 < p.size

theorem Page.Proper.start_lt_stop {p : Page} (h : p.Proper) : p.start < p.stop := by
  unfold Page.start Page.stop
  exact Nat.mul_lt_mul_of_pos_right (by have := h.1; omega) h.2

/-- The items of a list that are on the page. -/
def Page.slice {α : Type} (p : Page) (list : List α) : List α := (list.drop p.start).take p.size

theorem Page.start_lt_of_slice {α : Type} {p : Page} {list : List α}
    (h : (p.slice list).length ≠ 0) : p.start < list.length := by
  by_contra hge
  apply h
  simp [Page.slice, List.drop_eq_nil_of_le (not_lt.mp hge)]

variable {L : Nat} {ps : List Page} {p : Page} {n : Nat}

/-- Item `n` of a list of length `L` is on one of the pages. -/
def Fetched (L : Nat) (ps : List Page) (n : Nat) : Prop :=
  n < L ∧ ∃ p ∈ ps, p.start ≤ n ∧ n < p.stop

/-- Whatever was fetched, everything before it was fetched too. -/
def GapFree (L : Nat) (ps : List Page) : Prop :=
  ∀ n, Fetched L ps n → ∀ m < n, Fetched L ps m

def Contiguous (L : Nat) (ps : List Page) : Prop := ∀ pre, pre <+: ps → GapFree L pre

theorem Contiguous.gapFree (h : Contiguous L ps) : GapFree L ps := h ps List.prefix_rfl

/-- How far the pages that lie on the list have reached. -/
def reach (L : Nat) : List Page → Nat
  | [] => 0
  | p :: ps => if p.start < L then max p.stop (reach L ps) else reach L ps

theorem stop_le_reach (hp : p ∈ ps) (hL : p.start < L) : p.stop ≤ reach L ps := by
  induction ps with
  | nil => cases hp
  | cons q qs ih =>
    unfold reach
    rcases List.mem_cons.mp hp with rfl | hp
    · rw [if_pos hL]
      exact le_max_left _ _
    · split
      · exact (ih hp).trans (le_max_right _ _)
      · exact ih hp

/-- Something beyond `n` was reached by a page on the list. -/
theorem exists_page_of_lt_reach (h : n < reach L ps) : ∃ p ∈ ps, p.start < L ∧ n < p.stop := by
  induction ps with
  | nil => exact absurd h (Nat.not_lt_zero n)
  | cons q qs ih =>
    have hrest : n < reach L qs → ∃ p ∈ q :: qs, p.start < L ∧ n < p.stop := fun hn =>
      let ⟨p, hp, hpn⟩ := ih hn
      ⟨p, List.mem_cons_of_mem q hp, hpn⟩
    unfold reach at h
    split at h
    · rename_i hq
      rcases lt_max_iff.mp h with hn | hn
      · exact ⟨q, List.mem_cons_self, hq, hn⟩
      · exact hrest hn
    · exact hrest h

theorem GapFree.fetched_iff (h : GapFree L ps) (hps : ∀ p ∈ ps, p.Proper) :
    Fetched L ps n ↔ n < L ∧ n < reach L ps := by
  constructor
  · rintro ⟨hL, p, hp, hstart, hstop⟩
    exact ⟨hL, hstop.trans_le (stop_le_reach hp (hstart.trans_lt hL))⟩
  · rintro ⟨hL, hn⟩
    obtain ⟨p, hp, hpL, hpn⟩ := exists_page_of_lt_reach hn
    -- the last item of that page was fetched, and it lies at or after `n`
    have hproper := (hps p hp).start_lt_stop
    have hlast : Fetched L ps (min p.stop L - 1) := ⟨by omega, p, hp, by omega, by omega⟩
    rcases Nat.lt_or_ge n (min p.stop L - 1) with hlt | hge
    · exact h _ hlast n hlt
    · have : n = min p.stop L - 1 := by omega
      exact this ▸ hlast

theorem fetched_append (L : Nat) (ps qs : List Page) (n : Nat) :
    Fetched L (ps ++ qs) n ↔ Fetched L ps n ∨ Fetched L qs n := by
  simp only [Fetched, List.mem_append, or_and_right, exists_or, and_or_left]

/-- One more page leaves no gap exactly when it starts inside what was reached, or past the
    end. -/
theorem GapFree.concat_iff (h : GapFree L ps) (hps : ∀ p ∈ ps, p.Proper) (hp : p.Proper) :
    GapFree L (ps ++ [p]) ↔ L ≤ p.start ∨ p.start ≤ reach L ps := by
  have hpage : ∀ n, Fetched L [p] n ↔ n < L ∧ p.start ≤ n ∧ n < p.stop := by
    simp [Fetched]
  constructor
  · intro hgap
    by_contra hout
    rw [not_or, not_le, not_le] at hout
    have hstart : Fetched L (ps ++ [p]) p.start :=
      (fetched_append ..).mpr (.inr ((hpage _).mpr ⟨hout.1, le_rfl, hp.start_lt_stop⟩))
    have hreach := hgap _ hstart (reach L ps) hout.2
    rcases (fetched_append ..).mp hreach with hf | hf
    · exact absurd ((h.fetched_iff hps).mp hf).2 (lt_irrefl _)
    · exact absurd ((hpage _).mp hf).2.1 (not_le.mpr hout.2)
  · intro hin n hn m hm
    rcases (fetched_append ..).mp hn with hn | hn
    · exact (fetched_append ..).mpr (.inl (h n hn m hm))
    · obtain ⟨hnL, hstart, hstop⟩ := (hpage n).mp hn
      rcases Nat.lt_or_ge m p.start with hlt | hge
      · have hreach : p.start ≤ reach L ps := hin.resolve_left (by omega)
        exact (fetched_append ..).mpr
          (.inl ((h.fetched_iff hps).mpr ⟨by omega, by omega⟩))
      · exact (fetched_append ..).mpr (.inr ((hpage m).mpr ⟨by omega, hge, by omega⟩))

/-! ## Whole readings -/

theorem contiguous_nil (L : Nat) : Contiguous L [] := by
  intro pre hpre n hn
  rw [List.prefix_nil.mp hpre] at hn
  obtain ⟨-, p, hp, -⟩ := hn
  cases hp

theorem contiguous_concat_iff (hps : ∀ p ∈ ps, p.Proper) (hp : p.Proper) :
    Contiguous L (ps ++ [p]) ↔
      Contiguous L ps ∧ (L ≤ p.start ∨ p.start ≤ reach L ps) := by
  constructor
  · intro h
    have hbefore : Contiguous L ps := fun pre hpre =>
      h pre (hpre.trans (List.prefix_append ps [p]))
    exact ⟨hbefore, (hbefore.gapFree.concat_iff hps hp).mp h.gapFree⟩
  · rintro ⟨h, hin⟩ pre hpre
    rcases List.prefix_concat_iff.mp hpre with rfl | hpre
    · exact (h.gapFree.concat_iff hps hp).mpr hin
    · exact h pre hpre

/-- Pages that lie on the list and lead on without a gap, but for the last one, which may
    lie past the end. -/
def IsRun (L : Nat) (g : List Page) : Prop :=
  g.IsChain fun p q => p.start < L ∧ q.start ≤ p.stop

def StartsWithin (L : Nat) (ps g : List Page) : Prop :=
  ∀ p ∈ g.head?, L ≤ p.start ∨ p.start ≤ reach L ps

theorem contiguous_append_run_iff {g : List Page} (hps : ∀ p ∈ ps, p.Proper)
    (hg : ∀ p ∈ g, p.Proper) (hrun : IsRun L g) :
    Contiguous L (ps ++ g) ↔ Contiguous L ps ∧ StartsWithin L ps g := by
  induction g using List.reverseRecOn with
  | nil => simp [StartsWithin]
  | append_singleton g q ih =>
    have hgq := List.forall_mem_append.mp hg
    have hq : q.Proper := hgq.2 q (List.mem_singleton_self q)
    have hall : ∀ p ∈ ps ++ g, p.Proper := List.forall_mem_append.mpr ⟨hps, hgq.1⟩
    have hrun' : IsRun L g := (List.isChain_append.mp hrun).1
    rw [← List.append_assoc, contiguous_concat_iff hall hq, ih hgq.1 hrun']
    cases hlast : g.getLast? with
    | none =>
      rw [List.getLast?_eq_none_iff.mp hlast]
      simp [StartsWithin]
    | some p =>
      have hmem : p ∈ g := List.mem_of_getLast? hlast
      have hne : g ≠ [] := List.ne_nil_of_mem hmem
      obtain ⟨hpL, hqp⟩ := (List.isChain_append.mp hrun).2.2 p hlast q rfl
      have hin : q.start ≤ reach L (ps ++ g) :=
        hqp.trans (stop_le_reach (List.mem_append_right ps hmem) hpL)
      have hhead : StartsWithin L ps (g ++ [q]) ↔ StartsWithin L ps g := by
        unfold StartsWithin
        rw [List.head?_append_of_ne_nil g hne]
      rw [hhead]
      exact and_iff_left (.inr hin)

/-- **A reading made of runs leaves no gap exactly when every run starts within what the
    runs before it have reached**, or past the end. -/
theorem contiguous_flatten_iff {gs : List (List Page)} (hgs : ∀ g ∈ gs, ∀ p ∈ g, p.Proper)
    (hruns : ∀ g ∈ gs, IsRun L g) :
    Contiguous L gs.flatten ↔
      ∀ pre g, pre ++ [g] <+: gs → StartsWithin L pre.flatten g := by
  induction gs using List.reverseRecOn with
  | nil => simp [contiguous_nil]
  | append_singleton gs g ih =>
    obtain ⟨hgs', hg⟩ := List.forall_mem_append.mp hgs
    obtain ⟨hruns', hrun⟩ := List.forall_mem_append.mp hruns
    have hall : ∀ p ∈ gs.flatten, p.Proper := by
      intro p hp
      obtain ⟨g', hg', hpg⟩ := List.mem_flatten.mp hp
      exact hgs' g' hg' p hpg
    rw [List.flatten_append, List.flatten_singleton,
      contiguous_append_run_iff hall (hg g (List.mem_singleton_self g))
        (hrun g (List.mem_singleton_self g)), ih hgs' hruns']
    constructor
    · rintro ⟨hbefore, hlast⟩ pre g' hpre
      rcases List.prefix_concat_iff.mp hpre with heq | hpre
      · obtain ⟨rfl, hgg⟩ := List.append_inj' heq rfl
        cases hgg
        exact hlast
      · exact hbefore pre g' hpre
    · intro h
      exact ⟨fun pre g' hpre => h pre g' (hpre.trans (List.prefix_append gs [g])),
        h gs g List.prefix_rfl⟩

end Paging

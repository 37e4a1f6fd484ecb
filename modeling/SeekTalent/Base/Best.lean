import SeekTalent.Base.PyText

/-!
# The best of a list

The first `k` elements of a sorted list. Under a key that no two elements share, an element
is among them if fewer than `k` come before it. So an element that is not among the best of
a list is not among the best of a longer list either.
-/

namespace Py

variable {α β : Type} [LinearOrder β] {key : α → β} {xs ys : List α} {x : α} {k : Nat}

/-- The first `k` elements in the order of the key. -/
def best (key : α → β) (k : Nat) (xs : List α) : List α := (sortedBy key xs).take k

/-- The elements that come before `x`. -/
def before (key : α → β) (x : α) (xs : List α) : List α := xs.filter fun y => key y < key x

/-- **The least of a list**: what stands before it is greater, what stands after it is not less. -/
theorem minBy_eq_some_iff [DecidableEq α] : minBy key xs = some x ↔
    ∃ earlier later, xs = earlier ++ x :: later ∧ (∀ y ∈ earlier, key x < key y) ∧
      ∀ y ∈ later, key x ≤ key y := by
  rw [← Option.mem_def, minBy, List.mem_argmin_iff]
  constructor
  · intro h
    obtain ⟨hmem, hle, hfirst⟩ := h
    obtain ⟨earlier, later, rfl, hnew⟩ := List.eq_append_cons_of_mem hmem
    refine ⟨earlier, later, rfl, ?_, ?_⟩
    · intro y hy
      apply lt_of_not_ge
      intro hge
      -- an element that is as small would have been found before
      have hindex := hfirst y (List.mem_append_left _ hy) hge
      rw [List.idxOf_append_of_notMem hnew, List.idxOf_cons_self,
        List.idxOf_append_of_mem hy] at hindex
      have hlt := List.idxOf_lt_length_iff.mpr hy
      omega
    · intro y hy
      exact hle y (List.mem_append_right _ (List.mem_cons_of_mem x hy))
  · intro h
    obtain ⟨earlier, later, rfl, hearlier, hlater⟩ := h
    have hnew : x ∉ earlier := fun hx => lt_irrefl _ (hearlier x hx)
    refine ⟨by simp, ?_, ?_⟩
    · intro y hy
      rcases List.mem_append.mp hy with hy | hy
      · exact (hearlier y hy).le
      · rcases List.mem_cons.mp hy with rfl | hy
        · exact le_refl _
        · exact hlater y hy
    · intro y hy hge
      have hnot : y ∉ earlier := fun h => absurd (hearlier y h) (not_lt_of_ge hge)
      rw [List.idxOf_append_of_notMem hnew, List.idxOf_cons_self,
        List.idxOf_append_of_notMem hnot]
      omega

theorem pairwise_sortedBy : (sortedBy key xs).Pairwise fun a b => key a ≤ key b :=
  List.pairwise_insertionSort _ _

theorem pairwise_lt_sortedBy (h : (xs.map key).Nodup) :
    (sortedBy key xs).Pairwise fun a b => key a < key b := by
  have hnodup : ((sortedBy key xs).map key).Nodup := (perm_sortedBy.map key).nodup_iff.mpr h
  have hne : (sortedBy key xs).Pairwise fun a b => key a ≠ key b := List.pairwise_map.mp hnodup
  exact (pairwise_sortedBy.and hne).imp fun hab => lt_of_le_of_ne hab.1 hab.2

theorem find?_sortedBy {p : α → Bool} (h : (sortedBy key xs).find? p = some x) :
    x ∈ xs ∧ p x = true ∧ ∀ y ∈ xs, p y = true → key x ≤ key y := by
  refine ⟨mem_sortedBy.mp (List.mem_of_find?_eq_some h), List.find?_some h, ?_⟩
  intro y hy hpy
  obtain ⟨-, earlier, later, hsplit, hearlier⟩ := List.find?_eq_some_iff_append.mp h
  have hsorted : (earlier ++ x :: later).Pairwise fun a b => key a ≤ key b := by
    rw [← hsplit]
    exact pairwise_sortedBy
  have hmem : y ∈ earlier ++ x :: later := by
    rw [← hsplit]
    exact mem_sortedBy.mpr hy
  rcases List.mem_append.mp hmem with hy | hy
  · have hnot := hearlier y hy
    rw [hpy] at hnot
    cases hnot
  · rcases List.mem_cons.mp hy with rfl | hy
    · exact le_refl _
    · exact (List.pairwise_cons.mp (List.pairwise_append.mp hsorted).2.1).1 y hy

/-- Sorting is stable: what stands before the one that is found, and is not greater, was not what
is looked for. -/
theorem eq_false_of_find?_sortedBy {p : α → Bool} {y : α} (hnodup : xs.Nodup)
    (h : (sortedBy key xs).find? p = some x) (hbefore : [y, x].Sublist xs) (hle : key y ≤ key x) :
    p y = false := by
  obtain ⟨-, earlier, later, hsplit, hearlier⟩ := List.find?_eq_some_iff_append.mp h
  have hsub : [y, x].Sublist (earlier ++ x :: later) := by
    rw [← hsplit]
    exact List.pair_sublist_insertionSort hle hbefore
  have hlater : x ∉ later := by
    have hsorted : (earlier ++ x :: later).Nodup := by
      rw [← hsplit]
      exact perm_sortedBy.nodup_iff.mpr hnodup
    exact (List.nodup_cons.mp (List.nodup_append.mp hsorted).2.1).1
  obtain ⟨l₁, l₂, hl, h₁, h₂⟩ := List.sublist_append_iff.mp hsub
  cases l₁ with
  | nil =>
    rw [List.nil_append] at hl
    subst hl
    have hmem : x ∈ later := by
      cases h₂ with
      | cons _ h₂ => exact h₂.subset (by simp)
      | cons_cons _ h₂ => exact h₂.subset (by simp)
    exact absurd hmem hlater
  | cons z l₁ =>
    obtain ⟨rfl, -⟩ := List.cons.inj hl
    simpa using hearlier y (h₁.subset (List.mem_cons_self ..))

theorem mem_take_iff_of_sorted (h : xs.Pairwise fun a b => key a < key b) :
    x ∈ xs.take k ↔ x ∈ xs ∧ (before key x xs).length < k := by
  induction xs generalizing k with
  | nil => simp
  | cons a rest ih =>
    obtain ⟨hfirst, hrest⟩ := List.pairwise_cons.mp h
    cases k with
    | zero => simp
    | succ k =>
      rw [List.take_succ_cons, List.mem_cons, List.mem_cons, ih hrest]
      by_cases hx : x = a
      · -- nothing comes before the first element
        subst hx
        have hnone : before key x (x :: rest) = [] := by
          rw [before, List.filter_eq_nil_iff]
          intro y hy
          rcases List.mem_cons.mp hy with rfl | hy
          · simp
          · simpa using (hfirst y hy).le
        simp [hnone]
      · constructor
        · intro hmem
          obtain ⟨hmem, hlt⟩ := hmem.resolve_left hx
          refine ⟨.inr hmem, ?_⟩
          rw [before, List.filter_cons_of_pos (by simpa using hfirst x hmem), List.length_cons]
          exact Nat.succ_lt_succ hlt
        · intro hmem
          obtain ⟨hmem, hlt⟩ := hmem
          have hmem := hmem.resolve_left hx
          rw [before, List.filter_cons_of_pos (by simpa using hfirst x hmem),
            List.length_cons] at hlt
          exact .inr ⟨hmem, Nat.lt_of_succ_lt_succ hlt⟩

/-- **Among the best** is what fewer than `k` elements come before. -/
theorem mem_best_iff (h : (xs.map key).Nodup) :
    x ∈ best key k xs ↔ x ∈ xs ∧ (before key x xs).length < k := by
  unfold best
  rw [mem_take_iff_of_sorted (pairwise_lt_sortedBy h), mem_sortedBy]
  have hperm : (before key x (sortedBy key xs)).Perm (before key x xs) := perm_sortedBy.filter _
  rw [hperm.length_eq]

/-- **The order does not matter.** -/
theorem best_of_perm (h : (xs.map key).Nodup) (hperm : xs.Perm ys) : best key k xs = best key k ys := by
  have hsorted : sortedBy key xs = sortedBy key ys := by
    have hys := (hperm.map key).nodup_iff.mp h
    refine ((perm_sortedBy.trans hperm).trans perm_sortedBy.symm).eq_of_pairwise ?_
      (pairwise_lt_sortedBy h) (pairwise_lt_sortedBy hys)
    intro a b _ _ hab hba
    exact absurd hab (lt_asymm hba)
  rw [best, best, hsorted]

theorem mem_of_mem_best (h : x ∈ best key k xs) : x ∈ xs :=
  mem_sortedBy.mp (List.mem_of_mem_take h)

/-- **What has fallen behind stays behind**, however the list grows. -/
theorem not_mem_best_of_sublist (hys : (ys.map key).Nodup) (hsub : xs.Sublist ys) (hx : x ∈ xs)
    (hout : x ∉ best key k xs) : x ∉ best key k ys := by
  intro hin
  have hlt := ((mem_best_iff hys).mp hin).2
  have hle : (before key x xs).length ≤ (before key x ys).length := (hsub.filter _).length_le
  exact hout ((mem_best_iff (hys.sublist (hsub.map key))).mpr ⟨hx, hle.trans_lt hlt⟩)

end Py

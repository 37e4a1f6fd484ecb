import Mathlib.Data.List.Infix
import Mathlib.Order.Lattice

/-!
# Reading a growing log by a cursor

The entries of a log are numbered in increasing order and only added at the end. A reader
remembers the number of the last entry it was given, and asks for some of those after it.

`ReadTo` says how far it has come: what it was given, followed by what is still to come, is
everything it wants. It starts so, stays so when the log grows, and after every page.
-/

namespace Cursor

variable {α κ : Type} [LinearOrder κ] {seq : α → κ} {wanted : α → Bool}
  {start after : κ} {received log new : List α}

/-- What a reader that has come to `after` is still to be given. -/
def pending (seq : α → κ) (wanted : α → Bool) (after : κ) (log : List α) : List α :=
  log.filter fun a => wanted a && decide (after < seq a)

/-- Where a reader is after a page: at its last entry. -/
def position (seq : α → κ) (after : κ) (page : List α) : κ :=
  page.foldl (fun _ a => seq a) after

/-- The last of the numbers up to `n`. -/
theorem foldl_max_range' (n : Nat) : (List.range' 1 n).foldl max 0 = n := by
  induction n with
  | zero => rfl
  | succ n ih =>
    rw [List.range'_1_concat, List.foldl_append, ih]
    simp
    omega

theorem mem_pending {a : α} :
    a ∈ pending seq wanted after log ↔ a ∈ log ∧ wanted a = true ∧ after < seq a := by
  simp [pending]

omit [LinearOrder κ] in
theorem position_append_singleton (a : α) (page : List α) :
    position seq after (page ++ [a]) = seq a := by
  simp [position]

omit [LinearOrder κ] in
theorem position_eq_or (seq : α → κ) (after : κ) (page : List α) :
    page = [] ∧ position seq after page = after ∨
      ∃ a init, page = init ++ [a] ∧ position seq after page = seq a := by
  rcases List.eq_nil_or_concat page with rfl | ⟨init, a, rfl⟩
  · exact .inl ⟨rfl, rfl⟩
  · have hpage : init.concat a = init ++ [a] := List.concat_eq_append
    rw [hpage, position_append_singleton]
    exact .inr ⟨a, init, rfl, rfl⟩

theorem le_position {a : α} {page : List α} (after : κ) (hpage : page.Pairwise (seq · < seq ·))
    (ha : a ∈ page) : seq a ≤ position seq after page := by
  rcases position_eq_or seq after page with
    ⟨rfl, -⟩ | ⟨last, init, rfl, hposition⟩
  · cases ha
  · rw [hposition]
    rcases List.mem_append.mp ha with ha | ha
    · exact ((List.pairwise_append.mp hpage).2.2 a ha last (List.mem_singleton_self last)).le
    · rw [List.mem_singleton.mp ha]

theorem pending_of_le {after' : κ} (h : after ≤ after') : pending seq wanted after' log =
    (pending seq wanted after log).filter fun a => decide (after' < seq a) := by
  unfold pending
  rw [List.filter_filter]
  apply List.filter_congr
  intro a _
  by_cases hlt : after' < seq a
  · simp [hlt, h.trans_lt hlt]
  · simp [hlt]

theorem pending_position (hlog : log.Pairwise (seq · < seq ·)) (n : ℕ) :
    pending seq wanted (position seq after ((pending seq wanted after log).take n)) log =
      (pending seq wanted after log).drop n := by
  have hsorted : (pending seq wanted after log).Pairwise (seq · < seq ·) := hlog.filter _
  rcases position_eq_or seq after ((pending seq wanted after log).take n) with
    ⟨hnil, hposition⟩ | ⟨last, init, hpage, hposition⟩
  · rw [hposition]
    rcases List.take_eq_nil_iff.mp hnil with rfl | hpending
    · rfl
    · simp [hpending]
  · have hlast : last ∈ pending seq wanted after log :=
      List.mem_of_mem_take (hpage ▸ List.mem_append_right _ (List.mem_singleton_self last))
    have hafter : after < seq last := (mem_pending.mp hlast).2.2
    have hpairs := hsorted
    rw [← List.take_append_drop n (pending seq wanted after log), List.pairwise_append] at hpairs
    obtain ⟨htake, -, hcross⟩ := hpairs
    have hpageNone : ((pending seq wanted after log).take n).filter
        (fun a => decide (seq last < seq a)) = [] := by
      rw [List.filter_eq_nil_iff]
      intro a ha
      have hle := le_position after htake ha
      rw [hposition] at hle
      simp [hle]
    have hrestAll : ((pending seq wanted after log).drop n).filter
        (fun a => decide (seq last < seq a)) = (pending seq wanted after log).drop n := by
      rw [List.filter_eq_self]
      intro a ha
      have hlt := hcross last (hpage ▸ List.mem_append_right _ (List.mem_singleton_self last)) a ha
      simp [hlt]
    rw [hposition, pending_of_le hafter.le]
    conv_lhs => rw [← List.take_append_drop n (pending seq wanted after log)]
    rw [List.filter_append, hpageNone, hrestAll, List.nil_append]

theorem pending_append : pending seq wanted after (log ++ new) =
    pending seq wanted after log ++ pending seq wanted after new := by
  simp [pending]

/-- A reader that began at `start` was given `received` of the log, and is at `after`. -/
structure ReadTo (seq : α → κ) (wanted : α → Bool) (start after : κ)
    (received log : List α) : Prop where
  split : pending seq wanted start log = received ++ pending seq wanted after log
  at_entry : after = start ∨ ∃ a ∈ log, seq a = after
  forward : start ≤ after

namespace ReadTo

theorem begin : ReadTo seq wanted start start [] log := ⟨rfl, .inl rfl, le_refl start⟩

theorem grow (h : ReadTo seq wanted start after received log)
    (hnew : ∀ a ∈ log, ∀ b ∈ new, seq a < seq b) :
    ReadTo seq wanted start after received (log ++ new) := by
  have hfilter : pending seq wanted start new = pending seq wanted after new := by
    apply List.filter_congr
    intro b hb
    rcases h.at_entry with rfl | ⟨a, ha, rfl⟩
    · rfl
    · have hlt : seq a < seq b := hnew a ha b hb
      simp [hlt, h.forward.trans_lt hlt]
  refine ⟨?_, ?_, h.forward⟩
  · rw [pending_append, pending_append, h.split, hfilter, List.append_assoc]
  · rcases h.at_entry with hstart | ⟨a, ha, hafter⟩
    · exact .inl hstart
    · exact .inr ⟨a, List.mem_append_left new ha, hafter⟩

/-- The next page. -/
theorem read (h : ReadTo seq wanted start after received log)
    (hlog : log.Pairwise (seq · < seq ·)) (n : ℕ) :
    ReadTo seq wanted start
      (position seq after ((pending seq wanted after log).take n))
      (received ++ (pending seq wanted after log).take n) log := by
  refine ⟨?_, ?_, ?_⟩
  · rw [pending_position hlog, List.append_assoc, List.take_append_drop]
    exact h.split
  · rcases position_eq_or seq after
      ((pending seq wanted after log).take n) with ⟨-, hposition⟩ | ⟨a, init, hpage, hposition⟩
    · rw [hposition]
      exact h.at_entry
    · have ha : a ∈ pending seq wanted after log :=
        List.mem_of_mem_take (hpage ▸ List.mem_append_right _ (List.mem_singleton_self a))
      exact .inr ⟨a, (mem_pending.mp ha).1, hposition.symm⟩
  · rcases position_eq_or seq after
      ((pending seq wanted after log).take n) with ⟨-, hposition⟩ | ⟨a, init, hpage, hposition⟩
    · rw [hposition]
      exact h.forward
    · have ha : a ∈ pending seq wanted after log :=
        List.mem_of_mem_take (hpage ▸ List.mem_append_right _ (List.mem_singleton_self a))
      rw [hposition]
      exact h.forward.trans (mem_pending.mp ha).2.2.le

theorem caughtUp (h : ReadTo seq wanted start after received (log ++ new))
    (hnone : pending seq wanted after log = []) : pending seq wanted start log <+: received := by
  have hsplit := h.split
  rw [pending_append, pending_append, hnone, List.nil_append] at hsplit
  have hrest : (pending seq wanted after new).length ≤ (pending seq wanted start new).length := by
    rw [pending_of_le h.forward]
    exact List.length_filter_le _ _
  have hlength := congrArg List.length hsplit
  simp only [List.length_append] at hlength
  apply List.prefix_of_prefix_length_le (List.prefix_append _ (pending seq wanted start new))
  · rw [hsplit]
    exact List.prefix_append _ _
  · omega

end ReadTo

/-- A page takes at least one entry off an earlier log of which some is to come. -/
theorem length_pending_position_lt (wanted : α → Bool) (after : κ) (log new : List α)
    (hlog : (log ++ new).Pairwise (seq · < seq ·)) {n : ℕ} (hn : 0 < n) :
    (pending seq wanted
      (position seq after ((pending seq wanted after (log ++ new)).take n)) log).length ≤
      (pending seq wanted after log).length - 1 := by
  have hsorted : ((pending seq wanted after (log ++ new)).take n).Pairwise (seq · < seq ·) :=
    (hlog.filter _).sublist (List.take_sublist n _)
  generalize hpage : (pending seq wanted after (log ++ new)).take n = page at hsorted ⊢
  have hafter : after ≤ position seq after page := by
    rcases position_eq_or seq after page with
      ⟨-, hposition⟩ | ⟨a, init, hinit, hposition⟩
    · rw [hposition]
    · have ha : a ∈ pending seq wanted after (log ++ new) :=
        List.mem_of_mem_take (hpage ▸ hinit ▸ List.mem_append_right _ (List.mem_singleton_self a))
      rw [hposition]
      exact (mem_pending.mp ha).2.2.le
  rw [pending_of_le hafter]
  rw [pending_append] at hpage
  cases hpending : pending seq wanted after log with
  | nil => simp
  | cons a rest =>
    -- the first that is to come is on the page
    have ha : a ∈ page := by
      rw [← hpage, hpending]
      obtain ⟨m, rfl⟩ := Nat.exists_eq_succ_of_ne_zero hn.ne'
      simp
    have hle := le_position after hsorted ha
    rw [List.filter_cons_of_neg (by simpa using hle)]
    exact List.length_filter_le _ _

end Cursor

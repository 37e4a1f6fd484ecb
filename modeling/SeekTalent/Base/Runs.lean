import SeekTalent.Base.Regex

/-!
# Runs of characters

The runs of a class of characters are its longest stretches in a text. The matches of one or more
characters of the class are the runs (`scan_atLeast_one`), and a character outside the class
separates the runs before it from those after it (`runs_append_cons`).
-/

namespace Runs

/-- A character of the class before the pieces of a text: it begins a run or makes one longer. -/
def extend (c : Char) : List (Char ⊕ List Char) → List (Char ⊕ List Char)
  | .inr run :: rest => .inr (c :: run) :: rest
  | rest => .inr [c] :: rest

section Pieces

variable (ok : Char → Bool)

/-- A text cut into the runs (`inr`) and the characters between them. -/
def pieces : List Char → List (Char ⊕ List Char)
  | [] => []
  | c :: cs => if ok c then extend c (pieces cs) else .inl c :: pieces cs

def runs (cs : List Char) : List (List Char) :=
  (pieces ok cs).filterMap fun
    | .inl _ => none
    | .inr run => some run

/-- The text does not begin with a character of the class. -/
def NoStart (cs : List Char) : Prop := ∀ c, cs.head? = some c → ok c = false

def NoEnd (cs : List Char) : Prop := ∀ c, cs.getLast? = some c → ok c = false

end Pieces

variable {ok : Char → Bool} {c : Char} {cs xs ys run : List Char}

theorem pieces_cons_neg (h : ok c = false) : pieces ok (c :: cs) = .inl c :: pieces ok cs := by
  simp [pieces, h]

theorem pieces_cons_pos (h : ok c = true) : pieces ok (c :: cs) = extend c (pieces ok cs) := by
  simp [pieces, h]

theorem pieces_run (hne : run ≠ []) (hrun : ∀ c ∈ run, ok c = true) (hys : NoStart ok ys) :
    pieces ok (run ++ ys) = .inr run :: pieces ok ys := by
  induction run with
  | nil => exact absurd rfl hne
  | cons c run ih =>
    rw [List.forall_mem_cons] at hrun
    show pieces ok (c :: (run ++ ys)) = _
    rw [pieces_cons_pos hrun.1]
    by_cases hrest : run = []
    · subst hrest
      cases ys with
      | nil => rfl
      | cons d ys =>
        rw [List.nil_append, pieces_cons_neg (hys d rfl)]
        rfl
    · rw [ih hrest hrun.2]
      rfl

theorem pieces_append_cons (h : ok c = false) :
    pieces ok (xs ++ c :: ys) = pieces ok xs ++ .inl c :: pieces ok ys := by
  induction xs with
  | nil => exact pieces_cons_neg h
  | cons x xs ih =>
    show pieces ok (x :: (xs ++ c :: ys)) = _
    by_cases hx : ok x = true
    · rw [pieces_cons_pos hx, pieces_cons_pos hx, ih]
      rcases pieces ok xs with _ | ⟨_ | _, _⟩ <;> rfl
    · rw [Bool.not_eq_true] at hx
      rw [pieces_cons_neg hx, pieces_cons_neg hx, ih]
      rfl

theorem pieces_append (h : NoEnd ok xs) : pieces ok (xs ++ ys) = pieces ok xs ++ pieces ok ys := by
  rcases List.eq_nil_or_concat xs with rfl | ⟨xs, c, rfl⟩
  · rfl
  · have hc : ok c = false := h c (by simp)
    rw [List.concat_eq_append, List.append_assoc, List.singleton_append, pieces_append_cons hc,
      pieces_append_cons hc, List.append_assoc]
    rfl

theorem runs_append_cons (h : ok c = false) :
    runs ok (xs ++ c :: ys) = runs ok xs ++ runs ok ys := by
  unfold runs
  rw [pieces_append_cons h, List.filterMap_append]
  rfl

theorem pieces_of_none (h : ∀ c ∈ xs, ok c = false) : pieces ok xs = xs.map .inl := by
  induction xs with
  | nil => rfl
  | cons x xs ih =>
    rw [List.forall_mem_cons] at h
    rw [pieces_cons_neg h.1, ih h.2, List.map_cons]

theorem mem_extend {parts : List (Char ⊕ List Char)} (h : .inr run ∈ extend c parts) :
    run = [c] ∨ (∃ rest, run = c :: rest ∧ .inr rest ∈ parts) ∨ .inr run ∈ parts := by
  unfold extend at h
  split at h
  · rename_i first rest
    rcases List.mem_cons.mp h with h | h
    · exact .inr (.inl ⟨first, Sum.inr.inj h, List.mem_cons_self⟩)
    · exact .inr (.inr (List.mem_cons_of_mem _ h))
  · rcases List.mem_cons.mp h with h | h
    · exact .inl (Sum.inr.inj h)
    · exact .inr (.inr h)

theorem mem_pieces (h : .inr run ∈ pieces ok cs) : run ≠ [] ∧ ∀ c ∈ run, ok c = true := by
  induction cs generalizing run with
  | nil => simp [pieces] at h
  | cons c cs ih =>
    by_cases hc : ok c = true
    · rw [pieces_cons_pos hc] at h
      rcases mem_extend h with rfl | ⟨rest, rfl, hrest⟩ | h
      · exact ⟨List.cons_ne_nil _ _, by simpa using hc⟩
      · exact ⟨List.cons_ne_nil _ _, List.forall_mem_cons.mpr ⟨hc, (ih hrest).2⟩⟩
      · exact ih h
    · rw [Bool.not_eq_true] at hc
      rw [pieces_cons_neg hc] at h
      rcases List.mem_cons.mp h with h | h
      · cases h
      · exact ih h

theorem mem_runs : run ∈ runs ok cs ↔ .inr run ∈ pieces ok cs := by
  unfold runs
  constructor
  · intro h
    obtain ⟨piece, hpiece, heq⟩ := List.mem_filterMap.mp h
    rcases piece with _ | found
    · cases heq
    · obtain rfl := Option.some.inj heq
      exact hpiece
  · intro h
    exact List.mem_filterMap.mpr ⟨.inr run, h, rfl⟩

/-! ## Matches of one or more characters -/

open Regex

theorem head?_repeatEnds {n : Nat} {before : Option Char} (h : cs.length ≤ n) :
    ∃ last, (repeatEnds (ends (.char ok)) n ⟨before, cs⟩).head? =
      some ⟨last, cs.dropWhile ok⟩ := by
  induction n generalizing cs before with
  | zero =>
    obtain rfl := List.length_eq_zero_iff.mp (Nat.le_zero.mp h)
    exact ⟨before, rfl⟩
  | succ n ih =>
    unfold repeatEnds
    cases cs with
    | nil => exact ⟨before, rfl⟩
    | cons c cs =>
      by_cases hc : ok c = true
      · obtain ⟨last, hlast⟩ := @ih cs (some c) (Nat.le_of_succ_le_succ h)
        refine ⟨last, ?_⟩
        have hhead : (repeatEnds (ends (.char ok)) n ⟨some c, cs⟩ ++
            [Place.mk before (c :: cs)]).head? = some ⟨last, cs.dropWhile ok⟩ := by
          rw [List.head?_append, hlast]
          rfl
        simpa [ends, hc] using hhead
      · exact ⟨before, by simp [ends, hc]⟩

theorem scan_atLeast_one {n : Nat} {before : Option Char} (h : cs.length ≤ n) :
    (atLeast 1 (.char ok)).scan n ⟨before, cs⟩ = pieces ok cs := by
  induction n generalizing cs before with
  | zero =>
    obtain rfl := List.length_eq_zero_iff.mp (Nat.le_zero.mp h)
    rfl
  | succ n ih =>
    cases cs with
    | nil => rfl
    | cons c cs =>
      have hcs : cs.length ≤ n := Nat.le_of_succ_le_succ h
      by_cases hc : ok c = true
      · have hends : (atLeast 1 (.char ok)).ends ⟨before, c :: cs⟩ =
            repeatEnds (ends (.char ok)) cs.length ⟨some c, cs⟩ := by
          simp [atLeast, exactly, ends, hc]
        obtain ⟨last, hlast⟩ := @head?_repeatEnds ok cs cs.length (some c) (Nat.le_refl _)
        have hdrop := (List.dropWhile_sublist ok (l := cs)).length_le
        -- what is taken is the run that begins here
        have htaken : (c :: cs).take ((c :: cs).length - (cs.dropWhile ok).length) =
            c :: cs.takeWhile ok := by
          have hlength := congrArg List.length (@List.takeWhile_append_dropWhile _ ok cs)
          rw [List.length_append] at hlength
          have hcount : (c :: cs).length - (cs.dropWhile ok).length =
              (cs.takeWhile ok).length + 1 := by
            rw [List.length_cons]
            omega
          have htake : cs.take (cs.takeWhile ok).length = cs.takeWhile ok :=
            List.prefix_iff_eq_take.mp (List.takeWhile_prefix ok) |>.symm
          rw [hcount, List.take_succ_cons, htake]
        unfold scan
        simp only [hends, hlast, htaken]
        have hshorter : (cs.dropWhile ok).length < (c :: cs).length := Nat.lt_succ_of_le hdrop
        rw [if_pos hshorter, ih (Nat.le_trans hdrop hcs)]
        have hsplit : c :: cs = (c :: cs.takeWhile ok) ++ cs.dropWhile ok := by
          rw [List.cons_append, List.takeWhile_append_dropWhile]
        conv_rhs => rw [hsplit]
        refine (pieces_run (List.cons_ne_nil _ _) ?_ ?_).symm
        · intro d hd
          rcases List.mem_cons.mp hd with rfl | hd
          · exact hc
          · exact List.all_eq_true.mp List.all_takeWhile d hd
        · intro d hd
          have hnot := List.head?_dropWhile_not ok cs
          rw [hd] at hnot
          exact hnot
      · have hends : (atLeast 1 (.char ok)).ends ⟨before, c :: cs⟩ = [] := by
          simp [atLeast, exactly, ends, hc]
        unfold scan
        simp only [hends, List.head?_nil]
        rw [Bool.not_eq_true] at hc
        rw [ih hcs, pieces_cons_neg hc]

end Runs

import Mathlib.Data.List.Induction

/-!
# Logs of jobs

Jobs that run beside each other, each with an id of its own, are seen from outside as a log of
what is started and what has finished. A log is `Sound` if no id is used twice and no job
finishes twice. If no job of one kind is ever in flight together with one of another kind, the
two take turns (`Sound.finished_before`).
-/

/-- A job starts, or has finished with a result. -/
inductive JobEntry (α β : Type) where
  | started (id : Nat) (job : α)
  | finished (id : Nat) (result : β)
  deriving DecidableEq

namespace JobLog

variable {α β : Type} {log before after : List (JobEntry α β)} {id id' : Nat} {job job' : α}
variable {result : β}

open JobEntry

def entryId : JobEntry α β → Nat
  | started id _ => id
  | finished id _ => id

/-- The job is running at the end of the log. -/
def InFlight (log : List (JobEntry α β)) (id : Nat) (job : α) : Prop :=
  started id job ∈ log ∧ ∀ result, finished id result ∉ log

def jobOf (log : List (JobEntry α β)) (id : Nat) : Option α :=
  log.findSome? fun
    | started id' job => if id' = id then some job else none
    | finished _ _ => none

def hasFinished (log : List (JobEntry α β)) (id : Nat) : Bool :=
  log.any fun
    | started _ _ => false
    | finished id' _ => id' = id

/-- No id is used twice, and no job finishes twice. -/
structure Sound (log : List (JobEntry α β)) : Prop where
  new : ∀ before id job after, log = before ++ started id job :: after →
    ∀ entry ∈ before, entryId entry ≠ id
  once : ∀ before id result after, log = before ++ finished id result :: after →
    ∀ result', finished id result' ∉ before

theorem sound_nil : Sound ([] : List (JobEntry α β)) where
  new := by
    intro before id job after hlog
    cases before <;> cases hlog
  once := by
    intro before id result after hlog
    cases before <;> cases hlog

/-- Where the last entry of a log stands in a split of it. -/
theorem snoc_eq_split {γ : Type} {xs before after : List γ} {x y : γ}
    (h : xs ++ [x] = before ++ y :: after) :
    (before = xs ∧ y = x ∧ after = []) ∨ ∃ after', after = after' ++ [x] ∧ xs = before ++ y :: after' := by
  rcases List.eq_nil_or_concat after with rfl | ⟨after', last, rfl⟩
  · obtain ⟨rfl, hlast⟩ := List.append_inj' h rfl
    obtain ⟨rfl, -⟩ := List.cons.inj hlast
    exact .inl ⟨rfl, rfl, rfl⟩
  · have h : xs ++ [x] = (before ++ y :: after') ++ [last] := by
      rw [h]
      simp
    obtain ⟨rfl, hlast⟩ := List.append_inj' h rfl
    obtain ⟨rfl, -⟩ := List.cons.inj hlast
    exact .inr ⟨after', by simp, rfl⟩

theorem snoc_eq_append {γ : Type} {xs before after : List γ} {x : γ} (h : xs ++ [x] = before ++ after) :
    before = xs ++ [x] ∨ ∃ after', xs = before ++ after' := by
  cases after with
  | nil => exact .inl (by simpa using h.symm)
  | cons y after =>
    rcases snoc_eq_split h with ⟨rfl, -, -⟩ | ⟨after', -, hxs⟩
    · exact .inr ⟨[], by simp⟩
    · exact .inr ⟨y :: after', hxs⟩

theorem started_of_jobOf (h : jobOf log id = some job) : started id job ∈ log := by
  obtain ⟨entry, hentry, hjob⟩ := List.exists_of_findSome?_eq_some h
  cases entry with
  | started id' job' =>
    simp only [Option.ite_none_right_eq_some, Option.some.injEq] at hjob
    obtain ⟨rfl, rfl⟩ := hjob
    exact hentry
  | finished => cases hjob

theorem not_finished (h : hasFinished log id = false) (result : β) : finished id result ∉ log := by
  intro hmem
  have hall := List.any_eq_false.mp h _ hmem
  simp at hall

theorem Sound.start (h : Sound log) (hnew : ∀ entry ∈ log, entryId entry ≠ id) :
    Sound (log ++ [started id job]) where
  new := by
    intro before id' job' after hlog
    rcases snoc_eq_split hlog with ⟨rfl, hentry, -⟩ | ⟨after', -, hlog⟩
    · cases hentry
      exact hnew
    · exact h.new before id' job' after' hlog
  once := by
    intro before id' result after hlog
    rcases snoc_eq_split hlog with ⟨-, hentry, -⟩ | ⟨after', -, hlog⟩
    · cases hentry
    · exact h.once before id' result after' hlog

theorem Sound.finish (h : Sound log) (hrunning : ∀ result', finished id result' ∉ log) :
    Sound (log ++ [finished id result]) where
  new := by
    intro before id' job' after hlog
    rcases snoc_eq_split hlog with ⟨-, hentry, -⟩ | ⟨after', -, hlog⟩
    · cases hentry
    · exact h.new before id' job' after' hlog
  once := by
    intro before id' result' after hlog
    rcases snoc_eq_split hlog with ⟨rfl, hentry, -⟩ | ⟨after', -, hlog⟩
    · cases hentry
      exact hrunning
    · exact h.once before id' result' after' hlog

theorem Sound.inFlight_start (h : Sound (before ++ started id job :: after)) :
    InFlight (before ++ [started id job]) id job := by
  refine ⟨by simp, ?_⟩
  intro result hfinished
  rcases List.mem_append.mp hfinished with hold | hnew
  · exact h.new before id job after rfl _ hold rfl
  · simp at hnew

theorem Sound.inFlight_until {middle : List (JobEntry α β)}
    (h : Sound (before ++ finished id result :: after)) (hbegin : middle <+: before)
    (hstarted : started id job ∈ middle) : InFlight middle id job := by
  refine ⟨hstarted, ?_⟩
  intro result' hfinished
  exact h.once before id result after rfl result' (hbegin.subset hfinished)

/-- At no time are a job of one kind and a job of another in flight together. -/
def TakeTurns (log : List (JobEntry α β)) (P Q : α → Prop) : Prop :=
  ∀ before after, log = before ++ after → ∀ id job id' job', P job → Q job' →
    InFlight before id job → InFlight before id' job' → False

/-- **Jobs that take turns**: when a job of the one kind finishes, every job of the other kind that
    has been started finished before this one was started. -/
theorem Sound.finished_before {P Q : α → Prop} {middle : List (JobEntry α β)}
    (h : Sound (before ++ started id job :: middle ++ finished id result :: after))
    (hturns : TakeTurns (before ++ started id job :: middle ++ finished id result :: after) P Q)
    (hP : P job) (hQ : Q job') (hPQ : ¬Q job)
    (hmem : started id' job' ∈ before ++ started id job :: middle) :
    ∃ result', finished id' result' ∈ before := by
  rcases List.mem_append.mp hmem with hold | hnew
  -- a job that was still running would be in flight when this one started
  · by_contra hrunning
    rw [not_exists] at hrunning
    have hstart : Sound (before ++ started id job :: (middle ++ finished id result :: after)) := by
      simpa using h
    apply hturns (before ++ [started id job]) (middle ++ finished id result :: after) (by simp) id job
      id' job' hP hQ hstart.inFlight_start
    refine ⟨List.mem_append_left _ hold, ?_⟩
    intro result' hfinished
    rcases List.mem_append.mp hfinished with hbefore | hlast
    · exact hrunning result' hbefore
    · simp at hlast
  · rcases List.mem_cons.mp hnew with hsame | hlater
    · cases hsame
      exact absurd hQ hPQ
    -- a job that started in between would be in flight together with this one
    · obtain ⟨first, second, rfl⟩ := List.append_of_mem hlater
      have hsplit : before ++ started id job :: (first ++ started id' job' :: second) ++
          finished id result :: after =
          (before ++ started id job :: first) ++ started id' job' ::
            (second ++ finished id result :: after) := by simp
      have hbegin : (before ++ started id job :: first) ++ [started id' job'] <+:
          before ++ started id job :: (first ++ started id' job' :: second) := ⟨second, by simp⟩
      exfalso
      apply hturns ((before ++ started id job :: first) ++ [started id' job'])
        (second ++ finished id result :: after) (by simp) id job id' job' hP hQ
      · exact h.inFlight_until hbegin (by simp)
      · rw [hsplit] at h
        exact h.inFlight_start

end JobLog

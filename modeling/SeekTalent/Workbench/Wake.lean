import SeekTalent.Workbench.Approval

/-!
# Waking the workers

A job that is queued is found by a worker that still claims. `wake` sees to it that there are
workers: it counts the threads that are alive and starts those that are missing. A thread that has
been told that there is nothing to claim is alive for a moment longer, and a wake that counts it
then has counted on nobody. Where no wake ends like that with a job in the queue, no job is left
behind (`run_not_stuck`).
-/

namespace SeekTalent

/-! ## 1. The runner -/

/-- How far a thread that executes `_run_until_idle` is. -/
inductive WorkerStatus where
  | claiming
  | executing
  /-- `claim_next_source_run_job` has answered `None`. -/
  | sawNone
  | terminated
  deriving DecidableEq

/-- How far the wake is that holds the lock. -/
inductive WakePhase where
  /-- The threads of the kind are asked whether they are alive, one after the other. -/
  | scan (sourceKind : RuntimeSourceKind) (asked : Nat)
  /-- Threads are started until there are enough. -/
  | fill (sourceKind : RuntimeSourceKind)
  deriving DecidableEq

/-- The workbench, with what the runner knows of its threads. -/
structure JobRunner where
  bench : Workbench := {}
  /-- `_threads` -/
  workers : RuntimeSourceKind → List WorkerStatus := fun _ => []
  /-- The calls of `wake` that wait for the lock. -/
  wakes : Nat := 0
  waking : Option WakePhase := none

/-- `CTS_WORKER_COUNT`, `LIEPIN_WORKER_COUNT` -/
def workerCount : RuntimeSourceKind → Nat
  | .cts => 2
  | .liepin => 1

/-- What may happen next. -/
inductive RunnerEvent where
  /-- A transaction; one that starts a source run is followed by a wake. -/
  | call (call : WorkbenchCall)
  | wake
  /-- A wake takes the lock. -/
  | lock
  /-- The wake that holds the lock goes on. -/
  | advance
  | claim (sourceKind : RuntimeSourceKind) (worker : Nat) (ownerId : String)
      (leaseExpiresAt : Instant)
  | executed (sourceKind : RuntimeSourceKind) (worker : Nat)
  | terminate (sourceKind : RuntimeSourceKind) (worker : Nat)

def WorkbenchCall.wakes (store : WorkbenchStore) : WorkbenchCall → Nat
  | .startSourceRunJob user sessionId sourceRunId idempotencyKey jobId now =>
    match WorkbenchStore.startSourceRunJob user sessionId sourceRunId idempotencyKey jobId now
      store with
    | .ok (_, some _) => 1
    | _ => 0
  | _ => 0

def WorkbenchStore.HasQueued (store : WorkbenchStore) (sourceKind : RuntimeSourceKind) : Prop :=
  ∃ row ∈ store.sourceRunJobs.rows, row.status = .queued ∧ row.sourceKind = sourceKind

namespace JobRunner

open WorkbenchStore

def setWorkers (runner : JobRunner) (sourceKind : RuntimeSourceKind) (workers : List WorkerStatus) :
    JobRunner :=
  { runner with workers := Function.update runner.workers sourceKind workers }

def nextPhase : RuntimeSourceKind → Option WakePhase
  | .cts => some (.scan .liepin 0)
  | .liepin => none

/-- `wake` under the lock, and in it `_start_lane_workers` -/
def advance (runner : JobRunner) : JobRunner :=
  match runner.waking with
  | none => runner
  | some (.scan sourceKind asked) =>
    match (runner.workers sourceKind)[asked]? with
    | none => { runner with waking := some (.fill sourceKind) }
    | some .terminated =>
      runner.setWorkers sourceKind ((runner.workers sourceKind).eraseIdx asked)
    | some _ => { runner with waking := some (.scan sourceKind (asked + 1)) }
  | some (.fill sourceKind) =>
    if (runner.workers sourceKind).length < workerCount sourceKind then
      runner.setWorkers sourceKind (runner.workers sourceKind ++ [.claiming])
    else { runner with waking := nextPhase sourceKind }

/-- One event; one that cannot happen changes nothing. -/
def step (lib : WorkbenchLibrary) (runner : JobRunner) : RunnerEvent → JobRunner
  | .call call =>
    { runner with
      bench := runner.bench.step lib call
      wakes := runner.wakes + call.wakes runner.bench.store }
  | .wake => { runner with wakes := runner.wakes + 1 }
  | .lock =>
    if runner.waking = none ∧ 0 < runner.wakes then
      { runner with wakes := runner.wakes - 1, waking := some (.scan .cts 0) }
    else runner
  | .advance => runner.advance
  | .claim sourceKind worker ownerId leaseExpiresAt =>
    if (runner.workers sourceKind)[worker]? = some .claiming then
      let call := WorkbenchCall.claimNextSourceRunJob ownerId leaseExpiresAt (some sourceKind)
      let status := match call.body lib runner.bench.store with
        | .ok (_, some _) => .executing
        | .ok (_, none) => .sawNone
        -- an exception ends the thread
        | .error _ => .terminated
      { runner with bench := runner.bench.step lib call }.setWorkers sourceKind
        ((runner.workers sourceKind).set worker status)
    else runner
  | .executed sourceKind worker =>
    if (runner.workers sourceKind)[worker]? = some .executing then
      runner.setWorkers sourceKind ((runner.workers sourceKind).set worker .claiming)
    else runner
  | .terminate sourceKind worker =>
    if (runner.workers sourceKind)[worker]? = some .sawNone then
      runner.setWorkers sourceKind ((runner.workers sourceKind).set worker .terminated)
    else runner

def run (lib : WorkbenchLibrary) (events : List RunnerEvent) : JobRunner :=
  events.foldl (step lib) {}

/-- Jobs are completed only with contexts that were handed out before. -/
def Runs (lib : WorkbenchLibrary) (events : List RunnerEvent) : Prop :=
  ∀ first call rest, events = first ++ .call call :: rest → call.Issued (run lib first).bench

/-! ## 2. Jobs that nobody comes for -/

def Idle (runner : JobRunner) (sourceKind : RuntimeSourceKind) : Prop :=
  ∀ status ∈ runner.workers sourceKind, status = .sawNone ∨ status = .terminated

/-- A job is queued, no wake is under way, and no worker of the kind is going to claim. -/
def Stuck (runner : JobRunner) (sourceKind : RuntimeSourceKind) : Prop :=
  runner.bench.store.HasQueued sourceKind ∧ runner.wakes = 0 ∧ runner.waking = none ∧ runner.Idle sourceKind

/-- The wake finds threads enough for the kind, none of which is going to claim, while a job of
    the kind is queued and no other wake waits. -/
def Miscounts (runner : JobRunner) (sourceKind : RuntimeSourceKind) : Prop :=
  runner.waking = some (.fill sourceKind) ∧
    workerCount sourceKind ≤ (runner.workers sourceKind).length ∧
    runner.Idle sourceKind ∧ runner.bench.store.HasQueued sourceKind ∧ runner.wakes = 0

def Attentive (lib : WorkbenchLibrary) (events : List RunnerEvent) : Prop :=
  ∀ first rest sourceKind, events = first ++ .advance :: rest →
    ¬(run lib first).Miscounts sourceKind

/-! ## 3. What one event does -/

variable {lib : WorkbenchLibrary} {runner : JobRunner} {events : List RunnerEvent}
variable {event : RunnerEvent} {kind : RuntimeSourceKind}

theorem run_snoc : run lib (events ++ [event]) = step lib (run lib events) event := by
  simp [run]

theorem workers_setWorkers (sourceKind : RuntimeSourceKind) (workers : List WorkerStatus) :
    (runner.setWorkers sourceKind workers).workers kind =
      if kind = sourceKind then workers else runner.workers kind := by
  simp [setWorkers, Function.update_apply]

def Reached (lib : WorkbenchLibrary) (bench : Workbench) : Prop :=
  ∃ calls, Workbench.Runs lib {} calls ∧ Workbench.run lib {} calls = bench

theorem Reached.step {bench : Workbench} {call : WorkbenchCall} (h : Reached lib bench)
    (hissued : call.Issued bench) : Reached lib (bench.step lib call) := by
  obtain ⟨calls, hruns, rfl⟩ := h
  refine ⟨calls ++ [call], hruns.snoc hissued, ?_⟩
  rw [Workbench.run_append]
  rfl

theorem Reached.inStep {bench : Workbench} (h : Reached lib bench) : bench.InStep := by
  obtain ⟨calls, hruns, rfl⟩ := h
  exact (Workbench.run_steps Workbench.inStep_empty hruns).2

theorem Reached.claim {bench : Workbench} (h : Reached lib bench) (ownerId : String)
    (leaseExpiresAt : Instant) (sourceKind : RuntimeSourceKind) :
    (∃ store context, claimNextSourceRunJob ownerId leaseExpiresAt (some sourceKind) bench.store =
      .ok (store, some context)) ∨
    claimNextSourceRunJob ownerId leaseExpiresAt (some sourceKind) bench.store =
      .ok (bench.store, none) ∧ ¬bench.store.HasQueued sourceKind := by
  obtain ⟨calls, hruns, rfl⟩ := h
  cases hnext : (Workbench.run lib {} calls).store.nextQueuedJob (some sourceKind) with
  | none =>
    right
    refine ⟨by simp [claimNextSourceRunJob, hnext], ?_⟩
    intro hqueued
    obtain ⟨row, hrow, hqueued, rfl⟩ := hqueued
    exact nextQueuedJob_eq_none.mp hnext row hrow hqueued (.inr rfl)
  | some row =>
    left
    obtain ⟨store, session, triage, hclaim⟩ := (Workbench.run_tracksApproval hruns).claim hnext
    exact ⟨store, _, hclaim⟩

theorem hasQueued_step {bench : Workbench} (call : WorkbenchCall) (h : Reached lib bench)
    (hissued : call.Issued bench) (hqueued : (bench.step lib call).store.HasQueued kind) :
    bench.store.HasQueued kind ∨ 0 < call.wakes bench.store := by
  by_cases hstarts : call.Starts
  · cases call with
    | startSourceRunJob user sessionId sourceRunId idempotencyKey jobId now =>
      rcases Workbench.step_cases lib bench
        (.startSourceRunJob user sessionId sourceRunId idempotencyKey jobId now) with
        ⟨store', context, hbody, hstep⟩ | hstep
      · obtain ⟨-, answer, hok⟩ := silent_ok hbody
        cases answer with
        | none =>
          left
          obtain rfl := startSourceRunJob_none hok
          rw [hstep] at hqueued
          exact hqueued
        | some answer =>
          right
          simp [WorkbenchCall.wakes, hok]
      · rw [hstep] at hqueued
        exact .inl hqueued
    | _ => exact absurd hstarts id
  · left
    obtain ⟨row, hrow, hstatus, hkind⟩ := hqueued
    obtain ⟨row', hrow', hsame⟩ := Workbench.queued_before_step h.inStep hissued hstarts
      (Keyed.mem_rows_iff.mp hrow) hstatus
    simp only [SourceRunJobRow.queueJob, QueueJob.mk.injEq, Prod.mk.injEq] at hsame
    exact ⟨row', (Keyed.lookup_eq_some_iff.mp hrow').1, hsame.2.2.trans hstatus,
      hsame.2.1.1.trans hkind⟩

theorem step_reached (h : Reached lib runner.bench)
    (hissued : ∀ call, event = .call call → call.Issued runner.bench) :
    Reached lib (step lib runner event).bench := by
  cases event with
  | call call => exact h.step (hissued call rfl)
  | wake => exact h
  | lock =>
    unfold step
    dsimp only
    split <;> exact h
  | advance =>
    show Reached lib runner.advance.bench
    unfold advance
    split
    · exact h
    · split <;> exact h
    · split <;> exact h
  | claim sourceKind worker ownerId leaseExpiresAt =>
    unfold step
    dsimp only
    split
    · exact h.step trivial
    · exact h
  | executed sourceKind worker =>
    unfold step
    dsimp only
    split <;> exact h
  | terminate sourceKind worker =>
    unfold step
    dsimp only
    split <;> exact h

/-! ## 4. Every run -/

/-- The wake that holds the lock, if there is one, has seen to the workers of the kind. -/
def Passed : Option WakePhase → RuntimeSourceKind → Prop
  | none, _ => True
  | some (.scan .liepin _), .cts => True
  | some (.fill .liepin), .cts => True
  | _, _ => False

theorem not_passed_scan (asked : Nat) : ¬Passed (some (.scan kind asked)) kind := by
  cases kind <;> exact id

theorem not_passed_fill : ¬Passed (some (.fill kind)) kind := by
  cases kind <;> exact id

theorem passed_nextPhase {sourceKind : RuntimeSourceKind}
    (h : Passed (nextPhase sourceKind) kind) :
    kind = sourceKind ∨ Passed (some (.fill sourceKind)) kind := by
  cases sourceKind with
  | cts =>
    cases kind with
    | cts => exact .inl rfl
    | liepin => exact absurd h id
  | liepin =>
    cases kind with
    | cts => exact .inr trivial
    | liepin => exact .inl rfl

/-- Where a job is queued, a wake comes, or a worker is going to claim. -/
def Covered (runner : JobRunner) : Prop :=
  ∀ kind, Passed runner.waking kind → runner.bench.store.HasQueued kind → runner.wakes = 0 →
    ¬runner.Idle kind

theorem not_idle_of_mem (status : WorkerStatus) (h : status ∈ runner.workers kind)
    (hstatus : status = .claiming ∨ status = .executing) : ¬runner.Idle kind := by
  intro hidle
  rcases hidle status h with rfl | rfl <;> rcases hstatus with h | h <;> cases h

theorem idle_of_terminate {worker : Nat} {workers : List WorkerStatus}
    (hworker : workers[worker]? = some .sawNone)
    (h : ∀ status ∈ workers.set worker .terminated, status = .sawNone ∨ status = .terminated) :
    ∀ status ∈ workers, status = .sawNone ∨ status = .terminated := by
  intro status hmem
  obtain ⟨i, hi⟩ := List.mem_iff_getElem?.mp hmem
  by_cases hsame : i = worker
  · subst hsame
    rw [hworker] at hi
    cases hi
    exact .inl rfl
  · apply h
    apply List.mem_iff_getElem?.mpr
    exact ⟨i, by rw [List.getElem?_set_ne (Ne.symm hsame), hi]⟩

theorem advance_covered (h : runner.Covered) (hcount : ∀ kind, ¬runner.Miscounts kind) :
    runner.advance.Covered := by
  intro kind
  unfold advance
  cases hwaking : runner.waking with
  | none => exact h kind
  | some phase =>
    have hkind := h kind
    rw [hwaking] at hkind
    cases phase with
    | scan sourceKind asked =>
      dsimp only
      split
      · intro hpassed
        apply hkind
        cases sourceKind <;> cases kind <;> exact hpassed
      · intro hpassed
        have hne : kind ≠ sourceKind := by
          intro hsame
          subst hsame
          exact not_passed_scan asked (hwaking ▸ hpassed)
        have hidle := hkind (hwaking ▸ hpassed)
        unfold Idle at hidle ⊢
        rw [workers_setWorkers, if_neg hne]
        exact hidle
      · intro hpassed
        apply hkind
        cases sourceKind <;> cases kind <;> exact hpassed
    | fill sourceKind =>
      dsimp only
      split
      · intro hpassed
        have hne : kind ≠ sourceKind := by
          intro hsame
          subst hsame
          exact not_passed_fill (hwaking ▸ hpassed)
        have hidle := hkind (hwaking ▸ hpassed)
        unfold Idle at hidle ⊢
        rw [workers_setWorkers, if_neg hne]
        exact hidle
      · rename_i henough
        intro hpassed hqueued hwakes hidle
        rcases passed_nextPhase hpassed with rfl | hbefore
        · exact hcount kind ⟨hwaking, Nat.le_of_not_lt henough, hidle, hqueued, hwakes⟩
        · exact hkind hbefore hqueued hwakes hidle

/-- **One event** keeps the queue covered, if no wake miscounts. -/
theorem step_covered (hreached : Reached lib runner.bench) (h : runner.Covered)
    (hissued : ∀ call, event = .call call → call.Issued runner.bench)
    (hcount : event = .advance → ∀ kind, ¬runner.Miscounts kind) :
    (step lib runner event).Covered := by
  cases event with
  | call call =>
    intro kind hpassed hqueued hwakes
    obtain ⟨hwakes, hnone⟩ := Nat.add_eq_zero_iff.mp hwakes
    apply h kind hpassed _ hwakes
    rcases hasQueued_step call hreached (hissued call rfl) hqueued with hbefore | hwake
    · exact hbefore
    · exact absurd hnone hwake.ne'
  | wake =>
    intro kind _ _ hwakes
    cases hwakes
  | lock =>
    unfold step
    dsimp only
    split
    · intro kind hpassed
      cases kind <;> exact absurd hpassed id
    · exact h
  | advance => exact advance_covered h (hcount rfl)
  | claim sourceKind worker ownerId leaseExpiresAt =>
    unfold step
    dsimp only
    split
    · rename_i hworker
      intro kind hpassed hqueued hwakes
      have hbefore : runner.bench.store.HasQueued kind := by
        rcases hasQueued_step (.claimNextSourceRunJob ownerId leaseExpiresAt (some sourceKind))
          hreached trivial hqueued with hbefore | hwake
        · exact hbefore
        · cases hwake
      by_cases hkind : kind = sourceKind
      · subst hkind
        rcases hreached.claim ownerId leaseExpiresAt kind with ⟨store, context, hclaim⟩ |
          ⟨-, hnone⟩
        · refine not_idle_of_mem .executing ?_ (.inr rfl)
          rw [workers_setWorkers, if_pos rfl]
          simp only [WorkbenchCall.body, hclaim]
          obtain ⟨hlt, -⟩ := List.getElem?_eq_some_iff.mp hworker
          exact List.mem_set hlt _
        · exact absurd hbefore hnone
      · have hidle := h kind hpassed hbefore hwakes
        unfold Idle at hidle ⊢
        rw [workers_setWorkers, if_neg hkind]
        exact hidle
    · exact h
  | executed sourceKind worker =>
    unfold step
    dsimp only
    split
    · rename_i hworker
      intro kind hpassed hqueued hwakes
      by_cases hkind : kind = sourceKind
      · subst hkind
        refine not_idle_of_mem .claiming ?_ (.inl rfl)
        rw [workers_setWorkers, if_pos rfl]
        obtain ⟨hlt, -⟩ := List.getElem?_eq_some_iff.mp hworker
        exact List.mem_set hlt _
      · have hidle := h kind hpassed hqueued hwakes
        unfold Idle at hidle ⊢
        rw [workers_setWorkers, if_neg hkind]
        exact hidle
    · exact h
  | terminate sourceKind worker =>
    unfold step
    dsimp only
    split
    · rename_i hworker
      intro kind hpassed hqueued hwakes
      have hidle := h kind hpassed hqueued hwakes
      unfold Idle at hidle ⊢
      rw [workers_setWorkers]
      split
      · rename_i hkind
        subst hkind
        intro hafter
        exact hidle (idle_of_terminate hworker hafter)
      · exact hidle
    · exact h

theorem Runs.snoc (h : Runs lib (events ++ [event])) :
    Runs lib events ∧ ∀ call, event = .call call → call.Issued (run lib events).bench := by
  constructor
  · intro first call rest hevents
    exact h first call (rest ++ [event]) (by simp [hevents])
  · intro call hevent
    exact h events call [] (by rw [hevent])

theorem Attentive.snoc (h : Attentive lib (events ++ [event])) :
    Attentive lib events ∧ (event = .advance → ∀ kind, ¬(run lib events).Miscounts kind) := by
  constructor
  · intro first rest kind hevents
    exact h first (rest ++ [event]) kind (by simp [hevents])
  · intro hevent kind
    exact h events [] kind (by rw [hevent])

theorem run_reached (hruns : Runs lib events) : Reached lib (run lib events).bench := by
  induction events using List.reverseRecOn with
  | nil => exact ⟨[], Workbench.runs_nil _, rfl⟩
  | append_singleton events event ih =>
    obtain ⟨hruns, hissued⟩ := hruns.snoc
    rw [run_snoc]
    exact step_reached (ih hruns) hissued

theorem run_covered (hruns : Runs lib events) (hattentive : Attentive lib events) :
    (run lib events).Covered := by
  induction events using List.reverseRecOn with
  | nil =>
    intro kind _ hqueued
    obtain ⟨row, hrow, -⟩ := hqueued
    cases hrow
  | append_singleton events event ih =>
    obtain ⟨hruns, hissued⟩ := hruns.snoc
    obtain ⟨hattentive, hcount⟩ := hattentive.snoc
    rw [run_snoc]
    exact step_covered (run_reached hruns) (ih hruns hattentive) hissued hcount

/-! ## 5. A wake that miscounts -/

/-- The wake lets go of the lock before anything else happens, and leaves the workers of the kind
    `cts` alone. -/
def LetsGo (runner : JobRunner) : Prop :=
  ∃ n, (advance^[n] runner).waking = none ∧ (advance^[n] runner).workers .cts = runner.workers .cts ∧
    (advance^[n] runner).bench = runner.bench ∧ (advance^[n] runner).wakes = runner.wakes

theorem LetsGo.advance (h : runner.advance.LetsGo)
    (hcts : runner.advance.workers .cts = runner.workers .cts)
    (hbench : runner.advance.bench = runner.bench) (hwakes : runner.advance.wakes = runner.wakes) :
    runner.LetsGo := by
  obtain ⟨n, hwaking, hcts', hbench', hwakes'⟩ := h
  exact ⟨n + 1, hwaking, hcts'.trans hcts, hbench'.trans hbench, hwakes'.trans hwakes⟩

theorem letsGo_fill (missing : Nat) (hwaking : runner.waking = some (.fill .liepin))
    (hmissing : workerCount .liepin - (runner.workers .liepin).length = missing) : runner.LetsGo := by
  induction missing generalizing runner with
  | zero =>
    have henough := Nat.le_of_sub_eq_zero hmissing
    refine ⟨1, ?_, ?_, ?_, ?_⟩ <;>
      simp [advance, hwaking, Nat.not_lt.mpr henough, nextPhase]
  | succ missing ih =>
    have hlt : (runner.workers .liepin).length < workerCount .liepin := by omega
    have hadvance : runner.advance =
        runner.setWorkers .liepin (runner.workers .liepin ++ [.claiming]) := by
      simp [advance, hwaking, hlt]
    apply LetsGo.advance
    · rw [hadvance]
      apply ih
      · exact hwaking
      · rw [workers_setWorkers, if_pos rfl, List.length_append, List.length_singleton]
        omega
    · rw [hadvance, workers_setWorkers, if_neg (by simp)]
    · rw [hadvance]
      rfl
    · rw [hadvance]
      rfl

theorem letsGo_scan (left : Nat) {asked : Nat} (hwaking : runner.waking = some (.scan .liepin asked))
    (hleft : (runner.workers .liepin).length - asked = left) : runner.LetsGo := by
  induction left generalizing runner asked with
  | zero =>
    have hnone : (runner.workers .liepin)[asked]? = none :=
      List.getElem?_eq_none (Nat.le_of_sub_eq_zero hleft)
    have hadvance : runner.advance = { runner with waking := some (.fill .liepin) } := by
      simp [advance, hwaking, hnone]
    apply LetsGo.advance
    · rw [hadvance]
      exact letsGo_fill _ rfl rfl
    · rw [hadvance]
    · rw [hadvance]
    · rw [hadvance]
  | succ left ih =>
    have hlt : asked < (runner.workers .liepin).length := by omega
    have hsome := List.getElem?_eq_getElem hlt
    by_cases hstatus : (runner.workers .liepin)[asked] = .terminated
    · have hadvance : runner.advance =
          runner.setWorkers .liepin ((runner.workers .liepin).eraseIdx asked) := by
        simp [advance, hwaking, hsome, hstatus]
      apply LetsGo.advance
      · rw [hadvance]
        apply ih
        · exact hwaking
        · rw [workers_setWorkers, if_pos rfl, List.length_eraseIdx_of_lt hlt]
          omega
      · rw [hadvance, workers_setWorkers, if_neg (by simp)]
      · rw [hadvance]
        rfl
      · rw [hadvance]
        rfl
    · have hadvance : runner.advance =
          { runner with waking := some (.scan .liepin (asked + 1)) } := by
        simp only [advance, hwaking, hsome]
      apply LetsGo.advance
      · rw [hadvance]
        apply ih rfl
        show (runner.workers .liepin).length - (asked + 1) = left
        omega
      · rw [hadvance]
      · rw [hadvance]
      · rw [hadvance]

theorem run_advance (n : Nat) :
    run lib (events ++ List.replicate n .advance) = advance^[n] (run lib events) := by
  induction n generalizing events with
  | zero => simp
  | succ n ih =>
    have hsplit : events ++ List.replicate (n + 1) .advance =
        (events ++ [.advance]) ++ List.replicate n .advance := by
      simp [List.replicate_succ]
    rw [hsplit, ih, run_snoc, Function.iterate_succ_apply]
    rfl

theorem stuck_of_miscounts (h : (run lib events).Miscounts kind) :
    ∃ n, (run lib (events ++ List.replicate n .advance)).Stuck kind := by
  obtain ⟨hwaking, henough, hidle, hqueued, hwakes⟩ := h
  have hadvance : (run lib events).advance = { run lib events with waking := nextPhase kind } := by
    simp [advance, hwaking, Nat.not_lt.mpr henough]
  cases kind with
  | cts =>
    have hletsGo : (run lib events).advance.LetsGo := by
      rw [hadvance]
      exact letsGo_scan _ rfl rfl
    obtain ⟨n, hfree, hworkers, hbench, hwakes'⟩ := hletsGo
    refine ⟨n + 1, ?_⟩
    rw [run_advance, Function.iterate_succ_apply]
    unfold Stuck Idle
    rw [hbench, hwakes', hfree, hworkers, hadvance]
    exact ⟨hqueued, hwakes, rfl, hidle⟩
  | liepin =>
    refine ⟨1, ?_⟩
    rw [run_advance, Function.iterate_one, hadvance]
    exact ⟨hqueued, hwakes, rfl, hidle⟩

/-- **When every job is picked up**: in a run in which no wake miscounts, no kind of jobs is ever
    stuck; and a wake that miscounts has only to end for its kind to be. -/
theorem run_not_stuck :
    (∀ events, Runs lib events → Attentive lib events → ∀ kind, ¬(run lib events).Stuck kind) ∧
    ∀ events kind, (run lib events).Miscounts kind →
      ∃ n, (run lib (events ++ List.replicate n .advance)).Stuck kind := by
  constructor
  · intro events hruns hattentive kind hstuck
    obtain ⟨hqueued, hwakes, hwaking, hidle⟩ := hstuck
    refine run_covered hruns hattentive kind ?_ hqueued hwakes hidle
    rw [hwaking]
    exact trivial
  · intro events kind hmiscounts
    exact stuck_of_miscounts hmiscounts

/-! ## 6. A run -/

instance (store : WorkbenchStore) (kind : RuntimeSourceKind) : Decidable (store.HasQueued kind) :=
  inferInstanceAs (Decidable (∃ row ∈ store.sourceRunJobs.rows, _))

instance (runner : JobRunner) (kind : RuntimeSourceKind) : Decidable (runner.Idle kind) :=
  inferInstanceAs (Decidable (∀ status ∈ runner.workers kind, _))

instance (runner : JobRunner) (kind : RuntimeSourceKind) : Decidable (runner.Stuck kind) :=
  inferInstanceAs (Decidable (_ ∧ _ ∧ _ ∧ _))

instance (runner : JobRunner) (kind : RuntimeSourceKind) : Decidable (runner.Miscounts kind) :=
  inferInstanceAs (Decidable (_ ∧ _ ∧ _ ∧ _ ∧ _))

theorem attentive_of_take (h : ∀ n ≤ events.length, ∀ kind ∈ [.cts, .liepin],
    ¬(run lib (events.take n)).Miscounts kind) : Attentive lib events := by
  intro first rest kind hevents
  have htake : events.take first.length = first := by
    rw [hevents, List.take_left]
  rw [← htake]
  apply h
  · rw [hevents, List.length_append]
    omega
  · cases kind <;> simp

theorem runs_of_not_completes (h : ∀ event ∈ events, ∀ call, event = .call call →
    ∀ bench, call.Issued bench) : Runs lib events := by
  intro first call rest hevents
  refine h (.call call) ?_ call rfl _
  rw [hevents]
  simp

/-- A job is queued, and the wake that follows starts the workers. -/
def sampleWake : List RunnerEvent :=
  (sampleStart .cts).map .call ++ .lock :: List.replicate 7 .advance

theorem run_not_stuck_sample : ¬(run .ascii sampleWake).Stuck .cts := by
  refine run_not_stuck.1 sampleWake ?_ ?_ .cts
  · apply runs_of_not_completes
    simp [sampleWake, sampleStart, WorkbenchCall.Issued]
  · apply attentive_of_take
    decide

/-- Both workers have been told that there is nothing to do when a job is queued. The wake that
    follows finds them alive. -/
def sampleStall : List RunnerEvent :=
  .wake :: .lock :: List.replicate 7 .advance ++
    [.claim .cts 0 "w" 9, .claim .cts 1 "w" 9] ++
    (sampleStart .cts).map .call ++ .lock :: List.replicate 7 .advance

/-- The job stays in the queue. -/
theorem stuck_sampleStall :
    ¬∀ events, Runs .ascii events → ∀ kind, ¬(run .ascii events).Stuck kind := by
  intro h
  refine h sampleStall ?_ .cts (by decide)
  apply runs_of_not_completes
  simp [sampleStall, sampleStart, WorkbenchCall.Issued]

end JobRunner

end SeekTalent

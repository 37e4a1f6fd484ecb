import SeekTalent.Workbench.Effects
import SeekTalent.Workbench.JobQueue

/-!
# The tables of jobs and of runs in step

Read as a queue, the tables move by the steps of the queue (`Workbench.step_steps`). So in
every run the two tables are in step, a run that is over rests, and a job that has ended
cannot be ended again.
-/

namespace SeekTalent

open Stateful (bind_eq_ok)

/-! ## 1. The tables as a queue -/

abbrev JobLabel : Type := RuntimeSourceKind × String

def SourceRunJobRow.queueJob (row : SourceRunJobRow) : QueueJob String JobLabel :=
  ⟨row.sourceRunId, (row.sourceKind, row.sessionId), row.status⟩

def WorkbenchStore.queue (store : WorkbenchStore) : JobQueue String String JobLabel where
  run id := (store.sourceRuns.lookup id).map (·.status)
  job id := (store.sourceRunJobs.lookup id).map (·.queueJob)

open JobQueue

namespace WorkbenchStore

variable {store store' : WorkbenchStore} {user : WorkbenchUser} {kinds : Move → Prop}
variable {sessionId sourceRunId jobId : String} {run : SourceRunRow} {row : SourceRunJobRow}
variable {context : WorkbenchSourceRunJobContext} {now : Instant} {lib : WorkbenchLibrary}
variable {outcome : JobOutcome} {sourceKind : Option RuntimeSourceKind}

@[simp] theorem queue_run (id : String) :
    store.queue.run id = (store.sourceRuns.lookup id).map (·.status) := rfl

@[simp] theorem queue_job (id : String) :
    store.queue.job id = (store.sourceRunJobs.lookup id).map (·.queueJob) := rfl

theorem queue_update_of_same {p : SourceRunRow → Bool} {f : SourceRunRow → SourceRunRow}
    (hf : ∀ row, (f row).sourceRunId = row.sourceRunId) (hstatus : ∀ row, (f row).status = row.status) :
    queue { store with sourceRuns := store.sourceRuns.update p f hf } = store.queue := by
  unfold queue
  congr 1
  funext id
  rw [Keyed.lookup_update, Option.map_map]
  congr 1
  funext row
  simp only [Function.comp_apply]
  split
  · exact hstatus row
  · rfl

@[simp] theorem queue_updateSourceRun_of_same {set : SourceRunRow → SourceRunRow}
    (hset : ∀ row, (set row).sourceRunId = row.sourceRunId)
    (hstatus : ∀ row, (set row).status = row.status) :
    (store.updateSourceRun sourceRunId set hset).queue = store.queue :=
  queue_update_of_same hset hstatus

theorem steps_update {p : SourceRunRow → Bool} {f : SourceRunRow → SourceRunRow}
    (hf : ∀ row, (f row).sourceRunId = row.sourceRunId) (hkinds : kinds .relabel)
    (hp : ∀ row ∈ store.sourceRuns.rows, p row = true → Waiting row.status ∧
      Waiting (f row).status ∧ ¬store.queue.HasActive row.sourceRunId) :
    Steps kinds store.queue (queue { store with sourceRuns := store.sourceRuns.update p f hf }) := by
  refine Steps.single hkinds (Step.relabel rfl fun id => ?_)
  unfold queue
  dsimp only
  rw [Keyed.lookup_update]
  cases hrow : store.sourceRuns.lookup id with
  | none => exact .inl rfl
  | some row =>
    obtain ⟨hmem, hid⟩ := Keyed.lookup_eq_some_iff.mp hrow
    cases hpr : p row with
    | false => exact .inl (by simp [hpr])
    | true =>
      obtain ⟨hbefore, hafter, hidle⟩ := hp row hmem hpr
      right
      refine ⟨?_, hid ▸ hidle, (f row).status, by simp [hpr], hafter⟩
      intro status hstatus
      simp only [Option.map_some, Option.some.injEq] at hstatus
      exact hstatus ▸ hbefore

theorem not_hasActive_of_blocked (h : store.queue.Valid) (hrun : run ∈ store.sourceRuns.rows)
    (hblocked : run.status = .blocked) : ¬store.queue.HasActive run.sourceRunId := by
  have hstatus : store.queue.run run.sourceRunId = some .blocked := by
    rw [queue_run, Keyed.mem_rows_iff.mp hrun, Option.map_some, hblocked]
  intro hactive
  obtain ⟨id, job, hjob, hsame, hactive⟩ := hactive
  rcases hactive with hqueued | hrunning
  · have hrun := h.queued id job hjob hqueued
    rw [hsame, hstatus] at hrun
    cases hrun
  · have hrun := (h.running_iff run.sourceRunId).mpr ⟨id, job, hjob, hsame, hrunning⟩
    rw [hstatus] at hrun
    cases hrun

theorem hasActiveJob_iff :
    store.hasActiveJob sourceRunId = true ↔ store.queue.HasActive sourceRunId := by
  unfold hasActiveJob HasActive queue
  simp only [List.any_eq_true, decide_eq_true_eq, Option.map_eq_some_iff]
  constructor
  · intro h
    obtain ⟨job, hjob, hrun, hactive⟩ := h
    exact ⟨job.jobId, _, ⟨job, Keyed.mem_rows_iff.mp hjob, rfl⟩, hrun, hactive⟩
  · intro h
    obtain ⟨id, _, ⟨job, hjob, rfl⟩, hrun, hactive⟩ := h
    exact ⟨job, (Keyed.lookup_eq_some_iff.mp hjob).1, hrun, hactive⟩

theorem queue_set (status : SourceRunJobStatus) (runStatus : SourceRunStatus)
    {setJob : SourceRunJobRow → SourceRunJobRow} {setRun : SourceRunRow → SourceRunRow}
    (hjob : store.sourceRunJobs.lookup jobId = some row) (hsetJob : ∀ row, (setJob row).jobId = row.jobId)
    (hsetRun : ∀ row, (setRun row).sourceRunId = row.sourceRunId)
    (hrun : store.queue.run row.sourceRunId ≠ none)
    (hjobStatus : (setJob row).queueJob = { row.queueJob with status })
    (hrunStatus : ∀ run, (setRun run).status = runStatus) :
    ((store.updateJob jobId setJob hsetJob).updateSourceRun row.sourceRunId setRun hsetRun).queue =
      store.queue.set jobId { row.queueJob with status } runStatus := by
  have hrun' : store.sourceRuns.lookup row.sourceRunId ≠ none := by simpa using hrun
  obtain ⟨run, hrun'⟩ := Option.ne_none_iff_exists'.mp hrun'
  ext1
  · funext id
    rw [set_run, queue_run, lookup_updateSourceRun, sourceRuns_updateJob]
    by_cases hid : id = row.sourceRunId
    · subst hid
      simp [hrun', hrunStatus, SourceRunJobRow.queueJob]
    · simp [hid, SourceRunJobRow.queueJob]
  · funext id
    rw [set_job, queue_job, sourceRunJobs_updateSourceRun, lookup_updateJob]
    by_cases hid : id = jobId
    · subst hid
      simp [hjob, hjobStatus]
    · simp [hid]

/-! ## 2. What a transaction does to the queue -/

theorem insertSourceRuns_ok {rows : List SourceRunRow}
    {table table' : Keyed SourceRunRow.sourceRunId} (h : insertSourceRuns rows table = .ok table')
    (id : String) : table'.lookup id = table.lookup id ∨
      table.lookup id = none ∧ ∃ row ∈ rows, table'.lookup id = some row := by
  induction rows generalizing table with
  | nil =>
    cases h
    exact .inl rfl
  | cons row rows ih =>
    obtain ⟨middle, hinsert, hrest⟩ := bind_eq_ok h
    obtain ⟨hnone, hlookup⟩ := Keyed.lookup_insert (insert_of_insertOrRaise hinsert)
    have hmiddle := hlookup id
    by_cases hid : row.sourceRunId = id
    · -- the row that is inserted here is not touched by those that follow
      rw [if_pos hid] at hmiddle
      right
      refine ⟨hid ▸ hnone, row, List.mem_cons_self .., ?_⟩
      rcases ih hrest with hsame | ⟨hfresh, -⟩
      · rw [hsame, hmiddle]
      · rw [hmiddle] at hfresh
        cases hfresh
    · rw [if_neg hid] at hmiddle
      rcases ih hrest with hsame | ⟨hfresh, row', hrow', hsome⟩
      · exact .inl (hsame.trans hmiddle)
      · exact .inr ⟨hmiddle ▸ hfresh, row', List.mem_cons_of_mem row hrow', hsome⟩

theorem waiting_newSourceRun (connected : Bool) (source : RuntimeSourceKind × String) :
    Waiting (newSourceRun user sessionId connected source).status := by
  unfold newSourceRun Waiting
  dsimp only
  split
  · exact .inr rfl
  · exact .inl rfl

theorem createWorkbenchSession_steps {session answer : SessionRow}
    {sources : List (RuntimeSourceKind × String)} (h : store.queue.Valid)
    (hkinds : kinds .relabel)
    (hok : createWorkbenchSession session sources store = .ok (store', answer)) :
    Steps kinds store.queue store'.queue := by
  obtain ⟨connected, sessions, sourceRuns, triages, -, hruns, -, rfl⟩ :=
    createWorkbenchSession_ok hok
  refine Steps.single hkinds (Step.relabel rfl fun id => ?_)
  have hlookup := insertSourceRuns_ok hruns id
  unfold queue
  dsimp only
  rcases hlookup with hsame | ⟨hnone, row, hrow, hsome⟩
  · exact .inl (by rw [hsame])
  · right
    obtain ⟨source, -, rfl⟩ := List.mem_map.mp hrow
    refine ⟨by simp [hnone], ?_, _, by rw [hsome]; rfl, waiting_newSourceRun _ source⟩
    intro hactive
    obtain ⟨i, job, hjob, hrun, -⟩ := hactive
    apply h.job_run i job hjob
    rw [hrun, queue_run, hnone]
    rfl

theorem WritesConnection.steps {connectionId : String} {status : SourceConnectionStatus}
    (hwrites : WritesConnection store store' connectionId status) (h : store.queue.Valid)
    (hkinds : kinds .relabel) : Steps kinds store.queue store'.queue := by
  rcases hwrites with rfl | ⟨set, hset, -, rfl | ⟨p, hp, rfl⟩⟩
  · exact .refl
  · exact .refl
  · show Steps kinds store.queue (queue { store with
      sourceRuns := store.sourceRuns.update p requeueSourceRun fun _ => rfl })
    refine steps_update _ hkinds ?_
    intro row hrow hpr
    have hblocked := hp row hpr
    exact ⟨.inr hblocked, .inl rfl, not_hasActive_of_blocked h hrow hblocked⟩

theorem blockSourceRunForStartProbe_steps {answer : Option SourceRunRow} (h : store.queue.Valid)
    (hkinds : kinds .relabel)
    (hok : blockSourceRunForStartProbe user sessionId sourceRunId store = .ok (store', answer)) :
    Steps kinds store.queue store'.queue := by
  rcases blockSourceRunForStartProbe_ok hok with rfl | ⟨run, p, hrun, hprobe, hp, rfl⟩
  · exact .refl
  · obtain ⟨hlookup, -⟩ := sourceRunForUser_eq_some hrun
    unfold probeKeeps at hprobe
    simp only [not_or] at hprobe
    obtain ⟨hnotRunning, hnotOver, hnotQueued, -⟩ := hprobe
    refine steps_update _ hkinds ?_
    intro row hrow hpr
    -- the row that is updated is the one the guard has looked at
    obtain rfl : run = row := by
      have hmem := Keyed.mem_rows_iff.mp hrow
      rw [hp row hpr, hlookup] at hmem
      exact Option.some.inj hmem
    cases hstatus : run.status with
    | queued =>
      refine ⟨.inl rfl, .inr rfl, ?_⟩
      intro hactive
      exact hnotQueued ⟨hstatus, hasActiveJob_iff.mpr hactive⟩
    | blocked => exact ⟨.inr rfl, .inr rfl, not_hasActive_of_blocked h hrow hstatus⟩
    | running => exact absurd hstatus hnotRunning
    | completed => exact absurd (.inl hstatus) hnotOver
    | failed => exact absurd (.inr hstatus) hnotOver

theorem not_hasActive_of_existingJob {idempotencyKey : Option String}
    (h : store.existingJob sourceRunId idempotencyKey = none) :
    ¬store.queue.HasActive sourceRunId := by
  intro hactive
  have hactive := hasActiveJob_iff.mpr hactive
  unfold hasActiveJob at hactive
  simp only [List.any_eq_true, decide_eq_true_eq] at hactive
  obtain ⟨job, hjob, hrun, hactive⟩ := hactive
  unfold existingJob at h
  rw [Py.minBy_eq_none, List.filter_eq_nil_iff] at h
  exact h job hjob (by simp [hrun, hactive])

theorem startSourceRunJob_steps {idempotencyKey : Option String}
    {answer : Option (SourceRunRow × SourceRunJobRow × Bool)}
    (hok : startSourceRunJob user sessionId sourceRunId idempotencyKey jobId now store =
      .ok (store', answer)) : Steps (fun _ => True) store.queue store'.queue := by
  rcases startSourceRunJob_ok hok with rfl | ⟨run, triage, job, table, hrun, hopen, -, -, -, hnone,
    hid, -, hsame, hqueued, hinsert, authState, rfl⟩
  · exact .refl
  · obtain ⟨hnew, hlookup⟩ := Keyed.lookup_insert hinsert
    rw [hid] at hnew hlookup
    have hstatus : store.queue.run sourceRunId = some run.status := by
      rw [queue_run, hrun]
      rfl
    -- the job is inserted as queued; setting it again changes nothing
    have hqueue : queue ({ store with sourceRunJobs := table }.updateSourceRun sourceRunId
        (fun row => { row with status := .queued, authState }) fun _ => rfl) =
        store.queue.set jobId job.queueJob .queued := by
      ext1
      · funext id
        rw [set_run, queue_run, lookup_updateSourceRun]
        by_cases hid : id = sourceRunId
        · subst hid
          simp [hrun, SourceRunJobRow.queueJob, hsame]
        · simp [hid, SourceRunJobRow.queueJob, hsame]
      · funext id
        rw [set_job, queue_job, sourceRunJobs_updateSourceRun, hlookup]
        by_cases hid : id = jobId
        · subst hid
          simp
        · simp [hid, Ne.symm hid]
    rw [hqueue]
    refine Steps.single trivial (Step.enqueue run.status (by simp [hnew]) ?_ hopen ?_ hqueued)
    · show store.queue.run job.sourceRunId = _
      rw [hsame, hstatus]
    · show ¬store.queue.HasActive job.sourceRunId
      rw [hsame]
      exact not_hasActive_of_existingJob hnone

theorem nextQueuedJob_eq_some (h : store.nextQueuedJob sourceKind = some row) :
    store.sourceRunJobs.lookup row.jobId = some row ∧ row.status = .queued ∧
      (sourceKind = none ∨ sourceKind = some row.sourceKind) := by
  have hmem := Py.mem_of_minBy h
  simp only [List.mem_filter, decide_eq_true_eq] at hmem
  exact ⟨Keyed.mem_rows_iff.mp hmem.1, hmem.2⟩

theorem nextQueuedJob_eq_none :
    store.nextQueuedJob sourceKind = none ↔ ∀ row ∈ store.sourceRunJobs.rows,
      row.status = .queued → ¬(sourceKind = none ∨ sourceKind = some row.sourceKind) := by
  unfold nextQueuedJob
  rw [Py.minBy_eq_none, List.filter_eq_nil_iff]
  simp

theorem queue_claim {ownerId : String} {leaseExpiresAt : Instant} (h : store.queue.Valid)
    (hlookup : store.sourceRunJobs.lookup row.jobId = some row) :
    ((store.updateJob row.jobId (markClaimed ownerId leaseExpiresAt)
      (markClaimed_jobId ownerId leaseExpiresAt)).updateSourceRun row.sourceRunId
        (fun run => { run with status := .running }) fun _ => rfl).queue =
      store.queue.set row.jobId { row.queueJob with status := .running } .running := by
  have hjob : store.queue.job row.jobId = some row.queueJob := by simp [hlookup]
  exact queue_set .running .running hlookup _ _ (h.job_run _ _ hjob) rfl fun _ => rfl

theorem claimNextSourceRunJob_steps {ownerId : String} {leaseExpiresAt : Instant}
    {context : Option WorkbenchSourceRunJobContext}
    (h : store.queue.Valid) (hkinds : kinds .claim)
    (hok : claimNextSourceRunJob ownerId leaseExpiresAt sourceKind store = .ok (store', context)) :
    Steps kinds store.queue store'.queue ∧ ∀ c ∈ context, ∃ job,
      store'.queue.job c.job.jobId = some job ∧ job.run = c.job.sourceRunId := by
  rcases claimNextSourceRunJob_ok hok with ⟨-, rfl, rfl⟩ | ⟨row, session, triage, hrow, -, -, rfl, rfl⟩
  · exact ⟨.refl, by simp⟩
  · obtain ⟨hlookup, hqueued, -⟩ := nextQueuedJob_eq_some hrow
    have hjob : store.queue.job row.jobId = some row.queueJob := by simp [hlookup]
    rw [queue_claim h hlookup]
    refine ⟨Steps.single hkinds (Step.claim hjob hqueued), ?_⟩
    intro c hc
    obtain rfl := Option.some.inj hc
    exact ⟨_, (set_job ..).trans (if_pos rfl), rfl⟩

/-- **What the end of a running job does.** -/
theorem endJob_steps {job : QueueJob String JobLabel}
    {sourceStatus : SourceRunStatus} (h : store.queue.Valid) (hkinds : kinds .finish)
    (hjob : store.queue.job jobId = some job) (hrunning : job.status = .running)
    (hstatus : sourceStatus ≠ .running ∧ sourceStatus ≠ .queued) :
    Steps kinds store.queue (store.endJob jobId job.run outcome sourceStatus).queue := by
  obtain ⟨row, hlookup, rfl⟩ := Option.map_eq_some_iff.mp hjob
  unfold endJob
  show Steps kinds _ (queue (updateSourceRun _ row.sourceRunId _ _))
  rw [queue_set outcome.jobStatus sourceStatus hlookup _ _
    (h.job_run _ _ hjob) rfl fun _ => rfl]
  refine Steps.single hkinds (Step.finish _ _ hjob hrunning ?_ hstatus)
  cases outcome <;> simp [JobOutcome.jobStatus, SourceRunJobStatus.Active]

theorem queue_endJob_updateSourceRun {sourceStatus : SourceRunStatus}
    {set : SourceRunRow → SourceRunRow} (hset : ∀ row, (set row).sourceRunId = row.sourceRunId) :
    ((store.updateSourceRun sourceRunId set hset).endJob jobId sourceRunId outcome
      sourceStatus).queue = (store.endJob jobId sourceRunId outcome sourceStatus).queue := by
  unfold endJob
  ext1
  · funext id
    simp only [queue_run, lookup_updateSourceRun, sourceRuns_updateJob]
    by_cases hid : id = sourceRunId
    · simp [hid, Function.comp_def]
    · simp [hid]
  · rfl

theorem sourceRunStatus_ne (outcome : JobOutcome) :
    outcome.sourceRunStatus ≠ .running ∧ outcome.sourceRunStatus ≠ .queued := by
  cases outcome <;> simp [JobOutcome.sourceRunStatus]

theorem finishSourceRunJob_steps {answer : Unit} (h : store.queue.Valid)
    (hkinds : kinds .finish) (hok : finishSourceRunJob jobId outcome store = .ok (store', answer)) :
    Steps kinds store.queue store'.queue := by
  rcases finishSourceRunJob_ok hok with rfl | ⟨row, hrow, hrunning, rfl⟩
  · exact .refl
  · obtain rfl := Keyed.key_of_lookup hrow
    have hjob : store.queue.job row.jobId = some row.queueJob := by simp [hrow]
    exact endJob_steps h hkinds hjob hrunning (sourceRunStatus_ne outcome)

theorem lookup_expireJob (hlookup : store.sourceRunJobs.lookup row.jobId = some row)
    (hrunning : row.status = .running) (id : String) :
    (store.expireJob row).sourceRunJobs.lookup id =
      (store.endJob row.jobId row.sourceRunId .failed .failed).sourceRunJobs.lookup id := by
  unfold expireJob endJob
  rw [sourceRunJobs_updateSourceRun, sourceRunJobs_updateSourceRun, lookup_updateJob,
    Keyed.lookup_update]
  cases hrow : store.sourceRunJobs.lookup id with
  | none => simp
  | some other =>
    have hkey := Keyed.key_of_lookup hrow
    by_cases hid : id = row.jobId
    · subst hid
      obtain rfl := Option.some.inj (hlookup.symm.trans hrow)
      simp [hrunning, JobOutcome.jobStatus]
    · simp [hkey, hid]

theorem queue_expireJob (hlookup : store.sourceRunJobs.lookup row.jobId = some row)
    (hrunning : row.status = .running) :
    (store.expireJob row).queue =
      (store.endJob row.jobId row.sourceRunId .failed .failed).queue := by
  ext1
  · rfl
  · funext id
    rw [queue_job, lookup_expireJob hlookup hrunning, queue_job]

theorem expireJobs_steps {rows : List SourceRunJobRow} (h : store.queue.Valid)
    (hkinds : kinds .finish) (hnodup : (rows.map (·.jobId)).Nodup)
    (hrows : ∀ row ∈ rows, store.sourceRunJobs.lookup row.jobId = some row ∧
      row.status = .running) :
    Steps kinds store.queue (rows.foldl expireJob store).queue := by
  induction rows generalizing store with
  | nil => exact .refl
  | cons row rows ih =>
    obtain ⟨hnew, hnodup⟩ := List.nodup_cons.mp hnodup
    obtain ⟨⟨hlookup, hrunning⟩, hrows⟩ := List.forall_mem_cons.mp hrows
    have hstep : Steps kinds store.queue (store.expireJob row).queue := by
      have hjob : store.queue.job row.jobId = some row.queueJob := by simp [hlookup]
      rw [queue_expireJob hlookup hrunning]
      exact endJob_steps h hkinds hjob hrunning (by simp)
    -- the jobs that follow are other jobs, and still run
    refine hstep.trans (ih (hstep.valid h) hnodup ?_)
    intro row' hrow'
    have hne : row'.jobId ≠ row.jobId := by
      intro hsame
      exact hnew (List.mem_map.mpr ⟨row', hrow', hsame⟩)
    rw [lookup_expireJob hlookup hrunning]
    simpa [endJob, hne] using hrows row' hrow'

theorem reconcileExpiredRunningJobs_steps {answer : Nat} (h : store.queue.Valid)
    (hkinds : kinds .finish)
    (hok : reconcileExpiredRunningJobs now store = .ok (store', answer)) :
    Steps kinds store.queue store'.queue := by
  obtain ⟨rfl, -⟩ := Prod.mk.inj (Except.ok.inj hok)
  have hperm : (store.expiredJobs now).Perm _ := Py.perm_sortedBy
  apply expireJobs_steps h hkinds
  · rw [(hperm.map _).nodup_iff]
    exact store.sourceRunJobs.nodup.sublist (List.filter_sublist.map _)
  · intro row hrow
    have hmem := hperm.mem_iff.mp hrow
    simp only [List.mem_filter, decide_eq_true_eq] at hmem
    exact ⟨Keyed.mem_rows_iff.mp hmem.1, hmem.2.1⟩

/-! ## 3. What leaves the queue alone -/

@[simp] theorem queue_blockDetailOpenRequest (request : DetailOpenRequestRow) (reason : String) :
    (store.blockDetailOpenRequest request reason).queue = store.queue := by
  unfold blockDetailOpenRequest
  rw [queue_updateSourceRun_of_same]
  · rfl
  · exact fun _ => rfl

@[simp] theorem queue_recordLease (request : DetailOpenRequestRow) (ledgerId : String) :
    (store.recordLease request ledgerId).queue = store.queue := by
  unfold recordLease
  rw [queue_updateSourceRun_of_same]
  · rfl
  · exact fun _ => rfl

theorem queue_leaseLiepinDetailOpenRequest (requestId ledgerId : String) (now : Instant) :
    (store.leaseLiepinDetailOpenRequest requestId ledgerId now).1.queue = store.queue := by
  unfold leaseLiepinDetailOpenRequest
  split
  · rfl
  · split
    · simp
    · split
      · simp
      · split
        · simp
        · rw [queue_recordLease]
          rfl

theorem queue_persistCtsCandidateResults (lib : WorkbenchLibrary)
    (context : WorkbenchSourceRunJobContext) (now : Instant)
    (candidates : List (Option String × Option String)) (store : WorkbenchStore) :
    (persistCtsCandidateResults lib context now candidates store).1.queue = store.queue := by
  induction candidates generalizing store with
  | nil => rfl
  | cons candidate candidates ih =>
    unfold persistCtsCandidateResults
    split
    · exact ih store
    · exact ih _

theorem queue_attachGivenRuntimeRunId {runtimeRunId : Option String}
    (h : store.attachGivenRuntimeRunId context runtimeRunId = .ok store') :
    store'.queue = store.queue := by
  cases runtimeRunId with
  | none =>
    cases h
    rfl
  | some runtimeRunId =>
    obtain ⟨_, -, h⟩ := bind_eq_ok h
    obtain rfl := Except.ok.inj h
    rw [queue_updateSourceRun_of_same]
    exact fun _ => rfl

theorem queue_requestCardDetail {card : LiepinCard}
    {connection : SourceConnectionRow} {mode : DetailOpenMode}
    {evidenceId reviewItemId providerKeyHash : String} {made : Bool}
    (h : store.requestCardDetail context card connection mode evidenceId reviewItemId
      providerKeyHash now = .ok (store', made)) : store'.queue = store.queue := by
  rcases requestCardDetail_ok h with rfl | ⟨row, requests, -, -, -, -, -, -, -, -,
    ⟨-, rfl⟩ | ⟨-, rfl⟩⟩
  · rfl
  · rfl
  · rw [queue_leaseLiepinDetailOpenRequest]
    rfl

theorem queue_persistLiepinCards
    {result : LiepinLaneResult} {progress : WorkbenchStore × Nat × List String}
    (h : persistLiepinCardCandidateResults lib context result now store = .ok progress) :
    progress.1.queue = store.queue := by
  apply persistLiepinCards_induction (P := fun s => s.queue = store.queue) _ _ rfl h
  · intro middle _ _ _ hmiddle
    exact hmiddle
  · intro middle middle' _ _ _ _ _ _ hmiddle _ _ _ hmade
    exact (queue_requestCardDetail hmade).trans hmiddle

/-- The context's job is a row of the tables, of the run the context names. -/
def Knows (store : WorkbenchStore) (context : WorkbenchSourceRunJobContext) : Prop :=
  ∃ job, store.queue.job context.job.jobId = some job ∧ job.run = context.job.sourceRunId

/-- **What completing a running job does.** -/
theorem complete_steps {middle : WorkbenchStore}
    {sourceStatus : Option SourceRunStatus}
    {set : SourceRunRow → SourceRunRow} {hset : ∀ row, (set row).sourceRunId = row.sourceRunId}
    (h : store.queue.Valid) (hkinds : kinds .finish) (hknows : store.Knows context)
    (hrow : store.sourceRunJobs.lookup context.job.jobId = some row)
    (hrunning : row.status = .running) (hmiddle : middle.queue = store.queue)
    (hstatus : sourceStatus.getD outcome.sourceRunStatus ≠ .running ∧
      sourceStatus.getD outcome.sourceRunStatus ≠ .queued) :
    Steps kinds store.queue
      ((middle.updateSourceRun context.job.sourceRunId set hset).finishSourceRunJobConn row outcome
        sourceStatus).queue := by
  obtain ⟨job, hjob, hrun⟩ := hknows
  have hsame : job = row.queueJob := by
    rw [queue_job, hrow] at hjob
    exact (Option.some.inj hjob).symm
  subst hsame
  unfold finishSourceRunJobConn
  have hrun : row.sourceRunId = context.job.sourceRunId := hrun
  rw [← hrun, queue_endJob_updateSourceRun, ← hmiddle]
  have hid := Keyed.key_of_lookup hrow
  refine endJob_steps (hmiddle ▸ h) hkinds (?_ : _ = some row.queueJob) ?_ ?_
  · rw [hmiddle, hid]
    exact hjob
  · exact hrunning
  · exact hstatus

theorem completeCtsSourceRun_steps {artifacts : CtsArtifacts}
    {answer : List String} (h : store.queue.Valid) (hkinds : kinds .finish)
    (hknows : store.Knows context)
    (hok : completeCtsSourceRun lib context artifacts now store = .ok (store', answer)) :
    Steps kinds store.queue store'.queue := by
  rcases completeCtsSourceRun_ok hok with rfl | ⟨row, attached, set, hset, hrow, hrunning, hattached,
    -, rfl⟩
  · exact .refl
  · apply complete_steps h hkinds hknows hrow hrunning
    · rw [queue_persistCtsCandidateResults, queue_attachGivenRuntimeRunId hattached]
    · exact sourceRunStatus_ne .completed

theorem liepinSourceRunStatus_ne (result : LiepinLaneResult) :
    liepinSourceRunStatusFromLaneResult result ≠ .running ∧
      liepinSourceRunStatusFromLaneResult result ≠ .queued := by
  unfold liepinSourceRunStatusFromLaneResult
  split
  · simp
  · split <;> simp

theorem completeLiepinCardSourceRun_steps {result : LiepinLaneResult}
    {answer : List String} (h : store.queue.Valid) (hkinds : kinds .finish)
    (hknows : store.Knows context)
    (hok : completeLiepinCardSourceRun lib context result now store = .ok (store', answer)) :
    Steps kinds store.queue store'.queue := by
  rcases completeLiepinCardSourceRun_ok hok with rfl | ⟨row, persisted, set, hset, hrow, hrunning,
    hpersisted, -, rfl⟩
  · exact .refl
  · apply complete_steps h hkinds hknows hrow hrunning
    · exact queue_persistLiepinCards hpersisted
    · exact liepinSourceRunStatus_ne result

theorem queue_updateRequirementTriage {criteria : TriageCriteria}
    {answer : Option RequirementTriageRow}
    (hok : updateRequirementTriage user sessionId criteria store = .ok (store', answer)) :
    store'.queue = store.queue := by
  rcases updateRequirementTriage_ok hok with ⟨-, rfl⟩ | ⟨-, rfl⟩ <;> rfl

theorem queue_approveRequirementTriage {answer : Option RequirementTriageRow}
    (hok : approveRequirementTriage user sessionId now store = .ok (store', answer)) :
    store'.queue = store.queue := by
  rcases approveRequirementTriage_ok hok with ⟨rfl, -⟩ | ⟨-, rfl, -⟩ <;> rfl

theorem queue_getOrCreateLiepinSourceConnection {connectionId : String}
    {answer : SourceConnectionRow × Bool}
    (hok : getOrCreateLiepinSourceConnection user connectionId store = .ok (store', answer)) :
    store'.queue = store.queue := by
  rcases getOrCreateLiepinSourceConnection_ok hok with rfl | ⟨_, -, -, rfl⟩ <;> rfl

theorem queue_extendSourceRunJobLease {ownerId : String} {leaseExpiresAt : Instant} {answer : Unit}
    (hok : extendSourceRunJobLease jobId ownerId leaseExpiresAt store = .ok (store', answer)) :
    store'.queue = store.queue := by
  cases hok
  ext1
  · rfl
  · funext id
    rw [queue_job, queue_job, Keyed.lookup_update, Option.map_map]
    congr 1
    funext row
    simp only [Function.comp_apply]
    split <;> rfl

theorem queue_updateLiepinSourceRunPolicy {mode : DetailOpenMode} {answer : Option DetailOpenMode}
    (hok : updateLiepinSourceRunPolicy user sessionId mode store = .ok (store', answer)) :
    store'.queue = store.queue := by
  obtain ⟨_, rfl⟩ := updateLiepinSourceRunPolicy_ok hok
  rfl

theorem queue_createLiepinDetailOpenRequest {reviewItemId : String}
    {idempotencyKey : Option String} {requestId ledgerId : String}
    {answer : Option (DetailOpenRequestRow × Option String)}
    (hok : createLiepinDetailOpenRequest user sessionId reviewItemId idempotencyKey requestId
      ledgerId now store = .ok (store', answer)) : store'.queue = store.queue := by
  rcases createLiepinDetailOpenRequest_ok hok with rfl | ⟨_, _, _, -, -, -, -, -, -, -,
    ⟨-, rfl⟩ | ⟨-, rfl⟩⟩
  · rfl
  · rfl
  · rw [queue_leaseLiepinDetailOpenRequest]
    rfl

theorem queue_approveLiepinDetailOpenRequest {requestId ledgerId : String}
    {answer : Option (DetailOpenRequestRow × Option String)}
    (hok : approveLiepinDetailOpenRequest user requestId ledgerId now store =
      .ok (store', answer)) : store'.queue = store.queue := by
  rcases approveLiepinDetailOpenRequest_ok hok with rfl | ⟨_, -, -, rfl⟩
  · rfl
  · rw [queue_leaseLiepinDetailOpenRequest]
    rfl

theorem queue_rejectLiepinDetailOpenRequest {requestId : String}
    {answer : Option DetailOpenRequestRow}
    (hok : rejectLiepinDetailOpenRequest user requestId store = .ok (store', answer)) :
    store'.queue = store.queue := by
  rcases rejectLiepinDetailOpenRequest_ok hok with rfl | ⟨_, -, -, rfl⟩ <;> rfl

end WorkbenchStore

/-! ## 4. Every call -/

def WorkbenchCall.Starts : WorkbenchCall → Prop
  | .startSourceRunJob .. => True
  | _ => False

def WorkbenchCall.kinds (call : WorkbenchCall) (m : Move) : Prop := m = .enqueue → call.Starts

namespace Workbench

open WorkbenchStore

variable {lib : WorkbenchLibrary} {bench : Workbench} {calls : List WorkbenchCall}

structure InStep (bench : Workbench) : Prop where
  valid : bench.store.queue.Valid
  knows : ∀ context ∈ bench.contexts, bench.store.Knows context

/-- **The tables move as the queue does.** What a call commits is steps of the queue, and only
    a start adds a job. -/
theorem body_steps {call : WorkbenchCall} {store' : WorkbenchStore}
    {context : Option WorkbenchSourceRunJobContext} (h : bench.InStep) (hissued : call.Issued bench)
    (hok : call.body lib bench.store = .ok (store', context)) :
    Steps call.kinds bench.store.queue store'.queue ∧ ∀ c ∈ context, store'.Knows c := by
  have hsilent : ∀ {α : Type} {transaction : Transaction α},
      silent transaction bench.store = .ok (store', context) →
      (∀ answer, transaction bench.store = .ok (store', answer) →
        Steps call.kinds bench.store.queue store'.queue) →
      Steps call.kinds bench.store.queue store'.queue ∧ ∀ c ∈ context, store'.Knows c := by
    intro α transaction hok hsteps
    obtain ⟨rfl, answer, hok⟩ := silent_ok hok
    exact ⟨hsteps answer hok, by simp⟩
  cases call with
  | createWorkbenchSession session sources =>
    exact hsilent hok fun _ => createWorkbenchSession_steps h.valid (by simp [WorkbenchCall.kinds])
  | updateRequirementTriage user sessionId criteria =>
    exact hsilent hok fun _ hok => .of_eq (queue_updateRequirementTriage hok)
  | approveRequirementTriage user sessionId now =>
    exact hsilent hok fun _ hok => .of_eq (queue_approveRequirementTriage hok)
  | getOrCreateLiepinSourceConnection user connectionId =>
    exact hsilent hok fun _ hok => .of_eq (queue_getOrCreateLiepinSourceConnection hok)
  | startLiepinLoginHandoff user connectionId providerAccountHash complianceGateRef =>
    exact hsilent hok fun _ hok =>
      (startLiepinLoginHandoff_ok hok).steps h.valid (by simp [WorkbenchCall.kinds])
  | markLiepinConnectionConnected user connectionId providerAccountHash complianceGateRef =>
    exact hsilent hok fun _ hok =>
      (markLiepinConnectionConnected_ok hok).steps h.valid (by simp [WorkbenchCall.kinds])
  | markLiepinConnectionLoginRequired user connectionId about =>
    exact hsilent hok fun _ hok =>
      (markLiepinConnectionLoginRequired_ok hok).steps h.valid (by simp [WorkbenchCall.kinds])
  | markLiepinConnectionConnectedForSourceRun user connectionId sessionId sourceRunId
      providerAccountHash complianceGateRef =>
    exact hsilent hok fun _ hok => (markLiepinConnectionConnectedForSourceRun_ok hok).steps h.valid
      (by simp [WorkbenchCall.kinds])
  | markLiepinConnectionConnectedWithoutSourceRuns user connectionId providerAccountHash
      complianceGateRef =>
    exact hsilent hok fun _ hok => (markLiepinConnectionConnectedWithoutSourceRuns_ok hok).steps
      h.valid (by simp [WorkbenchCall.kinds])
  | blockSourceRunForStartProbe user sessionId sourceRunId =>
    exact hsilent hok fun _ =>
      blockSourceRunForStartProbe_steps h.valid (by simp [WorkbenchCall.kinds])
  | startSourceRunJob user sessionId sourceRunId idempotencyKey jobId now =>
    exact hsilent hok fun _ hok => (startSourceRunJob_steps hok).mono fun _ _ _ => trivial
  | claimNextSourceRunJob ownerId leaseExpiresAt sourceKind =>
    exact claimNextSourceRunJob_steps h.valid (by simp [WorkbenchCall.kinds]) hok
  | extendSourceRunJobLease jobId ownerId leaseExpiresAt =>
    exact hsilent hok fun _ hok => .of_eq (queue_extendSourceRunJobLease hok)
  | reconcileExpiredRunningJobs now =>
    exact hsilent hok fun _ =>
      reconcileExpiredRunningJobs_steps h.valid (by simp [WorkbenchCall.kinds])
  | markSourceRunCompleted jobId =>
    exact hsilent hok fun _ => finishSourceRunJob_steps h.valid (by simp [WorkbenchCall.kinds])
  | markSourceRunFailed jobId =>
    exact hsilent hok fun _ => finishSourceRunJob_steps h.valid (by simp [WorkbenchCall.kinds])
  | completeCtsSourceRun context artifacts now =>
    exact hsilent hok fun _ => completeCtsSourceRun_steps h.valid (by simp [WorkbenchCall.kinds])
      (h.knows context hissued)
  | completeLiepinCardSourceRun context result now =>
    exact hsilent hok fun _ => completeLiepinCardSourceRun_steps h.valid
      (by simp [WorkbenchCall.kinds]) (h.knows context hissued)
  | updateLiepinSourceRunPolicy user sessionId mode =>
    exact hsilent hok fun _ hok => .of_eq (queue_updateLiepinSourceRunPolicy hok)
  | createLiepinDetailOpenRequest user sessionId reviewItemId idempotencyKey requestId ledgerId
      now =>
    exact hsilent hok fun _ hok => .of_eq (queue_createLiepinDetailOpenRequest hok)
  | approveLiepinDetailOpenRequest user requestId ledgerId now =>
    exact hsilent hok fun _ hok => .of_eq (queue_approveLiepinDetailOpenRequest hok)
  | rejectLiepinDetailOpenRequest user requestId =>
    exact hsilent hok fun _ hok => .of_eq (queue_rejectLiepinDetailOpenRequest hok)
  | reconcileExpiredDetailOpenLeases now =>
    refine hsilent hok fun _ hok => .of_eq ?_
    cases hok
    rfl

/-- **One call** is steps of the queue. -/
theorem step_steps (lib : WorkbenchLibrary) {call : WorkbenchCall} (h : bench.InStep) (hissued : call.Issued bench) :
    Steps call.kinds bench.store.queue (step lib bench call).store.queue ∧
      (step lib bench call).InStep := by
  rcases step_cases lib bench call with ⟨store', context, hbody, hstep⟩ | hstep
  · obtain ⟨hsteps, hcontext⟩ := body_steps h hissued hbody
    rw [hstep]
    refine ⟨hsteps, hsteps.valid h.valid, ?_⟩
    intro c hc
    rcases List.mem_append.mp hc with hc | hc
    · obtain ⟨job, hjob, hrun⟩ := h.knows c hc
      obtain ⟨job', hjob', hrun', -⟩ := hsteps.keeps_job hjob
      exact ⟨job', hjob', hrun'.trans hrun⟩
    · exact hcontext c (Option.mem_toList.mp hc)
  · rw [hstep]
    exact ⟨.refl, h⟩

/-- **Where the jobs in the queue come from**: only a start adds one. -/
theorem queued_before_step (h : bench.InStep) {call : WorkbenchCall} (hissued : call.Issued bench)
    (hstarts : ¬call.Starts) {row : SourceRunJobRow}
    (hrow : (step lib bench call).store.sourceRunJobs.lookup row.jobId = some row)
    (hqueued : row.status = .queued) :
    ∃ row', bench.store.sourceRunJobs.lookup row.jobId = some row' ∧
      row'.queueJob = row.queueJob := by
  have hjob : (step lib bench call).store.queue.job row.jobId = some row.queueJob := by
    simp [hrow]
  have hbefore := (step_steps lib h hissued).1.queued_before
    (fun henqueue => hstarts (henqueue rfl)) hjob hqueued
  exact Option.map_eq_some_iff.mp hbefore

theorem inStep_empty : InStep {} where
  valid := valid_empty
  knows := by simp

/-- **Every run** is steps of the queue. -/
theorem run_steps (h : bench.InStep) (hruns : Runs lib bench calls) :
    Steps (fun _ => True) bench.store.queue (run lib bench calls).store.queue ∧
      (run lib bench calls).InStep := by
  apply run_induction (P := fun b => Steps (fun _ => True) bench.store.queue b.store.queue ∧
    b.InStep) ?_ ⟨.refl, h⟩ hruns
  intro b call hissued hb
  obtain ⟨hsteps, hb⟩ := hb
  obtain ⟨hstep, hb'⟩ := step_steps lib hb hissued
  exact ⟨hsteps.trans (hstep.mono fun _ _ => trivial), hb'⟩

end Workbench

/-! ## 5. Every run -/

/-- The two tables are in step, row by row. -/
structure WorkbenchStore.JobsInStep (store : WorkbenchStore) : Prop where
  one_active : ∀ job ∈ store.sourceRunJobs.rows, ∀ job' ∈ store.sourceRunJobs.rows,
    job.status.Active → job'.status.Active → job.sourceRunId = job'.sourceRunId → job = job'
  running_iff : ∀ run ∈ store.sourceRuns.rows, run.status = .running ↔
    ∃ job ∈ store.sourceRunJobs.rows, job.sourceRunId = run.sourceRunId ∧ job.status = .running
  queued : ∀ job ∈ store.sourceRunJobs.rows, job.status = .queued →
    ∃ run ∈ store.sourceRuns.rows, run.sourceRunId = job.sourceRunId ∧ run.status = .queued

def WorkbenchCall.finishes : WorkbenchCall → Option String
  | .markSourceRunCompleted jobId => some jobId
  | .markSourceRunFailed jobId => some jobId
  | .completeCtsSourceRun context _ _ => some context.job.jobId
  | .completeLiepinCardSourceRun context _ _ => some context.job.jobId
  | _ => none

section Rows

variable {store store' : WorkbenchStore} {jobId : String}

theorem WorkbenchStore.queue_job_of_mem {row : SourceRunJobRow}
    (h : row ∈ store.sourceRunJobs.rows) : store.queue.job row.jobId = some row.queueJob := by
  rw [WorkbenchStore.queue_job, Keyed.mem_rows_iff.mp h]
  rfl

theorem WorkbenchStore.queue_run_of_mem {row : SourceRunRow} (h : row ∈ store.sourceRuns.rows) :
    store.queue.run row.sourceRunId = some row.status := by
  rw [WorkbenchStore.queue_run, Keyed.mem_rows_iff.mp h]
  rfl

theorem WorkbenchStore.mem_of_queue_job {id : String} {job : QueueJob String JobLabel}
    (h : store.queue.job id = some job) :
    ∃ row ∈ store.sourceRunJobs.rows, row.jobId = id ∧ row.queueJob = job := by
  obtain ⟨row, hrow, rfl⟩ := Option.map_eq_some_iff.mp h
  obtain ⟨hmem, hid⟩ := Keyed.lookup_eq_some_iff.mp hrow
  exact ⟨row, hmem, hid, rfl⟩

theorem WorkbenchStore.mem_of_queue_run {id : String} {status : SourceRunStatus}
    (h : store.queue.run id = some status) :
    ∃ row ∈ store.sourceRuns.rows, row.sourceRunId = id ∧ row.status = status := by
  obtain ⟨row, hrow, rfl⟩ := Option.map_eq_some_iff.mp h
  obtain ⟨hmem, hid⟩ := Keyed.lookup_eq_some_iff.mp hrow
  exact ⟨row, hmem, hid, rfl⟩

open WorkbenchStore

theorem JobQueue.Valid.jobsInStep (h : store.queue.Valid) : store.JobsInStep where
  one_active := by
    intro job hjob job' hjob' hactive hactive' hrun
    have hid := h.one_active _ _ _ _ (queue_job_of_mem hjob) (queue_job_of_mem hjob') hactive
      hactive' hrun
    have hlookup := Keyed.mem_rows_iff.mp hjob
    rw [hid, Keyed.mem_rows_iff.mp hjob'] at hlookup
    exact (Option.some.inj hlookup).symm
  running_iff := by
    intro run hrun
    have hiff := h.running_iff run.sourceRunId
    rw [queue_run_of_mem hrun, Option.some.injEq] at hiff
    rw [hiff]
    constructor
    · intro hjob
      obtain ⟨id, job, hjob, hsame, hrunning⟩ := hjob
      obtain ⟨row, hmem, -, rfl⟩ := mem_of_queue_job hjob
      exact ⟨row, hmem, hsame, hrunning⟩
    · intro hjob
      obtain ⟨row, hmem, hsame, hrunning⟩ := hjob
      exact ⟨_, _, queue_job_of_mem hmem, hsame, hrunning⟩
  queued := by
    intro job hjob hqueued
    exact mem_of_queue_run (h.queued _ _ (queue_job_of_mem hjob) hqueued)

def WorkbenchStore.Ended (store : WorkbenchStore) (jobId : String) : Prop :=
  ∀ row ∈ store.sourceRunJobs.rows, row.jobId = jobId → row.status ≠ .running

theorem WorkbenchStore.Ended.of_lookup {row : SourceRunJobRow} (h : store.Ended jobId)
    (hrow : store.sourceRunJobs.lookup jobId = some row) : row.status ≠ .running := by
  obtain ⟨hmem, hid⟩ := Keyed.lookup_eq_some_iff.mp hrow
  exact h row hmem hid

theorem finishSourceRunJob_of_ended {outcome : JobOutcome} {answer : Unit}
    (h : store.Ended jobId) (hok : finishSourceRunJob jobId outcome store = .ok (store', answer)) :
    store' = store := by
  unfold finishSourceRunJob at hok
  split at hok
  · cases hok
    rfl
  · rename_i row hrow
    rw [if_pos (h.of_lookup hrow)] at hok
    cases hok
    rfl

theorem completeCtsSourceRun_of_ended {lib : WorkbenchLibrary}
    {context : WorkbenchSourceRunJobContext} {artifacts : CtsArtifacts} {now : Instant}
    {answer : List String} (h : store.Ended context.job.jobId)
    (hok : completeCtsSourceRun lib context artifacts now store = .ok (store', answer)) :
    store' = store := by
  unfold completeCtsSourceRun at hok
  split at hok
  · cases hok
    rfl
  · rename_i row hrow
    dsimp only at hok
    rw [if_pos (h.of_lookup hrow)] at hok
    split at hok
    · cases hok
      rfl
    · obtain ⟨_, -, hok⟩ := bind_eq_ok hok
      cases hok
      rfl

theorem completeLiepinCardSourceRun_of_ended {lib : WorkbenchLibrary}
    {context : WorkbenchSourceRunJobContext} {result : LiepinLaneResult} {now : Instant}
    {answer : List String} (h : store.Ended context.job.jobId)
    (hok : completeLiepinCardSourceRun lib context result now store = .ok (store', answer)) :
    store' = store := by
  unfold completeLiepinCardSourceRun at hok
  split at hok
  · cases hok
    rfl
  · rename_i row hrow
    rw [if_pos (h.of_lookup hrow)] at hok
    cases hok
    rfl

theorem WorkbenchCall.step_of_ended {lib : WorkbenchLibrary} {bench : Workbench}
    {call : WorkbenchCall} (hcall : call.finishes = some jobId)
    (hended : bench.store.Ended jobId) :
    (Workbench.step lib bench call).store = bench.store := by
  rcases Workbench.step_cases lib bench call with ⟨store', context, hbody, hstep⟩ | hstep
  · rw [hstep]
    cases call with
    | markSourceRunCompleted id =>
      cases hcall
      obtain ⟨-, answer, hok⟩ := silent_ok hbody
      exact finishSourceRunJob_of_ended hended hok
    | markSourceRunFailed id =>
      cases hcall
      obtain ⟨-, answer, hok⟩ := silent_ok hbody
      exact finishSourceRunJob_of_ended hended hok
    | completeCtsSourceRun context artifacts now =>
      cases hcall
      obtain ⟨-, answer, hok⟩ := silent_ok hbody
      exact completeCtsSourceRun_of_ended hended hok
    | completeLiepinCardSourceRun context result now =>
      cases hcall
      obtain ⟨-, answer, hok⟩ := silent_ok hbody
      exact completeLiepinCardSourceRun_of_ended hended hok
    | _ => cases hcall
  · rw [hstep]

end Rows

namespace Workbench

variable {lib : WorkbenchLibrary} {calls : List WorkbenchCall}

/-- **Every run** keeps the tables of jobs and of runs in step; a run that has become completed
    or failed keeps its status and gets no new job; and finishing a job that does not run
    changes nothing. -/
theorem run_jobsInStep (hruns : Runs lib {} calls) :
    (run lib {} calls).store.JobsInStep ∧
    (∀ first second, calls = first ++ second →
      ∀ row ∈ (run lib {} first).store.sourceRuns.rows, row.status.Terminal →
        (∃ row' ∈ (run lib {} calls).store.sourceRuns.rows,
          row'.sourceRunId = row.sourceRunId ∧ row'.status = row.status) ∧
        ∀ job ∈ (run lib {} calls).store.sourceRunJobs.rows, job.sourceRunId = row.sourceRunId →
          ∃ job' ∈ (run lib {} first).store.sourceRunJobs.rows, job'.jobId = job.jobId) ∧
    ∀ call jobId, call.finishes = some jobId → (run lib {} calls).store.Ended jobId →
      (step lib (run lib {} calls) call).store = (run lib {} calls).store := by
  refine ⟨(run_steps inStep_empty hruns).2.valid.jobsInStep, ?_, ?_⟩
  · intro first second hcalls row hrow hover
    subst hcalls
    obtain ⟨hfirst, hsecond⟩ := hruns.append
    have hinStep := (run_steps inStep_empty hfirst).2
    rw [run_append]
    have hsettled := (run_steps hinStep hsecond).1.settled hinStep.valid
      (WorkbenchStore.queue_run_of_mem hrow) hover
    refine ⟨WorkbenchStore.mem_of_queue_run hsettled.1, ?_⟩
    intro job hjob hrun
    have hbefore := hsettled.2 _ _ (WorkbenchStore.queue_job_of_mem hjob) hrun
    obtain ⟨job', hjob', hid, -⟩ := WorkbenchStore.mem_of_queue_job hbefore
    exact ⟨job', hjob', hid⟩
  · intro call jobId hcall hended
    exact WorkbenchCall.step_of_ended hcall hended

def sampleRun : List WorkbenchCall :=
  sampleStart .cts ++ [.claimNextSourceRunJob "w" 9 (some .cts),
    .completeCtsSourceRun sampleContext { runId := some "run", finalCandidates := [(some "c", none)] } 3]

theorem runs_sampleRun : Runs .ascii {} sampleRun := by
  refine runs_cons trivial (runs_cons trivial (runs_cons trivial (runs_cons trivial (runs_cons trivial
    (runs_cons ?_ (runs_nil _))))))
  show sampleContext ∈ _
  decide

/-- The run of the sample is over, and no job of it is active. -/
theorem run_jobsInStep_sample :
    (run .ascii {} sampleRun).store.JobsInStep ∧
      ((run .ascii {} sampleRun).store.sourceRuns.rows.map (·.status)) = [.completed] :=
  ⟨(run_jobsInStep runs_sampleRun).1, by decide⟩

end Workbench

end SeekTalent

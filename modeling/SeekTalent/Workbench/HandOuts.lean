import SeekTalent.Workbench.JobInvariant

/-!
# Which worker has a job

A worker that claims a job is handed a context with it, and keeps the context for as long as it
likes. The queue hands out only jobs that wait in it, and no job waits again. So every job is handed
out once, and of the workers with jobs of one source run at most one has a job that still runs
(`run_handsOut`). The others may go on working, but what they report is not written (`run_shutsOut`).
-/

namespace SeekTalent

namespace JobQueue

variable {ρ ι κ : Type} [DecidableEq ρ] [DecidableEq ι] {q q' : JobQueue ρ ι κ} {i : ι}

/-- The job is there, with such a status. -/
def JobIs (q : JobQueue ρ ι κ) (P : SourceRunJobStatus → Prop) (i : ι) : Prop :=
  ∃ j, q.job i = some j ∧ P j.status

section Statuses

variable {P : SourceRunJobStatus → Prop} (hclaim : P .queued → P .running)
variable (hended : ∀ status, ¬status.Active → P status)
include hclaim hended

/-- **One step** takes no job back to an earlier status. -/
theorem Step.jobIs {m : Move} (hstep : Step m q q') (h : q.JobIs P i) : q'.JobIs P i := by
  obtain ⟨j, hj, hstatus⟩ := h
  have hset : ∀ {i' j' status}, (i = i' → P j'.status) → (q.set i' j' status).JobIs P i := by
    intro i' j' status hstatus'
    by_cases hi : i = i'
    · exact ⟨j', by simp [hi], hstatus' hi⟩
    · exact ⟨j, by simpa [hi] using hj, hstatus⟩
  cases hstep with
  | relabel hjob => exact ⟨j, hjob ▸ hj, hstatus⟩
  | enqueue status hnew =>
    apply hset
    intro hi
    rw [← hi, hj] at hnew
    cases hnew
  | claim hjob hqueued =>
    apply hset
    intro hi
    rw [← hi, hj] at hjob
    obtain rfl := Option.some.inj hjob
    exact hclaim (hqueued ▸ hstatus)
  | finish status runStatus hjob hrunning hnot => exact hset fun _ => hended status hnot

theorem Steps.jobIs {kinds : Move → Prop} (hsteps : Steps kinds q q') (h : q.JobIs P i) :
    q'.JobIs P i := by
  induction hsteps with
  | refl => exact h
  | tail _ hstep ih =>
    obtain ⟨m, -, hstep⟩ := hstep
    exact hstep.jobIs hclaim hended ih

end Statuses

/-- The job has left the queue. -/
def HasLeft (q : JobQueue ρ ι κ) (i : ι) : Prop := q.JobIs (· ≠ .queued) i

theorem Steps.hasLeft {kinds : Move → Prop} (hsteps : Steps kinds q q') (h : q.HasLeft i) :
    q'.HasLeft i :=
  hsteps.jobIs (fun _ => nofun) (fun _ hended => (not_active_of_ended hended).1) h

end JobQueue

namespace Workbench

open WorkbenchStore

variable {lib : WorkbenchLibrary} {bench : Workbench} {calls : List WorkbenchCall}

/-- **What is handed out** is a job that was in the queue, and it leaves the queue. -/
theorem hasLeft_of_handed {call : WorkbenchCall} {store store' : WorkbenchStore}
    {handed : WorkbenchSourceRunJobContext}
    (hok : call.body lib store = .ok (store', some handed)) :
    ¬store.queue.HasLeft handed.job.jobId ∧ store'.queue.HasLeft handed.job.jobId := by
  cases call
  case claimNextSourceRunJob ownerId leaseExpiresAt sourceKind =>
    rcases claimNextSourceRunJob_ok hok with ⟨-, -, hnone⟩ |
      ⟨row, session, triage, hrow, -, -, hhanded, rfl⟩
    · cases hnone
    obtain rfl := Option.some.inj hhanded
    obtain ⟨hlookup, hqueued, -⟩ := nextQueuedJob_eq_some hrow
    constructor
    · intro hleft
      obtain ⟨job, hjob, hleft⟩ := hleft
      rw [markClaimed_jobId, queue_job, hlookup] at hjob
      obtain rfl := Option.some.inj hjob
      exact hleft hqueued
    · refine ⟨(markClaimed ownerId leaseExpiresAt row).queueJob, ?_, nofun⟩
      rw [markClaimed_jobId, queue_job, sourceRunJobs_updateSourceRun, lookup_updateJob, if_pos rfl,
        hlookup]
      rfl
  -- the others answer no context
  all_goals
    obtain ⟨hnone, -⟩ := silent_ok hok
    cases hnone

/-- The contexts are of jobs of their own, which have left the queue. -/
structure HandedOut (bench : Workbench) : Prop where
  inStep : bench.InStep
  nodup : (bench.contexts.map (·.job.jobId)).Nodup
  hasLeft : ∀ handed ∈ bench.contexts, bench.store.queue.HasLeft handed.job.jobId

theorem HandedOut.step (h : HandedOut bench) {call : WorkbenchCall} (hissued : call.Issued bench) :
    HandedOut (step lib bench call) := by
  obtain ⟨hsteps, hinStep⟩ := step_steps lib h.inStep hissued
  rcases step_cases lib bench call with ⟨store', context, hok, hstep⟩ | hstep
  · rw [hstep] at hsteps hinStep ⊢
    have hbefore : ∀ handed ∈ bench.contexts, store'.queue.HasLeft handed.job.jobId :=
      fun handed hhanded => hsteps.hasLeft (h.hasLeft handed hhanded)
    cases context with
    | none =>
      refine ⟨hinStep, ?_, ?_⟩
      · simpa using h.nodup
      · simpa using hbefore
    | some handed =>
      obtain ⟨hwaits, hleft⟩ := hasLeft_of_handed hok
      refine ⟨hinStep, ?_, ?_⟩
      · rw [Option.toList_some, List.map_append, List.map_singleton, ← List.concat_eq_append,
          List.nodup_concat]
        refine ⟨?_, h.nodup⟩
        intro hmem
        obtain ⟨other, hother, hid⟩ := List.mem_map.mp hmem
        exact hwaits (hid ▸ h.hasLeft other hother)
      · intro other hother
        rcases List.mem_append.mp hother with hmem | hmem
        · exact hbefore other hmem
        · obtain rfl := List.mem_singleton.mp hmem
          exact hleft
  · rw [hstep]
    exact h

theorem run_handedOut (hruns : Runs lib {} calls) : HandedOut (run lib {} calls) := by
  refine run_induction ?_ ?_ hruns
  · intro bench call hissued h
    exact h.step hissued
  · exact ⟨inStep_empty, List.nodup_nil, fun _ hhanded => absurd hhanded List.not_mem_nil⟩

/-- **Every run** hands each job to one worker, once, and at most one of the workers that were
    handed jobs of a source run has a job that still runs. -/
theorem run_handsOut (hruns : Runs lib {} calls) :
    ((run lib {} calls).contexts.map (·.job.jobId)).Nodup ∧
      ∀ handed ∈ (run lib {} calls).contexts, ∀ handed' ∈ (run lib {} calls).contexts,
        handed.job.sourceRunId = handed'.job.sourceRunId →
        ¬(run lib {} calls).store.Ended handed.job.jobId →
        ¬(run lib {} calls).store.Ended handed'.job.jobId → handed = handed' := by
  have h := run_handedOut hruns
  refine ⟨h.nodup, ?_⟩
  -- a context of a job that runs, as the queue has it
  have hactive : ∀ handed ∈ (run lib {} calls).contexts,
      ¬(run lib {} calls).store.Ended handed.job.jobId →
      ∃ job, (run lib {} calls).store.queue.job handed.job.jobId = some job ∧
        job.run = handed.job.sourceRunId ∧ job.status.Active := by
    intro handed hhanded hruns
    obtain ⟨job, hjob, hrun⟩ := h.inStep.knows handed hhanded
    refine ⟨job, hjob, hrun, .inr ?_⟩
    by_contra hended
    apply hruns
    intro row hrow hid
    rw [← hid, queue_job_of_mem hrow] at hjob
    obtain rfl := Option.some.inj hjob
    exact hended
  intro handed hhanded handed' hhanded' hsame hruns hruns'
  obtain ⟨job, hjob, hrun, hstatus⟩ := hactive handed hhanded hruns
  obtain ⟨job', hjob', hrun', hstatus'⟩ := hactive handed' hhanded' hruns'
  have hid : handed.job.jobId = handed'.job.jobId :=
    h.inStep.valid.one_active _ _ job job' hjob hjob' hstatus hstatus'
      (hrun.trans (hsame.trans hrun'.symm))
  exact List.inj_on_of_nodup_map h.nodup hhanded hhanded' hid

/-- The sample hands out its one job. -/
theorem run_handsOut_sample :
    ((run .ascii {} sampleRun).contexts.map (·.job.jobId)).Nodup ∧
      (run .ascii {} sampleRun).contexts = [sampleContext] :=
  ⟨(run_handsOut runs_sampleRun).1, by decide⟩

/-- **A worker that has lost its job** has no part in what follows: once the job has ended, because
    it was finished or its lease expired, no call that finishes it changes anything any more. -/
theorem run_shutsOut {later : List WorkbenchCall} (hruns : Runs lib {} (calls ++ later))
    {handed : WorkbenchSourceRunJobContext} (hhanded : handed ∈ (run lib {} calls).contexts)
    (hended : (run lib {} calls).store.Ended handed.job.jobId) {call : WorkbenchCall}
    (hcall : call.finishes = some handed.job.jobId) :
    (step lib (run lib {} (calls ++ later)) call).store =
      (run lib {} (calls ++ later)).store := by
  obtain ⟨hcalls, hlater⟩ := hruns.append
  have h := run_handedOut hcalls
  obtain ⟨job, hjob, hleft⟩ := h.hasLeft handed hhanded
  obtain ⟨row, hrow, hid, rfl⟩ := mem_of_queue_job hjob
  have hnow : (run lib {} calls).store.queue.JobIs (¬·.Active) handed.job.jobId :=
    ⟨_, hjob, fun hactive => hactive.elim hleft (hended row hrow hid)⟩
  have hsteps := (run_steps h.inStep hlater).1
  rw [← run_append] at hsteps
  obtain ⟨job', hjob', hnot⟩ :=
    hsteps.jobIs (fun hqueued => absurd (.inl rfl) hqueued) (fun _ => id) hnow
  apply WorkbenchCall.step_of_ended hcall
  intro row' hrow' hid' hrunning
  rw [← hid', queue_job_of_mem hrow'] at hjob'
  obtain rfl := Option.some.inj hjob'
  exact hnot (.inr hrunning)

/-- The job of the sample has been completed, and cannot be failed. -/
theorem run_shutsOut_sample :
    (step .ascii (run .ascii {} (sampleRun ++ [.reconcileExpiredRunningJobs 20]))
      (.markSourceRunFailed "j")).store =
        (run .ascii {} (sampleRun ++ [.reconcileExpiredRunningJobs 20])).store := by
  have hruns : Runs .ascii {} (sampleRun ++ [.reconcileExpiredRunningJobs 20]) :=
    runs_sampleRun.snoc trivial
  have hhanded : sampleContext ∈ (run .ascii {} sampleRun).contexts := by
    decide
  have hended : (run .ascii {} sampleRun).store.Ended "j" := by
    unfold Ended
    decide
  exact run_shutsOut hruns hhanded hended rfl

end Workbench

end SeekTalent

import SeekTalent.Base.Best
import SeekTalent.Workbench.StartRefused

/-!
# A start that is repeated

A start with an idempotency key is answered with the run's job that is active or has the key, the
one made first. The key is looked up as it was given and stored stripped and cut; and a start that
is answered with a job does not give the job its key. So a repetition finds the job of the first
call while that job is active, and after that only if the key came through and the call made it.
-/

namespace SeekTalent

open Stateful (bind_eq_ok)

namespace WorkbenchStore

variable {store store' middle : WorkbenchStore} {user : WorkbenchUser}
variable {sessionId sourceRunId key jobId : String} {now : Instant} {row job : SourceRunJobRow}

/-! ## 1. What a start is answered -/

/-- The job counts for a start with the key: it is one of the run's, and active or of the key. -/
def CountsFor (sourceRunId key : String) (row : SourceRunJobRow) : Prop :=
  row.sourceRunId = sourceRunId ∧ (row.status.Active ∨ row.idempotencyKey = some key)

instance (sourceRunId key : String) (row : SourceRunJobRow) :
    Decidable (CountsFor sourceRunId key row) :=
  inferInstanceAs (Decidable (_ ∧ _))

def MadeFirst (store : WorkbenchStore) (sourceRunId key : String) (row : SourceRunJobRow) : Prop :=
  ∃ earlier later, store.sourceRunJobs.rows = earlier ++ row :: later ∧
    (∀ other ∈ earlier, CountsFor sourceRunId key other → row.createdAt < other.createdAt) ∧
      ∀ other ∈ later, CountsFor sourceRunId key other → row.createdAt ≤ other.createdAt

theorem MadeFirst.mem (h : store.MadeFirst sourceRunId key row) :
    row ∈ store.sourceRunJobs.rows := by
  obtain ⟨earlier, later, hrows, -⟩ := h
  simp [hrows]

theorem existingJob_some : store.existingJob sourceRunId (some key) =
    Py.minBy (·.createdAt) (store.sourceRunJobs.rows.filter fun row =>
      CountsFor sourceRunId key row) := by
  unfold existingJob
  congr 1
  apply List.filter_congr
  intro row _
  apply decide_eq_decide.mpr
  simp [CountsFor]

/-- **What is found for a start**: the job that counts and was made first. -/
theorem existingJob_eq_some_iff : store.existingJob sourceRunId (some key) = some row ↔
    CountsFor sourceRunId key row ∧ store.MadeFirst sourceRunId key row := by
  rw [existingJob_some, Py.minBy_eq_some_iff]
  constructor
  · intro h
    obtain ⟨found, rest, hsplit, hfound, hrest⟩ := h
    obtain ⟨first, second, hrows, rfl, hsecond⟩ := List.filter_eq_append_iff.mp hsplit
    obtain ⟨skipped, later, rfl, hskipped, hcounts, rfl⟩ := List.filter_eq_cons_iff.mp hsecond
    refine ⟨of_decide_eq_true hcounts, first ++ skipped, later, ?_, ?_, ?_⟩
    · rw [hrows, List.append_assoc]
    · intro other hother hcounts'
      rcases List.mem_append.mp hother with hmem | hmem
      · exact hfound other (List.mem_filter.mpr ⟨hmem, decide_eq_true hcounts'⟩)
      · exact absurd (decide_eq_true hcounts') (hskipped other hmem)
    · intro other hother hcounts'
      exact hrest other (List.mem_filter.mpr ⟨hother, decide_eq_true hcounts'⟩)
  · intro h
    obtain ⟨hcounts, earlier, later, hrows, hearlier, hlater⟩ := h
    refine ⟨earlier.filter fun row => CountsFor sourceRunId key row,
      later.filter fun row => CountsFor sourceRunId key row, ?_, ?_, ?_⟩
    · have hcounts : decide (CountsFor sourceRunId key row) = true := decide_eq_true hcounts
      rw [hrows, List.filter_append, List.filter_cons, if_pos hcounts]
    · intro other hother
      obtain ⟨hmem, hcounts'⟩ := List.mem_filter.mp hother
      exact hearlier other hmem (of_decide_eq_true hcounts')
    · intro other hother
      obtain ⟨hmem, hcounts'⟩ := List.mem_filter.mp hother
      exact hlater other hmem (of_decide_eq_true hcounts')

structure StartAllowed (store : WorkbenchStore) (user : WorkbenchUser)
    (sessionId sourceRunId : String) : Prop where
  run : ∃ run, store.sourceRunForUser user sessionId sourceRunId = some run ∧
    ¬WarnedStore.Unconnected store user run
  approved : ∃ triage, store.triages.lookup sessionId = some triage ∧ triage.status = .approved

def AnswersWith (store : WorkbenchStore) (user : WorkbenchUser)
    (sessionId sourceRunId key jobId : String) (now : Instant) (row : SourceRunJobRow) : Prop :=
  ∃ run, startSourceRunJob user sessionId sourceRunId (some key) jobId now store =
    .ok (store, some (run, row, false))

theorem authStateForStart_of_connected {run : SourceRunRow}
    (h : ¬WarnedStore.Unconnected store user run) :
    ∃ authState, store.authStateForStart user run = .ok authState := by
  unfold authStateForStart
  cases hkind : run.sourceKind with
  | cts => exact ⟨_, rfl⟩
  | liepin =>
    by_cases hconnected : (store.liepinConnectionForUser user).any (·.status = .connected) = true
    · exact ⟨_, if_pos hconnected⟩
    · exact absurd ⟨hkind, eq_false_of_ne_true hconnected⟩ h

theorem connected_of_authStateForStart {run : SourceRunRow} {authState : SourceAuthState}
    (h : store.authStateForStart user run = .ok authState) :
    ¬WarnedStore.Unconnected store user run := by
  intro hunconnected
  unfold authStateForStart at h
  simp [hunconnected.1, hunconnected.2] at h

/-- **When a start is answered with a job**: it is allowed, and the job is the one that is found. -/
theorem answersWith_iff : store.AnswersWith user sessionId sourceRunId key jobId now row ↔
    store.StartAllowed user sessionId sourceRunId ∧
      store.existingJob sourceRunId (some key) = some row := by
  constructor
  · intro h
    obtain ⟨run, hok⟩ := h
    unfold startSourceRunJob at hok
    split at hok
    · cases hok
    rename_i found hfound
    obtain ⟨authState, hauth, hok⟩ := bind_eq_ok hok
    split at hok
    · cases hok
    rename_i triage htriage
    split at hok
    · cases hok
    rename_i happroved
    split at hok
    · rename_i job hjob
      cases hok
      exact ⟨⟨⟨found, hfound, connected_of_authStateForStart hauth⟩, triage, htriage,
        not_not.mp happroved⟩, hjob⟩
    split at hok
    · cases hok
    -- a job that is new is answered as new
    · obtain ⟨table, -, hok⟩ := bind_eq_ok hok
      obtain ⟨-, hanswer⟩ := Prod.mk.inj (Except.ok.inj hok)
      obtain ⟨_, -, hanswer⟩ := Option.map_eq_some_iff.mp hanswer
      cases hanswer
  · intro h
    obtain ⟨⟨⟨run, hrun, hconnected⟩, triage, htriage, happroved⟩, hexisting⟩ := h
    obtain ⟨authState, hauth⟩ := authStateForStart_of_connected hconnected
    refine ⟨{ run with authState }, ?_⟩
    unfold startSourceRunJob
    simp only [hrun, hauth, htriage, happroved, hexisting, bind, Except.bind, ne_eq,
      not_true_eq_false, if_false]

/-! ## 2. What the jobs keep -/

/-- What is never written again of a job's row: its run, and its key. -/
def startOf (row : SourceRunJobRow) : String × Option String :=
  (row.sourceRunId, row.idempotencyKey)

def KeepsJobs (store store' : WorkbenchStore) : Prop :=
  ∀ id row, store.sourceRunJobs.lookup id = some row →
    ∃ row', store'.sourceRunJobs.lookup id = some row' ∧ startOf row' = startOf row

theorem KeepsJobs.of_eq (h : store'.sourceRunJobs = store.sourceRunJobs) : KeepsJobs store store' := by
  intro id row hrow
  rw [h]
  exact ⟨row, hrow, rfl⟩

theorem KeepsJobs.trans (h : KeepsJobs store middle) (h' : KeepsJobs middle store') :
    KeepsJobs store store' := by
  intro id row hrow
  obtain ⟨row₁, hrow₁, hsame₁⟩ := h id row hrow
  obtain ⟨row₂, hrow₂, hsame₂⟩ := h' id row₁ hrow₁
  exact ⟨row₂, hrow₂, hsame₂.trans hsame₁⟩

theorem keepsJobs_update {p : SourceRunJobRow → Bool} {set : SourceRunJobRow → SourceRunJobRow}
    (hset : ∀ row, (set row).jobId = row.jobId)
    (hjobs : store'.sourceRunJobs = store.sourceRunJobs.update p set hset)
    (hsame : ∀ row, startOf (set row) = startOf row) : KeepsJobs store store' := by
  intro id row hrow
  refine ⟨if p row then set row else row, ?_, ?_⟩
  · rw [hjobs, Keyed.lookup_update, hrow, Option.map_some]
  · split
    · exact hsame row
    · rfl

theorem keepsJobs_insert {table : Keyed SourceRunJobRow.jobId}
    (hinsert : store.sourceRunJobs.insert job = some table)
    (hjobs : store'.sourceRunJobs = table) : KeepsJobs store store' := by
  intro id row hrow
  obtain ⟨hnew, hlookup⟩ := Keyed.lookup_insert hinsert
  refine ⟨row, ?_, rfl⟩
  rw [hjobs, hlookup, if_neg, hrow]
  intro hid
  rw [hid, hrow] at hnew
  cases hnew

theorem keepsJobs_endJob {outcome : JobOutcome} {status : SourceRunStatus} {id runId : String} :
    KeepsJobs store (store.endJob id runId outcome status) := by
  refine keepsJobs_update ?_ rfl ?_
  · exact fun _ => rfl
  · exact fun _ => rfl

theorem keepsJobs_expireJobs (rows : List SourceRunJobRow) (store : WorkbenchStore) :
    KeepsJobs store (rows.foldl expireJob store) := by
  induction rows generalizing store with
  | nil => exact .of_eq rfl
  | cons row rows ih =>
    apply KeepsJobs.trans _ (ih (store.expireJob row))
    refine keepsJobs_update ?_ rfl ?_
    · exact fun _ => rfl
    · exact fun _ => rfl

theorem sourceRunJobs_lease (store : WorkbenchStore) (requestId ledgerId : String) (now : Instant) :
    (store.leaseLiepinDetailOpenRequest requestId ledgerId now).1.sourceRunJobs =
      store.sourceRunJobs := by
  unfold leaseLiepinDetailOpenRequest
  split
  · rfl
  · split
    · rfl
    · split
      · rfl
      · split
        · rfl
        · rfl

theorem sourceRunJobs_attach {context : WorkbenchSourceRunJobContext} {runtimeRunId : Option String}
    (hok : store.attachGivenRuntimeRunId context runtimeRunId = .ok store') :
    store'.sourceRunJobs = store.sourceRunJobs := by
  cases runtimeRunId with
  | none =>
    cases hok
    rfl
  | some runtimeRunId =>
    obtain ⟨_, -, hok⟩ := bind_eq_ok hok
    cases hok
    rfl

theorem sourceRunJobs_persistCts (lib : WorkbenchLibrary) (context : WorkbenchSourceRunJobContext)
    (now : Instant) (candidates : List (Option String × Option String)) (store : WorkbenchStore) :
    (persistCtsCandidateResults lib context now candidates store).1.sourceRunJobs =
      store.sourceRunJobs := by
  induction candidates generalizing store with
  | nil => rfl
  | cons candidate candidates ih =>
    unfold persistCtsCandidateResults
    split
    · exact ih store
    · exact ih _

theorem sourceRunJobs_persistLiepinCards {lib : WorkbenchLibrary}
    {context : WorkbenchSourceRunJobContext} {result : LiepinLaneResult}
    {progress : WorkbenchStore × Nat × List String}
    (hok : persistLiepinCardCandidateResults lib context result now store = .ok progress) :
    progress.1.sourceRunJobs = store.sourceRunJobs := by
  apply persistLiepinCards_induction (P := fun s => s.sourceRunJobs = store.sourceRunJobs) _ _ rfl hok
  · intro middle _ _ _ hmiddle
    exact hmiddle
  · intro middle middle' _ _ _ _ _ _ hmiddle _ _ _ hmade
    rcases requestCardDetail_ok hmade with rfl | ⟨_, _, -, -, -, -, -, -, -, -,
      ⟨-, rfl⟩ | ⟨-, rfl⟩⟩
    · exact hmiddle
    · exact hmiddle
    · rw [sourceRunJobs_lease]
      exact hmiddle

theorem WritesConnection.keepsJobs {connectionId : String} {status : SourceConnectionStatus}
    (h : WritesConnection store store' connectionId status) : KeepsJobs store store' := by
  rcases h with rfl | ⟨set, hset, -, rfl | ⟨p, -, rfl⟩⟩
  · exact .of_eq rfl
  · exact .of_eq rfl
  · exact .of_eq rfl

end WorkbenchStore

open WorkbenchStore

namespace Workbench

variable {lib : WorkbenchLibrary} {bench : Workbench}

/-- **Every call** keeps the jobs. -/
theorem body_keepsJobs {call : WorkbenchCall} {store store' : WorkbenchStore}
    {context : Option WorkbenchSourceRunJobContext}
    (hok : call.body lib store = .ok (store', context)) : KeepsJobs store store' := by
  cases call
  case claimNextSourceRunJob =>
    rcases claimNextSourceRunJob_ok hok with ⟨-, rfl, -⟩ | ⟨_, _, _, -, -, -, -, rfl⟩
    · exact .of_eq rfl
    · refine keepsJobs_update ?_ rfl ?_
      · exact fun _ => rfl
      · exact fun _ => rfl
  -- the others answer no context
  all_goals obtain ⟨-, _, hok⟩ := silent_ok hok
  case createWorkbenchSession =>
    obtain ⟨_, _, _, _, -, -, -, rfl⟩ := createWorkbenchSession_ok hok
    exact .of_eq rfl
  case updateRequirementTriage =>
    rcases updateRequirementTriage_ok hok with ⟨-, rfl⟩ | ⟨-, rfl⟩
    · exact .of_eq rfl
    · exact .of_eq rfl
  case approveRequirementTriage =>
    rcases approveRequirementTriage_ok hok with ⟨rfl, -⟩ | ⟨-, rfl, -⟩
    · exact .of_eq rfl
    · exact .of_eq rfl
  case getOrCreateLiepinSourceConnection =>
    rcases getOrCreateLiepinSourceConnection_ok hok with rfl | ⟨_, -, -, rfl⟩
    · exact .of_eq rfl
    · exact .of_eq rfl
  case startLiepinLoginHandoff => exact (startLiepinLoginHandoff_ok hok).keepsJobs
  case markLiepinConnectionConnected => exact (markLiepinConnectionConnected_ok hok).keepsJobs
  case markLiepinConnectionLoginRequired =>
    exact (markLiepinConnectionLoginRequired_ok hok).keepsJobs
  case markLiepinConnectionConnectedForSourceRun =>
    exact (markLiepinConnectionConnectedForSourceRun_ok hok).keepsJobs
  case markLiepinConnectionConnectedWithoutSourceRuns =>
    exact (markLiepinConnectionConnectedWithoutSourceRuns_ok hok).keepsJobs
  case blockSourceRunForStartProbe =>
    rcases blockSourceRunForStartProbe_ok hok with rfl | ⟨_, _, -, -, -, rfl⟩
    · exact .of_eq rfl
    · exact .of_eq rfl
  case startSourceRunJob =>
    rcases startSourceRunJob_ok hok with rfl |
      ⟨_, _, _, _, -, -, -, -, -, -, -, -, -, -, hinsert, _, rfl⟩
    · exact .of_eq rfl
    · exact keepsJobs_insert hinsert rfl
  case extendSourceRunJobLease =>
    cases hok
    refine keepsJobs_update ?_ rfl ?_
    · exact fun _ => rfl
    · exact fun _ => rfl
  case reconcileExpiredRunningJobs =>
    cases hok
    exact keepsJobs_expireJobs _ store
  case markSourceRunCompleted =>
    rcases finishSourceRunJob_ok hok with rfl | ⟨_, -, -, rfl⟩
    · exact .of_eq rfl
    · exact keepsJobs_endJob
  case markSourceRunFailed =>
    rcases finishSourceRunJob_ok hok with rfl | ⟨_, -, -, rfl⟩
    · exact .of_eq rfl
    · exact keepsJobs_endJob
  case completeCtsSourceRun =>
    rcases completeCtsSourceRun_ok hok with rfl | ⟨_, attached, _, _, -, -, hattach, -, rfl⟩
    · exact .of_eq rfl
    · refine KeepsJobs.trans (.of_eq ?_) keepsJobs_endJob
      rw [sourceRunJobs_updateSourceRun, sourceRunJobs_persistCts, sourceRunJobs_attach hattach]
  case completeLiepinCardSourceRun =>
    rcases completeLiepinCardSourceRun_ok hok with rfl | ⟨_, _, _, _, -, -, hpersist, -, rfl⟩
    · exact .of_eq rfl
    · refine KeepsJobs.trans (.of_eq ?_) keepsJobs_endJob
      rw [sourceRunJobs_updateSourceRun, sourceRunJobs_persistLiepinCards hpersist]
  case updateLiepinSourceRunPolicy =>
    obtain ⟨_, rfl⟩ := updateLiepinSourceRunPolicy_ok hok
    exact .of_eq rfl
  case createLiepinDetailOpenRequest =>
    rcases createLiepinDetailOpenRequest_ok hok with rfl | ⟨_, _, requests, -, -, -, -, -, -, -,
      ⟨-, rfl⟩ | ⟨-, rfl⟩⟩
    · exact .of_eq rfl
    · exact .of_eq rfl
    · exact .of_eq (sourceRunJobs_lease _ _ _ _)
  case approveLiepinDetailOpenRequest =>
    rcases approveLiepinDetailOpenRequest_ok hok with rfl | ⟨_, -, -, rfl⟩
    · exact .of_eq rfl
    · exact .of_eq (sourceRunJobs_lease _ _ _ _)
  case rejectLiepinDetailOpenRequest =>
    rcases rejectLiepinDetailOpenRequest_ok hok with rfl | ⟨_, -, -, rfl⟩
    · exact .of_eq rfl
    · exact .of_eq rfl
  case reconcileExpiredDetailOpenLeases =>
    cases hok
    exact .of_eq rfl

theorem run_keepsJobs (lib : WorkbenchLibrary) (bench : Workbench) (calls : List WorkbenchCall) :
    KeepsJobs bench.store (run lib bench calls).store := by
  induction calls generalizing bench with
  | nil => exact .of_eq rfl
  | cons call calls ih =>
    apply KeepsJobs.trans _ (ih (step lib bench call))
    rcases step_cases lib bench call with ⟨store', context, hbody, hstep⟩ | hstep
    · rw [hstep]
      exact body_keepsJobs hbody
    · rw [hstep]
      exact .of_eq rfl

/-! ## 3. The repetition -/

variable {user : WorkbenchUser} {sessionId sourceRunId key jobId : String} {now : Instant}
variable {run : SourceRunRow} {job : SourceRunJobRow} {new : Bool}

theorem lookup_of_answer {store store' : WorkbenchStore} {idempotencyKey : Option String}
    (hok : startSourceRunJob user sessionId sourceRunId idempotencyKey jobId now store =
      .ok (store', some (run, job, new))) :
    store'.sourceRunJobs.lookup job.jobId = some job ∧ job.sourceRunId = sourceRunId := by
  unfold startSourceRunJob at hok
  split at hok
  · cases hok
  obtain ⟨authState, -, hok⟩ := bind_eq_ok hok
  split at hok
  · cases hok
  split at hok
  · cases hok
  split at hok
  · rename_i found hfound
    cases hok
    have hmem := Py.mem_of_minBy hfound
    simp only [List.mem_filter, decide_eq_true_eq] at hmem
    exact ⟨Keyed.mem_rows_iff.mp hmem.1, hmem.2.1⟩
  split at hok
  · cases hok
  · obtain ⟨table, hinsert, hok⟩ := bind_eq_ok hok
    obtain ⟨rfl, hanswer⟩ := Prod.mk.inj (Except.ok.inj hok)
    obtain ⟨_, -, hanswer⟩ := Option.map_eq_some_iff.mp hanswer
    cases hanswer
    refine ⟨?_, rfl⟩
    rw [sourceRunJobs_updateSourceRun, (Keyed.lookup_insert (insert_of_insertOrRaise hinsert)).2,
      if_pos rfl]

/-- A start with the key is answered with the job, and no job is made. -/
def AnswersAgain (store : WorkbenchStore) (user : WorkbenchUser)
    (sessionId sourceRunId key jobId : String) (now : Instant) (job : SourceRunJobRow) : Prop :=
  ∃ row, row.jobId = job.jobId ∧ store.AnswersWith user sessionId sourceRunId key jobId now row

/-- The start is allowed; the job is active still, or has the key as it is given; and no other job
    that counts for the start was made before it. -/
structure FoundAgain (store : WorkbenchStore) (user : WorkbenchUser)
    (sessionId sourceRunId key : String) (job : SourceRunJobRow) : Prop where
  allowed : store.StartAllowed user sessionId sourceRunId
  found : ∃ row, store.sourceRunJobs.lookup job.jobId = some row ∧
    (row.status.Active ∨ job.idempotencyKey = some key) ∧ store.MadeFirst sourceRunId key row

/-- **A start that is repeated** after any calls is answered with the job of the first call exactly
    if the job is found again. -/
theorem answersAgain_iff {store : WorkbenchStore} (lib : WorkbenchLibrary) (bench : Workbench)
    (hfirst : startSourceRunJob user sessionId sourceRunId (some key) jobId now bench.store =
      .ok (store, some (run, job, new)))
    (calls : List WorkbenchCall) (jobId' : String) (now' : Instant) :
    AnswersAgain (Workbench.run lib (step lib bench (.startSourceRunJob user sessionId sourceRunId
        (some key) jobId now)) calls).store user sessionId sourceRunId key jobId' now' job ↔
      FoundAgain (Workbench.run lib (step lib bench (.startSourceRunJob user sessionId sourceRunId
        (some key) jobId now)) calls).store user sessionId sourceRunId key job := by
  have hstep : (step lib bench (.startSourceRunJob user sessionId sourceRunId (some key) jobId
      now)).store = store := by
    have hbody : (WorkbenchCall.startSourceRunJob user sessionId sourceRunId (some key) jobId
        now).body lib bench.store = .ok (store, none) := by
      change silent _ _ = _
      unfold silent
      rw [hfirst]
      rfl
    unfold step
    rw [hbody]
  obtain ⟨hlookup, hrun⟩ := lookup_of_answer hfirst
  rw [← hstep] at hlookup
  obtain ⟨row, hrow, hsame⟩ := run_keepsJobs lib _ calls _ _ hlookup
  have hsource : row.sourceRunId = sourceRunId := (congrArg Prod.fst hsame).trans hrun
  have hkey : row.idempotencyKey = job.idempotencyKey := congrArg Prod.snd hsame
  constructor
  · intro h
    obtain ⟨found, hid, hanswers⟩ := h
    obtain ⟨hallowed, hexisting⟩ := answersWith_iff.mp hanswers
    obtain ⟨hcounts, hmade⟩ := existingJob_eq_some_iff.mp hexisting
    obtain rfl : found = row := by
      have hmem := Keyed.mem_rows_iff.mp hmade.mem
      rw [hid, hrow] at hmem
      exact (Option.some.inj hmem).symm
    exact ⟨hallowed, found, hrow, hkey ▸ hcounts.2, hmade⟩
  · intro h
    obtain ⟨hallowed, row', hrow', hcounts, hmade⟩ := h
    obtain rfl := Option.some.inj (hrow.symm.trans hrow')
    refine ⟨row, Keyed.key_of_lookup hrow, answersWith_iff.mpr ⟨hallowed, ?_⟩⟩
    rw [← hkey] at hcounts
    exact existingJob_eq_some_iff.mpr ⟨⟨hsource, hcounts⟩, hmade⟩

def readyToStart : List WorkbenchCall := (sampleStart .cts).take 3

def startedJob (key : String) : SourceRunJobRow :=
  { sampleContext.job with
    status := .queued
    leaseOwner := none
    leaseExpiresAt := none
    attemptCount := 0
    idempotencyKey := some key }

def failed : List WorkbenchCall :=
  [.claimNextSourceRunJob "w" 9 (some .cts), .markSourceRunFailed "j"]

def failedJob : SourceRunJobRow :=
  { startedJob "k" with status := .failed, attemptCount := 1 }

theorem startedJob_answer (key stored : String)
    (h : ((startSourceRunJob sampleUser "s" "r" (some key) "j" 2
      (Workbench.run .ascii {} readyToStart).store).toOption.bind (·.2)).map (·.2) =
        some (startedJob stored, true)) :
    ∃ store run, startSourceRunJob sampleUser "s" "r" (some key) "j" 2
      (Workbench.run .ascii {} readyToStart).store = .ok (store, some (run, startedJob stored, true)) := by
  cases hanswer : startSourceRunJob sampleUser "s" "r" (some key) "j" 2
      (Workbench.run .ascii {} readyToStart).store with
  | error error =>
    rw [hanswer] at h
    cases h
  | ok answer =>
    rw [hanswer] at h
    obtain ⟨store, answer⟩ := answer
    obtain ⟨⟨run, job⟩, rfl, rfl⟩ := Option.map_eq_some_iff.mp h
    exact ⟨store, run, rfl⟩

def afterFailure : WorkbenchStore :=
  (Workbench.run .ascii (step .ascii (Workbench.run .ascii {} readyToStart)
    (.startSourceRunJob sampleUser "s" "r" (some "k") "j" 2)) failed).store

/-- The failed job is found under a key that is stored as it is given. -/
theorem answersAgain_sample :
    AnswersAgain afterFailure sampleUser "s" "r" "k" "j2" 12 (startedJob "k") := by
  obtain ⟨store, run, hfirst⟩ := startedJob_answer "k" "k" (by decide)
  refine (answersAgain_iff .ascii (Workbench.run .ascii {} readyToStart) hfirst failed "j2" 12).mpr
    ⟨⟨?_, ?_⟩, ?_⟩
  · have hfound : (afterFailure.sourceRunForUser sampleUser "s" "r").map (·.sourceKind) =
        some .cts := by
      decide
    obtain ⟨found, hfound, hkind⟩ := Option.map_eq_some_iff.mp hfound
    refine ⟨found, hfound, ?_⟩
    intro hunconnected
    have hliepin := hunconnected.1
    rw [hkind] at hliepin
    cases hliepin
  · have happroved : (afterFailure.triages.lookup "s").map (·.status) = some .approved := by
      decide
    exact Option.map_eq_some_iff.mp happroved
  -- the failed job is the only one
  · have hrows : afterFailure.sourceRunJobs.rows = [failedJob] := by
      decide
    have hmem : failedJob ∈ afterFailure.sourceRunJobs.rows := by
      rw [hrows]
      exact List.mem_singleton_self failedJob
    refine ⟨failedJob, Keyed.mem_rows_iff.mp hmem, .inr rfl, [], [], hrows, ?_, ?_⟩
    · intro other hother
      cases hother
    · intro other hother
      cases hother

/-- A key with blanks is stored without them, and its failed job is not found. -/
theorem not_answersAgain :
    ¬∀ lib calls, Runs lib {} calls → ∀ user sessionId sourceRunId key jobId now store run job new,
      key ≠ "" → startSourceRunJob user sessionId sourceRunId (some key) jobId now
          (Workbench.run lib {} calls).store = .ok (store, some (run, job, new)) →
        ∀ calls' jobId' now', Runs lib (step lib (Workbench.run lib {} calls)
          (.startSourceRunJob user sessionId sourceRunId (some key) jobId now)) calls' →
          AnswersAgain (Workbench.run lib (step lib (Workbench.run lib {} calls)
          (.startSourceRunJob user sessionId sourceRunId (some key) jobId now)) calls').store user
            sessionId sourceRunId key jobId' now' job := by
  intro h
  have hready : Runs .ascii {} readyToStart :=
    runs_cons trivial (runs_cons trivial (runs_cons trivial (runs_nil _)))
  obtain ⟨store, run, hfirst⟩ := startedJob_answer " k " "k" (by decide)
  obtain ⟨row, -, run', hanswers⟩ := h .ascii readyToStart hready sampleUser "s" "r" " k " "j" 2 store run
    (startedJob "k") true (by decide) hfirst failed "j2" 12
    (runs_cons trivial (runs_cons trivial (runs_nil _)))
  have hrefused : ((startSourceRunJob sampleUser "s" "r" (some " k ") "j2" 12
      (Workbench.run .ascii (step .ascii (Workbench.run .ascii {} readyToStart)
        (.startSourceRunJob sampleUser "s" "r" (some " k ") "j" 2)) failed).store).toOption).isNone := by
    decide
  rw [hanswers] at hrefused
  cases hrefused

end Workbench

end SeekTalent

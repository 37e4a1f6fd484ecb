import SeekTalent.Workbench.DetailOpen

/-!
# The jobs of source runs

Starting a source run queues a job for it. A worker claims the oldest job of its kind,
executes it under a lease that it keeps renewing, and completes the run with what it has
found. A job whose lease has expired is failed by whoever comes along.
-/

namespace SeekTalent

open Stateful (bind_eq_ok)

/-- What the operations use of the interpreter's library. -/
structure WorkbenchLibrary where
  /-- `hashlib.sha256(value.encode("utf-8")).hexdigest()` -/
  sha256 : String → String
  tables : Py.UnicodeTables

def WorkbenchLibrary.ascii : WorkbenchLibrary where
  sha256 := id
  tables := .ascii

/-- `_stable_id`; the parts are joined by the unit separator. -/
def stableId (lib : WorkbenchLibrary) (kind : String) (parts : List String) : String :=
  kind ++ "_" ++ String.ofList ((lib.sha256 (Py.join "\x1f" parts)).toList.take 24)

inductive JobOutcome where
  | completed
  | failed

def JobOutcome.jobStatus : JobOutcome → SourceRunJobStatus
  | .completed => .completed
  | .failed => .failed

def JobOutcome.sourceRunStatus : JobOutcome → SourceRunStatus
  | .completed => .completed
  | .failed => .failed

/-! ## 1. What a source has found -/

/-- What is read off the artifacts of a CTS run; texts are as they have been made safe. -/
structure CtsArtifacts where
  runId : Option String
  candidateStoreCount : Option Nat := none
  /-- The ids of the final candidates, each with the provider's own id if there is one. -/
  finalCandidates : List (Option String × Option String) := []

/-- `value or None` of a text -/
def nonempty (value : Option String) : Option String := value.filter (· ≠ "")

/-- What is read off one card of a Liepin search, with its snapshot; texts are as they have
    been made safe, `some ""` where nothing was left of one. -/
structure LiepinCard where
  resumeId : Option String
  sourceResumeId : Option String := none
  dedupKey : Option String := none
  displayName : String := ""
  title : String := ""
  company : String := ""
  location : String := ""
  summary : String := ""
  /-- Whether a detail recommendation of the runtime names the card. -/
  recommended : Bool := false
  /-- The ids that are drawn if a request is made for the card. -/
  requestId : String := ""
  ledgerId : String := ""

structure LiepinLaneResult where
  status : Option String := none
  rawCandidateCount : Option Int := none
  cards : List LiepinCard := []
  usesRuntimeDetailRecommendations : Bool := false

def liepinLaneStatus (result : LiepinLaneResult) : String :=
  (nonempty result.status).getD "completed"

def liepinJobStatusFromLaneResult (result : LiepinLaneResult) : JobOutcome :=
  if liepinLaneStatus result ∈ ["blocked", "failed", "cancelled"] then .failed else .completed

def liepinSourceRunStatusFromLaneResult (result : LiepinLaneResult) : SourceRunStatus :=
  if liepinLaneStatus result = "blocked" then .blocked
  else if liepinLaneStatus result ∈ ["failed", "cancelled"] then .failed
  else .completed

def uniqueList (values : List String) : List String :=
  ((values.map Py.strip).filter (· ≠ "")).eraseDups

def matchedTerms (lib : WorkbenchLibrary) (terms : List String) (text : String) : List String :=
  uniqueList (terms.filter fun term =>
    Py.contains (Py.casefold lib.tables text) (Py.casefold lib.tables term))

/-- The score of `_liepin_card_auto_detail_decision`. -/
def liepinCardAutoDetailScore (matchedMustHaves matchedPreferences : List String)
    (title summary : String) : Nat :=
  let mustHaves :=
    if matchedMustHaves = [] then 0 else 45 + min matchedMustHaves.length 3 * 12
  let preferences := min matchedPreferences.length 4 * 8
  let titled := if Py.strip title ≠ "" then 6 else 0
  let summarized := if 80 ≤ (Py.strip summary).length then 5 else 0
  min (mustHaves + preferences + titled + summarized) 100

def LiepinCard.worthDetail (lib : WorkbenchLibrary) (card : LiepinCard) (triage : TriageCriteria)
    (usesRuntimeDetailRecommendations : Bool) : Bool :=
  if usesRuntimeDetailRecommendations then card.recommended
  else
    let cardText :=
      Py.join " " [card.displayName, card.title, card.company, card.location, card.summary]
    decide (liepinAutoDetailScoreThreshold ≤ liepinCardAutoDetailScore
      (matchedTerms lib triage.mustHaves cardText)
      (matchedTerms lib (triage.niceToHaves ++ triage.synonyms) cardText)
      card.title card.summary)

namespace WorkbenchStore

/-! ## 2. Before a job -/

def blockSourceRunForStartProbe (user : WorkbenchUser) (sessionId sourceRunId : String) :
    Transaction (Option SourceRunRow) := fun store =>
  match store.sourceRunForUser user sessionId sourceRunId with
  | none => .ok (store, none)
  | some run =>
    if run.sourceKind ≠ .liepin ∨ store.probeKeeps run then .ok (store, some run)
    else
      let sourceRuns := store.sourceRuns.update
        (fun row => row.sourceRunId = sourceRunId ∧ row.sessionId = sessionId ∧
          row.sourceKind = .liepin ∧ ¬(row.status = .running ∨ row.status.Terminal) ∧
          (row.status = .blocked ∨ row.status = .queued ∨ row.authState = .loginRequired))
        (fun row => { row with status := .blocked, authState := .loginRequired })
        fun _ => rfl
      .ok ({ store with sourceRuns }, sourceRuns.lookup sourceRunId)

def authStateForStart (store : WorkbenchStore) (user : WorkbenchUser) (run : SourceRunRow) :
    Except WorkbenchError SourceAuthState :=
  match run.sourceKind with
  | .cts => .ok run.authState
  | .liepin =>
    if (store.liepinConnectionForUser user).any (·.status = .connected) then .ok .notRequired
    else .error (.permissionError "liepin_connection_not_connected")

/-- The job that a start finds: one of the run that is queued or running, or that has the same
    idempotency key. -/
def existingJob (store : WorkbenchStore) (sourceRunId : String) (idempotencyKey : Option String) :
    Option SourceRunJobRow :=
  Py.minBy (·.createdAt) (store.sourceRunJobs.rows.filter fun job =>
    job.sourceRunId = sourceRunId ∧
      (job.status.Active ∨ idempotencyKey ≠ none ∧ job.idempotencyKey = idempotencyKey))

/-- `start_source_run_job`, after it has reconciled the running jobs, with the id that is drawn
    for a new job. It answers the run, its job, and whether the job is new. -/
def startSourceRunJob (user : WorkbenchUser) (sessionId sourceRunId : String)
    (idempotencyKey : Option String) (jobId : String) (now : Instant) :
    Transaction (Option (SourceRunRow × SourceRunJobRow × Bool)) := fun store =>
  match store.sourceRunForUser user sessionId sourceRunId with
  | none => .ok (store, none)
  | some run => do
    let authState ← store.authStateForStart user run
    match store.triages.lookup sessionId with
    | none => .error (.keyError sessionId)
    | some triage =>
      if triage.status ≠ .approved then
        .error (.permissionError "requirement_triage_not_approved")
      else
        match store.existingJob sourceRunId idempotencyKey with
        | some job => .ok (store, some ({ run with authState }, job, false))
        | none =>
          if run.status.Terminal then .error (.runtimeError "source_run_already_terminal")
          else do
            let job : SourceRunJobRow :=
              { jobId
                workspaceId := user.workspaceId
                userId := user.userId
                sessionId
                sourceRunId
                sourceKind := run.sourceKind
                idempotencyKey := boundedText idempotencyKey 128
                createdAt := now }
            let sourceRunJobs ← insertOrRaise store.sourceRunJobs job
            let store := { store with sourceRunJobs }.updateSourceRun sourceRunId
              (fun row => { row with status := .queued, authState }) fun _ => rfl
            return (store, (store.sourceRuns.lookup sourceRunId).map (·, job, true))

/-! ## 3. Claiming -/

def nextQueuedJob (store : WorkbenchStore) (sourceKind : Option RuntimeSourceKind) :
    Option SourceRunJobRow :=
  Py.minBy (fun job : SourceRunJobRow => toLex (job.createdAt, job.jobId))
    (store.sourceRunJobs.rows.filter fun job =>
      job.status = .queued ∧ (sourceKind = none ∨ sourceKind = some job.sourceKind))

/-- `claim_next_source_run_job`. The keys of the job's row keep its session and the triage. -/
def claimNextSourceRunJob (ownerId : String) (leaseExpiresAt : Instant)
    (sourceKind : Option RuntimeSourceKind) :
    Transaction (Option WorkbenchSourceRunJobContext) := fun store =>
  match store.nextQueuedJob sourceKind with
  | none => .ok (store, none)
  | some job =>
    let claim := fun row : SourceRunJobRow =>
      { row with
        status := .running
        leaseOwner := some ownerId
        leaseExpiresAt := some leaseExpiresAt
        attemptCount := row.attemptCount + 1 }
    let claimed := (store.updateJob job.jobId claim fun _ => rfl).updateSourceRun job.sourceRunId
      (fun run => { run with status := .running }) fun _ => rfl
    match claimed.sessions.lookup job.sessionId, claimed.triages.lookup job.sessionId with
    | some session, some triage => .ok (claimed, some ⟨claim job, session, triage⟩)
    | _, _ => .error (.keyError job.sessionId)

def extendSourceRunJobLease (jobId ownerId : String) (leaseExpiresAt : Instant) :
    Transaction Unit := fun store =>
  let sourceRunJobs := store.sourceRunJobs.update
    (fun row => row.jobId = jobId ∧ row.leaseOwner = some ownerId ∧ row.status = .running)
    (fun row => { row with leaseExpiresAt := some leaseExpiresAt })
    fun _ => rfl
  .ok ({ store with sourceRunJobs }, ())

/-! ## 4. Ending a job -/

def endJob (store : WorkbenchStore) (jobId sourceRunId : String) (outcome : JobOutcome)
    (sourceStatus : SourceRunStatus) : WorkbenchStore :=
  (store.updateJob jobId
    (fun row =>
      { row with status := outcome.jobStatus, leaseOwner := none, leaseExpiresAt := none })
    fun _ => rfl).updateSourceRun sourceRunId
      (fun run => { run with status := sourceStatus }) fun _ => rfl

def finishSourceRunJobConn (store : WorkbenchStore) (row : SourceRunJobRow) (outcome : JobOutcome)
    (sourceStatus : Option SourceRunStatus) : WorkbenchStore :=
  store.endJob row.jobId row.sourceRunId outcome
    (sourceStatus.getD outcome.sourceRunStatus)

def finishSourceRunJob (jobId : String) (outcome : JobOutcome) : Transaction Unit := fun store =>
  match store.sourceRunJobs.lookup jobId with
  | none => .ok (store, ())
  | some row =>
    if row.status ≠ .running then .ok (store, ())
    else .ok (store.finishSourceRunJobConn row outcome none, ())

def markSourceRunCompleted (jobId : String) : Transaction Unit := finishSourceRunJob jobId .completed

def markSourceRunFailed (jobId : String) : Transaction Unit := finishSourceRunJob jobId .failed

def expiredJobs (store : WorkbenchStore) (now : Instant) : List SourceRunJobRow :=
  Py.sortedBy (fun job : SourceRunJobRow => toLex (job.leaseExpiresAt.getD 0, job.jobId))
    (store.sourceRunJobs.rows.filter fun job =>
      job.status = .running ∧ job.leaseExpiresAt.any fun expiry => expiry ≤ now)

/-- One pass of the loop of `reconcile_expired_running_jobs`. -/
def expireJob (store : WorkbenchStore) (row : SourceRunJobRow) : WorkbenchStore :=
  let sourceRunJobs := store.sourceRunJobs.update
    (fun job => job.jobId = row.jobId ∧ job.status = .running)
    (fun job => { job with status := .failed, leaseOwner := none, leaseExpiresAt := none })
    fun _ => rfl
  { store with sourceRunJobs }.updateSourceRun row.sourceRunId
    (fun run => { run with status := .failed }) fun _ => rfl

def reconcileExpiredRunningJobs (now : Instant) : Transaction Nat := fun store =>
  let rows := store.expiredJobs now
  .ok (rows.foldl expireJob store, rows.length)

/-! ## 5. Candidates -/

/-- `candidate_review_items` and `candidate_evidence`, with one candidate's rows written. -/
def writeCandidate (store : WorkbenchStore) (context : WorkbenchSourceRunJobContext)
    (kind : RuntimeSourceKind) (level : RuntimeEvidenceLevel)
    (reviewItemId evidenceId providerKeyHash : String) (now : Instant) : WorkbenchStore :=
  { store with
    candidateReviewItems := store.candidateReviewItems.insertOrUpdate
      { reviewItemId
        workspaceId := context.session.workspaceId
        userId := context.session.userId
        sessionId := context.session.sessionId }
      id fun _ => rfl
    candidateEvidence := store.candidateEvidence.insertOrUpdate
      { evidenceId
        reviewItemId
        sourceRunId := context.job.sourceRunId
        sourceKind := kind
        evidenceLevel := level
        providerCandidateKeyHash := providerKeyHash
        createdAt := now }
      (fun row => { row with reviewItemId, providerCandidateKeyHash := providerKeyHash })
      fun _ => rfl }

/-- `_persist_cts_candidate_results_conn`, with the ids of the review items. -/
def persistCtsCandidateResults (lib : WorkbenchLibrary) (context : WorkbenchSourceRunJobContext)
    (now : Instant) :
    List (Option String × Option String) → WorkbenchStore → WorkbenchStore × List String
  | [], store => (store, [])
  | (resumeId, sourceResumeId) :: rest, store =>
    match nonempty resumeId with
    | none => persistCtsCandidateResults lib context now rest store
    | some providerResumeId =>
      let reviewItemId := stableId lib "review" [context.session.sessionId, providerResumeId]
      let evidenceId :=
        stableId lib "evidence" [context.job.sourceRunId, providerResumeId, "final"]
      let providerKeyHash := lib.sha256 ((nonempty sourceResumeId).getD providerResumeId)
      let written := store.writeCandidate context context.job.sourceKind .final reviewItemId
        evidenceId providerKeyHash now
      let (store, reviewItemIds) := persistCtsCandidateResults lib context now rest written
      (store, reviewItemId :: reviewItemIds)

/-- `_validate_source_run_runtime_run_id_conn`, for the run of a context. -/
def validateRuntimeRunId (store : WorkbenchStore) (context : WorkbenchSourceRunJobContext)
    (runtimeRunId : String) : Except WorkbenchError SourceRunRow :=
  match (store.sourceRuns.lookup context.job.sourceRunId).filter fun row =>
      row.workspaceId = context.session.workspaceId ∧ row.userId = context.session.userId ∧
        row.sessionId = context.session.sessionId ∧ row.sourceKind = .cts with
  | none => .error (.runtimeError "cts_source_run_not_found")
  | some row =>
    match nonempty row.runtimeRunId with
    | none => .ok row
    | some existing =>
      if existing ≠ runtimeRunId then .error (.runtimeError "runtime_run_id_conflict") else .ok row

/-- `_attach_source_run_runtime_run_id_conn`, for the run of a context. -/
def attachRuntimeRunId (store : WorkbenchStore) (context : WorkbenchSourceRunJobContext)
    (runtimeRunId : String) : Except WorkbenchError WorkbenchStore := do
  let _ ← store.validateRuntimeRunId context runtimeRunId
  return store.updateSourceRun context.job.sourceRunId
    (fun run => { run with runtimeRunId := run.runtimeRunId.or (some runtimeRunId) }) fun _ => rfl

def attachGivenRuntimeRunId (store : WorkbenchStore) (context : WorkbenchSourceRunJobContext) :
    Option String → Except WorkbenchError WorkbenchStore
  | none => .ok store
  | some runtimeRunId => store.attachRuntimeRunId context runtimeRunId

/-- `complete_cts_source_run_with_candidate_results`. It answers the ids of the review items. -/
def completeCtsSourceRun (lib : WorkbenchLibrary) (context : WorkbenchSourceRunJobContext)
    (artifacts : CtsArtifacts) (now : Instant) : Transaction (List String) := fun store =>
  match store.sourceRunJobs.lookup context.job.jobId with
  | none => .ok (store, [])
  | some row =>
    let runtimeRunId := nonempty (artifacts.runId.map Py.strip)
    if row.status ≠ .running then
      match runtimeRunId with
      | none => .ok (store, [])
      | some runtimeRunId => do
        let _ ← store.validateRuntimeRunId context runtimeRunId
        return (store, [])
    else do
      let store ← store.attachGivenRuntimeRunId context runtimeRunId
      let (store, reviewItemIds) :=
        persistCtsCandidateResults lib context now artifacts.finalCandidates store
      let cardsScannedCount := artifacts.candidateStoreCount.getD reviewItemIds.length
      let store := store.updateSourceRun context.job.sourceRunId
        (fun run =>
          { run with
            cardsScannedCount
            uniqueCandidatesCount := reviewItemIds.length
            status := .completed })
        fun _ => rfl
      return (store.finishSourceRunJobConn row .completed none, reviewItemIds)

/-! ## 6. Cards -/

def requestCardDetail (store : WorkbenchStore) (context : WorkbenchSourceRunJobContext)
    (card : LiepinCard) (connection : SourceConnectionRow) (mode : DetailOpenMode)
    (evidenceId reviewItemId providerKeyHash : String) (now : Instant) :
    Except WorkbenchError (WorkbenchStore × Bool) := do
  let (store, made) ← store.createAutoLiepinDetailOpenRequest context connection.connectionId
    evidenceId reviewItemId providerKeyHash mode card.requestId
  if made ∧ mode = .bypassConfirm then
    return ((store.leaseLiepinDetailOpenRequest card.requestId card.ledgerId now).1, made)
  else return (store, made)

/-- One pass of the loop of `_persist_liepin_card_candidate_results_conn`: the tables, how many
    requests have been made, and the ids of the review items. -/
def persistLiepinCard (lib : WorkbenchLibrary) (context : WorkbenchSourceRunJobContext)
    (usesRuntimeDetailRecommendations : Bool) (connection : Option SourceConnectionRow)
    (mode : DetailOpenMode) (now : Instant) (card : LiepinCard)
    (progress : WorkbenchStore × Nat × List String) :
    Except WorkbenchError (WorkbenchStore × Nat × List String) :=
  let (store, autoDetailRequestCount, reviewItemIds) := progress
  let providerKey := (nonempty card.sourceResumeId).or ((nonempty card.dedupKey).or card.resumeId)
  match nonempty card.resumeId, nonempty providerKey with
  | some _, some providerKey =>
    let reviewItemId := stableId lib "review" [context.session.sessionId, "liepin", providerKey]
    let evidenceId := stableId lib "evidence" [context.job.sourceRunId, providerKey, "card"]
    let providerKeyHash := lib.sha256 providerKey
    let store :=
      store.writeCandidate context .liepin .card reviewItemId evidenceId providerKeyHash now
    match connection with
    | none => .ok (store, autoDetailRequestCount, reviewItemIds ++ [reviewItemId])
    | some connection =>
      if autoDetailRequestCount < liepinAutoDetailRequestLimit ∧
          card.worthDetail lib context.triage.criteria usesRuntimeDetailRecommendations then do
        let (store, made) ← store.requestCardDetail context card connection mode evidenceId
          reviewItemId providerKeyHash now
        return (store, autoDetailRequestCount + made.toNat, reviewItemIds ++ [reviewItemId])
      else .ok (store, autoDetailRequestCount, reviewItemIds ++ [reviewItemId])
  | _, _ => .ok progress

/-- The loop of `_persist_liepin_card_candidate_results_conn`. -/
def persistLiepinCards (lib : WorkbenchLibrary) (context : WorkbenchSourceRunJobContext)
    (usesRuntimeDetailRecommendations : Bool) (connection : Option SourceConnectionRow)
    (mode : DetailOpenMode) (now : Instant) :
    List LiepinCard → WorkbenchStore × Nat × List String →
      Except WorkbenchError (WorkbenchStore × Nat × List String)
  | [], progress => .ok progress
  | card :: cards, progress => do
    let progress ← persistLiepinCard lib context usesRuntimeDetailRecommendations connection mode
      now card progress
    persistLiepinCards lib context usesRuntimeDetailRecommendations connection mode now cards
      progress

/-- `_persist_liepin_card_candidate_results_conn` -/
def persistLiepinCardCandidateResults (lib : WorkbenchLibrary)
    (context : WorkbenchSourceRunJobContext) (result : LiepinLaneResult) (now : Instant)
    (store : WorkbenchStore) : Except WorkbenchError (WorkbenchStore × Nat × List String) :=
  persistLiepinCards lib context result.usesRuntimeDetailRecommendations
    (store.connectedLiepinConnectionForOwner context.user)
    (store.detailOpenModeOf context.user context.session.sessionId) now result.cards (store, 0, [])

/-- `complete_liepin_card_source_run_with_lane_result`. It answers the ids of the review
    items. -/
def completeLiepinCardSourceRun (lib : WorkbenchLibrary) (context : WorkbenchSourceRunJobContext)
    (result : LiepinLaneResult) (now : Instant) : Transaction (List String) := fun store =>
  match store.sourceRunJobs.lookup context.job.jobId with
  | none => .ok (store, [])
  | some row =>
    if row.status ≠ .running then .ok (store, [])
    else do
      let (store, _, reviewItemIds) ←
        persistLiepinCardCandidateResults lib context result now store
      let cardsScannedCount := result.rawCandidateCount.getD reviewItemIds.length
      let store := store.updateSourceRun context.job.sourceRunId
        (fun run =>
          { run with
            cardsScannedCount
            uniqueCandidatesCount := reviewItemIds.length
            status := liepinSourceRunStatusFromLaneResult result })
        fun _ => rfl
      return (store.finishSourceRunJobConn row (liepinJobStatusFromLaneResult result)
        (some (liepinSourceRunStatusFromLaneResult result)), reviewItemIds)

end WorkbenchStore

end SeekTalent

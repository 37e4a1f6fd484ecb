import SeekTalent.Base.PyText
import SeekTalent.Base.Run
import SeekTalent.Base.Table
import SeekTalent.Models

/-!
# The workbench store

The tables behind the workbench: sessions with their requirement triage, the source runs of
a session and the jobs that execute them, the user's Liepin connection, and the requests to
open a candidate's detail page with the ledger of their budget.

An operation is one database transaction: it answers the changed tables, or raises and
changes nothing. What is read from the clock or drawn at random is an argument. There is one
tenant. The columns that no operation reads again (warnings, events, the audit trail, the
texts shown of a candidate) are left out.
-/

namespace SeekTalent

open Stateful (bind_eq_ok)

/-- Whole seconds since the epoch: `_iso` writes no fractions, and all in UTC, so that its
    texts are ordered as the times are. -/
abbrev Instant := Nat

inductive WorkbenchError where
  | permissionError (message : String)
  | valueError (message : String)
  | runtimeError (message : String)
  | keyError (key : String)
  | integrityError
  deriving DecidableEq

structure WorkbenchUser where
  userId : String
  workspaceId : String
  deriving DecidableEq

/-! ## 1. Rows -/

inductive SourceRunStatus where
  | queued
  | blocked
  | running
  | completed
  | failed
  deriving DecidableEq

/-- `source_run.status in {"completed", "failed"}` -/
def SourceRunStatus.Terminal (status : SourceRunStatus) : Prop :=
  status = .completed ∨ status = .failed

instance (status : SourceRunStatus) : Decidable status.Terminal :=
  inferInstanceAs (Decidable (_ ∨ _))

inductive SourceAuthState where
  | notRequired
  | loginRequired
  deriving DecidableEq

inductive SourceRunJobStatus where
  | queued
  | running
  | completed
  | failed
  deriving DecidableEq

/-- `status IN ('queued', 'running')` -/
def SourceRunJobStatus.Active (status : SourceRunJobStatus) : Prop :=
  status = .queued ∨ status = .running

instance (status : SourceRunJobStatus) : Decidable status.Active :=
  inferInstanceAs (Decidable (_ ∨ _))

inductive TriageStatus where
  | draft
  | approved
  deriving DecidableEq

inductive SourceConnectionStatus where
  | loginRequired
  | loginInProgress
  | verificationRequired
  | connected
  | expired
  | blocked
  | disconnected
  deriving DecidableEq

structure SessionRow where
  sessionId : String
  workspaceId : String
  userId : String
  jobTitle : String
  jdText : String
  notes : String
  deriving DecidableEq

/-- What a triage says of the candidates looked for. -/
structure TriageCriteria where
  mustHaves : List String := []
  niceToHaves : List String := []
  synonyms : List String := []
  seniorityFilters : List String := []
  exclusions : List String := []
  generatedQueryHints : List String := []
  deriving DecidableEq

def TriageCriteria.lists (criteria : TriageCriteria) : List (List String) :=
  [criteria.mustHaves, criteria.niceToHaves, criteria.synonyms, criteria.seniorityFilters,
    criteria.exclusions, criteria.generatedQueryHints]

structure RequirementTriageRow where
  sessionId : String
  workspaceId : String
  userId : String
  status : TriageStatus := .draft
  criteria : TriageCriteria := {}
  approvedAt : Option Instant := none
  deriving DecidableEq

structure SourceRunRow where
  sourceRunId : String
  sessionId : String
  workspaceId : String
  userId : String
  sourceKind : RuntimeSourceKind
  status : SourceRunStatus
  authState : SourceAuthState
  runtimeRunId : Option String := none
  cardsScannedCount : Int := 0
  uniqueCandidatesCount : Nat := 0
  detailOpenUsedCount : Nat := 0
  detailOpenBlockedCount : Nat := 0

structure SourceRunJobRow where
  jobId : String
  workspaceId : String
  userId : String
  sessionId : String
  sourceRunId : String
  sourceKind : RuntimeSourceKind
  status : SourceRunJobStatus := .queued
  leaseOwner : Option String := none
  leaseExpiresAt : Option Instant := none
  idempotencyKey : Option String
  attemptCount : Nat := 0
  createdAt : Instant
  deriving DecidableEq

structure SourceConnectionRow where
  connectionId : String
  workspaceId : String
  userId : String
  status : SourceConnectionStatus := .loginRequired
  providerAccountHash : Option String := none
  complianceGateRef : Option String := none
  deriving DecidableEq

inductive DetailOpenMode where
  | humanConfirm
  | bypassConfirm
  deriving DecidableEq

structure SourceRunPolicyRow where
  sessionId : String
  workspaceId : String
  userId : String
  detailOpenMode : DetailOpenMode

structure CandidateReviewItemRow where
  reviewItemId : String
  workspaceId : String
  userId : String
  sessionId : String

structure CandidateEvidenceRow where
  evidenceId : String
  reviewItemId : String
  sourceRunId : String
  sourceKind : RuntimeSourceKind
  evidenceLevel : RuntimeEvidenceLevel
  providerCandidateKeyHash : String
  createdAt : Instant

inductive DetailOpenRequestStatus where
  | pending
  | approved
  | rejected
  | bypassed
  | blocked
  | expired
  deriving DecidableEq

structure DetailOpenRequestRow where
  requestId : String
  workspaceId : String
  userId : String
  sessionId : String
  sourceRunId : String
  connectionId : String
  candidateEvidenceId : String
  reviewItemId : String
  providerCandidateKeyHash : String
  detailOpenMode : DetailOpenMode
  status : DetailOpenRequestStatus
  idempotencyKey : String
  blockedReason : Option String := none
  ledgerId : Option String := none

inductive DetailOpenLedgerStatus where
  | planned
  | leased
  | opened
  | skipped
  | blocked
  | failed
  | maybeUsed
  deriving DecidableEq

/-- `status IN ('leased', 'opened', 'maybe_used')` -/
def DetailOpenLedgerStatus.Used (status : DetailOpenLedgerStatus) : Prop :=
  status = .leased ∨ status = .opened ∨ status = .maybeUsed

instance (status : DetailOpenLedgerStatus) : Decidable status.Used :=
  inferInstanceAs (Decidable (_ ∨ _ ∨ _))

structure DetailOpenLedgerRow where
  ledgerId : String
  workspaceId : String
  actorId : String
  connectionId : String
  sourceRunId : String
  requestId : String
  candidateEvidenceId : String
  providerCandidateKeyHash : String
  status : DetailOpenLedgerStatus := .leased
  budgetDay : Nat
  idempotencyKey : String
  leaseExpiresAt : Option Instant
  deriving DecidableEq

structure WorkbenchStore where
  sessions : Keyed SessionRow.sessionId := {}
  triages : Keyed RequirementTriageRow.sessionId := {}
  sourceRuns : Keyed SourceRunRow.sourceRunId := {}
  sourceRunJobs : Keyed SourceRunJobRow.jobId := {}
  sourceConnections : Keyed SourceConnectionRow.connectionId := {}
  sourceRunPolicies : Keyed SourceRunPolicyRow.sessionId := {}
  candidateReviewItems : Keyed CandidateReviewItemRow.reviewItemId := {}
  candidateEvidence : Keyed CandidateEvidenceRow.evidenceId := {}
  detailOpenRequests : Keyed DetailOpenRequestRow.requestId := {}
  detailOpenLedger : Keyed DetailOpenLedgerRow.ledgerId := {}

abbrev Transaction (α : Type) := WorkbenchStore → Except WorkbenchError (WorkbenchStore × α)

/-- `INSERT`, which raises where the key is taken. -/
def insertOrRaise {α κ : Type} [DecidableEq κ] {key : α → κ} (table : Keyed key) (row : α) :
    Except WorkbenchError (Keyed key) :=
  match table.insert row with
  | some table => .ok table
  | none => .error .integrityError

theorem insert_of_insertOrRaise {α κ : Type} [DecidableEq κ] {key : α → κ} {table table' : Keyed key}
    {row : α} (h : insertOrRaise table row = .ok table') : table.insert row = some table' := by
  unfold insertOrRaise at h
  cases hinsert : table.insert row with
  | none =>
    rw [hinsert] at h
    cases h
  | some t =>
    rw [hinsert] at h
    exact congrArg some (Except.ok.inj h)

def boundedText (value : Option String) (maxLength : Nat) : Option String :=
  value.map fun value => String.ofList ((Py.strip value).toList.take maxLength)

/-- `_json_list`, with what `_json_to_list` reads of it. -/
def jsonList (values : List String) : List String :=
  values.map fun value => (boundedText (some value) 500).getD ""

/-- What is kept of the criteria that are written. -/
def TriageCriteria.stored (criteria : TriageCriteria) : TriageCriteria where
  mustHaves := jsonList criteria.mustHaves
  niceToHaves := jsonList criteria.niceToHaves
  synonyms := jsonList criteria.synonyms
  seniorityFilters := jsonList criteria.seniorityFilters
  exclusions := jsonList criteria.exclusions
  generatedQueryHints := jsonList criteria.generatedQueryHints

namespace WorkbenchStore

/-- `_liepin_connection_for_user_conn` -/
def liepinConnectionForUser (store : WorkbenchStore) (user : WorkbenchUser) :
    Option SourceConnectionRow :=
  store.sourceConnections.rows.find? fun row =>
    row.workspaceId = user.workspaceId ∧ row.userId = user.userId

def sessionExistsForUser (store : WorkbenchStore) (user : WorkbenchUser) (sessionId : String) :
    Bool :=
  (store.sessions.lookup sessionId).any fun row =>
    row.workspaceId = user.workspaceId ∧ row.userId = user.userId

def sourceRunForUser (store : WorkbenchStore) (user : WorkbenchUser)
    (sessionId sourceRunId : String) : Option SourceRunRow :=
  (store.sourceRuns.lookup sourceRunId).filter fun row =>
    row.sessionId = sessionId ∧ row.workspaceId = user.workspaceId ∧ row.userId = user.userId ∧
      (store.sessions.lookup row.sessionId).any fun session => session.userId = user.userId

/-- `UPDATE source_runs SET … WHERE source_run_id = ?` -/
def updateSourceRun (store : WorkbenchStore) (sourceRunId : String)
    (set : SourceRunRow → SourceRunRow) (hset : ∀ row, (set row).sourceRunId = row.sourceRunId) :
    WorkbenchStore :=
  { store with
    sourceRuns := store.sourceRuns.update (fun row => decide (row.sourceRunId = sourceRunId))
      set hset }

/-- `UPDATE source_run_jobs SET … WHERE job_id = ?` -/
def updateJob (store : WorkbenchStore) (jobId : String) (set : SourceRunJobRow → SourceRunJobRow)
    (hset : ∀ row, (set row).jobId = row.jobId) : WorkbenchStore :=
  { store with
    sourceRunJobs := store.sourceRunJobs.update (fun row => decide (row.jobId = jobId)) set hset }

section Update

variable {store : WorkbenchStore} {id sourceRunId jobId : String}
variable {set : SourceRunRow → SourceRunRow}

@[simp] theorem lookup_updateSourceRun
    (hset : ∀ row, (set row).sourceRunId = row.sourceRunId) :
    (store.updateSourceRun sourceRunId set hset).sourceRuns.lookup id =
      if id = sourceRunId then (store.sourceRuns.lookup id).map set
      else store.sourceRuns.lookup id := Keyed.lookup_update_key hset

@[simp] theorem sourceRunJobs_updateSourceRun
    (hset : ∀ row, (set row).sourceRunId = row.sourceRunId) :
    (store.updateSourceRun sourceRunId set hset).sourceRunJobs = store.sourceRunJobs := rfl

@[simp] theorem lookup_updateJob {set : SourceRunJobRow → SourceRunJobRow}
    (hset : ∀ row, (set row).jobId = row.jobId) :
    (store.updateJob jobId set hset).sourceRunJobs.lookup id =
      if id = jobId then (store.sourceRunJobs.lookup id).map set
      else store.sourceRunJobs.lookup id := Keyed.lookup_update_key hset

@[simp] theorem sourceRuns_updateJob {set : SourceRunJobRow → SourceRunJobRow}
    (hset : ∀ row, (set row).jobId = row.jobId) :
    (store.updateJob jobId set hset).sourceRuns = store.sourceRuns := rfl

@[simp] theorem sessions_updateSourceRun
    (hset : ∀ row, (set row).sourceRunId = row.sourceRunId) :
    (store.updateSourceRun sourceRunId set hset).sessions = store.sessions := rfl

@[simp] theorem sessions_updateJob {set : SourceRunJobRow → SourceRunJobRow}
    (hset : ∀ row, (set row).jobId = row.jobId) :
    (store.updateJob jobId set hset).sessions = store.sessions := rfl

@[simp] theorem triages_updateSourceRun
    (hset : ∀ row, (set row).sourceRunId = row.sourceRunId) :
    (store.updateSourceRun sourceRunId set hset).triages = store.triages := rfl

@[simp] theorem triages_updateJob {set : SourceRunJobRow → SourceRunJobRow}
    (hset : ∀ row, (set row).jobId = row.jobId) :
    (store.updateJob jobId set hset).triages = store.triages := rfl

end Update

/-! ## 2. Sessions -/

/-- `_new_source_run`, as the row that is written of it. -/
def newSourceRun (user : WorkbenchUser) (sessionId : String) (connected : Bool)
    (source : RuntimeSourceKind × String) : SourceRunRow :=
  let login := source.1 = .liepin ∧ !connected
  { sourceRunId := source.2
    sessionId
    workspaceId := user.workspaceId
    userId := user.userId
    sourceKind := source.1
    status := if login then .blocked else .queued
    authState := if login then .loginRequired else .notRequired }

/-- `INSERT INTO source_runs`, one row after the other. -/
def insertSourceRuns : List SourceRunRow → Keyed SourceRunRow.sourceRunId →
    Except WorkbenchError (Keyed SourceRunRow.sourceRunId)
  | [], table => .ok table
  | row :: rows, table => do
    let table ← insertOrRaise table row
    insertSourceRuns rows table

/-- `create_workbench_session`, with the ids that are drawn: one for the session, and one for
    each kind of source that is asked for. -/
def createWorkbenchSession (session : SessionRow) (sources : List (RuntimeSourceKind × String)) :
    Transaction SessionRow := fun store => do
  let user : WorkbenchUser := ⟨session.userId, session.workspaceId⟩
  let connected := (store.liepinConnectionForUser user).any (·.status = .connected)
  let sessions ← insertOrRaise store.sessions session
  let sourceRuns ←
    insertSourceRuns (sources.map (newSourceRun user session.sessionId connected)) store.sourceRuns
  let triages ← insertOrRaise store.triages
    { sessionId := session.sessionId
      workspaceId := session.workspaceId
      userId := session.userId }
  return ({ store with sessions, sourceRuns, triages }, session)

/-! ## 3. Triage -/

def triageHasVisibleCriteria (triage : RequirementTriageRow) : Bool :=
  triage.criteria.lists.any fun values => !values.isEmpty

def triageHasInput (triage : RequirementTriageRow) : Bool :=
  triage.criteria.lists.any fun values => values.any fun value => Py.strip value ≠ ""

def isTriageOf (user : WorkbenchUser) (sessionId : String) (row : RequirementTriageRow) : Bool :=
  row.sessionId = sessionId ∧ row.workspaceId = user.workspaceId ∧ row.userId = user.userId

def updateRequirementTriage (user : WorkbenchUser) (sessionId : String)
    (criteria : TriageCriteria) : Transaction (Option RequirementTriageRow) := fun store =>
  if store.sessionExistsForUser user sessionId then
    let triages := store.triages.update (isTriageOf user sessionId)
      (fun row =>
        { row with status := .draft, criteria := criteria.stored, approvedAt := none })
      fun _ => rfl
    match triages.lookup sessionId with
    | none => .error (.keyError sessionId)
    | some triage => .ok ({ store with triages }, some triage)
  else .ok (store, none)

def approveRequirementTriage (user : WorkbenchUser) (sessionId : String) (now : Instant) :
    Transaction (Option RequirementTriageRow) := fun store =>
  if store.sessionExistsForUser user sessionId then
    match store.triages.lookup sessionId with
    | none => .ok (store, none)
    | some triage =>
      if triageHasVisibleCriteria triage then
        let triages := store.triages.update (isTriageOf user sessionId)
          (fun row => { row with status := .approved, approvedAt := some now })
          fun _ => rfl
        .ok ({ store with triages }, triages.lookup sessionId)
      else .error (.permissionError "requirement_triage_empty")
  else .ok (store, none)

/-! ## 4. The connection -/

def connectionOfUser (store : WorkbenchStore) (user : WorkbenchUser) (connectionId : String) :
    Option SourceConnectionRow :=
  (store.sourceConnections.lookup connectionId).filter fun row =>
    row.workspaceId = user.workspaceId ∧ row.userId = user.userId

/-- `UPDATE source_connections SET … WHERE connection_id = ?` -/
def updateConnection (store : WorkbenchStore) (connectionId : String)
    (set : SourceConnectionRow → SourceConnectionRow)
    (hset : ∀ row, (set row).connectionId = row.connectionId) : WorkbenchStore :=
  { store with
    sourceConnections := store.sourceConnections.update
      (fun row => decide (row.connectionId = connectionId)) set hset }

/-- `get_or_create_liepin_source_connection`, with the id that is drawn for a new row. -/
def getOrCreateLiepinSourceConnection (user : WorkbenchUser) (connectionId : String) :
    Transaction (SourceConnectionRow × Bool) := fun store =>
  match store.liepinConnectionForUser user with
  | some existing => .ok (store, existing, false)
  | none => do
    let row : SourceConnectionRow :=
      { connectionId
        workspaceId := user.workspaceId
        userId := user.userId }
    let sourceConnections ← insertOrRaise store.sourceConnections row
    return ({ store with sourceConnections }, row, true)

/-- `COALESCE(?, column)` -/
def coalesce (value column : Option String) : Option String := value.or column

def startLiepinLoginHandoff (user : WorkbenchUser) (connectionId : String)
    (providerAccountHash complianceGateRef : Option String) :
    Transaction (Option SourceConnectionRow) := fun store =>
  match store.connectionOfUser user connectionId with
  | none => .ok (store, none)
  | some _ =>
    let store := store.updateConnection connectionId
      (fun row =>
        { row with
          status := .loginInProgress
          providerAccountHash := coalesce providerAccountHash row.providerAccountHash
          complianceGateRef := coalesce complianceGateRef row.complianceGateRef })
      fun _ => rfl
    .ok (store, store.sourceConnections.lookup connectionId)

/-- `SET status = 'connected', provider_account_hash = COALESCE(?, provider_account_hash)` -/
def connectConnection (store : WorkbenchStore) (connectionId : String)
    (providerAccountHash complianceGateRef : Option String) : WorkbenchStore :=
  store.updateConnection connectionId
    (fun row =>
      { row with
        status := .connected
        providerAccountHash := coalesce providerAccountHash row.providerAccountHash
        complianceGateRef := coalesce complianceGateRef row.complianceGateRef })
    fun _ => rfl

/-- A run that waits for a login goes back to the queue. -/
def requeueSourceRun (row : SourceRunRow) : SourceRunRow :=
  { row with status := .queued, authState := .notRequired }

def markLiepinConnectionConnected (user : WorkbenchUser) (connectionId : String)
    (providerAccountHash complianceGateRef : Option String) :
    Transaction (Option SourceConnectionRow) := fun store =>
  match store.connectionOfUser user connectionId with
  | none => .ok (store, none)
  | some _ =>
    let store := store.connectConnection connectionId providerAccountHash complianceGateRef
    let sourceRuns := store.sourceRuns.update
      (fun row => row.workspaceId = user.workspaceId ∧ row.userId = user.userId ∧
        row.sourceKind = .liepin ∧ row.status = .blocked ∧ row.authState = .loginRequired)
      requeueSourceRun fun _ => rfl
    .ok ({ store with sourceRuns }, store.sourceConnections.lookup connectionId)

def hasActiveJob (store : WorkbenchStore) (sourceRunId : String) : Bool :=
  store.sourceRunJobs.rows.any fun job => job.sourceRunId = sourceRunId ∧ job.status.Active

def probeKeeps (store : WorkbenchStore) (run : SourceRunRow) : Prop :=
  run.status = .running ∨ run.status.Terminal ∨
    (run.status = .queued ∧ store.hasActiveJob run.sourceRunId) ∨
    ¬(run.status = .blocked ∨ run.status = .queued ∨ run.authState = .loginRequired)

instance (store : WorkbenchStore) (run : SourceRunRow) : Decidable (store.probeKeeps run) := by
  unfold probeKeeps
  infer_instance

/-- The run that a login is required for, if one is named, stands against it. -/
def keepsConnection (store : WorkbenchStore) (user : WorkbenchUser) :
    Option (String × String) → Bool
  | none => false
  | some (sessionId, sourceRunId) =>
    match (store.sourceRunForUser user sessionId sourceRunId).filter (·.sourceKind = .liepin) with
    | none => true
    | some run => decide (store.probeKeeps run)

/-- `mark_liepin_connection_login_required`; `about` is the source run it is about, if both
    of its ids are given. -/
def markLiepinConnectionLoginRequired (user : WorkbenchUser) (connectionId : String)
    (about : Option (String × String)) : Transaction (Option SourceConnectionRow) := fun store =>
  match store.connectionOfUser user connectionId with
  | none => .ok (store, none)
  | some _ =>
    if store.keepsConnection user about then .ok (store, none)
    else
      let store := store.updateConnection connectionId
        (fun row => { row with status := .loginRequired }) fun _ => rfl
      .ok (store, store.sourceConnections.lookup connectionId)

def markLiepinConnectionConnectedForSourceRun (user : WorkbenchUser)
    (connectionId sessionId sourceRunId providerAccountHash : String)
    (complianceGateRef : Option String) : Transaction (Option SourceConnectionRow) := fun store =>
  match store.connectionOfUser user connectionId with
  | none => .ok (store, none)
  | some _ =>
    match (store.sourceRunForUser user sessionId sourceRunId).filter (·.sourceKind = .liepin) with
    | none => .ok (store, none)
    | some _ =>
      let store := store.connectConnection connectionId (some providerAccountHash)
        complianceGateRef
      let sourceRuns := store.sourceRuns.update
        (fun row => row.sourceRunId = sourceRunId ∧ row.sessionId = sessionId ∧
          row.sourceKind = .liepin ∧ row.status = .blocked)
        requeueSourceRun fun _ => rfl
      .ok ({ store with sourceRuns }, store.sourceConnections.lookup connectionId)

def markLiepinConnectionConnectedWithoutSourceRuns (user : WorkbenchUser) (connectionId : String)
    (providerAccountHash complianceGateRef : Option String) :
    Transaction (Option SourceConnectionRow) := fun store =>
  match store.connectionOfUser user connectionId with
  | none => .ok (store, none)
  | some _ =>
    let store := store.connectConnection connectionId providerAccountHash complianceGateRef
    .ok (store, store.sourceConnections.lookup connectionId)

end WorkbenchStore

end SeekTalent

import Mathlib.Data.Prod.Lex
import SeekTalent.Workbench.Store

/-!
# Requests to open a detail page

A request is made by the user, or by a card search that finds a candidate worth a look. It
is approved by the user, or made as approved under the policy of its session. What is
approved reserves one of the day's openings: a row of the ledger, leased for ten minutes.
-/

namespace SeekTalent

open Stateful (bind_eq_ok)

def detailOpenLeaseSeconds : Nat := 600

def liepinDailyDetailOpenLimit : Nat := 100

def liepinAutoDetailRequestLimit : Nat := 5

def liepinAutoDetailScoreThreshold : Nat := 55

def budgetDay (now : Instant) : Nat := now / 86400

/-- What a worker is told of the job it has claimed. -/
structure WorkbenchSourceRunJobContext where
  job : SourceRunJobRow
  session : SessionRow
  triage : RequirementTriageRow
  deriving DecidableEq

def WorkbenchSourceRunJobContext.user (context : WorkbenchSourceRunJobContext) : WorkbenchUser :=
  ⟨context.session.userId, context.session.workspaceId⟩

def detailIdempotencyKey (sessionId reviewItemId : String) (idempotencyKey : Option String) :
    String :=
  match boundedText idempotencyKey 128 with
  | some explicitKey =>
    if explicitKey = "" then sessionId ++ ":" ++ reviewItemId else sessionId ++ ":" ++ explicitKey
  | none => sessionId ++ ":" ++ reviewItemId

def DetailOpenMode.initialStatus : DetailOpenMode → DetailOpenRequestStatus
  | .humanConfirm => .pending
  | .bypassConfirm => .bypassed

namespace WorkbenchStore

/-! ## 1. What is looked up -/

/-- `_source_run_policy_row_conn`, with the mode `_source_run_policy_from_row` reads of it. -/
def detailOpenModeOf (store : WorkbenchStore) (user : WorkbenchUser) (sessionId : String) :
    DetailOpenMode :=
  match (store.sourceRunPolicies.lookup sessionId).filter fun row =>
      row.workspaceId = user.workspaceId ∧ row.userId = user.userId with
  | some row => row.detailOpenMode
  | none => .humanConfirm

/-- `_connected_liepin_connection_conn` -/
def connectedLiepinConnection (store : WorkbenchStore) (user : WorkbenchUser) :
    Option SourceConnectionRow :=
  (store.liepinConnectionForUser user).filter fun row =>
    row.status = .connected ∧ row.providerAccountHash ≠ none ∧ row.providerAccountHash ≠ some ""

/-- `_connected_liepin_connection_for_owner_conn`: here an account hash may be empty. -/
def connectedLiepinConnectionForOwner (store : WorkbenchStore) (owner : WorkbenchUser) :
    Option SourceConnectionRow :=
  store.sourceConnections.rows.find? fun row =>
    row.workspaceId = owner.workspaceId ∧ row.userId = owner.userId ∧ row.status = .connected ∧
      row.providerAccountHash ≠ none

/-- `CASE evidence_level WHEN 'detail' THEN 0 WHEN 'card' THEN 1 ELSE 2 END` -/
def evidenceLevelOrder : RuntimeEvidenceLevel → Nat
  | .detail => 0
  | .card => 1
  | .final => 2

/-- `_liepin_review_target_conn` -/
def liepinReviewTarget (store : WorkbenchStore) (user : WorkbenchUser)
    (sessionId reviewItemId : String) : Option CandidateEvidenceRow :=
  match (store.candidateReviewItems.lookup reviewItemId).filter fun item =>
      item.workspaceId = user.workspaceId ∧ item.userId = user.userId ∧
        item.sessionId = sessionId with
  | none => none
  | some item =>
    Py.minBy
      (fun row : CandidateEvidenceRow =>
        toLex (evidenceLevelOrder row.evidenceLevel,
          toLex (OrderDual.toDual row.createdAt, row.evidenceId)))
      (store.candidateEvidence.rows.filter fun row =>
        row.reviewItemId = item.reviewItemId ∧ row.sourceKind = .liepin)

def detailOpenRequestByKey (store : WorkbenchStore) (user : WorkbenchUser)
    (idempotencyKey : String) : Option DetailOpenRequestRow :=
  store.detailOpenRequests.rows.find? fun row =>
    row.workspaceId = user.workspaceId ∧ row.userId = user.userId ∧
      row.idempotencyKey = idempotencyKey

/-- `_detail_request_row_for_user_conn` -/
def detailRequestRowForUser (store : WorkbenchStore) (user : WorkbenchUser) (requestId : String) :
    Option DetailOpenRequestRow :=
  (store.detailOpenRequests.lookup requestId).filter fun row =>
    row.workspaceId = user.workspaceId ∧ row.userId = user.userId

/-! ## 2. The ledger -/

def hasActiveLease (store : WorkbenchStore) (connectionId : String) (now : Instant) : Bool :=
  store.detailOpenLedger.rows.any fun row =>
    row.connectionId = connectionId ∧ row.status = .leased ∧
      row.leaseExpiresAt.any fun expiry => now < expiry

def usedCount (store : WorkbenchStore) (connectionId : String) (day : Nat) : Nat :=
  (store.detailOpenLedger.rows.filter fun row =>
    row.connectionId = connectionId ∧ row.budgetDay = day ∧ row.status.Used).length

/-- The row violates one of the ledger's unique indexes: the idempotency key of an actor, and
    one leased row for each connection. -/
def ledgerConflict (store : WorkbenchStore) (new : DetailOpenLedgerRow) : Bool :=
  store.detailOpenLedger.rows.any fun row =>
    (row.workspaceId = new.workspaceId ∧ row.actorId = new.actorId ∧
      row.idempotencyKey = new.idempotencyKey) ∨
    (row.connectionId = new.connectionId ∧ row.status = .leased ∧ new.status = .leased)

/-- `INSERT INTO detail_open_ledger`, unless it raises an `IntegrityError`. -/
def insertLedgerRow (store : WorkbenchStore) (row : DetailOpenLedgerRow) :
    Option (Keyed DetailOpenLedgerRow.ledgerId) :=
  if store.ledgerConflict row then none else store.detailOpenLedger.insert row

/-- `UPDATE detail_open_requests SET … WHERE request_id = ?` -/
def updateRequest (store : WorkbenchStore) (requestId : String)
    (set : DetailOpenRequestRow → DetailOpenRequestRow)
    (hset : ∀ row, (set row).requestId = row.requestId) : WorkbenchStore :=
  { store with
    detailOpenRequests := store.detailOpenRequests.update
      (fun row => decide (row.requestId = requestId)) set hset }

theorem lookup_updateRequest {store : WorkbenchStore} {requestId id : String}
    {set : DetailOpenRequestRow → DetailOpenRequestRow}
    (hset : ∀ row, (set row).requestId = row.requestId) :
    (store.updateRequest requestId set hset).detailOpenRequests.lookup id =
      if id = requestId then (store.detailOpenRequests.lookup id).map set
      else store.detailOpenRequests.lookup id :=
  Keyed.lookup_update_key hset

/-- `_block_detail_open_request_conn` -/
def blockDetailOpenRequest (store : WorkbenchStore) (row : DetailOpenRequestRow)
    (reason : String) : WorkbenchStore :=
  let store := store.updateRequest row.requestId
    (fun request => { request with status := .blocked, blockedReason := some reason })
    fun _ => rfl
  store.updateSourceRun row.sourceRunId
    (fun run => { run with detailOpenBlockedCount := run.detailOpenBlockedCount + 1 })
    fun _ => rfl

def leaseRow (row : DetailOpenRequestRow) (ledgerId : String) (now : Instant) :
    DetailOpenLedgerRow where
  ledgerId
  workspaceId := row.workspaceId
  actorId := row.userId
  connectionId := row.connectionId
  sourceRunId := row.sourceRunId
  requestId := row.requestId
  candidateEvidenceId := row.candidateEvidenceId
  providerCandidateKeyHash := row.providerCandidateKeyHash
  budgetDay := budgetDay now
  idempotencyKey := row.idempotencyKey
  leaseExpiresAt := some (now + detailOpenLeaseSeconds)

def recordLease (store : WorkbenchStore) (row : DetailOpenRequestRow) (ledgerId : String) :
    WorkbenchStore :=
  let store := store.updateRequest row.requestId
    (fun request => { request with ledgerId := some ledgerId, blockedReason := none })
    fun _ => rfl
  store.updateSourceRun row.sourceRunId
    (fun run => { run with detailOpenUsedCount := run.detailOpenUsedCount + 1 })
    fun _ => rfl

/-- `_lease_liepin_detail_open_request_conn`, with the id that is drawn for a ledger row. It
    answers why the request is blocked. -/
def leaseLiepinDetailOpenRequest (store : WorkbenchStore) (requestId ledgerId : String)
    (now : Instant) : WorkbenchStore × Option String :=
  match store.detailOpenRequests.lookup requestId with
  | none => (store, some "detail_open_request_not_found")
  | some row =>
    if store.hasActiveLease row.connectionId now then
      (store.blockDetailOpenRequest row "active_detail_open_lease",
        some "active_detail_open_lease")
    else if liepinDailyDetailOpenLimit ≤ store.usedCount row.connectionId (budgetDay now) then
      (store.blockDetailOpenRequest row "detail_budget_exhausted", some "detail_budget_exhausted")
    else
      match store.insertLedgerRow (leaseRow row ledgerId now) with
      -- an expired lease that is still marked as leased
      | none =>
        (store.blockDetailOpenRequest row "active_detail_open_lease",
          some "active_detail_open_lease")
      | some detailOpenLedger =>
        ({ store with detailOpenLedger }.recordLease row ledgerId, none)

def reconcileExpiredDetailOpenLeases (now : Instant) : Transaction Unit := fun store =>
  let detailOpenLedger := store.detailOpenLedger.update
    (fun row => row.status = .leased ∧ row.leaseExpiresAt.any fun expiry => expiry ≤ now)
    (fun row => { row with status := .maybeUsed })
    fun _ => rfl
  .ok ({ store with detailOpenLedger }, ())

/-! ## 3. Requests -/

def updateLiepinSourceRunPolicy (user : WorkbenchUser) (sessionId : String)
    (mode : DetailOpenMode) : Transaction (Option DetailOpenMode) := fun store =>
  if store.sessionExistsForUser user sessionId then
    let sourceRunPolicies := store.sourceRunPolicies.insertOrUpdate
      { sessionId
        workspaceId := user.workspaceId
        userId := user.userId
        detailOpenMode := mode }
      (fun row => { row with detailOpenMode := mode })
      fun _ => rfl
    let store := { store with sourceRunPolicies }
    .ok (store, some (store.detailOpenModeOf user sessionId))
  else .ok (store, none)

/-- `create_liepin_detail_open_request`, after it has reconciled the leases, with the ids that
    are drawn. It answers the request, and why it was blocked; the caller is told of a block by
    an exception, but what was written stays. -/
def createLiepinDetailOpenRequest (user : WorkbenchUser) (sessionId reviewItemId : String)
    (idempotencyKey : Option String) (requestId ledgerId : String) (now : Instant) :
    Transaction (Option (DetailOpenRequestRow × Option String)) := fun store =>
  let safeIdempotencyKey := detailIdempotencyKey sessionId reviewItemId idempotencyKey
  match store.liepinReviewTarget user sessionId reviewItemId with
  | none => .ok (store, none)
  | some target =>
    if target.evidenceLevel = .detail then
      .error (.permissionError "detail_open_not_required")
    else
      match store.detailOpenRequestByKey user safeIdempotencyKey with
      | some existing => .ok (store, some (existing, none))
      | none =>
        match store.connectedLiepinConnection user with
        | none => .error (.permissionError "liepin_connection_not_connected")
        | some connection => do
          let mode := store.detailOpenModeOf user sessionId
          let row : DetailOpenRequestRow :=
            { requestId
              workspaceId := user.workspaceId
              userId := user.userId
              sessionId
              sourceRunId := target.sourceRunId
              connectionId := connection.connectionId
              candidateEvidenceId := target.evidenceId
              reviewItemId
              providerCandidateKeyHash := target.providerCandidateKeyHash
              detailOpenMode := mode
              status := mode.initialStatus
              idempotencyKey := safeIdempotencyKey }
          let detailOpenRequests ← insertOrRaise store.detailOpenRequests row
          let store := { store with detailOpenRequests }
          if mode = .bypassConfirm then
            let (store, blockedReason) := store.leaseLiepinDetailOpenRequest requestId ledgerId now
            return (store, (store.detailOpenRequests.lookup requestId).map (·, blockedReason))
          else return (store, some (row, none))

/-- `approve_liepin_detail_open_request`, after it has reconciled the leases, with the id that
    is drawn for a ledger row. -/
def approveLiepinDetailOpenRequest (user : WorkbenchUser) (requestId ledgerId : String)
    (now : Instant) : Transaction (Option (DetailOpenRequestRow × Option String)) := fun store =>
  match store.detailRequestRowForUser user requestId with
  | none => .ok (store, none)
  | some row =>
    if row.status ≠ .pending then
      .error (.permissionError "detail_open_request_not_approvable")
    else
      let store := store.updateRequest requestId
        (fun request => { request with status := .approved }) fun _ => rfl
      let (store, blockedReason) := store.leaseLiepinDetailOpenRequest requestId ledgerId now
      .ok (store, (store.detailOpenRequests.lookup requestId).map (·, blockedReason))

def rejectLiepinDetailOpenRequest (user : WorkbenchUser) (requestId : String) :
    Transaction (Option DetailOpenRequestRow) := fun store =>
  match store.detailRequestRowForUser user requestId with
  | none => .ok (store, none)
  | some row =>
    if row.status ≠ .pending then
      .error (.permissionError "detail_open_request_not_rejectable")
    else
      let store := store.updateRequest requestId
        (fun request => { request with status := .rejected }) fun _ => rfl
      .ok (store, store.detailOpenRequests.lookup requestId)

/-- `_create_auto_liepin_detail_open_request_conn`: it answers whether a request was made. -/
def createAutoLiepinDetailOpenRequest (store : WorkbenchStore)
    (context : WorkbenchSourceRunJobContext)
    (connectionId evidenceId reviewItemId providerKeyHash : String) (mode : DetailOpenMode)
    (requestId : String) : Except WorkbenchError (WorkbenchStore × Bool) :=
  let safeIdempotencyKey := detailIdempotencyKey context.session.sessionId reviewItemId
    (some ("auto-detail:" ++ reviewItemId))
  match store.detailOpenRequestByKey context.user safeIdempotencyKey with
  | some _ => .ok (store, false)
  | none => do
    let detailOpenRequests ← insertOrRaise store.detailOpenRequests
      { requestId
        workspaceId := context.session.workspaceId
        userId := context.session.userId
        sessionId := context.session.sessionId
        sourceRunId := context.job.sourceRunId
        connectionId
        candidateEvidenceId := evidenceId
        reviewItemId
        providerCandidateKeyHash := providerKeyHash
        detailOpenMode := mode
        status := mode.initialStatus
        idempotencyKey := safeIdempotencyKey }
    return ({ store with detailOpenRequests }, true)

end WorkbenchStore

end SeekTalent

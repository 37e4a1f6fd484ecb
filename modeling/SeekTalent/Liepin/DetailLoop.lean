import SeekTalent.Base.Proc
import SeekTalent.Liepin.DetailPlan
import SeekTalent.Liepin.DetailStore
import SeekTalent.Models

/-!
# Opening details

`execute_liepin_detail_open_plan` counts what the day has consumed, plans, reserves an
attempt for every opening, marks those not yet started as started and sends them to the
worker in one request. Then it settles the attempts by what the worker answers: an
exception or an answer with other keys makes all of them unknown, otherwise the results are
applied one after another, and the first that raises ends the call.

The worker may answer anything; `cancelled` is the call being cancelled while it waits.
-/

namespace SeekTalent

structure DetailApprovalPayload where
  tenantId : String
  workspaceId : String
  providerAccountHash : String
  connectionId : String
  providerDayKey : String
  candidateId : String
  idempotencyKey : String

/-- The encodings of `security.py`: JSON in URL-safe base 64, and the HMAC of a text. -/
structure ApprovalCodec where
  encodeJson : DetailApprovalPayload → String
  sign : (secret encodedPayload : String) → String

def issueDetailOpenApprovalKey (codec : ApprovalCodec) (secret : String)
    (payload : DetailApprovalPayload) : Except String String :=
  if secret = "" then .error "Liepin detail-open approval secret is required."
  else
    let encodedPayload := codec.encodeJson payload
    .ok ("detail-open:v1:" ++ encodedPayload ++ "." ++ codec.sign secret encodedPayload)

structure LiepinDetailOpenRequestItem where
  requestId : String
  attemptId : String
  idempotencyKey : String
  approvalKey : String
  candidateId : String
  detailUrl : Option String

structure LiepinDetailOpenRequest where
  tenantId : String
  workspaceId : String
  providerAccountHash : String
  connectionId : String
  providerDayKey : String
  workerCommandId : String
  requests : List LiepinDetailOpenRequestItem

inductive DetailOpenStatus where
  | completed
  | blockedByRiskControl
  | failedBeforeConsumption
  | failedAfterPossibleConsumption
  | unknown
  deriving DecidableEq

structure LiepinDetailWorkerDiagnostics where
  pageLoaded : Bool := false
  payloadSeen : Bool := false

structure LiepinWorkerCandidateDetail where
  providerSubjectId : Option String := none
  syntheticCandidateFingerprint : String
  /-- `sha256_json(payload)` -/
  payloadSha256 : String := ""

structure LiepinDetailOpenResult where
  idempotencyKey : String
  status : DetailOpenStatus
  workerResponseId : String
  workerCommandId : String
  rawEvidenceRef : Option String := none
  diagnostics : LiepinDetailWorkerDiagnostics := {}
  candidate : Option LiepinWorkerCandidateDetail := none

/-- What comes back from `open_details`. -/
inductive WorkerAnswer where
  | response (results : List LiepinDetailOpenResult)
  | exception (message : String)
  | cancelled

structure LiepinMappedCandidate where
  candidate : ResumeCandidate
  providerSnapshot : ProviderSnapshot

/-- The arguments of a call, and the random ids it draws. Mapping a completed result's
    candidate and handing it to `record_provider_return` may raise. -/
structure DetailOpenCall where
  scope : LiepinScope
  connectionId : String
  providerAccountHash : String
  budgetDate : String
  providerDayKey : String
  timezone : String
  dailyDetailBudget : Int
  codec : ApprovalCodec
  detailOpenApprovalSecret : String
  cardCandidates : List LiepinCardCandidate
  alreadyOpenedProviderIds : List String := []
  minCardValueScore : Rat := 0
  workerCommandId : String
  attemptIds : Nat → String
  mapDetail : LiepinDetailOpenResult → LiepinWorkerCandidateDetail →
    Except String LiepinMappedCandidate
  recordProviderReturn : LiepinMappedCandidate → Except String Unit

structure LiepinDetailOpenLoopResult where
  decisions : List LiepinDetailPlanDecision
  attempts : List LiepinDetailAttemptRow
  detailCandidates : List LiepinMappedCandidate

/-- A program on the store that talks to the worker. -/
abbrev DetailProc := Proc LiepinStore LiepinDetailOpenRequest WorkerAnswer String

namespace DetailOpenCall

variable (call : DetailOpenCall)

def budgetKey : LiepinStore.BudgetKey :=
  ⟨call.scope, call.providerAccountHash, call.providerDayKey⟩

/-- `candidate.stable_provider_id or candidate.candidate_id` -/
def candidateProviderId (candidate : LiepinCardCandidate) : String :=
  (candidate.stableProviderId.filter (· ≠ "")).getD candidate.candidateId

def idempotencyKey (candidate : LiepinCardCandidate) : String :=
  "open:" ++ candidateProviderId candidate

def reservation (candidate : LiepinCardCandidate) : DetailReservation :=
  { scope := call.scope
    providerAccountHash := call.providerAccountHash
    candidateProviderId := candidateProviderId candidate
    budgetDate := call.budgetDate
    providerDayKey := call.providerDayKey
    timezone := call.timezone
    idempotencyKey := idempotencyKey candidate }

def requestItem (candidate : LiepinCardCandidate) (attempt : LiepinDetailAttemptRow) :
    Except String (Option LiepinDetailOpenRequestItem) :=
  if attempt.state ≠ .approvedNotStarted then .ok none
  else (issueDetailOpenApprovalKey call.codec call.detailOpenApprovalSecret
    { tenantId := call.scope.tenantId
      workspaceId := call.scope.workspaceId
      providerAccountHash := call.providerAccountHash
      connectionId := call.connectionId
      providerDayKey := call.providerDayKey
      candidateId := candidateProviderId candidate
      idempotencyKey := idempotencyKey candidate }).map fun approvalKey =>
        some
          { requestId := "detail:" ++ candidate.candidateId
            attemptId := attempt.attemptId
            idempotencyKey := idempotencyKey candidate
            approvalKey
            candidateId := candidateProviderId candidate
            detailUrl := candidate.detailUrl }

/-- The loop that reserves: the attempts of the openings, and the items to send. `n` counts
    the ids drawn. -/
def reserveAll (selectedById : String → Option LiepinCardCandidate) : Nat →
    List LiepinDetailPlanDecision →
    DetailProc (List LiepinDetailAttemptRow × List LiepinDetailOpenRequestItem)
  | _, [] => pure ([], [])
  | n, decision :: rest =>
    if decision.action ≠ .openDetail then reserveAll selectedById n rest
    else match selectedById decision.candidateId with
      | none => .raise ("KeyError: " ++ decision.candidateId)
      | some candidate => do
        let attempt ← Proc.atomically
          (LiepinStore.reserveDetailAttempt (call.reservation candidate) (call.attemptIds n))
        match call.requestItem candidate attempt with
        | .error e => .raise e
        | .ok item =>
          let reserved ← reserveAll selectedById (n + 1) rest
          pure (attempt :: reserved.1, item.toList ++ reserved.2)

/-- `store.transition_detail_attempt` for an attempt of the call. -/
def transition (transition : DetailTransition) (attempt : LiepinDetailAttemptRow) :
    DetailProc Unit := do
  let _ ← Proc.atomically
    (LiepinStore.transitionDetailAttempt call.scope attempt.attemptId transition)
  pure ()

def selectedById (decisions : List LiepinDetailPlanDecision) (candidateId : String) :
    Option LiepinCardCandidate :=
  (((call.cardCandidates.zip decisions).filter (·.2.action = .openDetail)).reverse.find?
    (·.1.candidateId = candidateId)).map (·.1)

/-- What a call has prepared when it turns to the worker. -/
structure Prepared where
  decisions : List LiepinDetailPlanDecision
  attempts : List LiepinDetailAttemptRow
  items : List LiepinDetailOpenRequestItem

def Prepared.dispatchAttempts (prepared : Prepared) : List LiepinDetailAttemptRow :=
  prepared.attempts.filter (·.attemptId ∈ prepared.items.map (·.attemptId))

def request (prepared : Prepared) : LiepinDetailOpenRequest :=
  { tenantId := call.scope.tenantId
    workspaceId := call.scope.workspaceId
    providerAccountHash := call.providerAccountHash
    connectionId := call.connectionId
    providerDayKey := call.providerDayKey
    workerCommandId := call.workerCommandId
    requests := prepared.items }

def startTransition : DetailTransition :=
  { state := .started, consumptionState := .notConsumed,
    workerCommandId := some call.workerCommandId }

def unknownTransition (evidenceRef : String) : DetailTransition :=
  { state := .unknown, consumptionState := .possiblyConsumed,
    workerCommandId := some call.workerCommandId, rawEvidenceRef := some evidenceRef }

/-- Everything before the worker is contacted. -/
def prepare : DetailProc Prepared := do
  let consumed ← Proc.atomically fun store =>
    .ok (store, store.countDetailBudgetConsumed call.budgetKey)
  match buildDetailOpenPlan
    { alreadyOpenedProviderIds := call.alreadyOpenedProviderIds
      dailyDetailBudget := call.dailyDetailBudget
      consumedDetailBudget := consumed
      minCardValueScore := call.minCardValueScore } call.cardCandidates with
  | .error e => .raise e
  | .ok decisions =>
    let reserved ← call.reserveAll (call.selectedById decisions) 0 decisions
    let prepared : Prepared := ⟨decisions, reserved.1, reserved.2⟩
    Proc.forEach (call.transition call.startTransition) prepared.dispatchAttempts
    pure prepared

def diagnosticTransitions (result : LiepinDetailOpenResult) : List DetailTransition :=
  (if result.diagnostics.pageLoaded then [DetailAttemptState.providerPageLoaded] else []) ++
    (if result.diagnostics.payloadSeen then [DetailAttemptState.detailPayloadSeen] else [])
  |>.map fun state =>
    { state, consumptionState := .notConsumed,
      workerCommandId := some result.workerCommandId, rawEvidenceRef := result.rawEvidenceRef }

/-- The state a result's status stands for: `_terminal_state_for_worker_status`, and
    `completed`. -/
def terminalStateForWorkerStatus : DetailOpenStatus → DetailAttemptState × DetailConsumptionState
  | .completed => (.completed, .consumed)
  | .blockedByRiskControl => (.blockedByRiskControl, .notConsumed)
  | .failedBeforeConsumption => (.failedBeforeConsumption, .notConsumed)
  | .failedAfterPossibleConsumption => (.failedAfterPossibleConsumption, .possiblyConsumed)
  | .unknown => (.unknown, .possiblyConsumed)

/-- `store.apply_detail_worker_response` with the state of the result's status. -/
def applyStatus (attempt : LiepinDetailAttemptRow) (result : LiepinDetailOpenResult) :
    DetailProc Unit := do
  let terminal := terminalStateForWorkerStatus result.status
  let _ ← Proc.atomically
    (LiepinStore.applyDetailWorkerResponse call.scope attempt.attemptId result.workerResponseId
      { state := terminal.1, consumptionState := terminal.2,
        workerCommandId := some result.workerCommandId, rawEvidenceRef := result.rawEvidenceRef })
  pure ()

/-- A completed result: without a candidate the attempt becomes unknown and the call raises;
    with one, it is mapped and recorded before the attempt is. -/
def applyCompleted (attempt : LiepinDetailAttemptRow) (result : LiepinDetailOpenResult) :
    DetailProc (Option LiepinMappedCandidate) :=
  match result.candidate with
  | none => do
    call.transition
      { state := .unknown, consumptionState := .possiblyConsumed,
        workerCommandId := some result.workerCommandId,
        rawEvidenceRef := some ((result.rawEvidenceRef.filter (· ≠ "")).getD
          "worker:invalid-completed-detail-result-after-dispatch") }
      attempt
    .raise "completed Liepin detail result requires a candidate payload"
  | some detail =>
    match call.mapDetail result detail with
    | .error e => .raise e
    | .ok mapped =>
      match call.recordProviderReturn mapped with
      | .error e => .raise e
      | .ok () => do
        call.applyStatus attempt result
        pure (some mapped)

def applyWorkerDetailResult (attempt : LiepinDetailAttemptRow) (result : LiepinDetailOpenResult) :
    DetailProc (Option LiepinMappedCandidate) := do
  Proc.forEach (fun transition => call.transition transition attempt)
    (diagnosticTransitions result)
  if result.status = .completed then call.applyCompleted attempt result
  else do
    call.applyStatus attempt result
    pure none

def Prepared.attemptByKey (prepared : Prepared) (key : String) : Option LiepinDetailAttemptRow :=
  prepared.dispatchAttempts.reverse.find? (·.idempotencyKey = key)

def applyResults (prepared : Prepared) :
    List LiepinDetailOpenResult → DetailProc (List LiepinMappedCandidate)
  | [] => pure []
  | result :: rest =>
    match prepared.attemptByKey result.idempotencyKey with
    | none => .raise ("KeyError: " ++ result.idempotencyKey)
    | some attempt => do
      let mapped ← call.applyWorkerDetailResult attempt result
      let candidates ← applyResults prepared rest
      pure (mapped.toList ++ candidates)

def KeysMatch (expectedKeys : List String) (results : List LiepinDetailOpenResult) : Prop :=
  (results.map (·.idempotencyKey)).Nodup ∧
    (∀ result ∈ results, result.idempotencyKey ∈ expectedKeys) ∧
    ∀ key ∈ expectedKeys, key ∈ results.map (·.idempotencyKey)

instance (expectedKeys : List String) (results : List LiepinDetailOpenResult) :
    Decidable (KeysMatch expectedKeys results) :=
  inferInstanceAs (Decidable (_ ∧ _ ∧ _))

def markUnknown (prepared : Prepared) (evidenceRef : String) : DetailProc Unit :=
  Proc.forEach (call.transition (call.unknownTransition evidenceRef)) prepared.dispatchAttempts

def settle (prepared : Prepared) : WorkerAnswer → DetailProc LiepinDetailOpenLoopResult
  | .cancelled => .raise "CancelledError"
  | .exception message => do
    call.markUnknown prepared "worker:unknown-crash-after-dispatch"
    .raise message
  | .response results => do
    -- `_validate_worker_response_keys`
    if ¬KeysMatch (prepared.dispatchAttempts.map (·.idempotencyKey)) results then
      call.markUnknown prepared "worker:detail-response-mismatch-after-dispatch"
      .raise "Liepin detail worker response mismatch after dispatch."
    else
      let detailCandidates ← call.applyResults prepared results
      pure ⟨prepared.decisions, prepared.attempts, detailCandidates⟩

/-- `execute_liepin_detail_open_plan` -/
def execute : DetailProc LiepinDetailOpenLoopResult := do
  let prepared ← call.prepare
  if prepared.items = [] then pure ⟨prepared.decisions, prepared.attempts, []⟩
  else .send (call.request prepared) (.recv fun answer => call.settle prepared answer)

end DetailOpenCall

end SeekTalent

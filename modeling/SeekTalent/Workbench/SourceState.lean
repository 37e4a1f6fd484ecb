import SeekTalent.Base.Best
import SeekTalent.Workbench.LaneEvents

/-!
# What is shown of the sources of a session

The page of a session shows for each source the latest state of its lane runs. There is a row for
each lane run. The reader goes through the rows in the order of their ids and keeps the last one of
each source; what it shows of the coverage, and of the merges, it takes from the row that counts
most events among those that say anything about it.
-/

namespace SeekTalent

/-! ## 1. The rows -/

structure WorkbenchSourceRun extends SourceRunRow where
  warningCode : Option String

/-- The texts of `source_kind`. -/
def RuntimeSourceKind.column : RuntimeSourceKind → String
  | .cts => "cts"
  | .liepin => "liepin"

/-- `ORDER BY source_kind ASC, source_lane_run_id ASC` -/
def LatestStateRow.place (row : LatestStateRow) : String ×ₗ String :=
  toLex (row.sourceKind.column, row.sourceLaneRunId)

def listRuntimeSourceLaneLatestState (latest : Keyed LatestStateRow.key) (user : WorkbenchUser)
    (sessionId : String) : List LatestStateRow :=
  Py.sortedBy LatestStateRow.place
    (latest.rows.filter fun row =>
      row.tenantId = "local" ∧ row.workspaceId = user.workspaceId ∧ row.userId = user.userId ∧
        row.sessionId = sessionId)

/-- `latest_by_source.get(source_kind)`: a later state takes the place of an earlier one. -/
def latestBySource (states : List LatestStateRow) (kind : RuntimeSourceKind) :
    Option LatestStateRow :=
  (states.filter fun state => state.sourceKind = kind).getLast?

/-- `sorted(latest_states, key=lambda item: item.event_seq, reverse=True)` -/
def byEventSeq (states : List LatestStateRow) : List LatestStateRow :=
  Py.sortedBy (fun state => -state.eventSeq) states

/-! ## 2. What is read of a payload -/

/-- The interpreter's tables, with those that the routes read numbers by. -/
structure SourceStateLibrary extends EventLibrary where
  /-- `str.isdigit` of one character -/
  isDigit : Char → Bool

/-- `_safe_int`. A text of digits that `int` does not read raises. -/
def safeInt (lib : SourceStateLibrary) : Option Json → Except WorkbenchError (Option Int)
  | some (.number value) => .ok (if value.den = 1 then some value.num else none)
  | some (.string value) =>
    if value ≠ "" ∧ value.toList.all lib.isDigit then
      match lib.intOfText value with
      | some n => .ok (some n)
      | none => .error (.valueError "invalid literal for int() with base 10")
    else .ok none
  | _ => .ok none

def safeCount (lib : SourceStateLibrary) (value : Option Json) (fallback : Int) :
    Except WorkbenchError Int := do
  match ← safeInt lib value with
  | none => return fallback
  | some n => return max n 0

/-- The member, where it is a `dict`. -/
def dictMember (payload : JsonObject) (name : String) : Option JsonObject :=
  match payload.get name with
  | some (.object members) => some members
  | _ => none

/-- The member, where it is a text. `str` of anything else is in none of the sets that the routes
    look a text up in. -/
def textMember (payload : JsonObject) (name : String) : Option String :=
  (payload.get name).bind Json.text?

def runtimeSourceReasonCodes : List String :=
  ["blocked_backend_unavailable", "failed_provider_error", "login_required", "partial_timeout",
    "cancelled_by_user", "liepin_connection_not_connected", "liepin_browser_login_required",
    "liepin_browser_probe_unavailable", "liepin_browser_account_mismatch", "liepin_pi_disabled",
    "liepin_pi_command_missing", "liepin_pi_command_invalid", "liepin_pi_skill_missing",
    "liepin_pi_account_secret_missing", "liepin_pi_mcp_config_missing",
    "liepin_pi_mcp_config_invalid", "liepin_pi_mcp_adapter_missing",
    "liepin_pi_mcp_adapter_unavailable", "liepin_pi_dokobot_mcp_command_missing",
    "liepin_pi_dokobot_mcp_config_mismatch", "liepin_pi_dokobot_mcp_tool_names_missing",
    "liepin_pi_dokobot_mcp_missing", "liepin_pi_dokobot_tool_unobserved",
    "liepin_opencli_backend_disabled", "liepin_opencli_command_missing",
    "liepin_opencli_extension_disconnected", "liepin_opencli_status_unavailable",
    "liepin_opencli_forbidden_command", "liepin_opencli_forbidden_text",
    "liepin_opencli_host_blocked", "liepin_opencli_start_url_blocked",
    "liepin_opencli_window_policy_blocked", "liepin_opencli_budget_exhausted",
    "liepin_opencli_timeout", "liepin_opencli_login_required",
    "liepin_opencli_identity_intercept", "liepin_opencli_risk_page",
    "liepin_opencli_unknown_modal", "liepin_opencli_source_policy_missing",
    "liepin_opencli_malformed_state", "runtime_failed"]

def runtimeSourceReasonCode (values : List (Option String)) : Option String :=
  (values.map fun value => Py.strip (value.getD "")).find? (· ∈ runtimeSourceReasonCodes)

/-! ## 3. The state of a source -/

inductive RuntimeSourceDisplayStatus where
  | pending
  | running
  | completed
  | partially
  | blocked
  | failed
  | cancelled
  deriving DecidableEq

def RuntimeSourceDisplayStatus.ofText (status : String) : RuntimeSourceDisplayStatus :=
  match status with
  | "running" => .running
  | "completed" => .completed
  | "partial" => .partially
  | "blocked" => .blocked
  | "failed" => .failed
  | "cancelled" => .cancelled
  | _ => .pending

def SourceRunStatus.column : SourceRunStatus → String
  | .queued => "queued"
  | .blocked => "blocked"
  | .running => "running"
  | .completed => "completed"
  | .failed => "failed"

inductive RuntimeSourceDetailState where
  | detailRecommended
  | pendingApproval
  | leased
  | completed
  | blocked

def RuntimeSourceDetailState.ofText (value : String) : Option RuntimeSourceDetailState :=
  match value with
  | "detail_recommended" => some .detailRecommended
  | "pending_approval" => some .pendingApproval
  | "leased" => some .leased
  | "completed" => some .completed
  | "blocked" => some .blocked
  | _ => none

def RuntimeSourceDetailState.ofEventType (eventType : String) : Option RuntimeSourceDetailState :=
  match eventType with
  | "detail_recommended" => some .detailRecommended
  | "detail_leased" => some .leased
  | "detail_completed" => some .completed
  | "detail_blocked" => some .blocked
  | _ => none

def runtimeSourceDetailState (latest : Option LatestStateRow) : Option RuntimeSourceDetailState :=
  match latest with
  | none => none
  | some state =>
    if state.sourceKind ≠ .liepin then none
    else
      ((textMember state.payload "detail_state").bind RuntimeSourceDetailState.ofText).or
        (RuntimeSourceDetailState.ofEventType state.eventType)

/-- `WorkbenchRuntimeSourceLaneStateResponse` -/
structure RuntimeSourceLaneState where
  sourceKind : RuntimeSourceKind
  status : RuntimeSourceDisplayStatus
  reasonCode : Option String
  eventType : Option String
  eventSeq : Option Int
  cardsSeenCount : Int
  cardsFilteredCount : Int
  candidatesCount : Int
  detailRecommendationsCount : Int
  detailState : Option RuntimeSourceDetailState

/-- `_runtime_source_lane_state_response` -/
def runtimeSourceLaneState (lib : SourceStateLibrary) (run : WorkbenchSourceRun)
    (latest : Option LatestStateRow) : Except WorkbenchError RuntimeSourceLaneState := do
  let payload := latest.elim [] (·.payload)
  let safeCounts := (dictMember payload "safe_counts").getD []
  let status := latest.elim (some run.status.column) (·.status)
  let cardsSeenCount ← safeCount lib (safeCounts.get "cards_seen") run.cardsScannedCount
  let cardsFilteredCount ← safeCount lib (safeCounts.get "cards_filtered") 0
  let candidatesCount ← safeCount lib (safeCounts.get "candidates") run.uniqueCandidatesCount
  let detailRecommendationsCount ← safeCount lib (safeCounts.get "detail_recommendations") 0
  return {
    sourceKind := run.sourceKind
    status := .ofText (status.getD "")
    reasonCode := runtimeSourceReasonCode
      [textMember payload "safe_reason_code", textMember payload "blocked_reason_code",
        textMember payload "stop_reason_code", run.warningCode]
    eventType := latest.map (·.eventType)
    eventSeq := latest.map (·.eventSeq)
    cardsSeenCount
    cardsFilteredCount
    candidatesCount
    detailRecommendationsCount
    detailState := runtimeSourceDetailState latest }

/-! ## 4. The coverage and the merges -/

inductive RuntimeSourceCoverageStatus where
  | pending
  | complete
  | degraded
  | empty

def RuntimeSourceCoverageStatus.ofText (status : String) : Option RuntimeSourceCoverageStatus :=
  match status with
  | "complete" => some .complete
  | "degraded" => some .degraded
  | "empty" => some .empty
  | _ => none

def LatestStateRow.coverage? (state : LatestStateRow) : Option RuntimeSourceCoverageStatus :=
  ((dictMember state.payload "source_coverage_summary").bind fun coverage =>
    textMember coverage "status").bind RuntimeSourceCoverageStatus.ofText

/-- The row that the loop of `_runtime_source_coverage_fields` returns from. -/
def coverageState (states : List LatestStateRow) : Option LatestStateRow :=
  (byEventSeq states).find? fun state => state.coverage?.isSome

/-- `_runtime_source_coverage_fields`: the coverage, and the revision and its reason. -/
def runtimeSourceCoverageFields (lib : SourceStateLibrary) (runs : List WorkbenchSourceRun)
    (states : List LatestStateRow) (sources : List RuntimeSourceLaneState) :
    Except WorkbenchError (RuntimeSourceCoverageStatus × Option Int × Option String) :=
  match coverageState states with
  | some state => do
    let status := state.coverage?.getD .pending
    match dictMember state.payload "finalization_revision" with
    | none => return (status, none, none)
    | some finalization =>
      let revision ← safeInt lib (finalization.get "revision")
      let reason ← strOf lib.toEventLibrary ((finalization.get "reason_code").getD .null)
      return (status, revision, some reason)
  | none =>
    let shown (status : RuntimeSourceDisplayStatus) : Bool := sources.any (·.status = status)
    if shown .running ∨ shown .pending ∨ runs.any (·.status = .queued) then
      return (.pending, none, none)
    else if sources.all (·.status = .completed) then
      if sources.any (·.candidatesCount ≠ 0) then return (.complete, none, none)
      else return (.empty, none, none)
    else if shown .partially ∨ shown .blocked ∨ shown .failed ∨ shown .cancelled then
      return (.degraded, none, none)
    else return (.pending, none, none)

def firstMergeCount (lib : SourceStateLibrary) (key : String) :
    List LatestStateRow → Except WorkbenchError (Option Int)
  | [] => .ok none
  | state :: states =>
    match dictMember state.payload "merge_summary" with
    | none => firstMergeCount lib key states
    | some summary => do
      match ← safeInt lib (summary.get key) with
      | some value => return some (max value 0)
      | none => firstMergeCount lib key states

def firstCandidateIds : List LatestStateRow → Option Nat
  | [] => none
  | state :: states =>
    match (dictMember state.payload "finalization_revision").bind (·.get "candidate_identity_ids")
    with
    | some (.array candidateIds) => some candidateIds.length
    | _ => firstCandidateIds states

def runtimeSourceMergeCount (lib : SourceStateLibrary) (states : List LatestStateRow)
    (key : String) : Except WorkbenchError Int := do
  match ← firstMergeCount lib key (byEventSeq states) with
  | some value => return value
  | none =>
    if key = "canonical_resume_selected_count" then
      return (firstCandidateIds (byEventSeq states)).getD 0
    else return 0

/-- `WorkbenchRuntimeSourceStateResponse` -/
structure RuntimeSourceState where
  selectedSourceKinds : List RuntimeSourceKind
  coverageStatus : RuntimeSourceCoverageStatus
  finalizationRevision : Option Int
  finalizationReasonCode : Option String
  identityMergeCount : Int
  ambiguousDuplicateCount : Int
  canonicalResumeSelectedCount : Int
  sources : List RuntimeSourceLaneState

/-- `_runtime_source_state_response`, of the latest states that the store lists -/
def runtimeSourceStateResponse (lib : SourceStateLibrary) (runs : List WorkbenchSourceRun)
    (states : List LatestStateRow) : Except WorkbenchError RuntimeSourceState := do
  let sources ← runs.mapM fun run =>
    runtimeSourceLaneState lib run (latestBySource states run.sourceKind)
  let (coverageStatus, finalizationRevision, finalizationReasonCode) ←
    runtimeSourceCoverageFields lib runs states sources
  let identityMergeCount ← runtimeSourceMergeCount lib states "identity_merge_count"
  let ambiguousDuplicateCount ← runtimeSourceMergeCount lib states "ambiguous_duplicate_count"
  let canonicalResumeSelectedCount ←
    runtimeSourceMergeCount lib states "canonical_resume_selected_count"
  return {
    selectedSourceKinds := runs.map (·.sourceKind)
    coverageStatus
    finalizationRevision
    finalizationReasonCode
    identityMergeCount
    ambiguousDuplicateCount
    canonicalResumeSelectedCount
    sources }

end SeekTalent

import SeekTalent.Workbench.Events
import Mathlib.Data.Prod.Lex
import Mathlib.Algebra.Ring.Int.Defs
import Mathlib.Data.Int.Order.Basic

/-!
# Events of runtime source lanes

A lane run reports what it does in numbered events. One is stored for each idempotency key,
which is made of the lane run, the attempt and the number of the event; and
`runtime_source_lane_latest_state` has one row for each lane run, which is written again by
every event that is not older than what it shows.

Both happen in the transaction that completes the source run: an event that cannot be stored
takes the whole transaction with it.
-/

namespace SeekTalent

/-- What is outside: the tables of the interpreter, and how it reads and writes numbers. -/
structure EventLibrary extends WordTables where
  /-- `int(text)` -/
  intOfText : String → Option Int
  /-- `str(value)` of what is neither a text nor an integer -/
  strOther : Json → String

def maxStrDigits : Nat := 4300

section Values

variable (lib : EventLibrary)

/-- `str(value)` -/
def strOf : Json → Except WorkbenchError String
  | .string value => .ok value
  | .number value =>
    if value.den = 1 then
      if 10 ^ maxStrDigits ≤ value.num.natAbs then
        .error (.valueError "Exceeds the limit (4300 digits) for integer string conversion")
      else .ok (toString value.num)
    else .ok (lib.strOther (.number value))
  | value => .ok (lib.strOther value)

def intOrNone : Json → Option Int
  | .number value => if value.den = 1 then some value.num else none
  | .string value => lib.intOfText value
  | _ => none

/-- `_int_or_none(payload.get(name)) or 0` -/
def intField (payload : JsonObject) (name : String) : Int :=
  ((payload.get name).bind (intOrNone lib)).getD 0

/-- `_safe_candidate_text(payload.get(name), max_length)` of a member that is a text -/
def textField (payload : JsonObject) (name : String) (maxLength : Nat) : Option String :=
  ((payload.get name).bind Json.text?).map fun value =>
    safeCandidateText lib.toUnicodeTables value maxLength

end Values

/-- A row of `runtime_source_lane_latest_state`. -/
structure LatestStateRow where
  tenantId : String
  workspaceId : String
  userId : String
  sessionId : String
  sourceRunId : String
  sourceKind : RuntimeSourceKind
  runtimeRunId : Option String
  sourceLaneRunId : String
  attempt : Int
  eventSeq : Int
  eventType : String
  status : Option String
  payload : JsonObject
  updatedAt : String

def LatestStateRow.key (row : LatestStateRow) :
    String × String × String × String × String × String :=
  (row.tenantId, row.workspaceId, row.userId, row.sessionId, row.sourceRunId, row.sourceLaneRunId)

def LatestStateRow.order (row : LatestStateRow) : Int ×ₗ Int := toLex (row.attempt, row.eventSeq)

/-- The tables that an event of a lane run is written to. -/
structure LaneStore where
  log : EventLog := {}
  latest : Keyed LatestStateRow.key := {}

/-- The session and the source run whose job has ended. -/
structure LaneContext where
  workspaceId : String
  userId : String
  sessionId : String
  sourceRunId : String

/-! ## 1. Storing -/

def FitsInteger (n : Int) : Prop := -2 ^ 63 ≤ n ∧ n < 2 ^ 63

instance (n : Int) : Decidable (FitsInteger n) := inferInstanceAs (Decidable (_ ∧ _))

def LatestStateRow.overwrite (new old : LatestStateRow) : LatestStateRow :=
  { new with
    tenantId := old.tenantId
    workspaceId := old.workspaceId
    userId := old.userId
    sessionId := old.sessionId
    sourceRunId := old.sourceRunId
    sourceLaneRunId := old.sourceLaneRunId }

theorem LatestStateRow.key_overwrite (new old : LatestStateRow) :
    (new.overwrite old).key = old.key := rfl

section Store

variable (lib : EventLibrary)

def latestStateRow (context : LaneContext) (payload : JsonObject) (now : String) :
    LatestStateRow where
  tenantId := "local"
  workspaceId := context.workspaceId
  userId := context.userId
  sessionId := context.sessionId
  sourceRunId := context.sourceRunId
  sourceKind := .liepin
  runtimeRunId := textField lib payload "runtime_run_id" 256
  sourceLaneRunId := (textField lib payload "source_lane_run_id" 256).getD ""
  attempt := intField lib payload "attempt"
  eventSeq := intField lib payload "event_seq"
  eventType := nonemptyOr ((textField lib payload "event_type" 128).getD "") "unknown"
  status := textField lib payload "status" 64
  payload := Redaction.redactMembers lib.toUnicodeTables [] 0 payload
  updatedAt := now

/-- `_upsert_runtime_source_lane_latest_state_conn` -/
def upsertLatestState (latest : Keyed LatestStateRow.key) (context : LaneContext)
    (payload : JsonObject) (now : String) : Except WorkbenchError (Keyed LatestStateRow.key) :=
  let row := latestStateRow lib context payload now
  if row.sourceLaneRunId = "" then .ok latest
  else if (latest.lookup row.key).any fun existing => row.order < existing.order then .ok latest
  else if FitsInteger row.attempt ∧ FitsInteger row.eventSeq then
    .ok (latest.insertOrUpdate row row.overwrite row.key_overwrite)
  else .error (.valueError "Python int too large to convert to SQLite INTEGER")

/-- `SELECT * FROM session_events WHERE … AND idempotency_key = ?` -/
def EventLog.withKey (log : EventLog) (context : LaneContext) (key : String) :
    Option SessionEventRow :=
  log.rows.find? fun row =>
    row.tenantId = "local" ∧ row.workspaceId = context.workspaceId ∧
      row.userId = context.userId ∧ row.sessionId = some context.sessionId ∧
      row.idempotencyKey = some key

def storedEvent (log : EventLog) (context : LaneContext)
    (eventName schemaVersion key : String) (payload : JsonObject) (now : String) :
    Except WorkbenchError (SessionEventRow × EventLog) :=
  match log.withKey context key with
  | some existing => .ok (existing, log)
  | none =>
    let draft : EventDraft :=
      { tenantId := "local"
        workspaceId := context.workspaceId
        userId := context.userId
        sessionId := some context.sessionId
        sourceRunId := some context.sourceRunId
        sourceKind := some .liepin
        eventName := eventName
        payload := payload
        schemaVersion := schemaVersion
        idempotencyKey := some key }
    match appendWorkbenchEvent lib.toUnicodeTables log draft now with
    | .ok stored => .ok stored
    | .error .integrityError =>
      match log.withKey context key with
      | some existing => .ok (existing, log)
      | none => .error .integrityError
    | .error e => .error e

/-- `_append_runtime_source_lane_event_conn` -/
def appendRuntimeSourceLaneEvent (store : LaneStore) (context : LaneContext)
    (eventName schemaVersion idempotencyKey : String) (payload : JsonObject) (now : String) :
    Except WorkbenchError LaneStore := do
  let key := (boundedText (some idempotencyKey) 160).getD ""
  if key = "" then
    throw (.valueError "Runtime source lane event idempotency key is required.")
  let (event, log) ←
    storedEvent lib store.log context eventName schemaVersion key payload now
  let latest ← upsertLatestState lib store.latest context event.payload now
  return { log := log, latest := latest }

def runtimeSourceLaneEventPayload (event : JsonObject) : Option JsonObject :=
  if ["schema_version", "source_lane_run_id", "event_seq", "event_type", "attempt"].all
      fun name => (event.get name).isSome then
    some (Redaction.redactMembers lib.toUnicodeTables [] 0 event)
  else none

/-- An event of the lane's result, in `complete_liepin_card_source_run_with_lane_result`. -/
def storeLaneEvent (store : LaneStore) (context : LaneContext) (event : JsonObject)
    (now : String) : Except WorkbenchError LaneStore :=
  match runtimeSourceLaneEventPayload lib event with
  | none => .ok store
  | some payload => do
    let text (name : String) := strOf lib ((payload.get name).getD .null)
    let eventType ← text "event_type"
    let schemaVersion ← text "schema_version"
    let sourceLaneRunId ← text "source_lane_run_id"
    let attempt ← text "attempt"
    let eventSeq ← text "event_seq"
    appendRuntimeSourceLaneEvent lib store context ("runtime_" ++ eventType) schemaVersion
      (sourceLaneRunId ++ ":" ++ attempt ++ ":" ++ eventSeq) payload now

end Store

end SeekTalent

import SeekTalent.Workbench.Redaction
import SeekTalent.Workbench.Store

/-!
# Workbench events

The table `session_events`: an event is numbered over all sessions by the database and within
its session by the transaction that appends it. Rows are only added, but for the payload of a
note, which the transaction that added it completes. The readers of the event stream poll the
table with the number of the last event they have.

A payload is kept as the value that is written and read again; the order of its members is
not kept.
-/

namespace SeekTalent

/-- A row of `session_events`. -/
structure SessionEventRow where
  globalSeq : Nat
  tenantId : String
  workspaceId : String
  userId : String
  sessionId : Option String
  sessionSeq : Option Nat
  sourceRunId : Option String
  sourceKind : Option RuntimeSourceKind
  eventName : String
  schemaVersion : String
  idempotencyKey : Option String
  payload : JsonObject
  occurredAt : String
  createdAt : String

structure WorkbenchEvent where
  globalSeq : Nat
  sessionSeq : Option Nat
  sessionId : Option String
  sourceRunId : Option String
  sourceKind : Option RuntimeSourceKind
  eventName : String
  schemaVersion : String
  idempotencyKey : Option String
  payload : JsonObject
  occurredAt : String
  createdAt : String

/-- `value or default` of a text -/
def nonemptyOr (value default : String) : String := if value = "" then default else value

def eventFromRow (row : SessionEventRow) : WorkbenchEvent where
  globalSeq := row.globalSeq
  sessionSeq := row.sessionSeq
  sessionId := row.sessionId
  sourceRunId := row.sourceRunId
  sourceKind := row.sourceKind
  eventName := row.eventName
  schemaVersion := nonemptyOr row.schemaVersion "workbench_event_v1"
  idempotencyKey := row.idempotencyKey
  payload := row.payload
  occurredAt := nonemptyOr row.occurredAt row.createdAt
  createdAt := row.createdAt

/-- The table, with the last number the database has given to a row. -/
structure EventLog where
  rows : List SessionEventRow := []
  lastSeq : Nat := 0

/-! ## 1. Appending -/

/-- The names under which `idx_session_events_runtime_source_lane_idempotency` compares. -/
def runtimeSourceLaneEventNames : List String :=
  ["runtime_source_plan_created", "runtime_source_lane_started", "runtime_source_lane_completed",
    "runtime_source_lane_blocked", "runtime_source_lane_partial", "runtime_source_lane_failed",
    "runtime_source_lane_cancelled", "runtime_detail_recommended", "runtime_detail_approved",
    "runtime_detail_leased", "runtime_detail_completed", "runtime_detail_blocked"]

def SameIndex (name name' : String) : Prop :=
  (name = "workbench_note_created" ∧ name' = "workbench_note_created") ∨
    (name ∈ runtimeSourceLaneEventNames ∧ name' ∈ runtimeSourceLaneEventNames)

instance (name name' : String) : Decidable (SameIndex name name') :=
  inferInstanceAs (Decidable (_ ∨ _))

/-- The rows agree in the columns of the unique indexes; a missing value agrees with none. -/
def SessionEventRow.Conflicts (row row' : SessionEventRow) : Prop :=
  SameIndex row.eventName row'.eventName ∧ row.tenantId = row'.tenantId ∧
    row.workspaceId = row'.workspaceId ∧ row.userId = row'.userId ∧
    row.sessionId.isSome ∧ row.sessionId = row'.sessionId ∧
    row.idempotencyKey.isSome ∧ row.idempotencyKey = row'.idempotencyKey

instance (row row' : SessionEventRow) : Decidable (row.Conflicts row') :=
  inferInstanceAs (Decidable (_ ∧ _ ∧ _ ∧ _ ∧ _ ∧ _ ∧ _ ∧ _))

/-- `tenant_id = ? AND workspace_id = ? AND session_id = ?` -/
def SessionEventRow.inSession (tenantId workspaceId sessionId : String)
    (row : SessionEventRow) : Bool :=
  row.tenantId = tenantId ∧ row.workspaceId = workspaceId ∧ row.sessionId = some sessionId

/-- `SELECT COALESCE(MAX(session_seq), 0) + 1` -/
def EventLog.nextSessionSeq (log : EventLog) (tenantId workspaceId sessionId : String) : Nat :=
  ((log.rows.filter (·.inSession tenantId workspaceId sessionId)).filterMap
    (·.sessionSeq)).foldl max 0 + 1

/-- The arguments of `_append_workbench_event_conn`. -/
structure EventDraft where
  tenantId : String
  workspaceId : String
  userId : String
  sessionId : Option String
  sourceRunId : Option String
  sourceKind : Option RuntimeSourceKind
  eventName : String
  payload : JsonObject
  schemaVersion : String := "workbench_event_v1"
  idempotencyKey : Option String := none
  occurredAt : Option String := none

def maxRowid : Nat := 2 ^ 63 - 1

/-- `INSERT INTO session_events`: the database numbers the row. -/
def EventLog.insert (log : EventLog) (row : Nat → SessionEventRow) :
    Except WorkbenchError (SessionEventRow × EventLog) :=
  if log.lastSeq ≥ maxRowid then .error (.runtimeError "database or disk is full")
  else
    let new := row (log.lastSeq + 1)
    if log.rows.any fun old => old.Conflicts new then .error .integrityError
    else .ok (new, { rows := log.rows ++ [new], lastSeq := log.lastSeq + 1 })

section Append

variable (tables : Py.UnicodeTables)

/-- The row that an event becomes, but for the number the database gives it. -/
def EventDraft.row (draft : EventDraft) (log : EventLog) (now : String) (globalSeq : Nat) :
    SessionEventRow where
  globalSeq := globalSeq
  tenantId := draft.tenantId
  workspaceId := draft.workspaceId
  userId := draft.userId
  sessionId := draft.sessionId
  sessionSeq := draft.sessionId.map (log.nextSessionSeq draft.tenantId draft.workspaceId)
  sourceRunId := draft.sourceRunId
  sourceKind := draft.sourceKind
  eventName := draft.eventName
  schemaVersion := nonemptyOr ((boundedText (some draft.schemaVersion) 80).getD "") "workbench_event_v1"
  idempotencyKey := boundedText draft.idempotencyKey 160
  payload := Redaction.redactMembers tables [] 0 draft.payload
  occurredAt := nonemptyOr ((boundedText draft.occurredAt 80).getD "") now
  createdAt := now

/-- `_append_workbench_event_conn` -/
def appendWorkbenchEvent (log : EventLog) (draft : EventDraft) (now : String) :
    Except WorkbenchError (SessionEventRow × EventLog) :=
  log.insert (draft.row tables log now)

/-! ## 2. Notes -/

/-- `_safe_candidate_text` of a text -/
def safeCandidateText (value : String) (maxLength : Nat) : String :=
  (boundedText (some (Redaction.redactText tables (Py.strip value))) maxLength).getD ""

def noteStatusHints : List String :=
  ["new_progress", "waiting", "human_action_required", "completed", "failed", "canceled",
    "unknown"]

def noteKinds : List String := ["progress", "waiting", "human_action", "terminal"]

/-- `_workbench_note_status_hint` and `_workbench_note_kind`: the text, if it is one of some. -/
def oneOfTexts (texts : List String) (default value : String) : String :=
  let text := (boundedText (some value) 64).getD ""
  if text ∈ texts then text else default

/-- The arguments of `try_append_workbench_note`, and whether the user has the session. -/
structure NoteDraft where
  user : WorkbenchUser
  sessionId : String
  sessionExists : Bool
  idempotencyKey : String
  text : String
  statusHint : String
  noteKind : String
  noteId : String

/-- `WorkbenchNoteCreatedPayload` -/
def NoteDraft.payload (note : NoteDraft) (now : String) (eventSeq : Nat) : JsonObject :=
  [("eventSeq", .number eventSeq), ("noteId", .string note.noteId),
    ("text", .string (safeCandidateText tables note.text 5000)),
    ("statusHint", .string (oneOfTexts noteStatusHints "unknown" note.statusHint)),
    ("noteKind", .string (oneOfTexts noteKinds "progress" note.noteKind)),
    ("createdAt", .string now)]

/-- `_workbench_note_event_by_idempotency_conn` -/
def EventLog.noteWithKey (log : EventLog) (note : NoteDraft) (key : String) :
    Option SessionEventRow :=
  log.rows.find? fun row =>
    row.tenantId = "local" ∧ row.workspaceId = note.user.workspaceId ∧
      row.userId = note.user.userId ∧ row.sessionId = some note.sessionId ∧
      row.eventName = "workbench_note_created" ∧ row.idempotencyKey = some key

/-- `UPDATE session_events SET payload_redacted_json = ? WHERE global_seq = ?` -/
def EventLog.setPayload (log : EventLog) (globalSeq : Nat) (payload : JsonObject) : EventLog :=
  { log with
    rows := Table.updateWhere (fun row => row.globalSeq = globalSeq)
      (fun row => { row with payload := payload }) log.rows }

/-- `try_append_workbench_note` inside its transaction: the payload gets the number of the
    event once the event has one. -/
def tryAppendWorkbenchNote (log : EventLog) (note : NoteDraft) (now : String) :
    Except WorkbenchError EventLog := do
  let key := (boundedText (some note.idempotencyKey) 160).getD ""
  if key = "" then throw (.valueError "Workbench note idempotency key is required.")
  match log.noteWithKey note key with
  | some _ => return log
  | none =>
    if !note.sessionExists then throw (.valueError "Workbench session does not exist.")
    let draft : EventDraft :=
      { tenantId := "local"
        workspaceId := note.user.workspaceId
        userId := note.user.userId
        sessionId := some note.sessionId
        sourceRunId := none
        sourceKind := none
        eventName := "workbench_note_created"
        payload := note.payload tables now 0
        schemaVersion := "workbench_note_v1"
        idempotencyKey := some key
        occurredAt := some now }
    let (event, log) ← appendWorkbenchEvent tables log draft now
    return log.setPayload event.globalSeq (note.payload tables now event.globalSeq)

end Append

/-! ## 3. Reading -/

/-- `min(max(limit, 1), 200)` -/
def safeLimit (limit : Int) : Nat := (min (max limit 1) 200).toNat

/-- `SELECT * … ORDER BY global_seq ASC LIMIT ?` -/
def EventLog.select (log : EventLog) (matching : SessionEventRow → Bool) (limit : Int) :
    List WorkbenchEvent :=
  ((Py.sortedBy (·.globalSeq) (log.rows.filter matching)).take (safeLimit limit)).map eventFromRow

def listWorkbenchEvents (log : EventLog) (user : WorkbenchUser) (afterSeq limit : Int) :
    List WorkbenchEvent :=
  log.select
    (fun row => row.workspaceId = user.workspaceId ∧ row.userId = user.userId ∧
      max afterSeq 0 < row.globalSeq) limit

def listSessionWorkbenchEvents (log : EventLog) (user : WorkbenchUser) (sessionId : String)
    (afterSeq limit : Int) : List WorkbenchEvent :=
  log.select
    (fun row => row.workspaceId = user.workspaceId ∧ row.userId = user.userId ∧
      row.sessionId = some sessionId ∧ max afterSeq 0 < row.globalSeq) limit

/-- A reader of the stream: `sequence` is the last number it has, and `received` the events
    it has been given. -/
structure EventReader where
  user : WorkbenchUser
  workbenchSessionId : Option String
  sequence : Int
  received : List WorkbenchEvent

/-- A round of the loop in `_event_generator`, with any limit. -/
def EventReader.poll (reader : EventReader) (log : EventLog) (limit : Int) : EventReader :=
  let events := match reader.workbenchSessionId with
    | none => listWorkbenchEvents log reader.user reader.sequence limit
    | some sessionId =>
      listSessionWorkbenchEvents log reader.user sessionId reader.sequence limit
  { reader with
    sequence := events.foldl (fun _ event => event.globalSeq) reader.sequence
    received := reader.received ++ events }

end SeekTalent

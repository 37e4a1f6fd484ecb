import SeekTalent.Workbench.EventStream
import SeekTalent.Workbench.LaneEvents

/-!
# Runs of lane events

Transactions that deliver events of lane runs, any events in any order and as often as one
likes, among other events that carry no key. The idempotency key of an event is cut off after
160 characters, so two events are one to the table when their keys begin alike. As long as
different events have keys that differ there (`KeysApart`), one event is stored for each, and
each lane run shows the latest of its events.
-/

namespace SeekTalent

open Redaction (quiet)

/-! ## 1. Events -/

/-- `f"job_{uuid.uuid4().hex[:16]}"` -/
@[ext] structure JobId where
  digits : List Char
  length_eq : digits.length = 16
  hex : ∀ c ∈ digits, c ∈ "0123456789abcdef".toList

def JobId.text (job : JobId) : String := "job_" ++ String.ofList job.digits

def JobId.laneRunId (job : JobId) : String := job.text ++ ":lane:liepin:card"

/-- The payload of an event: a `dict` with the members that are required, of which these three
    tell which event it is. -/
structure LaneEvent where
  job : JobId
  attempt : Int
  eventSeq : Int
  payload : JsonObject
  nodup_keys : (payload.map (·.1)).Nodup
  get_lane : payload.get "source_lane_run_id" = some (.string job.laneRunId)
  get_attempt : payload.get "attempt" = some (.number attempt)
  get_eventSeq : payload.get "event_seq" = some (.number eventSeq)
  complete : (payload.get "schema_version").isSome ∧ (payload.get "event_type").isSome

def LaneEvent.triple (event : LaneEvent) : String × Int × Int :=
  (event.job.laneRunId, event.attempt, event.eventSeq)

def LaneEvent.key (event : LaneEvent) : String :=
  event.job.laneRunId ++ ":" ++ toString event.attempt ++ ":" ++ toString event.eventSeq

def LaneEvent.storedKey (event : LaneEvent) : String := String.ofList (event.key.toList.take 160)

section Event

theorem toList_laneRunId (job : JobId) :
    job.laneRunId.toList = "job_".toList ++ job.digits ++ ":lane:liepin:card".toList := by
  simp [JobId.laneRunId, JobId.text]

theorem length_laneRunId (job : JobId) : job.laneRunId.toList.length = 37 := by
  simp [toList_laneRunId, job.length_eq]

theorem laneRunId_inj {job job' : JobId} (h : job.laneRunId = job'.laneRunId) : job = job' := by
  have hlist := congrArg String.toList h
  rw [toList_laneRunId, toList_laneRunId] at hlist
  ext1
  exact List.append_cancel_left (List.append_cancel_right hlist)

theorem quiet_laneRunId (job : JobId) : ∀ c ∈ job.laneRunId.toList, quiet c = true := by
  have hhex : ("0123456789abcdef".toList.all quiet) = true := by decide
  have hends : (("job_".toList ++ ":lane:liepin:card".toList).all quiet) = true := by
    decide
  intro c hc
  rw [toList_laneRunId] at hc
  rcases List.mem_append.mp hc with hc | hc
  · rcases List.mem_append.mp hc with hc | hc
    · exact List.all_eq_true.mp hends c (List.mem_append_left _ hc)
    · exact List.all_eq_true.mp hhex c (job.hex c hc)
  · exact List.all_eq_true.mp hends c (List.mem_append_right _ hc)

theorem isSpace_eq_false_of_quiet {c : Char} (h : quiet c = true) : Py.isSpace c = false := by
  rw [Bool.eq_false_iff]
  intro hspace
  rw [Redaction.quiet_eq_false_of_isSpace hspace] at h
  cases h

theorem mem_toString_int {n : Int} {c : Char} (h : c ∈ (toString n).toList) :
    c.isDigit = true ∨ c = '-' := by
  rw [Int.toString_eq_repr, Int.repr_eq_if] at h
  split at h
  · rw [Nat.toList_repr] at h
    exact .inl (Nat.isDigit_of_mem_toDigits (by decide) (by decide) h)
  · rw [String.toList_append, Nat.toList_repr] at h
    rcases List.mem_append.mp h with h | h
    · right
      simpa using h
    · exact .inl (Nat.isDigit_of_mem_toDigits (by decide) (by decide) h)

theorem toNat_digit {c : Char} (h : c.isDigit = true) : 0x30 ≤ c.toNat ∧ c.toNat ≤ 0x39 := by
  delta Char.isDigit at h
  simpa [UInt32.le_iff_toNat_le] using h

theorem isSpace_eq_false_of_mem_toString {n : Int} {c : Char} (h : c ∈ (toString n).toList) :
    Py.isSpace c = false := by
  rcases mem_toString_int h with hdigit | rfl
  · have hrange := toNat_digit hdigit
    rw [Bool.eq_false_iff]
    intro hspace
    simp [Py.isSpace] at hspace
    omega
  · rfl

theorem isSpace_key (event : LaneEvent) : ∀ c ∈ event.key.toList, Py.isSpace c = false := by
  intro c hc
  simp only [LaneEvent.key, String.toList_append, List.mem_append] at hc
  rcases hc with (((hc | hc) | hc) | hc) | hc
  · exact isSpace_eq_false_of_quiet (quiet_laneRunId event.job c hc)
  · obtain rfl : c = ':' := by simpa using hc
    rfl
  · exact isSpace_eq_false_of_mem_toString hc
  · obtain rfl : c = ':' := by simpa using hc
    rfl
  · exact isSpace_eq_false_of_mem_toString hc

theorem boundedText_key (event : LaneEvent) :
    boundedText (some event.key) 160 = some event.storedKey := by
  simp [boundedText, Py.strip_eq_self (isSpace_key event), LaneEvent.storedKey]

theorem boundedText_storedKey (event : LaneEvent) :
    boundedText (some event.storedKey) 160 = some event.storedKey := by
  have hspace : ∀ c ∈ event.storedKey.toList, Py.isSpace c = false := by
    intro c hc
    apply isSpace_key event
    apply List.mem_of_mem_take (i := 160)
    simpa [LaneEvent.storedKey] using hc
  unfold boundedText
  rw [Option.map_some, Py.strip_eq_self hspace]
  simp [LaneEvent.storedKey, List.take_take]

theorem storedKey_ne_empty (event : LaneEvent) : event.storedKey ≠ "" := by
  intro h
  have hlist := congrArg String.toList h
  have hlength := congrArg List.length hlist
  simp [LaneEvent.storedKey, LaneEvent.key] at hlength

/-! ## 2. What is read from an event -/

variable {lib : EventLibrary}

theorem containsForbiddenKey_required : ∀ name ∈ ["schema_version", "source_lane_run_id",
    "event_seq", "event_type", "attempt"],
    Redaction.containsForbiddenKey Py.UnicodeTables.ascii name = false := by
  decide

theorem get_redactMembers_lane {members : JsonObject} {name : String}
    (hname : name ∈ ["source_lane_run_id", "attempt", "event_seq"])
    (hnodup : (members.map (·.1)).Nodup) :
    JsonObject.get (Redaction.redactMembers lib.toUnicodeTables [] 0 members) name =
      (members.get name).map (Redaction.redactEventPayload lib.toUnicodeTables) := by
  have hascii : ∀ name ∈ ["source_lane_run_id", "attempt", "event_seq"],
      (∀ c ∈ name.toList, c.toNat < 0x80) ∧ name.toList.head? ≠ some 'r' := by
    have hall : (["source_lane_run_id", "attempt", "event_seq"].all fun name =>
        name.toList.all (fun c => decide (c.toNat < 0x80)) &&
          decide (name.toList.head? ≠ some 'r')) = true := by
      decide
    intro name hname
    simpa using List.all_eq_true.mp hall name hname
  have hrequired : name ∈ ["schema_version", "source_lane_run_id", "event_seq", "event_type",
      "attempt"] := by
    simp only [List.mem_cons, List.not_mem_nil, or_false] at hname
    rcases hname with rfl | rfl | rfl
    all_goals simp
  obtain ⟨hplain, hhead⟩ := hascii name hname
  have hkey : Redaction.containsForbiddenKey lib.toUnicodeTables name = false := by
    rw [Redaction.containsForbiddenKey_ascii hplain]
    exact containsForbiddenKey_required name hrequired
  rw [Redaction.get_redactMembers hkey (Redaction.ne_numbered hhead) hnodup]
  simp [JsonObject.get]

def LaneEvent.redacted (lib : EventLibrary) (event : LaneEvent) : JsonObject :=
  Redaction.redactMembers lib.toUnicodeTables [] 0 event.payload

def LaneEvent.stored (lib : EventLibrary) (event : LaneEvent) : JsonObject :=
  Redaction.redactMembers lib.toUnicodeTables [] 0 (event.redacted lib)

theorem redact_laneRunId (job : JobId) :
    Redaction.redactEventPayload lib.toUnicodeTables (.string job.laneRunId) =
      .string job.laneRunId := by
  unfold Redaction.redactEventPayload
  rw [Redaction.redactText_quiet lib.toWordTables (quiet_laneRunId job)]

theorem redact_number (n : ℚ) :
    Redaction.redactEventPayload lib.toUnicodeTables (.number n) = .number n := by
  unfold Redaction.redactEventPayload
  rfl

theorem get_redacted (lib : EventLibrary) (event : LaneEvent) :
    (event.redacted lib).get "source_lane_run_id" = some (.string event.job.laneRunId) ∧
      (event.redacted lib).get "attempt" = some (.number event.attempt) ∧
      (event.redacted lib).get "event_seq" = some (.number event.eventSeq) := by
  unfold LaneEvent.redacted
  refine ⟨?_, ?_, ?_⟩
  · rw [get_redactMembers_lane (by simp) event.nodup_keys, event.get_lane, Option.map_some,
      redact_laneRunId]
  · rw [get_redactMembers_lane (by simp) event.nodup_keys, event.get_attempt, Option.map_some,
      redact_number]
  · rw [get_redactMembers_lane (by simp) event.nodup_keys, event.get_eventSeq, Option.map_some,
      redact_number]

theorem get_stored (lib : EventLibrary) (event : LaneEvent) :
    (event.stored lib).get "source_lane_run_id" = some (.string event.job.laneRunId) ∧
      (event.stored lib).get "attempt" = some (.number event.attempt) ∧
      (event.stored lib).get "event_seq" = some (.number event.eventSeq) := by
  obtain ⟨hlane, hattempt, heventSeq⟩ := get_redacted lib event
  have hnodup : ((event.redacted lib).map (·.1)).Nodup :=
    Redaction.nodup_keys_redactMembers List.nodup_nil
  unfold LaneEvent.stored
  refine ⟨?_, ?_, ?_⟩
  · rw [get_redactMembers_lane (by simp) hnodup, hlane, Option.map_some, redact_laneRunId]
  · rw [get_redactMembers_lane (by simp) hnodup, hattempt, Option.map_some, redact_number]
  · rw [get_redactMembers_lane (by simp) hnodup, heventSeq, Option.map_some, redact_number]

def tripleOf (lib : EventLibrary) (payload : JsonObject) : Option (String × Int × Int) :=
  match (payload.get "source_lane_run_id").bind Json.text?,
      (payload.get "attempt").bind (intOrNone lib), (payload.get "event_seq").bind (intOrNone lib)
  with
  | some lane, some attempt, some eventSeq => some (lane, attempt, eventSeq)
  | _, _, _ => none

theorem intOrNone_int (n : Int) : intOrNone lib (.number n) = some n := by
  simp [intOrNone]

theorem tripleOf_stored (event : LaneEvent) :
    tripleOf lib (event.stored lib) = some event.triple := by
  obtain ⟨hlane, hattempt, heventSeq⟩ := get_stored lib event
  unfold tripleOf
  rw [hlane, hattempt, heventSeq, Option.bind_some, Option.bind_some, Option.bind_some,
    intOrNone_int, intOrNone_int]
  rfl

theorem latestStateRow_stored (lib : EventLibrary) (context : LaneContext) (event : LaneEvent) (now : String) :
    (latestStateRow lib context (event.stored lib) now).sourceLaneRunId = event.job.laneRunId ∧
      (latestStateRow lib context (event.stored lib) now).attempt = event.attempt ∧
      (latestStateRow lib context (event.stored lib) now).eventSeq = event.eventSeq := by
  obtain ⟨hlane, hattempt, heventSeq⟩ := get_stored lib event
  unfold latestStateRow
  refine ⟨?_, ?_, ?_⟩
  · have hquiet := quiet_laneRunId event.job
    have hstrip : Py.strip event.job.laneRunId = event.job.laneRunId :=
      Py.strip_eq_self fun c hc => isSpace_eq_false_of_quiet (hquiet c hc)
    have htake : event.job.laneRunId.toList.take 256 = event.job.laneRunId.toList := by
      apply List.take_of_length_le
      rw [length_laneRunId]
      decide
    simp only [textField, hlane, Option.bind_some, Json.text?, Option.map_some, Option.getD_some,
      safeCandidateText, hstrip, Redaction.redactText_quiet lib.toWordTables hquiet,
      boundedText, htake, String.ofList_toList]
  · simp only [intField, hattempt, Option.bind_some, intOrNone_int, Option.getD_some]
  · simp only [intField, heventSeq, Option.bind_some, intOrNone_int, Option.getD_some]

end Event

/-! ## 3. Deliveries -/

/-- An event that the job of a session's source run delivers. -/
structure Delivery where
  workspaceId : String
  userId : String
  sessionId : String
  event : LaneEvent
  now : String

def Delivery.scope (d : Delivery) : String × String × String := (d.workspaceId, d.userId, d.sessionId)

def Delivery.order (d : Delivery) : Int ×ₗ Int := toLex (d.event.attempt, d.event.eventSeq)

/-- The context of the delivery; a job belongs to one source run. -/
def Delivery.context (sourceRunOf : JobId → String) (d : Delivery) : LaneContext where
  workspaceId := d.workspaceId
  userId := d.userId
  sessionId := d.sessionId
  sourceRunId := sourceRunOf d.event.job

def Delivery.laneKey (sourceRunOf : JobId → String) (d : Delivery) :
    String × String × String × String × String × String :=
  ("local", d.workspaceId, d.userId, d.sessionId, sourceRunOf d.event.job, d.event.job.laneRunId)

def Delivery.Has (d : Delivery) (row : SessionEventRow) : Prop :=
  row.tenantId = "local" ∧ row.workspaceId = d.workspaceId ∧ row.userId = d.userId ∧
    row.sessionId = some d.sessionId ∧ row.idempotencyKey = some d.event.storedKey

section Deliver

variable {lib : EventLibrary} {sourceRunOf : JobId → String} {store store' : LaneStore}
  {d : Delivery}

theorem upsertLatestState_spec {latest latest' : Keyed LatestStateRow.key} {context : LaneContext}
    {payload : JsonObject} {now : String}
    (hlane : (latestStateRow lib context payload now).sourceLaneRunId ≠ "")
    (h : upsertLatestState lib latest context payload now = .ok latest') :
    let row := latestStateRow lib context payload now
    (∀ k, k ≠ row.key → latest'.lookup k = latest.lookup k) ∧
      ((∃ existing, latest.lookup row.key = some existing ∧ row.order < existing.order ∧
          latest'.lookup row.key = some existing) ∨
        (∀ existing, latest.lookup row.key = some existing → existing.order ≤ row.order) ∧
          latest'.lookup row.key = some row) := by
  intro row
  unfold upsertLatestState at h
  rw [if_neg hlane] at h
  split at h
  · rename_i hany
    obtain rfl := Except.ok.inj h
    refine ⟨fun _ _ => rfl, .inl ?_⟩
    cases hexisting : latest.lookup row.key with
    | none =>
      rw [hexisting] at hany
      cases hany
    | some existing =>
      rw [hexisting] at hany
      exact ⟨existing, rfl, of_decide_eq_true hany, rfl⟩
  · rename_i hany
    split at h
    · obtain rfl := Except.ok.inj h
      refine ⟨?_, .inr ⟨?_, ?_⟩⟩
      · intro k hk
        rw [Keyed.lookup_insertOrUpdate, if_neg (Ne.symm hk)]
      · intro existing hexisting
        rw [hexisting] at hany
        simpa using hany
      · rw [Keyed.lookup_insertOrUpdate, if_pos rfl]
        cases hold : latest.lookup row.key with
        | none => rfl
        | some old =>
          have hkey := Keyed.key_of_lookup hold
          unfold LatestStateRow.key at hkey
          simp only [Prod.mk.injEq] at hkey
          obtain ⟨h1, h2, h3, h4, h5, h6⟩ := hkey
          show some (row.overwrite old) = some row
          unfold LatestStateRow.overwrite
          rw [h1, h2, h3, h4, h5, h6]
    · cases h

theorem storedEvent_spec {log log' : EventLog} {eventName schemaVersion : String}
    {row : SessionEventRow}
    (h : storedEvent lib log (d.context sourceRunOf) eventName schemaVersion d.event.storedKey
      (d.event.redacted lib) d.now = .ok (row, log')) :
    d.Has row ∧ ((row ∈ log.rows ∧ log' = log) ∨
      (∀ old ∈ log.rows, ¬d.Has old) ∧ row.payload = d.event.stored lib ∧
        log'.rows = log.rows ++ [row]) := by
  unfold storedEvent at h
  cases hexisting : log.withKey (d.context sourceRunOf) d.event.storedKey with
  | some existing =>
    rw [hexisting] at h
    obtain ⟨rfl, rfl⟩ := Prod.mk.inj (Except.ok.inj h)
    refine ⟨?_, .inl ⟨List.mem_of_find?_eq_some hexisting, rfl⟩⟩
    have hhas := List.find?_some hexisting
    unfold Delivery.Has
    exact of_decide_eq_true hhas
  | none =>
    have hnone : ∀ old ∈ log.rows, ¬d.Has old := by
      intro old hold hhas
      exact List.find?_eq_none.mp hexisting old hold (decide_eq_true hhas)
    rw [hexisting] at h
    dsimp only at h
    cases happend : appendWorkbenchEvent lib.toUnicodeTables log
        { tenantId := "local"
          workspaceId := (d.context sourceRunOf).workspaceId
          userId := (d.context sourceRunOf).userId
          sessionId := some (d.context sourceRunOf).sessionId
          sourceRunId := some (d.context sourceRunOf).sourceRunId
          sourceKind := some .liepin
          eventName := eventName
          payload := d.event.redacted lib
          schemaVersion := schemaVersion
          idempotencyKey := some d.event.storedKey } d.now with
    | ok stored =>
      rw [happend] at h
      obtain ⟨stored, log''⟩ := stored
      obtain ⟨rfl, rfl⟩ := Prod.mk.inj (Except.ok.inj h)
      obtain ⟨rfl, rfl⟩ := appendWorkbenchEvent_spec happend
      exact ⟨⟨rfl, rfl, rfl, rfl, boundedText_storedKey d.event⟩, .inr ⟨hnone, rfl, rfl⟩⟩
    | error e =>
      rw [happend] at h
      cases e <;> cases h

theorem strOf_int (n : Int) {text : String} (h : strOf lib (.number n) = .ok text) :
    text = toString n := by
  unfold strOf at h
  dsimp only at h
  rw [if_pos (Rat.den_intCast n)] at h
  split at h
  · cases h
  · exact (Except.ok.inj h).symm

/-- **A delivery** stores its event under its key, unless there is one, and shows what is
    stored. -/
theorem storeLaneEvent_spec
    (h : storeLaneEvent lib store (d.context sourceRunOf) d.event.payload d.now = .ok store') :
    ∃ row, d.Has row ∧
      ((row ∈ store.log.rows ∧ store'.log = store.log) ∨
        (∀ old ∈ store.log.rows, ¬d.Has old) ∧ row.payload = d.event.stored lib ∧
          store'.log.rows = store.log.rows ++ [row]) ∧
      upsertLatestState lib store.latest (d.context sourceRunOf) row.payload d.now =
        .ok store'.latest := by
  have hpayload : runtimeSourceLaneEventPayload lib d.event.payload =
      some (d.event.redacted lib) := by
    unfold runtimeSourceLaneEventPayload
    rw [if_pos]
    · rfl
    · simp [d.event.get_lane, d.event.get_attempt, d.event.get_eventSeq, d.event.complete.1,
        d.event.complete.2]
  obtain ⟨hlane, hattempt, heventSeq⟩ := get_redacted lib d.event
  unfold storeLaneEvent at h
  rw [hpayload] at h
  dsimp only at h
  rw [hlane, hattempt, heventSeq] at h
  obtain ⟨eventType, -, h⟩ := Stateful.bind_eq_ok h
  obtain ⟨schemaVersion, -, h⟩ := Stateful.bind_eq_ok h
  obtain ⟨laneText, hlaneText, h⟩ := Stateful.bind_eq_ok h
  obtain ⟨attemptText, hattemptText, h⟩ := Stateful.bind_eq_ok h
  obtain ⟨eventSeqText, heventSeqText, h⟩ := Stateful.bind_eq_ok h
  obtain rfl : d.event.job.laneRunId = laneText := Except.ok.inj hlaneText
  obtain rfl := strOf_int _ hattemptText
  obtain rfl := strOf_int _ heventSeqText
  unfold appendRuntimeSourceLaneEvent at h
  have hkey : (boundedText (some (d.event.job.laneRunId ++ ":" ++ toString d.event.attempt ++
      ":" ++ toString d.event.eventSeq)) 160).getD "" = d.event.storedKey :=
    congrArg (·.getD "") (boundedText_key d.event)
  dsimp only at h
  rw [hkey, if_neg (storedKey_ne_empty d.event)] at h
  obtain ⟨⟨row, log⟩, hstored, h⟩ := Stateful.bind_eq_ok h
  obtain ⟨latest, hupsert, h⟩ := Stateful.bind_eq_ok h
  obtain rfl := Except.ok.inj h
  obtain ⟨hhas, hrow⟩ := storedEvent_spec hstored
  refine ⟨row, hhas, ?_, hupsert⟩
  rcases hrow with ⟨hmem, rfl⟩ | hnew
  · exact .inl ⟨hmem, rfl⟩
  · exact .inr hnew

end Deliver

/-! ## 4. Runs -/

/-- What a transaction does: it delivers an event, or appends one that has no key. -/
inductive LaneStep where
  | deliver (d : Delivery)
  | append (draft : EventDraft) (now : String)

def LaneStep.delivery? : LaneStep → Option Delivery
  | .deliver d => some d
  | .append _ _ => none

/-- The tables, and what was delivered in transactions that are committed. -/
structure LaneSystem where
  store : LaneStore := {}
  delivered : List Delivery := []

section System

variable (lib : EventLibrary) (sourceRunOf : JobId → String)

def LaneStore.step (store : LaneStore) : LaneStep → Except WorkbenchError LaneStore
  | .deliver d => storeLaneEvent lib store (d.context sourceRunOf) d.event.payload d.now
  | .append draft now =>
    (appendWorkbenchEvent lib.toUnicodeTables store.log { draft with idempotencyKey := none }
      now).map fun stored => { store with log := stored.2 }

def LaneSystem.transact (s : LaneSystem) (steps : List LaneStep) : LaneSystem :=
  match steps.foldlM (LaneStore.step lib sourceRunOf) s.store with
  | .ok store =>
    { store := store, delivered := s.delivered ++ steps.filterMap LaneStep.delivery? }
  | .error _ => s

def LaneSystem.run (transactions : List (List LaneStep)) : LaneSystem :=
  transactions.foldl (LaneSystem.transact lib sourceRunOf) {}

end System

def keyedIn (scope : String × String × String) (row : SessionEventRow) : Bool :=
  row.tenantId = "local" ∧ (row.workspaceId, row.userId, row.sessionId) =
    (scope.1, scope.2.1, some scope.2.2) ∧ row.idempotencyKey.isSome

def LatestStateRow.Shows (lib : EventLibrary) (row : LatestStateRow) (d : Delivery) : Prop :=
  row.order = d.order ∧ row.payload = Redaction.redactMembers lib.toUnicodeTables [] 0
    (d.event.stored lib)

structure LaneSystem.Settled (lib : EventLibrary) (sourceRunOf : JobId → String)
    (s : LaneSystem) : Prop where
  /-- in every session one event is stored for each that was delivered -/
  once : ∀ scope, ((s.store.log.rows.filter (keyedIn scope)).map
    fun row => tripleOf lib row.payload).Perm
      ((s.delivered.filter fun d => d.scope = scope).map fun d => some d.event.triple).dedup
  /-- the row of each lane run shows an event of it than which none is later -/
  latest : ∀ d ∈ s.delivered, ∃ row, s.store.latest.lookup (d.laneKey sourceRunOf) = some row ∧
    (∃ shown ∈ s.delivered, shown.laneKey sourceRunOf = d.laneKey sourceRunOf ∧
      row.Shows lib shown) ∧ d.order ≤ row.order

/-- Different events of a session have keys that differ where they are stored. -/
def KeysApart (delivered : List Delivery) : Prop :=
  ∀ d ∈ delivered, ∀ d' ∈ delivered, d.scope = d'.scope →
    d.event.storedKey = d'.event.storedKey → d.event.triple = d'.event.triple

section Runs

variable {lib : EventLibrary} {sourceRunOf : JobId → String} {store store' : LaneStore}
  {delivered : List Delivery} {d d' : Delivery} {row : SessionEventRow}

def rowKey (row : SessionEventRow) : Option (String × String × String × Option String × String) :=
  row.idempotencyKey.map fun key => (row.tenantId, row.workspaceId, row.userId, row.sessionId, key)

theorem Delivery.Has.rowKey_eq (h : d.Has row) :
    rowKey row = some ("local", d.workspaceId, d.userId, some d.sessionId, d.event.storedKey) := by
  obtain ⟨htenant, hworkspace, huser, hsession, hkey⟩ := h
  unfold rowKey
  rw [htenant, hworkspace, huser, hsession, hkey]
  rfl

theorem has_iff_rowKey :
    d.Has row ↔
      rowKey row = some ("local", d.workspaceId, d.userId, some d.sessionId, d.event.storedKey) := by
  constructor
  · exact Delivery.Has.rowKey_eq
  · intro h
    unfold rowKey at h
    obtain ⟨key, hkey, hrow⟩ := Option.map_eq_some_iff.mp h
    simp only [Prod.mk.injEq] at hrow
    obtain ⟨htenant, hworkspace, huser, hsession, rfl⟩ := hrow
    exact ⟨htenant, hworkspace, huser, hsession, hkey⟩

structure LaneStore.Holds (lib : EventLibrary) (sourceRunOf : JobId → String)
    (store : LaneStore) (delivered : List Delivery) : Prop where
  unique : (store.log.rows.filterMap rowKey).Nodup
  origin : ∀ row ∈ store.log.rows, row.idempotencyKey.isSome →
    ∃ d ∈ delivered, d.Has row ∧ row.payload = d.event.stored lib
  present : ∀ d ∈ delivered, ∃ row ∈ store.log.rows, d.Has row
  shown : ∀ key row, store.latest.lookup key = some row →
    ∃ d ∈ delivered, d.laneKey sourceRunOf = key ∧ row.Shows lib d
  latest : ∀ d ∈ delivered, ∃ row, store.latest.lookup (d.laneKey sourceRunOf) = some row ∧
    d.order ≤ row.order

theorem scope_of_has (h : d.Has row) (h' : d'.Has row) :
    d.scope = d'.scope ∧ d.event.storedKey = d'.event.storedKey := by
  have hkeys := h.rowKey_eq.symm.trans h'.rowKey_eq
  simp only [Option.some.injEq, Prod.mk.injEq, true_and] at hkeys
  obtain ⟨hworkspace, huser, hsession, hkey⟩ := hkeys
  unfold Delivery.scope
  rw [hworkspace, huser, hsession]
  exact ⟨rfl, hkey⟩

theorem laneKey_of_triple (sourceRunOf : JobId → String) (hscope : d.scope = d'.scope) (htriple : d.event.triple = d'.event.triple) :
    d.laneKey sourceRunOf = d'.laneKey sourceRunOf ∧ d.order = d'.order := by
  simp only [Delivery.scope, Prod.mk.injEq] at hscope
  simp only [LaneEvent.triple, Prod.mk.injEq] at htriple
  obtain ⟨hworkspace, huser, hsession⟩ := hscope
  obtain ⟨hlane, hattempt, heventSeq⟩ := htriple
  unfold Delivery.laneKey Delivery.order
  rw [hworkspace, huser, hsession, laneRunId_inj hlane, hattempt, heventSeq]
  exact ⟨rfl, rfl⟩

theorem latestStateRow_key_order (lib : EventLibrary) (sourceRunOf : JobId → String)
    (d shown : Delivery)
    (hlane : shown.laneKey sourceRunOf = d.laneKey sourceRunOf) :
    (latestStateRow lib (d.context sourceRunOf) (shown.event.stored lib) d.now).key =
        d.laneKey sourceRunOf ∧
      (latestStateRow lib (d.context sourceRunOf) (shown.event.stored lib) d.now).Shows lib shown := by
  obtain ⟨hid, hattempt, heventSeq⟩ :=
    latestStateRow_stored lib (d.context sourceRunOf) shown.event d.now
  refine ⟨?_, ?_, rfl⟩
  · unfold LatestStateRow.key
    rw [hid]
    simp only [Delivery.laneKey, Prod.mk.injEq] at hlane
    rw [hlane.2.2.2.2.2]
    rfl
  · unfold LatestStateRow.order Delivery.order
    rw [hattempt, heventSeq]

theorem holds_deliver (h : store.Holds lib sourceRunOf delivered)
    (hapart : KeysApart (delivered ++ [d]))
    (hstep : storeLaneEvent lib store (d.context sourceRunOf) d.event.payload d.now = .ok store') :
    store'.Holds lib sourceRunOf (delivered ++ [d]) := by
  obtain ⟨row, hhas, hrow, hupsert⟩ := storeLaneEvent_spec hstep
  have hd : d ∈ delivered ++ [d] := List.mem_append_right _ (List.mem_singleton_self d)
  -- the stored row is about an event that is the delivered one
  obtain ⟨shown, hshown, hscope, htriple, hpayload⟩ : ∃ shown ∈ delivered ++ [d],
      shown.scope = d.scope ∧ shown.event.triple = d.event.triple ∧
        row.payload = shown.event.stored lib := by
    rcases hrow with ⟨hmem, -⟩ | ⟨-, hpayload, -⟩
    · obtain ⟨shown, hshown, hhas', hpayload⟩ := h.origin row hmem (by rw [hhas.2.2.2.2]; rfl)
      obtain ⟨hscope, hkey⟩ := scope_of_has hhas' hhas
      have hshown' : shown ∈ delivered ++ [d] := List.mem_append_left _ hshown
      exact ⟨shown, hshown', hscope, hapart shown hshown' d hd hscope hkey, hpayload⟩
    · exact ⟨d, hd, rfl, rfl, hpayload⟩
  obtain ⟨hlaneKey, horder⟩ := laneKey_of_triple sourceRunOf hscope htriple
  rw [hpayload] at hupsert
  obtain ⟨hkey, hshows⟩ := latestStateRow_key_order lib sourceRunOf d shown hlaneKey
  have hne : (latestStateRow lib (d.context sourceRunOf)
      (shown.event.stored lib) d.now).sourceLaneRunId ≠ "" := by
    rw [(latestStateRow_stored _ _ _ _).1]
    intro hempty
    have hlength := length_laneRunId shown.event.job
    rw [hempty] at hlength
    cases hlength
  obtain ⟨hother, hthis⟩ := upsertLatestState_spec hne hupsert
  rw [hkey] at hother hthis
  refine ⟨?_, ?_, ?_, ?_, ?_⟩
  · rcases hrow with ⟨-, hlog⟩ | ⟨hnone, -, hrows⟩
    · rw [hlog]
      exact h.unique
    · rw [hrows, List.filterMap_append]
      apply h.unique.append
      · simp [hhas.rowKey_eq]
      · intro key hold hnew
        simp [hhas.rowKey_eq] at hnew
        obtain ⟨old, hmem, hkey'⟩ := List.mem_filterMap.mp hold
        exact hnone old hmem (has_iff_rowKey.mpr (hkey'.trans (congrArg some hnew)))
  · intro row' hrow' hkeyed
    rcases hrow with ⟨-, hlog⟩ | ⟨-, hpayload', hrows⟩
    · rw [hlog] at hrow'
      obtain ⟨d', hd', hhas', hpayload'⟩ := h.origin row' hrow' hkeyed
      exact ⟨d', List.mem_append_left _ hd', hhas', hpayload'⟩
    · rw [hrows] at hrow'
      rcases List.mem_append.mp hrow' with hold | hnew
      · obtain ⟨d', hd', hhas', hpayload'⟩ := h.origin row' hold hkeyed
        exact ⟨d', List.mem_append_left _ hd', hhas', hpayload'⟩
      · obtain rfl := List.mem_singleton.mp hnew
        exact ⟨d, hd, hhas, hpayload'⟩
  · have hrows : ∀ old ∈ store.log.rows, old ∈ store'.log.rows := by
      intro old hold
      rcases hrow with ⟨-, hlog⟩ | ⟨-, -, hrows⟩
      · rw [hlog]
        exact hold
      · rw [hrows]
        exact List.mem_append_left _ hold
    intro d' hd'
    rcases List.mem_append.mp hd' with hd' | hd'
    · obtain ⟨row', hrow', hhas'⟩ := h.present d' hd'
      exact ⟨row', hrows row' hrow', hhas'⟩
    · obtain rfl := List.mem_singleton.mp hd'
      refine ⟨row, ?_, hhas⟩
      rcases hrow with ⟨hmem, -⟩ | ⟨-, -, hrows'⟩
      · exact hrows row hmem
      · rw [hrows']
        exact List.mem_append_right _ (List.mem_singleton_self row)
  · intro key row' hlookup
    by_cases hkey' : key = d.laneKey sourceRunOf
    · rw [hkey'] at hlookup ⊢
      rcases hthis with ⟨existing, hexisting, -, hthis⟩ | ⟨-, hthis⟩
      · obtain rfl := Option.some.inj (hlookup.symm.trans hthis)
        obtain ⟨d', hd', hd'key, hd'shows⟩ := h.shown _ _ hexisting
        exact ⟨d', List.mem_append_left _ hd', hd'key, hd'shows⟩
      · obtain rfl := Option.some.inj (hlookup.symm.trans hthis)
        exact ⟨shown, hshown, hlaneKey, hshows⟩
    · rw [hother key hkey'] at hlookup
      obtain ⟨d', hd', hd'key, hd'shows⟩ := h.shown key row' hlookup
      exact ⟨d', List.mem_append_left _ hd', hd'key, hd'shows⟩
  · intro d' hd'
    by_cases hkey' : d'.laneKey sourceRunOf = d.laneKey sourceRunOf
    · rw [hkey']
      have hold : d' ∈ delivered → ∃ existing,
          store.latest.lookup (d.laneKey sourceRunOf) = some existing ∧
            d'.order ≤ existing.order := fun hmem => hkey' ▸ h.latest d' hmem
      rcases hthis with ⟨existing, hexisting, hlt, hthis⟩ | ⟨hle, hthis⟩
      · refine ⟨existing, hthis, ?_⟩
        rcases List.mem_append.mp hd' with hd' | hd'
        · obtain ⟨existing', hexisting', hle⟩ := hold hd'
          obtain rfl := Option.some.inj (hexisting.symm.trans hexisting')
          exact hle
        · obtain rfl := List.mem_singleton.mp hd'
          rw [hshows.1, horder] at hlt
          exact hlt.le
      · refine ⟨_, hthis, ?_⟩
        rcases List.mem_append.mp hd' with hd' | hd'
        · obtain ⟨existing, hexisting, hle'⟩ := hold hd'
          exact hle'.trans (hle existing hexisting)
        · obtain rfl := List.mem_singleton.mp hd'
          rw [hshows.1, horder]
    · have hmem : d' ∈ delivered := by
        rcases List.mem_append.mp hd' with hd' | hd'
        · exact hd'
        · exact absurd (List.mem_singleton.mp hd' ▸ rfl) hkey'
      rw [hother _ hkey']
      exact h.latest d' hmem

theorem holds_append {draft : EventDraft} {now : String} {stored : SessionEventRow × EventLog}
    (h : store.Holds lib sourceRunOf delivered)
    (happend : appendWorkbenchEvent lib.toUnicodeTables store.log
      { draft with idempotencyKey := none } now = .ok stored) :
    { store with log := stored.2 : LaneStore }.Holds lib sourceRunOf delivered := by
  obtain ⟨row, log'⟩ := stored
  obtain ⟨rfl, rfl⟩ := appendWorkbenchEvent_spec happend
  refine ⟨?_, ?_, ?_, h.shown, h.latest⟩
  · have hnone : [EventDraft.row lib.toUnicodeTables { draft with idempotencyKey := none } store.log
        now (store.log.lastSeq + 1)].filterMap rowKey = [] := rfl
    rw [List.filterMap_append, hnone, List.append_nil]
    exact h.unique
  · intro row hrow hkeyed
    rcases List.mem_append.mp hrow with hrow | hrow
    · exact h.origin row hrow hkeyed
    · obtain rfl := List.mem_singleton.mp hrow
      cases hkeyed
  · intro d hd
    obtain ⟨row, hrow, hhas⟩ := h.present d hd
    exact ⟨row, List.mem_append_left _ hrow, hhas⟩

theorem KeysApart.left {more : List Delivery} (h : KeysApart (delivered ++ more)) :
    KeysApart delivered := by
  intro d hd d' hd'
  exact h d (List.mem_append_left _ hd) d' (List.mem_append_left _ hd')

/-- **A transaction**: step by step. -/
theorem holds_transaction {steps : List LaneStep} (h : store.Holds lib sourceRunOf delivered)
    (hapart : KeysApart (delivered ++ steps.filterMap LaneStep.delivery?))
    (hsteps : steps.foldlM (LaneStore.step lib sourceRunOf) store = .ok store') :
    store'.Holds lib sourceRunOf (delivered ++ steps.filterMap LaneStep.delivery?) := by
  induction steps generalizing store delivered with
  | nil =>
    obtain rfl := Except.ok.inj hsteps
    simpa using h
  | cons step steps ih =>
    rw [List.foldlM_cons] at hsteps
    obtain ⟨between, hstep, hrest⟩ := Stateful.bind_eq_ok hsteps
    cases step with
    | deliver d =>
      have hsplit : delivered ++ (LaneStep.deliver d :: steps).filterMap LaneStep.delivery? =
          (delivered ++ [d]) ++ steps.filterMap LaneStep.delivery? := by
        simp [LaneStep.delivery?]
      rw [hsplit] at hapart ⊢
      exact ih (holds_deliver h hapart.left hstep) hapart hrest
    | append draft now =>
      obtain ⟨stored, happend, rfl⟩ := Stateful.map_eq_ok hstep
      exact ih (holds_append h happend) hapart hrest

theorem transact_eq (lib : EventLibrary) (sourceRunOf : JobId → String) (s : LaneSystem) (steps : List LaneStep) :
    s.transact lib sourceRunOf steps = s ∨ ∃ store,
      steps.foldlM (LaneStore.step lib sourceRunOf) s.store = .ok store ∧
        s.transact lib sourceRunOf steps =
          { store := store, delivered := s.delivered ++ steps.filterMap LaneStep.delivery? } := by
  unfold LaneSystem.transact
  cases hsteps : steps.foldlM (LaneStore.step lib sourceRunOf) s.store with
  | error e => exact .inl rfl
  | ok store => exact .inr ⟨store, rfl, rfl⟩

theorem delivered_prefix (lib : EventLibrary) (sourceRunOf : JobId → String)
    (transactions : List (List LaneStep)) (s : LaneSystem) :
    s.delivered <+: (transactions.foldl (LaneSystem.transact lib sourceRunOf) s).delivered := by
  induction transactions generalizing s with
  | nil => exact List.prefix_rfl
  | cons steps transactions ih =>
    rw [List.foldl_cons]
    apply List.IsPrefix.trans ?_ (ih _)
    rcases transact_eq lib sourceRunOf s steps with
      hsame | ⟨store, -, hdone⟩
    · rw [hsame]
    · rw [hdone]
      exact List.prefix_append _ _

/-- **A run**: a transaction that is rolled back has done nothing. -/
theorem holds_run (transactions : List (List LaneStep)) {s : LaneSystem}
    (h : s.store.Holds lib sourceRunOf s.delivered)
    (hapart : KeysApart
      (transactions.foldl (LaneSystem.transact lib sourceRunOf) s).delivered) :
    (transactions.foldl (LaneSystem.transact lib sourceRunOf) s).store.Holds lib sourceRunOf
      (transactions.foldl (LaneSystem.transact lib sourceRunOf) s).delivered := by
  induction transactions generalizing s with
  | nil => exact h
  | cons steps transactions ih =>
    rw [List.foldl_cons] at hapart ⊢
    apply ih _ hapart
    rcases transact_eq lib sourceRunOf s steps with
      hsame | ⟨store, hsteps, hdone⟩
    · rw [hsame]
      exact h
    · obtain ⟨more, hmore⟩ := delivered_prefix lib sourceRunOf transactions
        (s.transact lib sourceRunOf steps)
      rw [← hmore, hdone] at hapart
      rw [hdone]
      exact holds_transaction h hapart.left hsteps

theorem holds_empty : LaneStore.Holds lib sourceRunOf {} [] := by
  refine ⟨List.nodup_nil, ?_, ?_, ?_, ?_⟩
  · intro row hrow
    cases hrow
  · intro d hd
    cases hd
  · intro key row hlookup
    cases hlookup
  · intro d hd
    cases hd

theorem storedKey_of_triple {event event' : LaneEvent} (h : event.triple = event'.triple) :
    event.storedKey = event'.storedKey := by
  simp only [LaneEvent.triple, Prod.mk.injEq] at h
  unfold LaneEvent.storedKey LaneEvent.key
  rw [h.1, h.2.1, h.2.2]

theorem keyedIn_iff {scope : String × String × String} (h : d.Has row) :
    keyedIn scope row = true ↔ d.scope = scope := by
  obtain ⟨htenant, hworkspace, huser, hsession, hkey⟩ := h
  obtain ⟨workspaceId, userId, sessionId⟩ := scope
  simp [keyedIn, htenant, hworkspace, huser, hsession, hkey, Delivery.scope]

theorem settled_of_holds {s : LaneSystem} (h : s.store.Holds lib sourceRunOf s.delivered)
    (hapart : KeysApart s.delivered) : s.Settled lib sourceRunOf := by
  refine ⟨?_, ?_⟩
  · intro scope
    have hkeyed : ∀ row ∈ s.store.log.rows.filter (keyedIn scope), ∃ d ∈ s.delivered,
        d.Has row ∧ d.scope = scope ∧ tripleOf lib row.payload = some d.event.triple := by
      intro row hrow
      obtain ⟨hrow, hscope⟩ := List.mem_filter.mp hrow
      have hsome : row.idempotencyKey.isSome := by
        have hall := of_decide_eq_true hscope
        exact hall.2.2
      obtain ⟨d, hd, hhas, hpayload⟩ := h.origin row hrow hsome
      refine ⟨d, hd, hhas, (keyedIn_iff hhas).mp hscope, ?_⟩
      rw [hpayload, tripleOf_stored]
    apply (List.perm_ext_iff_of_nodup ?_ (List.nodup_dedup _)).mpr
    · intro triple
      rw [List.mem_dedup, List.mem_map, List.mem_map]
      constructor
      · intro hmem
        obtain ⟨row, hrow, rfl⟩ := hmem
        obtain ⟨d, hd, -, hscope, htriple⟩ := hkeyed row hrow
        exact ⟨d, List.mem_filter.mpr ⟨hd, decide_eq_true hscope⟩, htriple.symm⟩
      · intro hmem
        obtain ⟨d, hd, rfl⟩ := hmem
        obtain ⟨hd, hscope⟩ := List.mem_filter.mp hd
        obtain ⟨row, hrow, hhas⟩ := h.present d hd
        have hin := (keyedIn_iff hhas).mpr (of_decide_eq_true hscope)
        have hrow' := List.mem_filter.mpr ⟨hrow, hin⟩
        obtain ⟨d', hd', hhas', -, htriple⟩ := hkeyed row hrow'
        obtain ⟨hsame, hkey⟩ := scope_of_has hhas hhas'
        exact ⟨row, hrow', htriple.trans (congrArg some (hapart d' hd' d hd hsame.symm hkey.symm))⟩
    · -- two rows about one event would have one key
      have hpairs := (List.pairwise_filterMap.mp h.unique).filter (keyedIn scope)
      apply List.pairwise_map.mpr
      apply hpairs.imp_of_mem
      intro row row' hrow hrow' hne heq
      obtain ⟨d, -, hhas, hscope, htriple⟩ := hkeyed row hrow
      obtain ⟨d', -, hhas', hscope', htriple'⟩ := hkeyed row' hrow'
      have hsame : d.event.triple = d'.event.triple :=
        Option.some.inj (htriple.symm.trans (heq.trans htriple'))
      apply hne _ hhas.rowKey_eq _ hhas'.rowKey_eq
      have hscopes := hscope.trans hscope'.symm
      simp only [Delivery.scope, Prod.mk.injEq] at hscopes
      rw [storedKey_of_triple hsame, hscopes.1, hscopes.2.1, hscopes.2.2]
  · intro d hd
    obtain ⟨row, hlookup, hle⟩ := h.latest d hd
    exact ⟨row, hlookup, h.shown _ row hlookup, hle⟩

/-- **Lane events.** After any transactions with events of lane runs, in any order and with any
    repetitions: when the delivered events of a session that differ have keys that differ, one
    event is stored for each, and the row of a lane run shows an event of it than which none of
    those delivered is later. -/
theorem laneEvents_settled (lib : EventLibrary) (sourceRunOf : JobId → String)
    (transactions : List (List LaneStep))
    (hapart : KeysApart (LaneSystem.run lib sourceRunOf transactions).delivered) :
    (LaneSystem.run lib sourceRunOf transactions).Settled lib sourceRunOf :=
  settled_of_holds (holds_run transactions holds_empty hapart) hapart

/-! ## 5. Keys that differ -/

theorem colon_not_mem_toString (n : Int) : ':' ∉ (toString n).toList := by
  intro h
  rcases mem_toString_int h with h | h
  · cases h
  · cases h

theorem repr_inj {m n : Nat} (h : m.repr = n.repr) : m = n := by
  apply Py.toDigits_inj
  rw [← Nat.toList_repr, ← Nat.toList_repr, h]

theorem repr_ne_minus (m n : Nat) : m.repr ≠ "-" ++ n.repr := by
  intro h
  have hmem : '-' ∈ m.repr.toList := by
    rw [h]
    simp
  rw [Nat.toList_repr] at hmem
  cases Nat.isDigit_of_mem_toDigits (by decide) (by decide) hmem

theorem toString_inj {m n : Int} (h : toString m = toString n) : m = n := by
  rw [Int.toString_eq_repr, Int.toString_eq_repr, Int.repr_eq_if, Int.repr_eq_if] at h
  split at h
  · split at h
    · have heq := repr_inj h
      omega
    · exact absurd h (repr_ne_minus _ _)
  · split at h
    · exact absurd h.symm (repr_ne_minus _ _)
    · have hlist := congrArg String.toList h
      rw [String.toList_append, String.toList_append] at hlist
      have heq := repr_inj (String.toList_inj.mp (List.append_cancel_left hlist))
      omega

theorem triple_of_key {event event' : LaneEvent} (h : event.key = event'.key) :
    event.triple = event'.triple := by
  have hlist := congrArg String.toList h
  have hcolon : ":".toList = [':'] := by decide
  simp only [LaneEvent.key, String.toList_append, hcolon, List.append_assoc,
    List.singleton_append] at hlist
  obtain ⟨hlane, hrest⟩ := List.append_inj hlist
    ((length_laneRunId event.job).trans (length_laneRunId event'.job).symm)
  obtain ⟨hattempt, -, heventSeq⟩ := (List.append_cons_inj_of_notMem
    (colon_not_mem_toString event.attempt) (colon_not_mem_toString event.eventSeq)).mp
      (List.cons.inj hrest).2
  unfold LaneEvent.triple
  rw [String.toList_inj.mp hlane, toString_inj (String.toList_inj.mp hattempt),
    toString_inj (String.toList_inj.mp heventSeq)]

theorem length_toString_le {n : Int} (h : FitsInteger n) : (toString n).toList.length ≤ 20 := by
  have hdigits : ∀ m : Nat, m ≤ 2 ^ 63 → (Nat.toDigits 10 m).length ≤ 19 := by
    intro m hm
    apply (Nat.length_toDigits_le_iff (by decide) (by decide)).mpr
    exact lt_of_le_of_lt hm (by decide)
  obtain ⟨hlow, hhigh⟩ := h
  rw [Int.toString_eq_repr, Int.repr_eq_if]
  split
  · rw [Nat.toList_repr]
    exact (hdigits _ (by omega)).trans (by decide)
  · rw [String.toList_append, List.length_append, Nat.toList_repr]
    have hlength := hdigits (-n).toNat (by omega)
    have hminus : "-".toList.length = 1 := by decide
    omega

theorem storedKey_of_fits {event : LaneEvent} (hattempt : FitsInteger event.attempt)
    (heventSeq : FitsInteger event.eventSeq) : event.storedKey = event.key := by
  have hlength : event.key.toList.length ≤ 160 := by
    have hlane := length_laneRunId event.job
    have h1 := length_toString_le hattempt
    have h2 := length_toString_le heventSeq
    have hcolon : ":".toList.length = 1 := by decide
    simp only [LaneEvent.key, String.toList_append, List.length_append]
    omega
  unfold LaneEvent.storedKey
  rw [List.take_of_length_le hlength, String.ofList_toList]

theorem keysApart_of_fits {delivered : List Delivery}
    (h : ∀ d ∈ delivered, FitsInteger d.event.attempt ∧ FitsInteger d.event.eventSeq) :
    KeysApart delivered := by
  intro d hd d' hd' _ hkey
  obtain ⟨hattempt, heventSeq⟩ := h d hd
  obtain ⟨hattempt', heventSeq'⟩ := h d' hd'
  rw [storedKey_of_fits hattempt heventSeq, storedKey_of_fits hattempt' heventSeq'] at hkey
  exact triple_of_key hkey

end Runs

/-! ## 6. Keys that are cut off -/

theorem isAlnum_ascii_sample (c : Char) (_ : c.toNat < 0x80) :
    Py.UnicodeTables.ascii.isAlnum c = c.isAlphanum := rfl

def EventLibrary.ascii : EventLibrary where
  toUnicodeTables := Py.UnicodeTables.ascii
  isAlnum_ascii := isAlnum_ascii_sample
  intOfText _ := none
  strOther _ := ""

def sampleDigits : List Char := "0123456789abcdef".toList

theorem sampleDigits_length : sampleDigits.length = 16 := by decide

theorem sampleDigits_hex : ∀ c ∈ sampleDigits, c ∈ "0123456789abcdef".toList := fun _ h => h

def sampleJob : JobId where
  digits := sampleDigits
  length_eq := sampleDigits_length
  hex := sampleDigits_hex

def samplePayload (attempt eventSeq : Int) : JsonObject :=
  [("schema_version", .string "v1"),
    ("source_lane_run_id", .string sampleJob.laneRunId), ("attempt", .number attempt),
    ("event_seq", .number eventSeq), ("event_type", .string "a")]

section Sample

variable (attempt eventSeq : Int)

theorem samplePayload_nodup : ((samplePayload attempt eventSeq).map (·.1)).Nodup := by
  show ["schema_version", "source_lane_run_id", "attempt", "event_seq", "event_type"].Nodup
  decide

theorem samplePayload_lane : (samplePayload attempt eventSeq).get "source_lane_run_id" =
    some (.string sampleJob.laneRunId) := by
  simp [samplePayload, JsonObject.get]

theorem samplePayload_attempt :
    (samplePayload attempt eventSeq).get "attempt" = some (.number attempt) := by
  simp [samplePayload, JsonObject.get]

theorem samplePayload_eventSeq :
    (samplePayload attempt eventSeq).get "event_seq" = some (.number eventSeq) := by
  simp [samplePayload, JsonObject.get]

theorem samplePayload_complete : ((samplePayload attempt eventSeq).get "schema_version").isSome ∧
    ((samplePayload attempt eventSeq).get "event_type").isSome := by
  simp [samplePayload, JsonObject.get]

def sampleDelivery : Delivery where
  workspaceId := "workspace"
  userId := "user"
  sessionId := "session"
  event :=
    { job := sampleJob
      attempt := attempt
      eventSeq := eventSeq
      payload := samplePayload attempt eventSeq
      nodup_keys := samplePayload_nodup attempt eventSeq
      get_lane := samplePayload_lane attempt eventSeq
      get_attempt := samplePayload_attempt attempt eventSeq
      get_eventSeq := samplePayload_eventSeq attempt eventSeq
      complete := samplePayload_complete attempt eventSeq }
  now := "2026-01-01T00:00:00+00:00"

end Sample

theorem redact_sample (attempt eventSeq : Int) :
    Redaction.redactMembers EventLibrary.ascii.toUnicodeTables [] 0
      (samplePayload attempt eventSeq) = samplePayload attempt eventSeq := by
  have hname := containsForbiddenKey_required
  simp only [List.mem_cons, List.not_mem_nil, or_false, forall_eq_or_imp, forall_eq] at hname
  obtain ⟨hversion, hlane, heventSeq, htype, hattempt⟩ := hname
  have htext : ∀ value ∈ ["v1", "a"], Redaction.redactEventPayload
      EventLibrary.ascii.toUnicodeTables (.string value) = .string value := by
    have hquiet : (["v1", "a"].all fun value => value.toList.all quiet) = true := by
      decide
    intro value hvalue
    unfold Redaction.redactEventPayload
    rw [Redaction.redactText_quiet EventLibrary.ascii.toWordTables
      (List.all_eq_true.mp (List.all_eq_true.mp hquiet value hvalue))]
  show Redaction.redactMembers Py.UnicodeTables.ascii [] 0 _ = _
  have hv1 := htext "v1" (by simp)
  have ha := htext "a" (by simp)
  have hid := @redact_laneRunId EventLibrary.ascii sampleJob
  have hnumber := @redact_number EventLibrary.ascii
  change Redaction.redactEventPayload Py.UnicodeTables.ascii _ = _ at hv1 ha hid
  change ∀ n, Redaction.redactEventPayload Py.UnicodeTables.ascii _ = _ at hnumber
  unfold samplePayload
  simp only [Redaction.redactMembers, hversion, hlane, heventSeq, htype, hattempt, hv1, ha, hid,
    hnumber, Bool.false_eq_true, if_false]
  simp [JsonObject.set]

theorem stored_sample (attempt eventSeq : Int) :
    (sampleDelivery attempt eventSeq).event.redacted EventLibrary.ascii =
        samplePayload attempt eventSeq ∧
      (sampleDelivery attempt eventSeq).event.stored EventLibrary.ascii =
        samplePayload attempt eventSeq := by
  have hredacted : (sampleDelivery attempt eventSeq).event.redacted EventLibrary.ascii =
      samplePayload attempt eventSeq := redact_sample attempt eventSeq
  refine ⟨hredacted, ?_⟩
  unfold LaneEvent.stored
  rw [hredacted]
  exact redact_sample attempt eventSeq

theorem strOf_short {n : Int} (h : n.natAbs < 10 ^ maxStrDigits) :
    strOf EventLibrary.ascii (.number n) = .ok (toString n) := by
  unfold strOf
  dsimp only
  rw [if_pos (Rat.den_intCast n), if_neg (by rw [Rat.num_intCast]; omega), Rat.num_intCast]

theorem exists_storeLaneEvent (store : LaneStore) (attempt eventSeq : Int)
    (hattempt : attempt.natAbs < 10 ^ maxStrDigits)
    (heventSeq : eventSeq.natAbs < 10 ^ maxStrDigits) (hroom : store.log.lastSeq < maxRowid)
    (hupsert : ∀ row, (sampleDelivery attempt eventSeq).Has row →
      (row ∈ store.log.rows ∨ row.payload = samplePayload attempt eventSeq) →
      ∃ latest, upsertLatestState EventLibrary.ascii store.latest
        ((sampleDelivery attempt eventSeq).context fun _ => "src") row.payload
        (sampleDelivery attempt eventSeq).now = .ok latest) :
    ∃ store', storeLaneEvent EventLibrary.ascii store
      ((sampleDelivery attempt eventSeq).context fun _ => "src") (samplePayload attempt eventSeq)
      (sampleDelivery attempt eventSeq).now = .ok store' ∧
        store'.log.lastSeq ≤ store.log.lastSeq + 1 := by
  generalize hd : sampleDelivery attempt eventSeq = d at hupsert ⊢
  have hpayload : runtimeSourceLaneEventPayload EventLibrary.ascii
      (samplePayload attempt eventSeq) = some (samplePayload attempt eventSeq) := by
    unfold runtimeSourceLaneEventPayload
    rw [if_pos]
    · exact congrArg some (redact_sample attempt eventSeq)
    · simp [samplePayload_lane, samplePayload_attempt, samplePayload_eventSeq,
        samplePayload_complete]
  have hversion : (samplePayload attempt eventSeq).get "schema_version" = some (.string "v1") := by
    simp [samplePayload, JsonObject.get]
  have htype : (samplePayload attempt eventSeq).get "event_type" = some (.string "a") := by
    simp [samplePayload, JsonObject.get]
  have hkey : (boundedText (some (sampleJob.laneRunId ++ ":" ++ toString attempt ++ ":" ++
      toString eventSeq)) 160).getD "" = d.event.storedKey := by
    rw [← hd]
    exact congrArg (·.getD "") (boundedText_key (sampleDelivery attempt eventSeq).event)
  -- the event is there, or it is added: no index is about its name
  obtain ⟨row, log, hstored, hlastSeq⟩ : ∃ row log, storedEvent EventLibrary.ascii store.log
      (d.context fun _ => "src") "runtime_a" "v1" d.event.storedKey
      (d.event.redacted EventLibrary.ascii) d.now = .ok (row, log) ∧
        log.lastSeq ≤ store.log.lastSeq + 1 := by
    unfold storedEvent
    cases store.log.withKey (d.context fun _ => "src") d.event.storedKey with
    | some existing => exact ⟨existing, store.log, rfl, Nat.le_succ _⟩
    | none =>
      dsimp only
      unfold appendWorkbenchEvent EventLog.insert
      rw [if_neg (Nat.not_le.mpr hroom)]
      dsimp only
      rw [if_neg]
      · exact ⟨_, _, rfl, le_refl _⟩
      · have hindex : ∀ name, ¬SameIndex name "runtime_a" := by
          intro name hname
          rcases hname with ⟨-, hname⟩ | ⟨-, hname⟩
          · exact absurd hname (by decide)
          · exact absurd hname (by decide)
        simp [SessionEventRow.Conflicts, EventDraft.row, hindex]
  obtain ⟨hhas, hrow⟩ := storedEvent_spec hstored
  obtain ⟨latest, hlatest⟩ := hupsert row hhas (by
    rcases hrow with ⟨hmem, -⟩ | ⟨-, hpayload, -⟩
    · exact .inl hmem
    · right
      rw [hpayload, ← hd, (stored_sample attempt eventSeq).2])
  refine ⟨{ log := log, latest := latest }, ?_, hlastSeq⟩
  unfold storeLaneEvent
  rw [hpayload]
  dsimp only
  rw [hversion, htype, samplePayload_lane, samplePayload_attempt, samplePayload_eventSeq]
  have hredacted : d.event.redacted EventLibrary.ascii = samplePayload attempt eventSeq := by
    rw [← hd, (stored_sample attempt eventSeq).1]
  rw [hredacted] at hstored
  have hname : "runtime_" ++ "a" = "runtime_a" := by decide
  have htext : ∀ value, strOf EventLibrary.ascii (.string value) = .ok value := fun _ => rfl
  simp only [Option.getD_some, strOf_short hattempt, strOf_short heventSeq, htext,
    appendRuntimeSourceLaneEvent, hkey, storedKey_ne_empty, hname, bind, Except.bind, pure,
    Except.pure, if_false, hstored, hlatest]

theorem upsert_earlier {latest : Keyed LatestStateRow.key} {existing : LatestStateRow}
    {attempt eventSeq : Int} (d : Delivery)
    (hkey : (sampleDelivery attempt eventSeq).laneKey (fun _ => "src") = d.laneKey fun _ => "src")
    (hexisting : latest.lookup (d.laneKey fun _ => "src") = some existing)
    (hlt : (sampleDelivery attempt eventSeq).order < existing.order) :
    upsertLatestState EventLibrary.ascii latest (d.context fun _ => "src")
      (samplePayload attempt eventSeq) d.now = .ok latest := by
  obtain ⟨hrowKey, horder, -⟩ := latestStateRow_key_order EventLibrary.ascii (fun _ => "src") d
    (sampleDelivery attempt eventSeq) hkey
  rw [(stored_sample attempt eventSeq).2] at hrowKey horder
  unfold upsertLatestState
  dsimp only
  rw [hrowKey, hexisting]
  split
  · rfl
  · rw [if_pos]
    rw [Option.any_some, decide_eq_true_eq, horder]
    exact hlt

theorem exists_upsert_first {latest : Keyed LatestStateRow.key} {attempt eventSeq : Int}
    (hnone : latest.lookup ((sampleDelivery attempt eventSeq).laneKey fun _ => "src") = none)
    (hattempt : FitsInteger attempt) (heventSeq : FitsInteger eventSeq) :
    ∃ latest', upsertLatestState EventLibrary.ascii latest
      ((sampleDelivery attempt eventSeq).context fun _ => "src") (samplePayload attempt eventSeq)
      (sampleDelivery attempt eventSeq).now = .ok latest' := by
  obtain ⟨hrowKey, -, -⟩ := latestStateRow_key_order EventLibrary.ascii
    (fun _ => "src") (sampleDelivery attempt eventSeq)
    (sampleDelivery attempt eventSeq) rfl
  obtain ⟨-, hrowAttempt, hrowEventSeq⟩ := latestStateRow_stored EventLibrary.ascii
    ((sampleDelivery attempt eventSeq).context fun _ => "src")
    (sampleDelivery attempt eventSeq).event (sampleDelivery attempt eventSeq).now
  rw [(stored_sample attempt eventSeq).2] at hrowKey hrowAttempt hrowEventSeq
  unfold upsertLatestState
  dsimp only
  rw [hrowKey, hnone, hrowAttempt, hrowEventSeq]
  split
  · exact ⟨_, rfl⟩
  · rw [if_neg (by simp), if_pos ⟨hattempt, heventSeq⟩]
    exact ⟨_, rfl⟩

def firstLong : Delivery := sampleDelivery 5 1
def secondLong : Delivery := sampleDelivery 4 (10 ^ 200 : Nat)
def thirdLong : Delivery := sampleDelivery 4 (10 ^ 200 + 1 : Nat)

/-- An event, and two of an earlier attempt whose numbers have 201 digits. -/
def longTransactions : List (List LaneStep) :=
  [[.deliver firstLong], [.deliver secondLong], [.deliver thirdLong]]

theorem storedKey_long : firstLong.event.storedKey ≠ secondLong.event.storedKey ∧
    secondLong.event.storedKey = thirdLong.event.storedKey := by
  have hpow : (10 : Nat) ^ 200 = 10 * 10 ^ 199 := Nat.pow_succ'
  have hdigits : ∀ digit : Nat, digit < 10 →
      Nat.toDigits 10 (10 ^ 200 + digit) = Nat.toDigits 10 (10 ^ 199) ++ [digit.digitChar] := by
    intro digit hdigit
    rw [hpow, ← Nat.toDigits_append_toDigits (by decide) (Nat.pow_pos (by decide)) hdigit,
      Nat.toDigits_of_lt_base hdigit]
  have hlength : 160 ≤ (Nat.toDigits 10 (10 ^ 199)).length := by
    have hlong : ¬(Nat.toDigits 10 (10 ^ 199)).length ≤ 199 := by
      rw [Nat.length_toDigits_le_iff (by decide) (by decide)]
      exact lt_irrefl _
    omega
  -- the part that is stored ends before the last digit
  have hkey : ∀ (d : Delivery) (digit : Char),
      d.event.key.toList = sampleJob.laneRunId.toList ++ ":4:".toList ++
        (Nat.toDigits 10 (10 ^ 199) ++ [digit]) →
      d.event.storedKey.toList =
        (sampleJob.laneRunId.toList ++ ":4:".toList ++ Nat.toDigits 10 (10 ^ 199)).take 160 := by
    intro d digit h
    unfold LaneEvent.storedKey
    rw [String.toList_ofList, h, ← List.append_assoc, List.take_append_of_le_length]
    rw [List.length_append]
    omega
  have htext : ∀ n : Nat, (toString (n : Int)).toList = Nat.toDigits 10 n := by
    intro n
    rw [Int.toString_eq_repr, Int.repr_eq_if, if_pos (Int.natCast_nonneg n), Int.toNat_natCast,
      Nat.toList_repr]
  have hlong : ∀ digit : Nat, digit < 10 →
      (sampleDelivery 4 (10 ^ 200 + digit : Nat)).event.key.toList =
        sampleJob.laneRunId.toList ++ ":4:".toList ++
          (Nat.toDigits 10 (10 ^ 199) ++ [digit.digitChar]) := by
    intro digit hdigit
    have hfour : ":".toList ++ (toString (4 : Int)).toList ++ ":".toList = ":4:".toList := by
      decide
    rw [← hdigits digit hdigit, ← htext, ← hfour]
    simp only [LaneEvent.key, sampleDelivery, String.toList_append, List.append_assoc]
  have hsecondKey := hkey secondLong '0' (hlong 0 (by decide))
  have hthirdKey := hkey thirdLong '1' (hlong 1 (by decide))
  refine ⟨?_, String.toList_inj.mp (hsecondKey.trans hthirdKey.symm)⟩
  intro h
  have hfirst : firstLong.event.storedKey.toList.length ≤ 79 := by
    have hlane := length_laneRunId sampleJob
    have hfits : FitsInteger 5 ∧ FitsInteger 1 := by decide
    have hfive := length_toString_le hfits.1
    have hone := length_toString_le hfits.2
    have hcolon : ":".toList.length = 1 := by decide
    rw [storedKey_of_fits hfits.1 hfits.2]
    simp only [LaneEvent.key, firstLong, sampleDelivery, String.toList_append, List.length_append]
    omega
  rw [h, hsecondKey, List.length_take, List.length_append, List.length_append] at hfirst
  omega

theorem transact_deliver {lib : EventLibrary} {sourceRunOf : JobId → String} (s : LaneSystem)
    (d : Delivery) {store : LaneStore}
    (h : storeLaneEvent lib s.store (d.context sourceRunOf) d.event.payload d.now = .ok store) :
    s.transact lib sourceRunOf [.deliver d] = { store := store, delivered := s.delivered ++ [d] } := by
  have hstep : LaneStore.step lib sourceRunOf s.store (.deliver d) = .ok store := h
  unfold LaneSystem.transact
  rw [List.foldlM_cons, hstep]
  rfl

theorem length_rows_storeLaneEvent {lib : EventLibrary} {sourceRunOf : JobId → String}
    {store store' : LaneStore} (d : Delivery)
    (h : storeLaneEvent lib store (d.context sourceRunOf) d.event.payload d.now = .ok store') :
    store'.log.rows.length ≤ store.log.rows.length + 1 ∧
      ((∃ row ∈ store.log.rows, d.Has row) →
        store'.log.rows.length = store.log.rows.length) := by
  obtain ⟨row, -, hrow, -⟩ := storeLaneEvent_spec h
  rcases hrow with ⟨-, hlog⟩ | ⟨hnone, -, hrows⟩
  · rw [hlog]
    exact ⟨Nat.le_succ _, fun _ => rfl⟩
  · rw [hrows, List.length_append, List.length_singleton]
    refine ⟨le_refl _, ?_⟩
    intro hold
    obtain ⟨old, hmem, hhas⟩ := hold
    exact absurd hhas (hnone old hmem)

theorem exists_late {store : LaneStore} {delivered : List Delivery} (n : Nat)
    (hholds : store.Holds EventLibrary.ascii (fun _ => "src") delivered)
    (hfirst : firstLong ∈ delivered) (hroom : store.log.lastSeq < maxRowid)
    (hn : n ≤ 10 ^ 200 + 1)
    (hold : ∀ row ∈ store.log.rows, (sampleDelivery 4 n).Has row →
      ∃ m : Nat, row.payload = samplePayload 4 m) :
    ∃ store', storeLaneEvent EventLibrary.ascii store
      ((sampleDelivery 4 n).context fun _ => "src") (samplePayload 4 n)
      (sampleDelivery 4 n).now = .ok store' ∧ store'.log.lastSeq ≤ store.log.lastSeq + 1 := by
  have hdigits : ∀ m : Nat, m ≤ 10 ^ 200 + 1 → (m : Int).natAbs < 10 ^ maxStrDigits := by
    intro m hm
    rw [Int.natAbs_natCast]
    exact hm.trans_lt (by decide +kernel)
  apply exists_storeLaneEvent store 4 n (hdigits 4 (by decide)) (hdigits n hn) hroom
  intro row hhas hrow
  obtain ⟨m, hpayload⟩ : ∃ m : Nat, row.payload = samplePayload 4 m := by
    rcases hrow with hmem | hpayload
    · exact hold row hmem hhas
    · exact ⟨n, hpayload⟩
  obtain ⟨existing, hexisting, hle⟩ := hholds.latest firstLong hfirst
  have hlt : (sampleDelivery 4 m).order < existing.order := by
    have hearlier : (sampleDelivery 4 m).order < firstLong.order :=
      Prod.Lex.toLex_lt_toLex.mpr (.inl (show (4 : Int) < 5 by decide))
    exact lt_of_lt_of_le hearlier hle
  rw [hpayload]
  exact ⟨store.latest, upsert_earlier (sampleDelivery 4 n) rfl hexisting hlt⟩

theorem exists_first : ∃ store, storeLaneEvent EventLibrary.ascii {}
    (firstLong.context fun _ => "src") firstLong.event.payload firstLong.now = .ok store ∧
      store.log.lastSeq ≤ 1 :=
  exists_storeLaneEvent {} 5 1 (by decide +kernel)
    (by decide +kernel) (by decide) (by
      intro row hhas hrow
      rcases hrow with hmem | hpayload
      · cases hmem
      · rw [hpayload]
        exact exists_upsert_first rfl (by decide) (by decide))

theorem firstLong_run :
    (LaneSystem.run EventLibrary.ascii (fun _ => "src") [[.deliver firstLong]]).delivered =
      [firstLong] := by
  obtain ⟨store₁, hstore₁, -⟩ := exists_first
  have hrun₁ := transact_deliver {} firstLong hstore₁
  unfold LaneSystem.run
  rw [List.foldl_cons, hrun₁]
  rfl

theorem laneEvents_settled_first :
    (LaneSystem.run EventLibrary.ascii (fun _ => "src") [[.deliver firstLong]]).Settled
      EventLibrary.ascii fun _ => "src" :=
  laneEvents_settled EventLibrary.ascii (fun _ => "src") [[.deliver firstLong]] (by
    rw [firstLong_run]
    apply keysApart_of_fits
    intro d hd
    obtain rfl := List.mem_singleton.mp hd
    decide)

theorem longTransactions_run : ∃ store,
    LaneSystem.run EventLibrary.ascii (fun _ => "src") longTransactions =
      { store := store, delivered := [firstLong, secondLong, thirdLong] } ∧
    store.log.rows.length ≤ 2 := by
  obtain ⟨hapart, hsame⟩ := storedKey_long
  obtain ⟨store₁, hstore₁, hseq₁⟩ := exists_first
  have hholds₁ : store₁.Holds EventLibrary.ascii (fun _ => "src") [firstLong] := by
    have hone : KeysApart ([] ++ [firstLong]) := by
      intro d hd d' hd' _ _
      rw [List.mem_singleton.mp hd, List.mem_singleton.mp hd']
    exact holds_deliver holds_empty hone hstore₁
  -- the second has another key, and what is shown is later
  obtain ⟨store₂, hstore₂, hseq₂⟩ := exists_late (10 ^ 200) hholds₁ (by simp)
    (lt_of_le_of_lt hseq₁ (by decide)) (Nat.le_succ _) (by
      intro row hrow hhas
      obtain ⟨d, hd, hhas', -⟩ := hholds₁.origin row hrow (by rw [hhas.2.2.2.2]; rfl)
      obtain rfl := List.mem_singleton.mp hd
      exact absurd (scope_of_has hhas' hhas).2 hapart)
  have hholds₂ : store₂.Holds EventLibrary.ascii (fun _ => "src") [firstLong, secondLong] := by
    have htwo : KeysApart ([firstLong] ++ [secondLong]) := by
      intro d hd d' hd' _ hkey
      simp only [List.cons_append, List.nil_append, List.mem_cons, List.not_mem_nil, or_false]
        at hd hd'
      rcases hd with rfl | rfl
      · rcases hd' with rfl | rfl
        · rfl
        · exact absurd hkey hapart
      · rcases hd' with rfl | rfl
        · exact absurd hkey.symm hapart
        · rfl
    exact holds_deliver hholds₁ htwo hstore₂
  -- the third has the key of the second
  obtain ⟨store₃, hstore₃, -⟩ := exists_late (10 ^ 200 + 1) hholds₂ (by simp)
    (lt_of_le_of_lt hseq₂ (lt_of_le_of_lt (Nat.succ_le_succ hseq₁) (by decide))) (le_refl _) (by
      intro row hrow hhas
      obtain ⟨d, hd, hhas', hpayload⟩ := hholds₂.origin row hrow (by rw [hhas.2.2.2.2]; rfl)
      have hkey := (scope_of_has hhas' hhas).2
      simp only [List.mem_cons, List.not_mem_nil, or_false] at hd
      rcases hd with rfl | rfl
      · exact absurd (hkey.trans hsame.symm) hapart
      · exact ⟨10 ^ 200, hpayload.trans (stored_sample _ _).2⟩)
  have hrun₁ := transact_deliver {} firstLong hstore₁
  have hrun₂ := transact_deliver { store := store₁, delivered := [firstLong] } secondLong hstore₂
  have hrun₃ := transact_deliver { store := store₂, delivered := [firstLong, secondLong] }
    thirdLong hstore₃
  refine ⟨store₃, ?_, ?_⟩
  · simp only [List.nil_append, List.cons_append] at hrun₁ hrun₂ hrun₃
    unfold LaneSystem.run longTransactions
    rw [List.foldl_cons, hrun₁, List.foldl_cons, hrun₂, List.foldl_cons, hrun₃, List.foldl_nil]
  · have hrows₁ := (length_rows_storeLaneEvent firstLong hstore₁).1
    have hrows₂ := (length_rows_storeLaneEvent secondLong hstore₂).1
    obtain ⟨row, hrow, hhas⟩ := hholds₂.present secondLong (by simp)
    have hrows₃ := (length_rows_storeLaneEvent thirdLong hstore₃).2
      ⟨row, hrow, has_iff_rowKey.mpr (by rw [hhas.rowKey_eq, hsame]; rfl)⟩
    have hempty : ({} : LaneStore).log.rows.length = 0 := rfl
    omega

theorem not_laneEvents_settled :
    ¬(LaneSystem.run EventLibrary.ascii (fun _ => "src") longTransactions).Settled
      EventLibrary.ascii fun _ => "src" := by
  intro h
  obtain ⟨store, hrun, hrows⟩ := longTransactions_run
  rw [hrun] at h
  have hlength := (h.once ("workspace", "user", "session")).length_eq
  have htriples : (([firstLong, secondLong, thirdLong].filter
      fun d => d.scope = ("workspace", "user", "session")).map
        fun d => some d.event.triple).dedup.length = 3 := by
    simp [firstLong, secondLong, thirdLong, sampleDelivery, Delivery.scope, LaneEvent.triple]
  rw [htriples, List.length_map] at hlength
  have hfilter := List.length_filter_le (keyedIn ("workspace", "user", "session")) store.log.rows
  dsimp only at hlength
  omega

end SeekTalent

import SeekTalent.Base.Json

/-!
# The envelope of a card search

The agent is a process that streams events while it works. A card search is made by one of its
tools, whose result is an envelope of cards, wrapped in an event of that tool. The client takes the
envelope from the event, and believes the agent's own final text only where there is none.
-/

namespace SeekTalent

namespace PiAgent

inductive PiExternalAgentErrorCode where
  | piUnavailable
  | promptRejected
  | timeout
  | uiRequestDenied
  | processFailed
  | missingAgentEnd
  | malformedOutput
  deriving DecidableEq

inductive PiRpcTaskStatus where
  | succeeded
  | unavailable
  | promptRejected
  | timeout
  | uiRequested
  | failed
  | missingAgentEnd
  deriving DecidableEq

structure PiRpcTaskResult where
  status : PiRpcTaskStatus
  finalText : String := ""
  safeMessage : String := ""
  events : List JsonObject := []

structure PiExternalTaskResult where
  ok : Bool
  envelope : Option JsonObject := none
  errorCode : Option PiExternalAgentErrorCode := none
  safeReasonCode : Option String := none
  safeMessage : String := ""
  observedToolNames : List String := []
  events : List JsonObject := []

/-- What the client uses of Python's library. -/
structure Library where
  /-- `json.loads`, where it does not raise -/
  loads : String → Option Json
  /-- `str.lower` -/
  lower : String → String

/-! ## 1. Reading events -/

def opencliSafeToolReasonCodes : List String :=
  ["liepin_opencli_backend_disabled", "liepin_opencli_command_missing",
    "liepin_opencli_extension_disconnected", "liepin_opencli_status_unavailable",
    "liepin_opencli_forbidden_command", "liepin_opencli_forbidden_text",
    "liepin_opencli_host_blocked", "liepin_opencli_start_url_blocked",
    "liepin_opencli_window_policy_blocked", "liepin_opencli_budget_exhausted",
    "liepin_opencli_timeout", "liepin_opencli_login_required", "liepin_opencli_identity_intercept",
    "liepin_opencli_risk_page", "liepin_opencli_unknown_modal",
    "liepin_opencli_source_policy_missing", "liepin_opencli_malformed_state"]

def searchCardsTool : String := "seektalent_opencli_search_liepin_cards"

def cardsSchema : String := "seektalent.pi_liepin_cards.v1"

def toolName (event : JsonObject) : Option String :=
  (event.getOr "toolName" "tool_name").bind Json.text?

section Events

variable (lib : Library)

/-- The value that a text holds if it looks like an object or an array and is not too long. -/
def embedded (maxChars : Nat) (text : String) : Option Json :=
  let stripped := Py.strip text
  match stripped.toList with
  | [] => none
  | first :: _ =>
    if first ∉ ['[', '{'] ∨ maxChars < stripped.length then none else lib.loads stripped

/-- `_cards_envelope_from_value`, `levels` levels above the last one. -/
def cardsEnvelopeFromValue (levels : Nat) (value : Json) : Option JsonObject :=
  match levels with
  | 0 => none
  | levels + 1 =>
    match value with
    | .object members =>
      if ((JsonObject.get members "schema_version").bind Json.text?) = some cardsSchema then
        some members
      else members.findSome? fun member => cardsEnvelopeFromValue levels member.2
    | .array items => items.findSome? (cardsEnvelopeFromValue levels)
    | .string text => (embedded lib 200000 text).bind (cardsEnvelopeFromValue levels)
    | _ => none

def carried (event : JsonObject) : Option JsonObject :=
  cardsEnvelopeFromValue lib 9 (.object event)

def strictCardsEnvelopeFromToolEvents (events : List JsonObject) : Option JsonObject :=
  (events.take 100).reverse.findSome? fun event =>
    if toolName event = some searchCardsTool then carried lib event else none

/-- `_safe_reason_code_from_value`, `levels` levels above the last one. -/
def safeReasonCodeFromValue (levels : Nat) (value : Json) : Option String :=
  match levels with
  | 0 => none
  | levels + 1 =>
    match value with
    | .object members =>
      let reasons := ["safeReasonCode", "safe_reason_code"].filterMap fun key =>
        (JsonObject.get members key).bind Json.text?
      match reasons.find? fun reason => reason ∈ opencliSafeToolReasonCodes with
      | some reason => some reason
      | none => members.findSome? fun member => safeReasonCodeFromValue levels member.2
    | .array items => items.findSome? (safeReasonCodeFromValue levels)
    | .string text => (embedded lib 20000 text).bind (safeReasonCodeFromValue levels)
    | _ => none

def safeToolReasonCode (events : List JsonObject) : Option String :=
  (events.take 100).reverse.findSome? fun event =>
    match toolName event with
    | none => none
    | some name =>
      if Py.startsWith name "seektalent_opencli_" then
        safeReasonCodeFromValue lib 7 (.object event)
      else none

def observedToolNames (events : List JsonObject) : List String :=
  events.foldl
    (fun names event =>
      let eventType := ((event.get "type").bind Json.text?).getD ""
      match toolName event with
      | none => names
      | some name =>
        if Py.startsWith eventType "tool_execution_" ∧ name ≠ "" ∧ name ∉ names then names ++ [name]
        else names)
    []

def safeRpcEvents (events : List JsonObject) : List JsonObject :=
  ((events.take 100).map fun event =>
    (match (event.get "type").bind Json.text? with
      | some eventType => [("type", Json.string eventType)]
      | none => []) ++
    match toolName event with
    | some name => [("tool_name", Json.string name)]
    | none => []).filter (!·.isEmpty)

/-! ## 2. A task -/

def parseStrictJsonObject (text : String) : Option JsonObject :=
  match lib.loads (Py.strip text) with
  | some (.object members) => some members
  | _ => none

def taskNameFromPrompt (prompt : String) : Option String :=
  match lib.loads prompt with
  | some (.object task) => (JsonObject.get task "task").bind Json.text?
  | _ => none

def externalCodeForRpcStatus : PiRpcTaskStatus → PiExternalAgentErrorCode
  | .unavailable => .piUnavailable
  | .promptRejected => .promptRejected
  | .timeout => .timeout
  | .uiRequested => .uiRequestDenied
  | .failed => .processFailed
  | .missingAgentEnd => .missingAgentEnd
  | .succeeded => .malformedOutput

def safeExternalMessage (message : String) : String :=
  if ["bearer ", "cookie", "session=", "token", "secret"].any (Py.contains (lib.lower message) ·) then
    "pi rpc failed"
  else if message = "" then "pi rpc failed"
  else message

/-- `_run_json_task_result_once`, with what the transport answers. -/
def runJsonTaskResultOnce (prompt : String) (rpcResult : PiRpcTaskResult) : PiExternalTaskResult :=
  let result : PiExternalTaskResult :=
    { ok := false
      safeReasonCode := safeToolReasonCode lib rpcResult.events
      observedToolNames := observedToolNames rpcResult.events
      events := safeRpcEvents rpcResult.events }
  let toolEnvelope := strictCardsEnvelopeFromToolEvents lib rpcResult.events
  match (if taskNameFromPrompt lib prompt = some "liepin.search_cards" then toolEnvelope else none) with
  | some envelope => { result with ok := true, envelope := some envelope }
  | none =>
    if rpcResult.status ≠ .succeeded then
      { result with
        errorCode := some (externalCodeForRpcStatus rpcResult.status)
        safeMessage := safeExternalMessage lib rpcResult.safeMessage }
    else
      match parseStrictJsonObject lib rpcResult.finalText with
      | some envelope => { result with ok := true, envelope := some envelope }
      | none =>
        match toolEnvelope with
        | some envelope => { result with ok := true, envelope := some envelope }
        | none =>
          { result with
            errorCode := some .malformedOutput
            safeMessage := "pi output did not contain exactly one valid JSON envelope" }

/-- `run_json_task_result`; `retried` is what the transport answers to the strict retry. -/
def runJsonTaskResult (prompt : String) (rpcResult retried : PiRpcTaskResult) :
    PiExternalTaskResult :=
  let result := runJsonTaskResultOnce lib prompt rpcResult
  if result.ok ∨ result.errorCode ≠ some .malformedOutput then result
  else
    let retryResult := runJsonTaskResultOnce lib prompt retried
    if !retryResult.ok ∧ retryResult.safeReasonCode = none ∧ result.safeReasonCode ≠ none then
      { retryResult with safeReasonCode := result.safeReasonCode }
    else retryResult

end Events

/-! ## 3. The last envelope -/

section Last

variable {lib : Library} {prompt : String} {events other : List JsonObject}

/-- The envelopes that the events of the search tool carry, in order. -/
def envelopes (lib : Library) (events : List JsonObject) : List JsonObject :=
  (events.filter fun event => toolName event = some searchCardsTool).filterMap (carried lib)

def lastEnvelope (lib : Library) (events : List JsonObject) : Option JsonObject :=
  (envelopes lib events).getLast?

theorem envelopes_append : envelopes lib (events ++ other) =
    envelopes lib events ++ envelopes lib other := by
  simp [envelopes]

theorem lastEnvelope_append : lastEnvelope lib (events ++ other) =
    (lastEnvelope lib other).or (lastEnvelope lib events) := by
  rw [lastEnvelope, envelopes_append, List.getLast?_append]
  rfl

theorem lastEnvelope_take_drop (count : Nat) : lastEnvelope lib events =
    (lastEnvelope lib (events.drop count)).or (lastEnvelope lib (events.take count)) := by
  rw [← lastEnvelope_append, List.take_append_drop]

theorem strictCardsEnvelope_eq : strictCardsEnvelopeFromToolEvents lib events =
    lastEnvelope lib (events.take 100) := by
  unfold strictCardsEnvelopeFromToolEvents lastEnvelope envelopes
  rw [← List.getLast?_filterMap, List.filterMap_filter]
  congr 2
  funext event
  by_cases htool : toolName event = some searchCardsTool
  · simp [htool]
  · simp [htool]

/-- Where the search tool carries an envelope, that is the task's result, whatever else the
    transport answers. -/
def TrustsTool (lib : Library) (prompt : String) (events : List JsonObject) : Prop :=
  ∀ envelope, lastEnvelope lib events = some envelope →
    ∀ rpcResult retried, rpcResult.events = events →
      (runJsonTaskResult lib prompt rpcResult retried).ok = true ∧
        (runJsonTaskResult lib prompt rpcResult retried).envelope = some envelope

/-- If an event after the first hundred carries an envelope, the last of them carries the one
    that the first hundred carry last. -/
def CarriedEarly (lib : Library) (events : List JsonObject) : Prop :=
  ∀ envelope, lastEnvelope lib (events.drop 100) = some envelope →
    lastEnvelope lib (events.take 100) = some envelope

theorem carriedEarly_iff : CarriedEarly lib events ↔
    lastEnvelope lib (events.take 100) = lastEnvelope lib events := by
  rw [CarriedEarly, @lastEnvelope_take_drop lib events 100]
  cases lastEnvelope lib (events.drop 100) with
  | none => simp
  | some envelope => simp

end Last

/-! ## 4. Whom the client trusts -/

section Trust

variable {lib : Library} {prompt : String} {events other : List JsonObject}
variable {rpcResult retried : PiRpcTaskResult} {envelope : JsonObject}

theorem once_of_envelope (htask : taskNameFromPrompt lib prompt = some "liepin.search_cards")
    (h : lastEnvelope lib (rpcResult.events.take 100) = some envelope) :
    (runJsonTaskResultOnce lib prompt rpcResult).ok = true ∧
      (runJsonTaskResultOnce lib prompt rpcResult).envelope = some envelope := by
  unfold runJsonTaskResultOnce
  rw [strictCardsEnvelope_eq, h]
  dsimp only
  rw [if_pos htask]
  exact ⟨rfl, rfl⟩

theorem run_of_envelope (htask : taskNameFromPrompt lib prompt = some "liepin.search_cards")
    (h : lastEnvelope lib (rpcResult.events.take 100) = some envelope) :
    (runJsonTaskResult lib prompt rpcResult retried).ok = true ∧
      (runJsonTaskResult lib prompt rpcResult retried).envelope = some envelope := by
  obtain ⟨hok, henvelope⟩ := once_of_envelope htask h
  unfold runJsonTaskResult
  dsimp only
  rw [if_pos (.inl hok)]
  exact ⟨hok, henvelope⟩

def PiExternalTaskResult.answer (result : PiExternalTaskResult) :
    Bool × Option JsonObject × Option PiExternalAgentErrorCode :=
  (result.ok, result.envelope, result.errorCode)

theorem once_of_no_envelope (h : lastEnvelope lib (events.take 100) = none)
    (hother : lastEnvelope lib (other.take 100) = none) :
    (runJsonTaskResultOnce lib prompt { rpcResult with events := other }).answer =
      (runJsonTaskResultOnce lib prompt { rpcResult with events := events }).answer := by
  unfold runJsonTaskResultOnce
  simp only [strictCardsEnvelope_eq, h, hother, ite_self]
  by_cases hstatus : rpcResult.status ≠ .succeeded
  · simp only [if_pos hstatus]
    rfl
  · simp only [if_neg hstatus]
    cases parseStrictJsonObject lib rpcResult.finalText <;> rfl

theorem answer_run (prompt : String) (rpcResult retried : PiRpcTaskResult) :
    (runJsonTaskResult lib prompt rpcResult retried).answer =
      if (runJsonTaskResultOnce lib prompt rpcResult).answer.1 = true ∨
          (runJsonTaskResultOnce lib prompt rpcResult).answer.2.2 ≠ some .malformedOutput then
        (runJsonTaskResultOnce lib prompt rpcResult).answer
      else (runJsonTaskResultOnce lib prompt retried).answer := by
  unfold runJsonTaskResult
  dsimp only
  by_cases hdone : (runJsonTaskResultOnce lib prompt rpcResult).ok = true ∨
      (runJsonTaskResultOnce lib prompt rpcResult).errorCode ≠ some .malformedOutput
  · rw [if_pos hdone]
    exact (if_pos hdone).symm
  · rw [if_neg hdone]
    refine Eq.trans ?_ (if_neg hdone).symm
    split <;> rfl

/-- The two streams differ in events of other tools only. -/
def SameSearchEvents (events other : List JsonObject) : Prop :=
  (events.filter fun event => toolName event = some searchCardsTool) =
    other.filter fun event => toolName event = some searchCardsTool

theorem SameSearchEvents.lastEnvelope_eq (h : SameSearchEvents events other) :
    lastEnvelope lib events = lastEnvelope lib other := by
  unfold lastEnvelope envelopes
  rw [h]

theorem answer_eq_of_same (htask : taskNameFromPrompt lib prompt = some "liepin.search_cards")
    (hsame : SameSearchEvents events other) (hearly : CarriedEarly lib events)
    (hotherEarly : CarriedEarly lib other) :
    (runJsonTaskResult lib prompt { rpcResult with events := other } retried).answer =
      (runJsonTaskResult lib prompt { rpcResult with events := events } retried).answer := by
  rw [carriedEarly_iff] at hearly hotherEarly
  have hlast : lastEnvelope lib (other.take 100) = lastEnvelope lib (events.take 100) := by
    rw [hearly, hotherEarly, hsame.lastEnvelope_eq]
  have honce : (runJsonTaskResultOnce lib prompt { rpcResult with events := other }).answer =
      (runJsonTaskResultOnce lib prompt { rpcResult with events := events }).answer := by
    cases henvelope : lastEnvelope lib (events.take 100) with
    | none => exact once_of_no_envelope henvelope (hlast.trans henvelope)
    | some envelope =>
      unfold runJsonTaskResultOnce
      simp only [strictCardsEnvelope_eq, hlast, henvelope, if_pos htask]
      rfl
  rw [answer_run, answer_run, honce]

theorem carriedEarly_of_trustsTool
    (htask : taskNameFromPrompt lib prompt = some "liepin.search_cards")
    (htrusts : TrustsTool lib prompt events) : CarriedEarly lib events := by
  intro envelope hlate
  have hlast : lastEnvelope lib events = some envelope := by
    rw [@lastEnvelope_take_drop lib events 100, hlate]
    rfl
  have hanswer := htrusts envelope hlast ⟨.failed, "", "", events⟩ ⟨.failed, "", "", events⟩ rfl
  cases hearly : lastEnvelope lib (events.take 100) with
  | none =>
    have hfailed : (runJsonTaskResult lib prompt ⟨.failed, "", "", events⟩
        ⟨.failed, "", "", events⟩).ok = false := by
      unfold runJsonTaskResult runJsonTaskResultOnce
      simp [strictCardsEnvelope_eq, hearly, externalCodeForRpcStatus]
    rw [hfailed] at hanswer
    cases hanswer.1
  | some early =>
    have hrun := @run_of_envelope lib prompt ⟨.failed, "", "", events⟩ ⟨.failed, "", "", events⟩
      early htask hearly
    rw [← hrun.2, hanswer.2]

/-- **The search tool is trusted** if the first hundred events carry what is carried last, and only
    then; among such streams, events of other tools make no difference. -/
theorem trustsTool_iff (htask : taskNameFromPrompt lib prompt = some "liepin.search_cards")
    (events : List JsonObject) :
    (TrustsTool lib prompt events ↔ CarriedEarly lib events) ∧
      ∀ other, SameSearchEvents events other → CarriedEarly lib events → CarriedEarly lib other →
        ∀ rpcResult retried : PiRpcTaskResult,
          (runJsonTaskResult lib prompt { rpcResult with events := other } retried).answer =
            (runJsonTaskResult lib prompt { rpcResult with events := events } retried).answer := by
  refine ⟨⟨?_, ?_⟩, ?_⟩
  · exact carriedEarly_of_trustsTool htask
  · intro hearly envelope hlast rpcResult retried hevents
    rw [carriedEarly_iff] at hearly
    apply run_of_envelope htask
    rw [hevents, hearly, hlast]
  · intro other hsame hearly hotherEarly rpcResult retried
    exact answer_eq_of_same htask hsame hearly hotherEarly

end Trust

/-! ## 5. An agent that streams a lot -/

/-- A library that reads the one prompt of the example, and no other text. -/
def sampleLibrary : Library where
  loads text :=
    if text = "search" then some (.object [("task", .string "liepin.search_cards")]) else none
  lower text := text

def sampleSearchEvent : JsonObject :=
  [("toolName", .string searchCardsTool),
    ("result", .object [("schema_version", .string cardsSchema)])]

theorem trustsTool_sample :
    TrustsTool sampleLibrary "search" [sampleSearchEvent] ∧
      ∀ other, SameSearchEvents [sampleSearchEvent] other →
        CarriedEarly sampleLibrary [sampleSearchEvent] → CarriedEarly sampleLibrary other →
        ∀ rpcResult retried : PiRpcTaskResult,
          (runJsonTaskResult sampleLibrary "search" { rpcResult with events := other }
            retried).answer =
            (runJsonTaskResult sampleLibrary "search"
              { rpcResult with events := [sampleSearchEvent] } retried).answer := by
  have htask : taskNameFromPrompt sampleLibrary "search" = some "liepin.search_cards" := by rfl
  have hiff := trustsTool_iff htask [sampleSearchEvent]
  refine ⟨hiff.1.mpr ?_, hiff.2⟩
  intro envelope hlate
  cases hlate

def sampleUpdate : JsonObject := [("type", .string "message_update")]

/-- **An agent that streams a hundred updates** before its search is not held to the search. -/
theorem not_trustsTool_late :
    ¬∀ (lib : Library) (prompt : String) (events : List JsonObject),
      taskNameFromPrompt lib prompt = some "liepin.search_cards" → TrustsTool lib prompt events := by
  intro h
  have htask : taskNameFromPrompt sampleLibrary "search" = some "liepin.search_cards" := by rfl
  have hearly := carriedEarly_of_trustsTool htask
    (h sampleLibrary "search" (List.replicate 100 sampleUpdate ++ [sampleSearchEvent]) htask)
  have hlate : lastEnvelope sampleLibrary
      ((List.replicate 100 sampleUpdate ++ [sampleSearchEvent]).drop 100) =
        some [("schema_version", .string cardsSchema)] := by rfl
  have hnone : lastEnvelope sampleLibrary
      ((List.replicate 100 sampleUpdate ++ [sampleSearchEvent]).take 100) = none := by rfl
  rw [hearly _ hlate] at hnone
  cases hnone

end PiAgent

end SeekTalent

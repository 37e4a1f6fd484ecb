import SeekTalent.Base.Run
import SeekTalent.Liepin.DetailSpec
import SeekTalent.Worker.Details

/-!
# What Python and the worker say to each other about details

Python sends its request as JSON and reads the worker's results back. A request keeps its texts
on the way. Python knows an attempt by its key, and both the attempts of a call and the items
it sends are keyed by their candidates (`prepare_keys`).
-/

namespace SeekTalent

namespace LiepinWorker

/-! ## 1. Python's request in the worker -/

/-- `item.model_dump(mode="json", by_alias=True)` -/
def itemJson (item : LiepinDetailOpenRequestItem) : Json :=
  .object
    [("requestId", .string item.requestId), ("attemptId", .string item.attemptId),
      ("idempotencyKey", .string item.idempotencyKey), ("approvalKey", .string item.approvalKey),
      ("candidateId", .string item.candidateId),
      ("detailUrl", (item.detailUrl.map .string).getD .null)]

/-- `request.model_dump(mode="json", by_alias=True)` -/
def requestJson (request : LiepinDetailOpenRequest) : Json :=
  .object
    [("tenantId", .string request.tenantId), ("workspaceId", .string request.workspaceId),
      ("providerAccountHash", .string request.providerAccountHash),
      ("connectionId", .string request.connectionId),
      ("providerDayKey", .string request.providerDayKey),
      ("workerCommandId", .string request.workerCommandId),
      ("requests", .array (request.requests.map itemJson))]

def trimmed (text : String) : Option String := some (Js.trim text) |>.filter (· ≠ "")

def workerItem (item : LiepinDetailOpenRequestItem) : DetailOpenRequest :=
  { requestId := item.requestId
    attemptId := item.attemptId
    idempotencyKey := item.idempotencyKey
    approvalKey := trimmed item.approvalKey
    candidateId := item.candidateId
    detailUrl := item.detailUrl.bind trimmed }

/-- What the worker makes of a request whose required texts are not blank. -/
def workerBody (request : LiepinDetailOpenRequest) : DetailOpenRequestBody :=
  { tenantId := some request.tenantId
    workspaceId := some request.workspaceId
    providerAccountHash := some request.providerAccountHash
    connectionId := some request.connectionId
    providerDayKey := some request.providerDayKey
    workerCommandId := request.workerCommandId
    requests := request.requests.map workerItem }

def Filled (item : LiepinDetailOpenRequestItem) : Prop :=
  Js.trim item.requestId ≠ "" ∧ Js.trim item.attemptId ≠ "" ∧ Js.trim item.idempotencyKey ≠ "" ∧
    Js.trim item.candidateId ≠ ""

section Parsing

variable {item : LiepinDetailOpenRequestItem} {request : LiepinDetailOpenRequest}
  {body : DetailOpenRequestBody} {parsed : DetailOpenRequest}

theorem stringValue_string_eq_ok_iff {text text' fieldName : String} :
    Server.stringValue (some (.string text)) fieldName = .ok text' ↔
      Js.trim text ≠ "" ∧ text = text' := by
  unfold Server.stringValue
  dsimp only
  split
  · rename_i hblank
    simp [hblank]
  · rename_i hfilled
    simp [hfilled]

theorem trimmedText_string (text : String) :
    Server.trimmedText (some (.string text)) = trimmed text := rfl

theorem trimmedText_detailUrl (detailUrl : Option String) :
    Server.trimmedText (some ((detailUrl.map .string).getD .null)) = detailUrl.bind trimmed := by
  cases detailUrl with
  | none => rfl
  | some text => exact trimmedText_string text

theorem detailOpenRequest_itemJson :
    Server.detailOpenRequest (itemJson item) = .ok parsed ↔
      Filled item ∧ workerItem item = parsed := by
  unfold Server.detailOpenRequest itemJson
  simp [-bind_pure_comp, Stateful.bind_eq_ok_iff, pure, Except.pure, JsonObject.get_cons,
    stringValue_string_eq_ok_iff, trimmedText_string, trimmedText_detailUrl, Filled, workerItem,
    and_assoc]

theorem mapM_itemJson {items : List LiepinDetailOpenRequestItem} {requests : List DetailOpenRequest} :
    (items.map itemJson).mapM Server.detailOpenRequest = .ok requests ↔
      (∀ item ∈ items, Filled item) ∧ items.map workerItem = requests := by
  induction items generalizing requests with
  | nil => simp [pure, Except.pure]
  | cons item items ih =>
    rw [List.map_cons, List.mapM_cons]
    simp only [Stateful.bind_eq_ok_iff, detailOpenRequest_itemJson, ih, pure, Except.pure, Except.ok.injEq]
    constructor
    · rintro ⟨_, ⟨hitem, rfl⟩, _, ⟨hitems, rfl⟩, rfl⟩
      exact ⟨List.forall_mem_cons.mpr ⟨hitem, hitems⟩, rfl⟩
    · rintro ⟨hall, rfl⟩
      obtain ⟨hitem, hitems⟩ := List.forall_mem_cons.mp hall
      exact ⟨_, ⟨hitem, rfl⟩, _, ⟨hitems, rfl⟩, rfl⟩

theorem detailOpenRequestBody_requestJson {members : JsonObject}
    (hmembers : requestJson request = .object members) :
    Server.detailOpenRequestBody members = .ok body ↔
      Js.trim request.workerCommandId ≠ "" ∧ request.requests ≠ [] ∧
        (∀ item ∈ request.requests, Filled item) ∧ workerBody request = body := by
  obtain rfl := Json.object.inj hmembers
  unfold Server.detailOpenRequestBody workerBody
  simp only [JsonObject.get_cons, String.reduceEq, if_true, if_false]
  cases hitems : request.requests with
  | nil => simp [Stateful.bind_eq_ok_iff]
  | cons item items =>
    rw [List.map_cons]
    dsimp only
    rw [← List.map_cons]
    simp only [Stateful.bind_eq_ok_iff, stringValue_string_eq_ok_iff, mapM_itemJson, pure, Except.pure,
      Except.ok.injEq]
    constructor
    · rintro ⟨_, ⟨hcommand, rfl⟩, _, ⟨hfilled, rfl⟩, rfl⟩
      exact ⟨hcommand, List.cons_ne_nil _ _, hfilled, rfl⟩
    · rintro ⟨hcommand, -, hfilled, rfl⟩
      exact ⟨_, ⟨hcommand, rfl⟩, _, ⟨hfilled, rfl⟩, rfl⟩

end Parsing

/-! ## 2. The worker's answer in Python -/

/-- `decode_detail_open_response` for one result -/
def toPythonResult (sha256Json : RawDetailPayload → String) (result : DetailOpenResult) :
    LiepinDetailOpenResult :=
  { idempotencyKey := result.idempotencyKey
    status :=
      match result.status with
      | .completed => .completed
      | .failedAfterPossibleConsumption => .failedAfterPossibleConsumption
    workerResponseId := result.workerResponseId
    workerCommandId := result.workerCommandId
    rawEvidenceRef := result.rawEvidenceRef
    diagnostics :=
      { pageLoaded := result.diagnostics.pageLoaded, payloadSeen := result.diagnostics.payloadSeen }
    candidate := result.candidate.map fun candidate =>
      { providerSubjectId := candidate.providerSubjectId
        syntheticCandidateFingerprint := candidate.syntheticCandidateFingerprint
        payloadSha256 := sha256Json candidate.payload } }

/-! ## 3. Keys -/

open DetailOpenCall

section Keys

variable {call : DetailOpenCall} {store store' : LiepinStore} {sent : List LiepinDetailOpenRequest}

theorem reserveDetailAttempt_keys {reservation : DetailReservation} {attemptId : String}
    {attempt : LiepinDetailAttemptRow}
    (h : store.reserveDetailAttempt reservation attemptId = .ok (store', attempt)) :
    attempt.idempotencyKey = reservation.idempotencyKey ∧
      attempt.candidateProviderId = reservation.candidateProviderId := by
  unfold LiepinStore.reserveDetailAttempt at h
  split at h
  · cases h
  · split at h
    · rename_i existing hfetch
      split at h
      · rename_i hreplay
        obtain ⟨-, rfl⟩ := Prod.mk.inj (Except.ok.inj h)
        have hkey : existing.reservationKey = (reservation.row "").reservationKey := by
          simpa using List.find?_some hfetch
        refine ⟨congrArg (·.2.2.2) hkey, ?_⟩
        by_contra hne
        simp [LiepinStore.validateDetailReservationReplay, hne] at hreplay
      · cases h
    · split at h
      · obtain ⟨-, rfl⟩ := Prod.mk.inj (Except.ok.inj h)
        exact ⟨rfl, rfl⟩
      · cases h

/-- Attempts and items are keyed by their candidates. -/
structure Keyed (attempts : List LiepinDetailAttemptRow) (items : List LiepinDetailOpenRequestItem) :
    Prop where
  attempts : ∀ attempt ∈ attempts, attempt.idempotencyKey = "open:" ++ attempt.candidateProviderId
  items : ∀ item ∈ items, item.idempotencyKey = "open:" ++ item.candidateId

theorem requestItem_keys {candidate : LiepinCardCandidate} {attempt : LiepinDetailAttemptRow}
    {item : LiepinDetailOpenRequestItem}
    (h : call.requestItem candidate attempt = .ok (some item)) :
    item.idempotencyKey = "open:" ++ item.candidateId := by
  unfold requestItem at h
  split at h
  · cases h
  · obtain ⟨approvalKey, -, hitem⟩ := Stateful.map_eq_ok h
    obtain rfl := Option.some.inj hitem
    rfl

theorem reserveAll_keys {selectedById : String → Option LiepinCardCandidate} {n : Nat}
    {decisions : List LiepinDetailPlanDecision} :
    Proc.Ensures (fun _ _ => True) (fun reserved _ _ => Keyed reserved.1 reserved.2)
      (call.reserveAll selectedById n decisions) store sent := by
  induction decisions generalizing n store sent with
  | nil => exact ⟨trivial, by simp, by simp⟩
  | cons decision rest ih =>
    unfold reserveAll
    split
    · exact ih
    · split
      · trivial
      · rename_i candidate _
        refine Proc.Ensures.bind (Q := fun attempt _ _ =>
          attempt.idempotencyKey = "open:" ++ attempt.candidateProviderId) ?_ ?_
        · apply Proc.Ensures.atomically trivial
          intro store' attempt hop
          obtain ⟨hkey, hcandidate⟩ := reserveDetailAttempt_keys hop
          rw [hkey, hcandidate]
          exact ⟨trivial, rfl⟩
        · intro attempt store' sent' _ hattempt
          cases hitem : call.requestItem candidate attempt with
          | error e => trivial
          | ok item =>
            refine Proc.Ensures.bind ih ?_
            intro reserved store'' sent'' _ hreserved
            refine ⟨trivial, List.forall_mem_cons.mpr ⟨hattempt, hreserved.attempts⟩, ?_⟩
            intro i hi
            rcases List.mem_append.mp hi with hi | hi
            · obtain rfl : item = some i := by simpa using hi
              exact requestItem_keys hitem
            · exact hreserved.items i hi

theorem prepare_keys :
    Proc.Ensures (fun _ _ => True) (fun prepared _ _ => Keyed prepared.attempts prepared.items)
      call.prepare store sent := by
  unfold prepare
  refine Proc.Ensures.bind (Q := fun _ _ _ => True) ?_ ?_
  · exact Proc.Ensures.atomically trivial fun _ _ _ => ⟨trivial, trivial⟩
  · intro consumed store₁ sent₁ _ _
    split
    · trivial
    · refine Proc.Ensures.bind reserveAll_keys ?_
      intro reserved store₂ sent₂ _ hreserved
      refine Proc.Ensures.bind (Q := fun _ _ _ => True) ?_ fun _ _ _ _ _ => ⟨trivial, hreserved⟩
      apply Proc.Ensures.forEach (I := fun _ _ _ => True) trivial trivial
      intro attempt _ store₃ sent₃ _ _
      refine Proc.Ensures.bind (Q := fun _ _ _ => True) ?_ fun _ _ _ _ _ => ⟨trivial, trivial⟩
      exact Proc.Ensures.atomically trivial fun _ _ _ => ⟨trivial, trivial⟩

end Keys

end LiepinWorker

end SeekTalent

import SeekTalent.Base.Base64
import SeekTalent.Base.JsonText
import SeekTalent.Liepin.DetailSettle
import SeekTalent.Worker.Exchange

/-!
# Approval keys

Python signs what a request may open: a key is the payload as JSON in base 64 and its HMAC. The
worker reads the payload of a key back and compares it with the request it comes with, but it also
has limits of its own that Python does not know: no white space in a key, at most 1024 code units of
an approval key, and at most 260 of an idempotency key. An issued key is approved exactly within
these limits and for what was signed (`isApproved_issued`).
-/

namespace SeekTalent

namespace LiepinWorker

structure Hmac where
  digest : (secret text : String) → List UInt8
  length_digest : ∀ secret text, (digest secret text).length = 32

variable (hmac : Hmac)

/-! ## 1. Python -/

def writtenPayload (payload : DetailApprovalPayload) : List (String × List Char) :=
  [("candidateId", Json.quoted payload.candidateId),
    ("connectionId", Json.quoted payload.connectionId),
    ("idempotencyKey", Json.quoted payload.idempotencyKey),
    ("providerAccountHash", Json.quoted payload.providerAccountHash),
    ("providerDayKey", Json.quoted payload.providerDayKey),
    ("tenantId", Json.quoted payload.tenantId), ("v", ['1']),
    ("workspaceId", Json.quoted payload.workspaceId)]

def payloadText (payload : DetailApprovalPayload) : List Char := Json.dumps (writtenPayload payload)

/-- `_encode_json` and `_sign` -/
def securityCodec : ApprovalCodec :=
  { encodeJson := fun payload =>
      String.ofList (Base64.encode (String.ofList (payloadText payload)).toUTF8.data.toList)
    sign := fun secret encodedPayload =>
      String.ofList (Base64.encode (hmac.digest secret encodedPayload)) }

/-! ## 2. The worker -/

/-- `buffer.toString("utf8")`; `replacing` is what it makes of bytes that are no UTF-8. -/
def utf8Text (replacing : List UInt8 → String) (bytes : List UInt8) : String :=
  (String.fromUTF8? ⟨bytes.toArray⟩).getD (replacing bytes)

/-- `JSON.parse(Buffer.from(encodedPayload, "base64url").toString("utf8"))`, if it is an object -/
def decodedPayload (replacing : List UInt8 → String) (encodedPayload : List Char) :
    Option JsonObject :=
  match Json.parse (utf8Text replacing (Base64.decode encodedPayload)) with
  | some (.object members) => some members
  | _ => none

/-- `member === value` for a text that may be missing -/
def sameText : Option Json → Option String → Bool
  | none, none => true
  | some (.string text), some value => text = value
  | _, _ => false

def payloadMatches (payload : JsonObject) (body : DetailOpenRequestBody)
    (request : DetailOpenRequest) : Bool :=
  (match payload.get "v" with
    | some (.number n) => n = 1
    | _ => false) &&
    sameText (payload.get "tenantId") body.tenantId &&
    sameText (payload.get "workspaceId") body.workspaceId &&
    sameText (payload.get "providerAccountHash") body.providerAccountHash &&
    sameText (payload.get "connectionId") body.connectionId &&
    sameText (payload.get "providerDayKey") body.providerDayKey &&
    sameText (payload.get "candidateId") (some request.candidateId) &&
    sameText (payload.get "idempotencyKey") (some request.idempotencyKey)

/-- `/\s/.test(text)` -/
def hasSpace (text : String) : Bool := text.toList.any Js.isSpace

def approvalPrefix : String := "detail-open:v1:"

/-- The signature is that of the encoded payload, and the payload matches. -/
def tokenApproved (replacing : List UInt8 → String) (body : DetailOpenRequestBody)
    (request : DetailOpenRequest) (secret : String) : List (List Char) → Bool
  | [encodedPayload, signature] =>
    encodedPayload ≠ [] && signature ≠ [] &&
      signature = Base64.encode (hmac.digest secret (String.ofList encodedPayload)) &&
      (decodedPayload replacing encodedPayload).any fun payload =>
        payloadMatches payload body request
  | _ => false

def isApprovedDetailOpenRequest (replacing : List UInt8 → String) (body : DetailOpenRequestBody)
    (request : DetailOpenRequest) (secret : String) : Bool :=
  match request.approvalKey with
  | none => false
  | some approvalKey =>
    if approvalKey = "" || Js.length approvalKey > 1024 || hasSpace approvalKey then false
    else if !Py.startsWith request.idempotencyKey "open:" ||
        Js.length request.idempotencyKey > 260 || hasSpace request.idempotencyKey then false
    else if !Py.startsWith approvalKey approvalPrefix then false
    else tokenApproved hmac replacing body request secret
      ((approvalKey.toList.drop approvalPrefix.length).splitOn '.')

/-! ## 3. An issued key -/

section Issued

variable {hmac} {payload : DetailApprovalPayload} {secret secret' key : String}
  {replacing : List UInt8 → String} {body : DetailOpenRequestBody} {request : DetailOpenRequest}

def payloadMembers (payload : DetailApprovalPayload) : List (String × Json) :=
  [("candidateId", .string payload.candidateId), ("connectionId", .string payload.connectionId),
    ("idempotencyKey", .string payload.idempotencyKey),
    ("providerAccountHash", .string payload.providerAccountHash),
    ("providerDayKey", .string payload.providerDayKey), ("tenantId", .string payload.tenantId),
    ("v", .number 1), ("workspaceId", .string payload.workspaceId)]

theorem parse_payloadText (payload : DetailApprovalPayload) :
    Json.parse (String.ofList (payloadText payload)) = some (.object (payloadMembers payload)) := by
  have hwrites : List.Forall₂ Json.Writes (writtenPayload payload) (payloadMembers payload) :=
    .cons (Json.writes_quoted ..) <| .cons (Json.writes_quoted ..) <|
    .cons (Json.writes_quoted ..) <| .cons (Json.writes_quoted ..) <|
    .cons (Json.writes_quoted ..) <| .cons (Json.writes_quoted ..) <|
    .cons (Json.writes_one ..) <| .cons (Json.writes_quoted ..) .nil
  unfold payloadText
  rw [Json.parse_dumps hwrites (List.cons_ne_nil _ _)]
  simp [payloadMembers, Json.ofMembers, JsonObject.set]

theorem utf8Text_toUTF8 (replacing : List UInt8 → String) (s : String) : utf8Text replacing s.toUTF8.data.toList = s := by
  have hvalid : s.toUTF8.IsValidUTF8 := s.isValidUTF8
  unfold utf8Text String.fromUTF8?
  rw [Array.toArray_toList, dif_pos hvalid]
  rfl

theorem decodedPayload_encodeJson (payload : DetailApprovalPayload) :
    decodedPayload replacing ((securityCodec hmac).encodeJson payload).toList =
      some (payloadMembers payload) := by
  unfold decodedPayload securityCodec
  rw [String.toList_ofList, Base64.decode_encode, utf8Text_toUTF8, parse_payloadText]

/-- The body and the request are those that the payload was signed for. -/
structure Agrees (payload : DetailApprovalPayload) (body : DetailOpenRequestBody)
    (request : DetailOpenRequest) : Prop where
  tenantId : body.tenantId = some payload.tenantId
  workspaceId : body.workspaceId = some payload.workspaceId
  providerAccountHash : body.providerAccountHash = some payload.providerAccountHash
  connectionId : body.connectionId = some payload.connectionId
  providerDayKey : body.providerDayKey = some payload.providerDayKey
  candidateId : request.candidateId = payload.candidateId
  idempotencyKey : request.idempotencyKey = payload.idempotencyKey

theorem sameText_string_iff {text : String} {value : Option String} :
    sameText (some (.string text)) value = true ↔ value = some text := by
  cases value with
  | none => simp [sameText]
  | some value => simp [sameText, eq_comm]

theorem payloadMatches_iff :
    payloadMatches (payloadMembers payload) body request = true ↔ Agrees payload body request := by
  unfold payloadMatches payloadMembers
  simp only [JsonObject.get_cons, String.reduceEq, if_true, if_false, sameText_string_iff,
    Bool.and_eq_true, decide_eq_true_eq, true_and, Option.some.injEq]
  constructor
  · rintro ⟨⟨⟨⟨⟨⟨htenant, hworkspace⟩, haccount⟩, hconnection⟩, hday⟩, hcandidate⟩, hkey⟩
    exact ⟨htenant, hworkspace, haccount, hconnection, hday, hcandidate, hkey⟩
  · intro h
    exact ⟨⟨⟨⟨⟨⟨h.tenantId, h.workspaceId⟩, h.providerAccountHash⟩, h.connectionId⟩,
      h.providerDayKey⟩, h.candidateId⟩, h.idempotencyKey⟩

/-- A letter, a digit, `-` or `_`. -/
def Plain (c : Char) : Prop := c.isAlphanum = true ∨ c = '-' ∨ c = '_'

theorem Plain.isSpace {c : Char} (h : Plain c) : Js.isSpace c = false := by
  rcases h with h | rfl | rfl
  · rw [Py.isAlphanum_iff] at h
    rw [Bool.eq_false_iff]
    intro hspace
    simp only [Js.isSpace, Bool.or_eq_true, Bool.and_eq_true, decide_eq_true_eq, beq_iff_eq] at hspace
    omega
  · decide
  · decide

theorem Plain.ne_point {c : Char} (h : Plain c) : c ≠ '.' := by
  rintro rfl
  exact absurd h (by unfold Plain; decide)

structure IssuedParts (key : String) (encodedPayload signature : List Char) : Prop where
  toList_eq : key.toList = approvalPrefix.toList ++ (encodedPayload ++ '.' :: signature)
  noSpace : hasSpace key = false
  splitOn_eq : (key.toList.drop approvalPrefix.length).splitOn '.' = [encodedPayload, signature]

theorem issuedParts_of_plain {encodedPayload signature : List Char}
    (hkey : key.toList = approvalPrefix.toList ++ (encodedPayload ++ '.' :: signature))
    (hencoded : ∀ c ∈ encodedPayload, Plain c) (hsignature : ∀ c ∈ signature, Plain c) :
    IssuedParts key encodedPayload signature := by
  refine ⟨hkey, ?_, ?_⟩
  · have hbegin : (approvalPrefix.toList.all fun c => !Js.isSpace c) = true := by decide
    unfold hasSpace
    rw [hkey, List.any_eq_false]
    intro c hc
    rw [Bool.not_eq_true]
    rcases List.mem_append.mp hc with hc | hc
    · simpa using List.all_eq_true.mp hbegin c hc
    · rcases List.mem_append.mp hc with hc | hc
      · exact (hencoded c hc).isSpace
      · rcases List.mem_cons.mp hc with rfl | hc
        · decide
        · exact (hsignature c hc).isSpace
  · have hlength : approvalPrefix.length = approvalPrefix.toList.length := String.length_toList.symm
    have hpoint : ∀ part ∈ [encodedPayload, signature], '.' ∉ part := by
      intro part hpart hmem
      rcases List.mem_cons.mp hpart with rfl | hpart
      · exact (hencoded _ hmem).ne_point rfl
      · rw [List.mem_singleton.mp hpart] at hmem
        exact (hsignature _ hmem).ne_point rfl
    rw [hkey, hlength, List.drop_left]
    have hparts := List.splitOn_intercalate '.' hpoint (List.cons_ne_nil _ _)
    simpa [List.intercalate] using hparts

theorem payloadText_bytes_ne_nil (payload : DetailApprovalPayload) :
    (String.ofList (payloadText payload)).toUTF8.data.toList ≠ [] := by
  intro hnil
  have hparse := parse_payloadText payload
  have hempty : String.ofList (payloadText payload) = "" := by
    rw [← utf8Text_toUTF8 (fun _ => "") (String.ofList (payloadText payload)), hnil]
    rfl
  rw [hempty] at hparse
  cases hparse

theorem encodeJson_ne_nil (payload : DetailApprovalPayload) :
    ((securityCodec hmac).encodeJson payload).toList ≠ [] := by
  simp only [securityCodec, String.toList_ofList]
  rw [Ne, Base64.encode_eq_nil_iff]
  exact payloadText_bytes_ne_nil payload

theorem signature_ne_nil (secret text : String) : Base64.encode (hmac.digest secret text) ≠ [] := by
  rw [Ne, Base64.encode_eq_nil_iff]
  intro hnil
  have hlength := hmac.length_digest secret text
  rw [hnil] at hlength
  cases hlength

theorem issued_parts
    (h : issueDetailOpenApprovalKey (securityCodec hmac) secret payload = .ok key) :
    IssuedParts key ((securityCodec hmac).encodeJson payload).toList
      (Base64.encode (hmac.digest secret ((securityCodec hmac).encodeJson payload))) := by
  apply issuedParts_of_plain
  · unfold issueDetailOpenApprovalKey at h
    split at h
    · cases h
    · obtain rfl := Except.ok.inj h
      simp [approvalPrefix, securityCodec]
  · intro c hc
    simp only [securityCodec, String.toList_ofList] at hc
    exact (Base64.encode_plain c hc).2
  · exact fun c hc => (Base64.encode_plain c hc).2

theorem isApproved_issued
    (h : issueDetailOpenApprovalKey (securityCodec hmac) secret payload = .ok key)
    (hkey : request.approvalKey = some key) :
    isApprovedDetailOpenRequest hmac replacing body request secret' = true ↔
      Js.length key ≤ 1024 ∧ Py.startsWith request.idempotencyKey "open:" = true ∧
        Js.length request.idempotencyKey ≤ 260 ∧ hasSpace request.idempotencyKey = false ∧
        Base64.encode (hmac.digest secret ((securityCodec hmac).encodeJson payload)) =
          Base64.encode (hmac.digest secret' ((securityCodec hmac).encodeJson payload)) ∧
        Agrees payload body request := by
  obtain ⟨hlist, hspace, hsplit⟩ := issued_parts h
  have hne : key ≠ "" := by
    rintro rfl
    simp [approvalPrefix] at hlist
  have hstart : Py.startsWith key approvalPrefix = true := by
    unfold Py.startsWith
    rw [hlist]
    exact decide_eq_true (List.prefix_append _ _)
  have htoken : tokenApproved hmac replacing body request secret'
      [((securityCodec hmac).encodeJson payload).toList,
        Base64.encode (hmac.digest secret ((securityCodec hmac).encodeJson payload))] = true ↔
      Base64.encode (hmac.digest secret ((securityCodec hmac).encodeJson payload)) =
          Base64.encode (hmac.digest secret' ((securityCodec hmac).encodeJson payload)) ∧
        Agrees payload body request := by
    unfold tokenApproved
    dsimp only
    rw [decodedPayload_encodeJson, String.ofList_toList, ← payloadMatches_iff]
    simp only [ne_eq, encodeJson_ne_nil, signature_ne_nil, not_false_eq_true, decide_true,
      Bool.true_and, Option.any_some, Bool.and_eq_true, decide_eq_true_eq]
  unfold isApprovedDetailOpenRequest
  rw [hkey]
  dsimp only
  rw [hsplit, hstart, hspace, ← htoken]
  by_cases hlong : 1024 < Js.length key
  · simp [hlong, Nat.not_le.mpr hlong]
  · by_cases hopen : Py.startsWith request.idempotencyKey "open:" = true
    · by_cases hlong' : 260 < Js.length request.idempotencyKey
      · simp [hne, hlong, hopen, hlong', Nat.not_le.mpr hlong']
      · cases hspace' : hasSpace request.idempotencyKey with
        | true => simp [hne, hlong, hopen, hlong']
        | false => simp [hne, hlong, Nat.not_lt.mp hlong, hopen, hlong', Nat.not_lt.mp hlong']
    · simp [hne, hlong, hopen]

end Issued

/-! ## 4. The items of a call -/

/-- Every attempt has an id that is not blank. -/
def Named (store : LiepinStore) : Prop := ∀ row ∈ store.attempts, Js.trim row.attemptId ≠ ""

structure ItemOf (call : DetailOpenCall) (item : LiepinDetailOpenRequestItem) : Prop where
  requestId : ∃ candidateId, item.requestId = "detail:" ++ candidateId
  attemptId : Js.trim item.attemptId ≠ ""
  idempotencyKey : item.idempotencyKey = "open:" ++ item.candidateId
  approvalKey : issueDetailOpenApprovalKey call.codec call.detailOpenApprovalSecret
    { tenantId := call.scope.tenantId
      workspaceId := call.scope.workspaceId
      providerAccountHash := call.providerAccountHash
      connectionId := call.connectionId
      providerDayKey := call.providerDayKey
      candidateId := item.candidateId
      idempotencyKey := item.idempotencyKey } = .ok item.approvalKey

section Items

open DetailOpenCall

variable {hmac} {call : DetailOpenCall} {store store' : LiepinStore}
  {sent : List LiepinDetailOpenRequest} {item : LiepinDetailOpenRequestItem}

theorem reserveDetailAttempt_named {reservation : DetailReservation} {attemptId : String}
    {attempt : LiepinDetailAttemptRow} (hstore : Named store) (hid : Js.trim attemptId ≠ "")
    (h : store.reserveDetailAttempt reservation attemptId = .ok (store', attempt)) :
    Named store' ∧ Js.trim attempt.attemptId ≠ "" := by
  unfold LiepinStore.reserveDetailAttempt at h
  split at h
  · cases h
  · split at h
    · rename_i existing hfetch
      split at h
      · obtain ⟨rfl, rfl⟩ := Prod.mk.inj (Except.ok.inj h)
        exact ⟨hstore, hstore existing (List.mem_of_find?_eq_some hfetch)⟩
      · cases h
    · split at h
      · obtain ⟨rfl, rfl⟩ := Prod.mk.inj (Except.ok.inj h)
        refine ⟨?_, hid⟩
        intro row hrow
        rcases List.mem_append.mp hrow with hrow | hrow
        · exact hstore row hrow
        · rw [List.mem_singleton.mp hrow]
          exact hid
      · cases h

theorem requestItem_itemOf {candidate : LiepinCardCandidate} {attempt : LiepinDetailAttemptRow}
    (hid : Js.trim attempt.attemptId ≠ "")
    (h : call.requestItem candidate attempt = .ok (some item)) : ItemOf call item := by
  unfold requestItem at h
  split at h
  · cases h
  · obtain ⟨approvalKey, hissued, hitem⟩ := Stateful.map_eq_ok h
    obtain rfl := Option.some.inj hitem
    exact ⟨⟨candidate.candidateId, rfl⟩, hid, rfl, hissued⟩

theorem reserveAll_itemOf {selectedById : String → Option LiepinCardCandidate} {n : Nat}
    {decisions : List LiepinDetailPlanDecision} (hids : ∀ n, Js.trim (call.attemptIds n) ≠ "")
    (hstore : Named store) :
    Proc.Ensures (fun _ _ => True) (fun reserved _ _ => ∀ item ∈ reserved.2, ItemOf call item)
      (call.reserveAll selectedById n decisions) store sent := by
  induction decisions generalizing n store sent with
  | nil => exact ⟨trivial, by simp⟩
  | cons decision rest ih =>
    unfold reserveAll
    split
    · exact ih hstore
    · split
      · trivial
      · rename_i candidate _
        refine Proc.Ensures.bind (Q := fun attempt store' _ =>
          Named store' ∧ Js.trim attempt.attemptId ≠ "") ?_ ?_
        · apply Proc.Ensures.atomically trivial
          intro store' attempt hop
          exact ⟨trivial, reserveDetailAttempt_named hstore (hids n) hop⟩
        · intro attempt store' sent' _ hattempt
          cases hitem : call.requestItem candidate attempt with
          | error e => trivial
          | ok item =>
            refine Proc.Ensures.bind (ih hattempt.1) ?_
            intro reserved store'' sent'' _ hreserved
            refine ⟨trivial, ?_⟩
            intro i hi
            rcases List.mem_append.mp hi with hi | hi
            · obtain rfl : item = some i := by simpa using hi
              exact requestItem_itemOf hattempt.2 hitem
            · exact hreserved i hi

theorem prepare_itemOf (hids : ∀ n, Js.trim (call.attemptIds n) ≠ "") (hstore : Named store) :
    Proc.Ensures (fun _ _ => True) (fun prepared _ _ => ∀ item ∈ prepared.items, ItemOf call item)
      call.prepare store sent := by
  unfold prepare
  refine Proc.Ensures.bind (Q := fun _ store' _ => Named store') ?_ ?_
  · apply Proc.Ensures.atomically trivial
    intro store' consumed hop
    obtain ⟨rfl, -⟩ := Prod.mk.inj (Except.ok.inj hop)
    exact ⟨trivial, hstore⟩
  · intro consumed store₁ sent₁ _ hstore₁
    split
    · trivial
    · refine Proc.Ensures.bind (reserveAll_itemOf hids hstore₁) ?_
      intro reserved store₂ sent₂ _ hreserved
      refine Proc.Ensures.bind (Q := fun _ _ _ => True) ?_ fun _ _ _ _ _ => ⟨trivial, hreserved⟩
      apply Proc.Ensures.forEach (I := fun _ _ _ => True) trivial trivial
      intro attempt _ store₃ sent₃ _ _
      refine Proc.Ensures.bind (Q := fun _ _ _ => True) ?_ fun _ _ _ _ _ => ⟨trivial, trivial⟩
      exact Proc.Ensures.atomically trivial fun _ _ _ => ⟨trivial, trivial⟩

/-- The worker reads the request, and approves the item in it. -/
def Passes (hmac : Hmac) (replacing : List UInt8 → String) (secret : String)
    (request : LiepinDetailOpenRequest) (item : LiepinDetailOpenRequestItem) : Prop :=
  ∃ members body, requestJson request = .object members ∧
    Server.detailOpenRequestBody members = .ok body ∧
      isApprovedDetailOpenRequest hmac replacing body (workerItem item) secret = true

/-- What the worker asks of an item beyond what Python asks. -/
structure WithinLimits (item : LiepinDetailOpenRequestItem) : Prop where
  noSpace : hasSpace item.candidateId = false
  idempotencyKey_le : Js.length item.idempotencyKey ≤ 260
  approvalKey_le : Js.length item.approvalKey ≤ 1024

theorem hasSpace_open (text : String) : hasSpace ("open:" ++ text) = hasSpace text := by
  have hopen : "open:".toList.any Js.isSpace = false := by decide
  unfold hasSpace
  rw [String.toList_append, List.any_append, hopen, Bool.false_or]

theorem ItemOf.filled_iff (h : ItemOf call item) :
    Filled item ↔ Js.trim item.candidateId ≠ "" := by
  obtain ⟨candidateId, hrequest⟩ := h.requestId
  have hrequestId : Js.trim item.requestId ≠ "" := by
    rw [hrequest]
    exact Js.trim_ne_empty (c := 'd') (by simp) (by decide)
  have hkey : Js.trim item.idempotencyKey ≠ "" := by
    rw [h.idempotencyKey]
    exact Js.trim_ne_empty (c := 'o') (by simp) (by decide)
  unfold Filled
  exact ⟨fun h => h.2.2.2, fun hcandidate => ⟨hrequestId, h.attemptId, hkey, hcandidate⟩⟩

theorem trimmed_of_issued {payload : DetailApprovalPayload} {secret key : String}
    (h : issueDetailOpenApprovalKey (securityCodec hmac) secret payload = .ok key) :
    trimmed key = some key := by
  obtain ⟨hlist, hspace, -⟩ := issued_parts h
  have hkeep : Js.trim key = key := by
    apply Js.trim_of_no_space
    intro c hc
    simpa using List.any_eq_false.mp hspace c hc
  have hne : key ≠ "" := by
    rintro rfl
    simp [approvalPrefix] at hlist
  simp [trimmed, hkeep, hne]

theorem passes_iff {replacing : List UInt8 → String} {prepared : Prepared}
    (hcodec : call.codec = securityCodec hmac) (hcommand : Js.trim call.workerCommandId ≠ "")
    (hitems : ∀ item ∈ prepared.items, ItemOf call item) (hmem : item ∈ prepared.items) :
    Passes hmac replacing call.detailOpenApprovalSecret (call.request prepared) item ↔
      (∀ other ∈ prepared.items, Js.trim other.candidateId ≠ "") ∧ WithinLimits item := by
  have hfilled : (∀ other ∈ prepared.items, Filled other) ↔
      ∀ other ∈ prepared.items, Js.trim other.candidateId ≠ "" :=
    forall₂_congr fun other hother => (hitems other hother).filled_iff
  have hitem := hitems item hmem
  have hissued := hitem.approvalKey
  rw [hcodec] at hissued
  have happroved : isApprovedDetailOpenRequest hmac replacing (workerBody (call.request prepared))
      (workerItem item) call.detailOpenApprovalSecret = true ↔ WithinLimits item := by
    rw [isApproved_issued hissued (trimmed_of_issued hissued)]
    show _ ∧ Py.startsWith item.idempotencyKey "open:" = true ∧ _ ∧
      hasSpace item.idempotencyKey = false ∧ _ ↔ _
    rw [hitem.idempotencyKey, hasSpace_open, ← hitem.idempotencyKey]
    constructor
    · intro h
      exact ⟨h.2.2.2.1, h.2.2.1, h.1⟩
    · intro h
      refine ⟨h.approvalKey_le, ?_, h.idempotencyKey_le, h.noSpace, rfl, ?_⟩
      · rw [hitem.idempotencyKey]
        exact decide_eq_true ⟨item.candidateId.toList, by simp⟩
      · exact ⟨rfl, rfl, rfl, rfl, rfl, rfl, rfl⟩
  rw [← hfilled, ← happroved]
  constructor
  · rintro ⟨members, body, hmembers, hparsed, hpass⟩
    obtain ⟨-, -, hall, rfl⟩ := (detailOpenRequestBody_requestJson hmembers).mp hparsed
    exact ⟨hall, hpass⟩
  · rintro ⟨hall, hpass⟩
    exact ⟨_, _, rfl, (detailOpenRequestBody_requestJson rfl).mpr
      ⟨hcommand, List.ne_nil_of_mem hmem, hall, rfl⟩, hpass⟩

/-- An item of every request that a call builds passes the worker's checks exactly if no
    candidate's id in the request is blank and the item is within the worker's limits; and an issued
    key is approved, under any secret, only for what it was issued for. -/
theorem approval_spec {replacing : List UInt8 → String} {worker : List LiepinDetailOpenRequest → WorkerAnswer}
    {prepared : Prepared} (hcodec : call.codec = securityCodec hmac)
    (hids : ∀ n, Js.trim (call.attemptIds n) ≠ "") (hcommand : Js.trim call.workerCommandId ≠ "")
    (hstore : Named store) (hprepared : (call.prepare.run worker store sent).result = .ok prepared) :
    (∀ item ∈ prepared.items,
      (Passes hmac replacing call.detailOpenApprovalSecret (call.request prepared) item ↔
        (∀ other ∈ prepared.items, Js.trim other.candidateId ≠ "") ∧ WithinLimits item)) ∧
    ∀ payload secret secret' key body request,
      issueDetailOpenApprovalKey (securityCodec hmac) secret payload = .ok key →
      request.approvalKey = some key →
      isApprovedDetailOpenRequest hmac replacing body request secret' = true →
        Agrees payload body request := by
  have hitems : ∀ item ∈ prepared.items, ItemOf call item :=
    ((prepare_itemOf hids hstore).run worker).2 prepared hprepared
  constructor
  · intro item hitem
    exact passes_iff hcodec hcommand hitems hitem
  · intro payload secret secret' key body request hissued hkey happroved
    exact ((isApproved_issued hissued hkey).mp happroved).2.2.2.2.2

/-! ## 5. An id with a blank -/

def sampleText : String :=
  "eyJjYW5kaWRhdGVJZCI6ImNhbmQgMSIsImNvbm5lY3Rpb25JZCI6ImNvbm5lY3Rpb24iLCJpZGVtcG90ZW5jeUtleSI6Im9w" ++
  "ZW46Y2FuZCAxIiwicHJvdmlkZXJBY2NvdW50SGFzaCI6ImFjY291bnQiLCJwcm92aWRlckRheUtleSI6ImxpZXBpbjoyMDI1" ++
  "LTAxLTAxIiwidGVuYW50SWQiOiJ0ZW5hbnQiLCJ2IjoxLCJ3b3Jrc3BhY2VJZCI6IndvcmtzcGFjZSJ9"

def sampleDigest (secret text : String) : List UInt8 :=
  if secret = "secret" ∧ text = sampleText then
    [129, 95, 76, 164, 163, 63, 125, 255, 124, 161, 171, 73, 95, 114, 105, 88, 6, 58, 38, 42, 31, 54,
      37, 193, 81, 126, 35, 103, 96, 105, 124, 53]
  else List.replicate 32 0

theorem length_sampleDigest (secret text : String) : (sampleDigest secret text).length = 32 := by
  unfold sampleDigest
  split
  · rfl
  · rfl

def sampleHmac : Hmac := ⟨sampleDigest, length_sampleDigest⟩

def blankCall : DetailOpenCall :=
  { oneCardCall "cand 1" "detail_1" with codec := securityCodec sampleHmac }

theorem codec_blankCall : blankCall.codec = securityCodec sampleHmac := rfl

theorem blankCall_named : (∀ n, Js.trim (blankCall.attemptIds n) ≠ "") ∧
    Js.trim blankCall.workerCommandId ≠ "" ∧ Named {} := by
  refine ⟨fun _ => ?_, ?_, ?_⟩
  · exact Js.trim_ne_empty (s := "detail_1") (c := 'd') (by decide) (by decide)
  · exact Js.trim_ne_empty (s := "command") (c := 'c') (by decide) (by decide)
  · intro row hrow
    cases hrow

theorem prepare_blankCall (worker : List LiepinDetailOpenRequest → WorkerAnswer) :
    ∃ prepared, (blankCall.prepare.run worker {} []).result = .ok prepared ∧
      prepared.items.map (·.candidateId) = ["cand 1"] := by
  have hrun : (blankCall.prepare.run worker {} []).result.toOption.map
      (fun prepared => prepared.items.map (·.candidateId)) = some ["cand 1"] := by
    -- the answer of the worker is not asked for
    rfl
  cases hresult : (blankCall.prepare.run worker {} []).result with
  | ok prepared => exact ⟨prepared, rfl, by simpa [hresult, Except.toOption] using hrun⟩
  | error e => simp [hresult, Except.toOption] at hrun

/-- The item of the call is refused for the blank in its keys. -/
theorem not_passes_blankCall :
    ¬∀ (hmac : Hmac) replacing (call : DetailOpenCall) store sent worker (prepared : Prepared),
      call.codec = securityCodec hmac → (∀ n, Js.trim (call.attemptIds n) ≠ "") →
      Js.trim call.workerCommandId ≠ "" → Named store →
      (call.prepare.run worker store sent).result = .ok prepared → ∀ item ∈ prepared.items,
        Passes hmac replacing call.detailOpenApprovalSecret (call.request prepared) item := by
  intro h
  obtain ⟨hids, hcommand, hstore⟩ := blankCall_named
  obtain ⟨prepared, hprepared, hcandidates⟩ := prepare_blankCall fun _ => .cancelled
  obtain ⟨item, hitems, hcandidate⟩ := List.map_eq_singleton_iff.mp hcandidates
  have hmem : item ∈ prepared.items := by simp [hitems]
  have hpass := h sampleHmac (fun _ => "") blankCall {} [] (fun _ => .cancelled) prepared
    codec_blankCall hids hcommand hstore hprepared item hmem
  have hitemOf : ∀ item ∈ prepared.items, ItemOf blankCall item :=
    ((prepare_itemOf hids hstore).run _).2 prepared hprepared
  have hlimits := ((passes_iff codec_blankCall hcommand hitemOf hmem).mp hpass).2.noSpace
  rw [hcandidate] at hlimits
  exact absurd hlimits (by decide)

theorem approval_spec_blankCall :
    ∃ prepared, (blankCall.prepare.run (fun _ => .cancelled) {} []).result = .ok prepared ∧
      ∀ item ∈ prepared.items,
        (Passes sampleHmac (fun _ => "") blankCall.detailOpenApprovalSecret
            (blankCall.request prepared) item ↔
          (∀ other ∈ prepared.items, Js.trim other.candidateId ≠ "") ∧ WithinLimits item) := by
  obtain ⟨hids, hcommand, hstore⟩ := blankCall_named
  obtain ⟨prepared, hprepared, -⟩ := prepare_blankCall fun _ => .cancelled
  exact ⟨prepared, hprepared, (approval_spec codec_blankCall hids hcommand hstore hprepared).1⟩

end Items

end LiepinWorker

end SeekTalent

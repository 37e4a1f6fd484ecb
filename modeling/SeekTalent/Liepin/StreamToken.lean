import SeekTalent.Base.JsonWritten
import SeekTalent.Worker.Approval

/-!
# Stream tokens

A stream token is the payload of a stream as JSON in base 64, a point, and the HMAC of what stands
before the point. Whoever presents a token chooses all its characters. The signature is made of ASCII
only and compared with ASCII only, and neither is inside a guarded block: a token with a point and
any other character is not refused, it raises. All other tokens get the right answer
(`answered_iff`).
-/

namespace SeekTalent

namespace Liepin

open LiepinWorker (Hmac approvalPrefix payloadMembers payloadText)

/-! ## 1. The data -/

inductive StreamSubjectType
  | connection
  | run
  deriving DecidableEq

def StreamSubjectType.value : StreamSubjectType → String
  | .connection => "connection"
  | .run => "run"

structure StreamScope where
  tenantId : String
  workspaceId : String
  actorId : String
  subjectType : StreamSubjectType
  subjectId : String
  deriving DecidableEq

structure StreamTokenPayload where
  scope : StreamScope
  exp : ℤ
  nonce : String

inductive SecurityError
  | unicodeEncodeError
  | typeError
  | attributeError
  | valueError

def StreamTokenPayload.written (payload : StreamTokenPayload) : List (String × List Char) :=
  [("actor_id", Json.quoted payload.scope.actorId), ("exp", (Json.wholeText payload.exp).toList),
    ("nonce", Json.quoted payload.nonce), ("subject_id", Json.quoted payload.scope.subjectId),
    ("subject_type", Json.quoted payload.scope.subjectType.value),
    ("tenant_id", Json.quoted payload.scope.tenantId),
    ("workspace_id", Json.quoted payload.scope.workspaceId)]

def StreamTokenPayload.members (payload : StreamTokenPayload) : JsonObject :=
  [("actor_id", .string payload.scope.actorId), ("exp", .number payload.exp),
    ("nonce", .string payload.nonce), ("subject_id", .string payload.scope.subjectId),
    ("subject_type", .string payload.scope.subjectType.value),
    ("tenant_id", .string payload.scope.tenantId),
    ("workspace_id", .string payload.scope.workspaceId)]

/-! ## 2. The code -/

section Code

variable (hmac : Hmac)

def isAscii (text : String) : Bool := text.toList.all fun c => c.toNat < 0x80

/-- `_encode_json`, of a mapping that is written already -/
def encodeJson (text : List Char) : String :=
  String.ofList (Base64.encode (String.ofList text).toUTF8.data.toList)

def signature (secret encodedPayload : String) : String :=
  String.ofList (Base64.encode (hmac.digest secret encodedPayload))

def sign (secret encodedPayload : String) : Except SecurityError String :=
  if isAscii encodedPayload then .ok (signature hmac secret encodedPayload)
  else .error .unicodeEncodeError

/-- `issue_stream_token`, at a time and with a nonce -/
def issueStreamToken (secret : String) (scope : StreamScope) (now ttlSeconds : ℤ) (nonce : String) :
    Except SecurityError String := do
  let payload : StreamTokenPayload := { scope, exp := now + ttlSeconds, nonce }
  let encodedPayload := encodeJson (Json.dumps payload.written)
  let signature ← sign hmac secret encodedPayload
  return encodedPayload ++ "." ++ signature

/-- `token.split(".", 1)`, if there are two parts -/
def splitToken (token : String) : Option (String × String) :=
  match token.toList.dropWhile (· ≠ '.') with
  | [] => none
  | _ :: after => some (String.ofList (token.toList.takeWhile (· ≠ '.')), String.ofList after)

/-- `hmac.compare_digest` of two texts -/
def compareDigest (a b : String) : Except SecurityError Bool :=
  if isAscii a && isAscii b then .ok (a = b) else .error .typeError

/-- `json.loads(_decode(encoded_payload).decode("utf-8"))`, with `none` where it is caught -/
def loadPayload (encodedPayload : String) : Option Json := do
  let bytes ← Base64.decodePadded (Base64.pad encodedPayload.toList)
  let text ← String.fromUTF8? ⟨bytes.toArray⟩
  Json.parse text

/-- What `verify_stream_token` and `read_stream_token_payload` do first: the payload of a token, or
    `none` where they refuse it. -/
def openToken (secret token : String) : Except SecurityError (Option Json) :=
  match splitToken token with
  | none => .ok none
  | some (encodedPayload, presented) => do
    let expectedSignature ← sign hmac secret encodedPayload
    let same ← compareDigest presented expectedSignature
    return if same then loadPayload encodedPayload else none

variable (intText : String → Option ℤ)

/-- `int(value)`; `intText` is what it makes of a text -/
def intOf : Json → Except SecurityError ℤ
  | .number value => .ok (value.num.tdiv value.den)
  | .bool value => .ok (if value then 1 else 0)
  | .string text => (intText text).elim (.error .valueError) .ok
  | .null => .error .typeError
  | .array _ => .error .typeError
  | .object _ => .error .typeError

/-- The fields that `verify_stream_token` compares. -/
def expectedMembers (scope : StreamScope) : List (String × String) :=
  [("tenant_id", scope.tenantId), ("workspace_id", scope.workspaceId), ("actor_id", scope.actorId),
    ("subject_type", scope.subjectType.value), ("subject_id", scope.subjectId)]

/-- `payload.get(key) == text` -/
def hasText (payload : JsonObject) (key text : String) : Bool :=
  match payload.get key with
  | some (.string value) => value = text
  | _ => false

def verifyStreamToken (secret : String) (scope : StreamScope) (now : ℤ) (token : String) :
    Except SecurityError Bool := do
  match ← openToken hmac secret token with
  | none => return false
  | some (.object payload) =>
    if (expectedMembers scope).any fun expected => !hasText payload expected.1 expected.2 then
      return false
    else
      let exp ← intOf intText ((JsonObject.get payload "exp").getD (.number 0))
      return now ≤ exp
  | some _ => .error .attributeError

def readStreamTokenPayload (secret : String) (now : ℤ) (token : String) :
    Except SecurityError (Option JsonObject) := do
  match ← openToken hmac secret token with
  | none => return none
  | some (.object payload) =>
    let exp ← intOf intText ((JsonObject.get payload "exp").getD (.number 0))
    return if exp < now then none else some payload
  | some _ => .error .attributeError

end Code

/-! ## 3. What has been signed -/

/-- What the two issuing functions sign. -/
inductive SignedPayload
  | stream (payload : StreamTokenPayload)
  | approval (payload : DetailApprovalPayload)

def SignedPayload.text : SignedPayload → List Char
  | .stream payload => Json.dumps payload.written
  | .approval payload => payloadText payload

structure SigningCall where
  secret : String
  payload : SignedPayload

def streamToken (hmac : Hmac) (secret : String) (payload : StreamTokenPayload) : String :=
  let encodedPayload := encodeJson (Json.dumps payload.written)
  encodedPayload ++ "." ++ signature hmac secret encodedPayload

/-- The signature of the token is not forged: if it is the one of what it signs, then this has been
    signed with the secret. -/
def Unforged (hmac : Hmac) (calls : List SigningCall) (secret token : String) : Prop :=
  ∀ encodedPayload presented, splitToken token = some (encodedPayload, presented) →
    presented = signature hmac secret encodedPayload →
      ∃ call ∈ calls, call.secret = secret ∧ encodeJson call.payload.text = encodedPayload

structure Live (hmac : Hmac) (calls : List SigningCall) (secret : String) (now : ℤ) (token : String)
    (payload : StreamTokenPayload) : Prop where
  issued : ⟨secret, .stream payload⟩ ∈ calls
  token_eq : token = streamToken hmac secret payload
  fresh : now ≤ payload.exp

/-- Both functions return, and what they should. -/
structure Answered (hmac : Hmac) (intText : String → Option ℤ) (calls : List SigningCall)
    (secret : String) (scope : StreamScope) (now : ℤ) (token : String) : Prop where
  verified : ∃ verdict, verifyStreamToken hmac intText secret scope now token = .ok verdict ∧
    (verdict = true ↔ ∃ payload, Live hmac calls secret now token payload ∧ payload.scope = scope)
  read : ∃ result, readStreamTokenPayload hmac intText secret now token = .ok result ∧
    ∀ members, result = some members ↔
      ∃ payload, Live hmac calls secret now token payload ∧ members = payload.members

/-! ## 4. Encoding and decoding -/

section Encoding

variable {hmac : Hmac} {secret token encodedPayload presented : String}
variable {payload : StreamTokenPayload}

theorem plain_encodeJson (text : List Char) : ∀ c ∈ (encodeJson text).toList,
    c.toNat < 0x80 ∧ c ≠ '.' := by
  intro c hc
  unfold encodeJson at hc
  rw [String.toList_ofList] at hc
  obtain ⟨hascii, hplain⟩ := Base64.encode_plain c hc
  refine ⟨hascii, ?_⟩
  rintro rfl
  exact absurd hplain (by decide)

theorem isAscii_encodeJson (text : List Char) : isAscii (encodeJson text) = true :=
  List.all_eq_true.mpr fun c hc => decide_eq_true (plain_encodeJson text c hc).1

theorem isAscii_signature (secret encodedPayload : String) :
    isAscii (signature hmac secret encodedPayload) = true := by
  unfold isAscii signature
  rw [String.toList_ofList]
  exact List.all_eq_true.mpr fun c hc => decide_eq_true (Base64.encode_plain c hc).1

theorem loadPayload_encodeJson (text : List Char) :
    loadPayload (encodeJson text) = Json.parse (String.ofList text) := by
  unfold loadPayload encodeJson
  rw [String.toList_ofList, Base64.decodePadded_encode]
  have hvalid : (String.ofList text).toUTF8.IsValidUTF8 := (String.ofList text).isValidUTF8
  have hbytes : String.fromUTF8? ⟨(String.ofList text).toUTF8.data.toList.toArray⟩ =
      some (String.ofList text) := by
    unfold String.fromUTF8?
    rw [Array.toArray_toList, dif_pos hvalid]
    rfl
  simp only [Option.bind_eq_bind, Option.bind_some, hbytes]

theorem readsAs_whole (n : ℤ) : Json.ReadsAs (Json.wholeText n).toList (.number n) := by
  intro depth rest hrest
  apply Json.readValue_number (Json.numberReads_whole n)
  obtain ⟨cs, rfl | rfl⟩ := hrest
  · exact Json.ends_cons (by decide)
  · exact Json.ends_cons (by decide)

theorem parse_streamPayload (payload : StreamTokenPayload) :
    Json.parse (String.ofList (Json.dumps payload.written)) = some (.object payload.members) := by
  have hwrites : List.Forall₂ Json.Writes payload.written payload.members :=
    .cons (Json.writes_quoted ..) <| .cons ⟨rfl, readsAs_whole _⟩ <|
    .cons (Json.writes_quoted ..) <| .cons (Json.writes_quoted ..) <|
    .cons (Json.writes_quoted ..) <| .cons (Json.writes_quoted ..) <|
    .cons (Json.writes_quoted ..) .nil
  rw [Json.parse_dumps hwrites (List.cons_ne_nil _ _)]
  simp [StreamTokenPayload.members, Json.ofMembers, JsonObject.set]

theorem splitToken_append (h : '.' ∉ encodedPayload.toList) :
    splitToken (encodedPayload ++ "." ++ presented) = some (encodedPayload, presented) := by
  have hchars : (encodedPayload ++ "." ++ presented).toList =
      encodedPayload.toList ++ '.' :: presented.toList := by
    simp
  have hpoint : ∀ c ∈ encodedPayload.toList, decide (c ≠ '.') = true := by
    intro c hc
    apply decide_eq_true
    rintro rfl
    exact h hc
  unfold splitToken
  rw [hchars, List.dropWhile_append_of_pos hpoint, List.takeWhile_append_of_pos hpoint]
  simp

theorem eq_of_splitToken (h : splitToken token = some (encodedPayload, presented)) :
    token = encodedPayload ++ "." ++ presented := by
  unfold splitToken at h
  have hsplit := List.takeWhile_append_dropWhile (p := (· ≠ '.')) (l := token.toList)
  cases hdrop : token.toList.dropWhile (· ≠ '.') with
  | nil =>
    rw [hdrop] at h
    cases h
  | cons c after =>
    have hc : c = '.' := by
      have hhead := List.head?_dropWhile_not (fun c => decide (c ≠ '.')) token.toList
      rw [hdrop] at hhead
      simpa using hhead
    rw [hdrop] at h hsplit
    obtain ⟨rfl, rfl⟩ := Prod.mk.inj (Option.some.inj h)
    apply String.toList_inj.mp
    refine hsplit.symm.trans ?_
    rw [hc]
    simp

theorem splitToken_eq_none_iff : splitToken token = none ↔ '.' ∉ token.toList := by
  unfold splitToken
  cases hdrop : token.toList.dropWhile (· ≠ '.') with
  | nil =>
    have hall := List.dropWhile_eq_nil_iff.mp hdrop
    simp only [true_iff]
    intro hmem
    exact absurd (hall '.' hmem) (by decide)
  | cons c after =>
    simp only [reduceCtorEq, false_iff, not_not]
    by_contra hnone
    have hnil : token.toList.dropWhile (· ≠ '.') = [] := by
      apply List.dropWhile_eq_nil_iff.mpr
      intro c hc
      apply decide_eq_true
      rintro rfl
      exact hnone hc
    rw [hdrop] at hnil
    cases hnil

end Encoding

/-! ## 5. The answers -/

section Answers

variable {hmac : Hmac} {intText : String → Option ℤ} {calls : List SigningCall}
variable {secret token : String} {scope : StreamScope} {now : ℤ} {payload : StreamTokenPayload}
variable {opened : Option Json}

/-- Every character is ASCII, or there is no point. -/
def Plain (token : String) : Prop := '.' ∉ token.toList ∨ isAscii token = true

instance : DecidablePred Plain := fun token =>
  inferInstanceAs (Decidable ('.' ∉ token.toList ∨ isAscii token = true))

theorem openToken_streamToken (payload : StreamTokenPayload) :
    openToken hmac secret (streamToken hmac secret payload) = .ok (some (.object payload.members)) := by
  have hsplit : splitToken (streamToken hmac secret payload) =
      some (encodeJson (Json.dumps payload.written),
        signature hmac secret (encodeJson (Json.dumps payload.written))) :=
    splitToken_append fun hmem => (plain_encodeJson _ _ hmem).2 rfl
  unfold openToken
  rw [hsplit]
  dsimp only
  rw [sign, if_pos (isAscii_encodeJson _)]
  show (compareDigest _ _ >>= _) = _
  rw [compareDigest, isAscii_signature, Bool.true_and, if_pos rfl, decide_eq_true rfl]
  show Except.ok (loadPayload _) = _
  rw [loadPayload_encodeJson, parse_streamPayload]

theorem openToken_of_not_plain (h : ¬Plain token) : ∃ error, openToken hmac secret token = .error error := by
  obtain ⟨hpoint, hascii⟩ := not_or.mp h
  rw [not_not] at hpoint
  unfold openToken
  cases hsplit : splitToken token with
  | none => exact absurd hpoint (splitToken_eq_none_iff.mp hsplit)
  | some parts =>
    obtain ⟨encodedPayload, presented⟩ := parts
    obtain rfl := eq_of_splitToken hsplit
    dsimp only
    by_cases hencoded : isAscii encodedPayload = true
    · have hpresented : isAscii presented = false := by
        rw [Bool.eq_false_iff]
        intro hpresented
        apply hascii
        unfold isAscii at hencoded hpresented ⊢
        rw [String.toList_append, String.toList_append, List.all_append, List.all_append, hencoded,
          hpresented]
        decide
      rw [sign, if_pos hencoded]
      refine ⟨.typeError, ?_⟩
      show (compareDigest _ _ >>= _) = _
      rw [compareDigest, hpresented, Bool.false_and, if_neg Bool.false_ne_true]
      rfl
    · rw [sign, if_neg hencoded]
      exact ⟨.unicodeEncodeError, rfl⟩

theorem openToken_of_plain (h : Plain token) : ∃ opened, openToken hmac secret token = .ok opened ∧
    (opened = none ∨ ∃ encodedPayload,
      token = encodedPayload ++ "." ++ signature hmac secret encodedPayload ∧
        splitToken token = some (encodedPayload, signature hmac secret encodedPayload) ∧
          opened = loadPayload encodedPayload) := by
  unfold openToken
  cases hsplit : splitToken token with
  | none => exact ⟨none, rfl, .inl rfl⟩
  | some parts =>
    obtain ⟨encodedPayload, presented⟩ := parts
    have htoken := eq_of_splitToken hsplit
    have hpoint : '.' ∈ token.toList := by
      by_contra hnone
      rw [splitToken_eq_none_iff.mpr hnone] at hsplit
      cases hsplit
    have hascii : isAscii token = true := h.resolve_left (not_not.mpr hpoint)
    rw [htoken] at hascii
    unfold isAscii at hascii
    rw [String.toList_append, String.toList_append, List.all_append, List.all_append,
      Bool.and_eq_true, Bool.and_eq_true] at hascii
    have hencoded : isAscii encodedPayload = true := hascii.1.1
    have hpresented : isAscii presented = true := hascii.2
    dsimp only
    rw [sign, if_pos hencoded]
    by_cases heq : presented = signature hmac secret encodedPayload
    · refine ⟨loadPayload encodedPayload, ?_, .inr ⟨encodedPayload, heq ▸ htoken, by rw [heq], rfl⟩⟩
      show (compareDigest _ _ >>= _) = _
      rw [compareDigest, hpresented, isAscii_signature, Bool.true_and, if_pos rfl, decide_eq_true heq]
      rfl
    · refine ⟨none, ?_, .inl rfl⟩
      show (compareDigest _ _ >>= _) = _
      rw [compareDigest, hpresented, isAscii_signature, Bool.true_and, if_pos rfl, decide_eq_false heq]
      rfl

/-- **What has been signed**: an opened token is the one of a stream, or an approval without its
    prefix. -/
theorem opened_cases (hunforged : Unforged hmac calls secret token) (hplain : Plain token) :
    openToken hmac secret token = .ok none ∨
      (∃ payload, ⟨secret, .stream payload⟩ ∈ calls ∧ token = streamToken hmac secret payload) ∨
        ∃ approval, openToken hmac secret token = .ok (some (.object (payloadMembers approval))) := by
  obtain ⟨opened, hopen, hcases⟩ := @openToken_of_plain hmac secret token hplain
  rcases hcases with rfl | ⟨encodedPayload, htoken, hsplit, rfl⟩
  · exact .inl hopen
  · obtain ⟨⟨callSecret, callPayload⟩, hcall, rfl, rfl⟩ := hunforged _ _ hsplit rfl
    cases callPayload with
    | stream payload => exact .inr (.inl ⟨payload, hcall, htoken⟩)
    | approval approval =>
      refine .inr (.inr ⟨approval, ?_⟩)
      rw [hopen, loadPayload_encodeJson]
      exact congrArg Except.ok (LiepinWorker.parse_payloadText approval)

theorem intOf_whole (n : ℤ) : intOf intText (.number n) = .ok n := by
  simp [intOf]

/-- The rest of `verify_stream_token`, when a dictionary has been read. -/
theorem verify_of_open {members : JsonObject}
    (h : openToken hmac secret token = .ok (some (.object members))) :
    verifyStreamToken hmac intText secret scope now token =
      if (expectedMembers scope).any fun expected => !hasText members expected.1 expected.2 then
        .ok false
      else (intOf intText ((JsonObject.get members "exp").getD (.number 0))).map fun exp => decide (now ≤ exp) := by
  unfold verifyStreamToken
  rw [h]
  show (if _ then _ else _) = _
  split
  · rfl
  · cases intOf intText ((JsonObject.get members "exp").getD (.number 0)) <;> rfl

theorem read_of_open {members : JsonObject}
    (h : openToken hmac secret token = .ok (some (.object members))) :
    readStreamTokenPayload hmac intText secret now token =
      (intOf intText ((JsonObject.get members "exp").getD (.number 0))).map fun exp =>
        if exp < now then none else some members := by
  unfold readStreamTokenPayload
  rw [h]
  show (intOf intText ((JsonObject.get members "exp").getD (.number 0)) >>= fun exp =>
    pure (if exp < now then none else some members)) = _
  cases intOf intText ((JsonObject.get members "exp").getD (.number 0)) <;> rfl

theorem verify_streamToken (payload : StreamTokenPayload) :
    verifyStreamToken hmac intText secret scope now (streamToken hmac secret payload) =
      .ok (decide (payload.scope = scope ∧ now ≤ payload.exp)) := by
  have hgets : (expectedMembers scope).any (fun expected =>
      !hasText payload.members expected.1 expected.2) = !decide (payload.scope = scope) := by
    have hscope : payload.scope = scope ↔ payload.scope.tenantId = scope.tenantId ∧
        payload.scope.workspaceId = scope.workspaceId ∧ payload.scope.actorId = scope.actorId ∧
          payload.scope.subjectType = scope.subjectType ∧ payload.scope.subjectId = scope.subjectId := by
      constructor
      · rintro rfl
        exact ⟨rfl, rfl, rfl, rfl, rfl⟩
      · rintro ⟨htenant, hworkspace, hactor, htype, hid⟩
        cases hleft : payload.scope
        cases scope
        simp_all
    have htype : payload.scope.subjectType.value = scope.subjectType.value ↔
        payload.scope.subjectType = scope.subjectType := by
      cases payload.scope.subjectType <;> cases scope.subjectType <;> decide
    have hmembers : ((expectedMembers scope).any fun expected =>
        !hasText payload.members expected.1 expected.2) = true ↔ ¬payload.scope = scope := by
      rw [hscope, ← htype]
      simp only [expectedMembers, List.any_cons, List.any_nil, hasText, StreamTokenPayload.members,
        JsonObject.get_cons, String.reduceEq, if_true, if_false, Bool.or_false, Bool.or_eq_true,
        Bool.not_eq_true', decide_eq_false_iff_not]
      tauto
    rw [Bool.eq_iff_iff, hmembers, Bool.not_eq_true', decide_eq_false_iff_not]
  have hexp : JsonObject.get payload.members "exp" = some (.number payload.exp) := by
    simp [StreamTokenPayload.members, JsonObject.get_cons]
  rw [verify_of_open (openToken_streamToken payload), hgets, hexp, Option.getD_some, intOf_whole]
  by_cases hscope : payload.scope = scope
  · simp [hscope, Except.map]
  · simp [hscope]

theorem read_streamToken (payload : StreamTokenPayload) :
    readStreamTokenPayload hmac intText secret now (streamToken hmac secret payload) =
      .ok (if payload.exp < now then none else some payload.members) := by
  have hexp : JsonObject.get payload.members "exp" = some (.number payload.exp) := by
    simp [StreamTokenPayload.members, JsonObject.get_cons]
  rw [read_of_open (openToken_streamToken payload), hexp, Option.getD_some, intOf_whole]
  rfl

theorem refused_of_none (h : openToken hmac secret token = .ok none) :
    verifyStreamToken hmac intText secret scope now token = .ok false ∧
      readStreamTokenPayload hmac intText secret now token = .ok none := by
  constructor
  · unfold verifyStreamToken
    rw [h]
    rfl
  · unfold readStreamTokenPayload
    rw [h]
    rfl

theorem refused_of_approval {approval : DetailApprovalPayload} (hnow : 0 < now)
    (h : openToken hmac secret token = .ok (some (.object (payloadMembers approval)))) :
    verifyStreamToken hmac intText secret scope now token = .ok false ∧
      readStreamTokenPayload hmac intText secret now token = .ok none := by
  have htenant : hasText (payloadMembers approval) "tenant_id" scope.tenantId = false := by
    simp [hasText, payloadMembers, JsonObject.get]
  have hany : ((expectedMembers scope).any fun expected =>
      !hasText (payloadMembers approval) expected.1 expected.2) = true := by
    rw [expectedMembers, List.any_cons, htenant, Bool.not_false, Bool.true_or]
  have hexp : JsonObject.get (payloadMembers approval) "exp" = none := by
    simp [payloadMembers, JsonObject.get]
  have hzero : intOf intText (.number 0) = .ok 0 := by simp [intOf]
  constructor
  · rw [verify_of_open h, if_pos hany]
  · rw [read_of_open h, hexp, Option.getD_none, hzero]
    show Except.ok (if 0 < now then none else some (payloadMembers approval)) = _
    rw [if_pos hnow]

theorem not_refused {payload : StreamTokenPayload} (h : Live hmac calls secret now token payload) :
    readStreamTokenPayload hmac intText secret now token ≠ .ok none := by
  rw [h.token_eq, read_streamToken, if_neg (not_lt.mpr h.fresh)]
  intro heq
  cases heq

theorem answered_of_refused (h : verifyStreamToken hmac intText secret scope now token = .ok false ∧
      readStreamTokenPayload hmac intText secret now token = .ok none) :
    Answered hmac intText calls secret scope now token := by
  obtain ⟨hverify, hread⟩ := h
  refine ⟨⟨false, hverify, ?_⟩, ⟨none, hread, fun members => ?_⟩⟩
  · simp only [Bool.false_eq_true, false_iff, not_exists, not_and]
    intro payload hlive
    exact absurd hread (not_refused hlive)
  · simp only [reduceCtorEq, false_iff, not_exists, not_and]
    intro payload hlive
    exact absurd hread (not_refused hlive)

theorem answered_of_issued (hissued : ⟨secret, .stream payload⟩ ∈ calls)
    (htoken : token = streamToken hmac secret payload) :
    Answered hmac intText calls secret scope now token := by
  constructor
  · refine ⟨_, htoken ▸ verify_streamToken payload, ?_⟩
    rw [decide_eq_true_eq]
    constructor
    · rintro ⟨hscope, hfresh⟩
      exact ⟨payload, ⟨hissued, htoken, hfresh⟩, hscope⟩
    · rintro ⟨other, hlive, hscope⟩
      have hverified := @verify_streamToken hmac intText secret scope now other
      rw [← hlive.token_eq, htoken, verify_streamToken] at hverified
      injection hverified with hverified
      rw [decide_eq_decide] at hverified
      exact hverified.mpr ⟨hscope, hlive.fresh⟩
  · refine ⟨_, htoken ▸ read_streamToken payload, fun members => ?_⟩
    constructor
    · intro hsome
      by_cases hlate : payload.exp < now
      · rw [if_pos hlate] at hsome
        cases hsome
      · rw [if_neg hlate] at hsome
        exact ⟨payload, ⟨hissued, htoken, not_lt.mp hlate⟩, (Option.some.inj hsome).symm⟩
    · rintro ⟨other, hlive, rfl⟩
      have hread := @read_streamToken hmac intText secret now other
      rw [← hlive.token_eq, htoken, read_streamToken, if_neg (not_lt.mpr hlive.fresh)] at hread
      injection hread

end Answers

/-! ## 6. Some tokens -/

def zeroHmac : Hmac where
  digest _ _ := List.replicate 32 0
  length_digest _ _ := List.length_replicate

def runScope : StreamScope :=
  { tenantId := "local"
    workspaceId := "default"
    actorId := "local"
    subjectType := .run
    subjectId := "run-1" }

end Liepin

end SeekTalent

import SeekTalent.Base.Json
import SeekTalent.Worker.Extraction

/-!
# Opening details in the worker

The worker checks the body of a request for details as a whole, and then opens one page after
the other in a browser of its own. A page that was opened may have cost a view. Whatever throws,
the URL of a request at its turn, the browser, or closing it at the end, the one answer is an
error for all requests.

`Served` keeps the requests whose navigation returned beside the response.
-/

namespace SeekTalent

namespace LiepinWorker

/-! ## 1. The body -/

structure DetailOpenRequest where
  requestId : String
  attemptId : String
  idempotencyKey : String
  approvalKey : Option String := none
  candidateId : String
  detailUrl : Option String := none
  deriving DecidableEq

structure DetailOpenRequestBody where
  tenantId : Option String := none
  workspaceId : Option String := none
  providerAccountHash : Option String := none
  connectionId : Option String := none
  providerDayKey : Option String := none
  workerCommandId : String
  requests : List DetailOpenRequest
  deriving DecidableEq

namespace Server

def stringValue (value : Option Json) (fieldName : String) : Except String String :=
  match value with
  | some (.string text) =>
    if Js.trim text = "" then .error ("Missing " ++ fieldName ++ ".") else .ok text
  | _ => .error ("Missing " ++ fieldName ++ ".")

/-- `typeof value === "string"`, with the text -/
def textOf (value : Option Json) : Option String := value.bind Json.text?

def trimmedText (value : Option Json) : Option String :=
  ((textOf value).map Js.trim).filter (· ≠ "")

def detailOpenRequest (entry : Json) : Except String DetailOpenRequest := do
  let .object members := entry | .error "Invalid detail request."
  let entry : JsonObject := members
  let requestId ← stringValue (entry.get "requestId") "requestId"
  let attemptId ← stringValue (entry.get "attemptId") "attemptId"
  let idempotencyKey ← stringValue (entry.get "idempotencyKey") "idempotencyKey"
  let candidateId ← stringValue (entry.get "candidateId") "candidateId"
  return { requestId, attemptId, idempotencyKey, candidateId,
           approvalKey := trimmedText (entry.get "approvalKey"),
           detailUrl := trimmedText (entry.get "detailUrl") }

def detailOpenRequestBody (body : JsonObject) : Except String DetailOpenRequestBody := do
  let workerCommandId ← stringValue (body.get "workerCommandId") "workerCommandId"
  match body.get "requests" with
  | some (.array (entry :: entries)) =>
    let requests ← (entry :: entries).mapM detailOpenRequest
    return { tenantId := textOf (body.get "tenantId")
             workspaceId := textOf (body.get "workspaceId")
             providerAccountHash := textOf (body.get "providerAccountHash")
             connectionId := textOf (body.get "connectionId")
             providerDayKey := textOf (body.get "providerDayKey")
             workerCommandId, requests }
  | _ => .error "Missing requests."

mutual

def containsBudgetField : JsonObject → Bool
  | [] => false
  | (key, value) :: members =>
    -- of the letters of "budget" only those of ASCII have a capital letter
    Py.contains (String.ofList (key.toList.map Char.toLower)) "budget" || valueHasBudget value ||
      containsBudgetField members

def valueHasBudget : Json → Bool
  | .array items => itemsHaveBudget items
  | .object members => containsBudgetField members
  | _ => false

def itemsHaveBudget : List Json → Bool
  | [] => false
  | .object members :: items => containsBudgetField members || itemsHaveBudget items
  | _ :: items => itemsHaveBudget items

end

structure SessionScope where
  tenantId : String
  workspaceId : String
  providerAccountHash : String
  connectionId : String

def detailOpenSessionScope (body : DetailOpenRequestBody) : Except String SessionScope := do
  let tenantId ← stringValue (body.tenantId.map .string) "tenantId"
  let workspaceId ← stringValue (body.workspaceId.map .string) "workspaceId"
  let providerAccountHash ←
    stringValue (body.providerAccountHash.map .string) "providerAccountHash"
  let connectionId ← stringValue (body.connectionId.map .string) "connectionId"
  return { tenantId, workspaceId, providerAccountHash, connectionId }

/-! ## 2. The URL of a request -/

/-- What `new URL` makes of a text. -/
structure Url where
  protocol : String
  hostname : String

structure WorkerOptions where
  detailOpenKeyApproved : Option (DetailOpenRequestBody → DetailOpenRequest → Bool)
  allowDataDetailUrls : Bool
  /-- `new URL`, where it does not throw -/
  newUrl : String → Option Url

def hexByte (byte : UInt8) : List Char :=
  let digits := "0123456789ABCDEF".toList
  [digits.getD (byte.toNat / 16) '0', digits.getD (byte.toNat % 16) '0']

def encodeURIComponent (s : String) : String :=
  String.ofList (s.toList.flatMap fun c =>
    if c.isAlphanum || c ∈ ['-', '_', '.', '!', '~', '*', '\'', '(', ')'] then [c]
    else (String.utf8EncodeChar c).flatMap fun byte => '%' :: hexByte byte)

variable (options : WorkerOptions)

def safeDetailUrl (rawUrl : String) : Option String :=
  (options.newUrl rawUrl).bind fun parsed =>
    if options.allowDataDetailUrls && parsed.protocol = "data:" then some rawUrl
    else if parsed.protocol = "https:" &&
        (parsed.hostname = "liepin.com" || Py.endsWith parsed.hostname ".liepin.com") then
      some rawUrl
    else none

def detailUrlForRequest (request : DetailOpenRequest) : Option String :=
  match request.detailUrl with
  | some detailUrl => safeDetailUrl options detailUrl
  | none => some ("https://www.liepin.com/candidate/" ++ encodeURIComponent request.candidateId)

end Server

/-! ## 3. Opening -/

structure DetailOpenDiagnostics where
  pageLoaded : Bool
  payloadSeen : Bool
  extractionSource : Option ExtractionSource
  messages : List String

/-- Four fields are the same for every candidate: `retention_policy` `provider_snapshot_7d`,
    `access_scope` `local_run_only`, `redaction_state` `raw_provider_payload`, and no
    `provider_listing_id`. -/
structure PythonWorkerCandidateDetail where
  payload : RawDetailPayload
  normalizedText : String
  providerSubjectId : Option String
  syntheticCandidateFingerprint : String
  identityConfidence : String
  extractionSource : ExtractionSource
  extractorVersion : String
  piiClassification : String

inductive DetailResultStatus where
  | completed
  | failedAfterPossibleConsumption

structure DetailOpenResult where
  requestId : String
  attemptId : String
  idempotencyKey : String
  status : DetailResultStatus
  workerResponseId : String
  workerCommandId : String
  rawEvidenceRef : Option String := none
  candidate : Option PythonWorkerCandidateDetail := none
  diagnostics : DetailOpenDiagnostics

structure DetailOpenResponse where
  workerCommandId : String
  results : List DetailOpenResult

def toPythonWorkerDetail (detail : WorkerCandidateDetail) : PythonWorkerCandidateDetail :=
  let providerSubjectId :=
    if detail.providerCandidateId = "" then none else some detail.providerCandidateId
  { payload := detail.rawPayload
    normalizedText := detail.searchableText
    providerSubjectId
    syntheticCandidateFingerprint := providerSubjectId.getD detail.providerDetailId
    identityConfidence :=
      if providerSubjectId.isSome then "provider_subject_id" else "synthetic_fingerprint"
    extractionSource := detail.extractionSource
    extractorVersion := detail.extractorVersion
    piiClassification :=
      if detail.privacy.containsDirectContact then "direct_contact_possible"
      else "no_direct_contact" }

/-- The result of a request whose page has been read: the end of `openOneDetail`. -/
def detailResult (workerCommandId : String) (request : DetailOpenRequest) (html : String) :
    DetailOpenResult :=
  let detail := extractDetailFromDomFallback html request.candidateId
  let workerResponseId := workerCommandId ++ ":" ++ request.attemptId
  if detail.missingFields = [] then
    { requestId := request.requestId
      attemptId := request.attemptId
      idempotencyKey := request.idempotencyKey
      status := .completed
      workerResponseId, workerCommandId
      rawEvidenceRef := some ("dom:" ++ request.candidateId)
      candidate := some (toPythonWorkerDetail detail)
      diagnostics :=
        { pageLoaded := true, payloadSeen := true, extractionSource := some .domFallback,
          messages := [] } }
  else
    { requestId := request.requestId
      attemptId := request.attemptId
      idempotencyKey := request.idempotencyKey
      status := .failedAfterPossibleConsumption
      workerResponseId, workerCommandId
      diagnostics :=
        { pageLoaded := true, payloadSeen := false, extractionSource := none,
          messages := ["detail payload not found after visible open"] } }

/-- The session store and the browser. A navigation and the contents of a page may depend on the
    turn of the request and its URL. -/
structure Browser where
  /-- `readStorageState` returns -/
  readStorageState : Server.SessionScope → Bool
  launch : Bool
  newContext : Bool
  newPage : Bool
  /-- `page.goto` returns -/
  goto : Nat → String → Bool
  /-- `page.content()`, where it does not throw -/
  content : Nat → String → Option String
  closeContext : Bool
  closeBrowser : Bool

/-- The requests whose pages were opened, and what is returned, or nothing for an exception. -/
structure Opened (α : Type) where
  visited : List DetailOpenRequest
  result : Option α

variable (options : Server.WorkerOptions) (browser : Browser) (workerCommandId : String)

/-- `openOneDetail`, at the turn `n` -/
def openOneDetail (n : Nat) (request : DetailOpenRequest) : Opened DetailOpenResult :=
  match Server.detailUrlForRequest options request with
  | none => ⟨[], none⟩
  | some url =>
    if browser.goto n url then
      ⟨[request], (browser.content n url).map (detailResult workerCommandId request)⟩
    else ⟨[], none⟩

/-- The loop of `openDetails`. -/
def openDetailsFrom (n : Nat) : List DetailOpenRequest → Opened (List DetailOpenResult)
  | [] => ⟨[], some []⟩
  | request :: requests =>
    let opened := openOneDetail options browser workerCommandId n request
    match opened.result with
    | none => ⟨opened.visited, none⟩
    | some result =>
      let rest := openDetailsFrom (n + 1) requests
      ⟨opened.visited ++ rest.visited, rest.result.map (result :: ·)⟩

/-- `createProductionDetailOpenHandler`: what closing throws replaces what was returned. -/
def detailOpenHandler (body : DetailOpenRequestBody) : Opened DetailOpenResponse :=
  match Server.detailOpenSessionScope body with
  | .error _ => ⟨[], none⟩
  | .ok scope =>
    if browser.readStorageState scope && browser.launch && browser.newContext &&
        browser.newPage then
      let opened := openDetailsFrom options browser body.workerCommandId 0 body.requests
      ⟨opened.visited,
        if browser.closeContext && browser.closeBrowser then
          opened.result.map fun results => { workerCommandId := body.workerCommandId, results }
        else none⟩
    else ⟨[], none⟩

/-! ## 4. The request -/

inductive Response where
  | details (response : DetailOpenResponse)
  | error (code : String) (status : Nat)

def Response.results : Response → List DetailOpenResult
  | .details response => response.results
  | .error _ _ => []

def Response.ofResult : Option DetailOpenResponse → Response
  | some response => .details response
  | none => .error "invalid_worker_request" 400

structure Served where
  visited : List DetailOpenRequest
  response : Response

/-- The body, if everything before the handler accepts it. A body that is no JSON is `none`. -/
def acceptedBody (body : Option Json) : Except Response DetailOpenRequestBody :=
  match body with
  | some (.object members) =>
    if Server.containsBudgetField members then
      .error (.error "budget_decision_not_allowed_in_worker" 400)
    else
      match Server.detailOpenRequestBody members with
      | .error _ => .error (.error "invalid_worker_request" 400)
      | .ok parsed =>
        match options.detailOpenKeyApproved with
        | none => .error (.error "detail_open_approval_not_configured" 403)
        | some approved =>
          if parsed.requests.all (approved parsed) then .ok parsed
          else .error (.error "unapproved_idempotency_key" 403)
  | _ => .error (.error "invalid_worker_request" 400)

/-- `POST /internal/details/open` -/
def openDetailsRoute (body : Option Json) : Served :=
  match acceptedBody options body with
  | .error response => ⟨[], response⟩
  | .ok parsed =>
    let opened := detailOpenHandler options browser parsed
    ⟨opened.visited, .ofResult opened.result⟩

/-! ## 5. What the response reports -/

section Reports

variable {options browser workerCommandId} {n : Nat} {request : DetailOpenRequest}
  {requests : List DetailOpenRequest} {body : DetailOpenRequestBody}

def DetailOpenResult.Answers (result : DetailOpenResult) (request : DetailOpenRequest) : Prop :=
  result.requestId = request.requestId ∧ result.attemptId = request.attemptId ∧
    result.idempotencyKey = request.idempotencyKey

/-- Every request whose page was opened has a result. -/
def Served.ReportsVisited (served : Served) : Prop :=
  ∀ request ∈ served.visited, ∃ result ∈ served.response.results, result.Answers request

variable (options browser n request) in
def Opens : Prop :=
  ∃ url, Server.detailUrlForRequest options request = some url ∧ browser.goto n url = true

variable (options browser n request) in
def ReadsPage (html : String) : Prop :=
  ∃ url, Server.detailUrlForRequest options request = some url ∧ browser.goto n url = true ∧
    browser.content n url = some html

variable (options browser n request) in
def Reads : Prop := ∃ html, ReadsPage options browser n request html

theorem Reads.opens (h : Reads options browser n request) : Opens options browser n request := by
  obtain ⟨html, url, hurl, hgoto, -⟩ := h
  exact ⟨url, hurl, hgoto⟩

variable (browser body) in
structure Starts : Prop where
  session : ∃ scope, Server.detailOpenSessionScope body = .ok scope ∧
    browser.readStorageState scope = true
  launch : browser.launch = true
  newContext : browser.newContext = true
  newPage : browser.newPage = true

variable (options browser body) in
def OpensFirst : Prop :=
  Starts browser body ∧ ∃ request, body.requests[0]? = some request ∧ Opens options browser 0 request

variable (options browser body) in
structure NothingThrows : Prop where
  starts : Starts browser body
  reads : ∀ n request, body.requests[n]? = some request → Reads options browser n request
  closeContext : browser.closeContext = true
  closeBrowser : browser.closeBrowser = true

theorem detailResult_answers (html : String) :
    (detailResult workerCommandId request html).Answers request := by
  unfold detailResult
  dsimp only
  split
  · exact ⟨rfl, rfl, rfl⟩
  · exact ⟨rfl, rfl, rfl⟩

variable (options browser workerCommandId n request) in
theorem openOneDetail_cases :
    (¬Opens options browser n request ∧
      openOneDetail options browser workerCommandId n request = ⟨[], none⟩) ∨
    (Opens options browser n request ∧ ¬Reads options browser n request ∧
      openOneDetail options browser workerCommandId n request = ⟨[request], none⟩) ∨
    (Opens options browser n request ∧ ∃ html, ReadsPage options browser n request html ∧
      openOneDetail options browser workerCommandId n request =
        ⟨[request], some (detailResult workerCommandId request html)⟩) := by
  unfold openOneDetail Opens Reads ReadsPage
  cases hurl : Server.detailUrlForRequest options request with
  | none => simp
  | some url =>
    cases hgoto : browser.goto n url with
    | false => simp [hgoto]
    | true =>
      cases hcontent : browser.content n url with
      | none => simp [hgoto, hcontent]
      | some html =>
        right
        right
        simp [hgoto, hcontent]

theorem openDetailsFrom_visited :
    (openDetailsFrom options browser workerCommandId n requests).visited <+: requests ∧
      ((openDetailsFrom options browser workerCommandId n requests).visited = [] ↔
        ∀ request, requests[0]? = some request → ¬Opens options browser n request) := by
  induction requests generalizing n with
  | nil => simp [openDetailsFrom]
  | cons request requests ih =>
    unfold openDetailsFrom
    dsimp only
    rcases openOneDetail_cases options browser workerCommandId n request with
      ⟨hopens, hone⟩ | ⟨hopens, -, hone⟩ | ⟨hopens, html, -, hone⟩
    · simp [hone, hopens]
    · simp [hone, hopens]
    · simp [hone, hopens, ih.1]

theorem openDetailsFrom_result {results : List DetailOpenResult}
    (h : (openDetailsFrom options browser workerCommandId n requests).result = some results) :
    (openDetailsFrom options browser workerCommandId n requests).visited = requests ∧
      results.length = requests.length ∧
      ∀ i request, requests[i]? = some request → ∃ html,
        ReadsPage options browser (n + i) request html ∧
          results[i]? = some (detailResult workerCommandId request html) := by
  induction requests generalizing n results with
  | nil =>
    unfold openDetailsFrom at h ⊢
    obtain rfl := Option.some.inj h
    exact ⟨rfl, rfl, by simp⟩
  | cons request requests ih =>
    unfold openDetailsFrom at h ⊢
    dsimp only at h ⊢
    rcases openOneDetail_cases options browser workerCommandId n request with
      ⟨-, hone⟩ | ⟨-, -, hone⟩ | ⟨-, html, hpage, hone⟩
    · simp [hone] at h
    · simp [hone] at h
    · simp only [hone, Option.map_eq_some_iff] at h ⊢
      obtain ⟨rest, hrest, rfl⟩ := h
      obtain ⟨hvisited, hlength, hpages⟩ := ih hrest
      refine ⟨by rw [hvisited, List.singleton_append], by simp [hlength], ?_⟩
      intro i request' hi
      cases i with
      | zero =>
        obtain rfl : request = request' := by simpa using hi
        exact ⟨html, hpage, rfl⟩
      | succ i =>
        have hnext := hpages i request' (by simpa using hi)
        rwa [Nat.add_right_comm] at hnext

variable (workerCommandId) in
theorem openDetailsFrom_returns
    (h : ∀ i request, requests[i]? = some request → Reads options browser (n + i) request) :
    ∃ results, (openDetailsFrom options browser workerCommandId n requests).result =
      some results := by
  induction requests generalizing n with
  | nil => exact ⟨[], rfl⟩
  | cons request requests ih =>
    have hrest : ∀ i request', requests[i]? = some request' →
        Reads options browser (n + 1 + i) request' := by
      intro i request' hi
      have hnext := h (i + 1) request' (by simpa using hi)
      rwa [← Nat.add_assoc, Nat.add_right_comm] at hnext
    obtain ⟨results, hresults⟩ := ih hrest
    have hreads : Reads options browser n request := h 0 request rfl
    unfold openDetailsFrom
    dsimp only
    rcases openOneDetail_cases options browser workerCommandId n request with
      ⟨hopens, -⟩ | ⟨-, hnot, -⟩ | ⟨-, html, -, hone⟩
    · exact absurd hreads.opens hopens
    · exact absurd hreads hnot
    · rw [hone]
      exact ⟨_, by rw [hresults]; rfl⟩

theorem detailOpenHandler_of_starts (h : Starts browser body) :
    detailOpenHandler options browser body =
      ⟨(openDetailsFrom options browser body.workerCommandId 0 body.requests).visited,
        if browser.closeContext && browser.closeBrowser then
          (openDetailsFrom options browser body.workerCommandId 0 body.requests).result.map
            fun results => { workerCommandId := body.workerCommandId, results }
        else none⟩ := by
  obtain ⟨scope, hscope, hsession⟩ := h.session
  unfold detailOpenHandler
  simp only [hscope, hsession, h.launch, h.newContext, h.newPage, Bool.and_self, if_true]

theorem detailOpenHandler_of_not_starts (h : ¬Starts browser body) :
    detailOpenHandler options browser body = ⟨[], none⟩ := by
  unfold detailOpenHandler
  cases hscope : Server.detailOpenSessionScope body with
  | error message => rfl
  | ok scope =>
    dsimp only
    rw [if_neg]
    intro hall
    simp only [Bool.and_eq_true] at hall
    exact h ⟨⟨scope, hscope, hall.1.1.1⟩, hall.1.1.2, hall.1.2, hall.2⟩

theorem detailOpenHandler_visited :
    (detailOpenHandler options browser body).visited = [] ↔ ¬OpensFirst options browser body := by
  by_cases hstarts : Starts browser body
  · rw [detailOpenHandler_of_starts hstarts]
    dsimp only
    rw [openDetailsFrom_visited.2]
    simp [OpensFirst, hstarts]
  · rw [detailOpenHandler_of_not_starts hstarts]
    simp [OpensFirst, hstarts]

theorem detailOpenHandler_returns_iff :
    (detailOpenHandler options browser body).result ≠ none ↔
      NothingThrows options browser body := by
  by_cases hstarts : Starts browser body
  · rw [detailOpenHandler_of_starts hstarts]
    dsimp only
    constructor
    · intro h
      split at h
      · rename_i hclose
        obtain ⟨hcontext, hbrowser⟩ := Bool.and_eq_true_iff.mp hclose
        obtain ⟨results, hresults⟩ := Option.ne_none_iff_exists'.mp
          (mt (Option.map_eq_none_iff.mpr ·) h)
        obtain ⟨-, -, hpages⟩ := openDetailsFrom_result hresults
        refine ⟨hstarts, ?_, hcontext, hbrowser⟩
        intro n request hn
        obtain ⟨html, hpage, -⟩ := hpages n request hn
        exact ⟨html, by rwa [Nat.zero_add] at hpage⟩
      · exact absurd rfl h
    · intro h
      have hreads : ∀ i request, body.requests[i]? = some request →
          Reads options browser (0 + i) request := by
        simpa using h.reads
      obtain ⟨results, hresults⟩ := openDetailsFrom_returns body.workerCommandId hreads
      simp [h.closeContext, h.closeBrowser, hresults]
  · rw [detailOpenHandler_of_not_starts hstarts]
    constructor
    · intro h
      exact absurd rfl h
    · intro h
      exact absurd h.starts hstarts

theorem detailOpenHandler_result {response : DetailOpenResponse}
    (h : (detailOpenHandler options browser body).result = some response) :
    (detailOpenHandler options browser body).visited = body.requests ∧
      response.results.length = body.requests.length ∧
      ∀ i request, body.requests[i]? = some request → ∃ html,
        ReadsPage options browser i request html ∧
          response.results[i]? = some (detailResult body.workerCommandId request html) := by
  by_cases hstarts : Starts browser body
  · rw [detailOpenHandler_of_starts hstarts] at h ⊢
    dsimp only at h ⊢
    split at h
    · obtain ⟨results, hresults, rfl⟩ := Option.map_eq_some_iff.mp h
      simpa using openDetailsFrom_result hresults
    · simp at h
  · simp [detailOpenHandler_of_not_starts hstarts] at h

theorem openDetailsRoute_of_accepted {json : Option Json}
    (h : acceptedBody options json = .ok body) :
    openDetailsRoute options browser json =
      ⟨(detailOpenHandler options browser body).visited,
        .ofResult (detailOpenHandler options browser body).result⟩ := by
  unfold openDetailsRoute
  rw [h]

/-- Every page that was opened is reported exactly where no page is opened at all, which the
    first request decides, or where nothing throws. -/
theorem reportsVisited_iff {json : Option Json} (h : acceptedBody options json = .ok body) :
    (openDetailsRoute options browser json).ReportsVisited ↔
      ¬OpensFirst options browser body ∨ NothingThrows options browser body := by
  rw [openDetailsRoute_of_accepted h, ← detailOpenHandler_visited, ← detailOpenHandler_returns_iff]
  unfold Served.ReportsVisited
  cases hresult : (detailOpenHandler options browser body).result with
  | none => simp [Response.ofResult, Response.results, List.eq_nil_iff_forall_not_mem]
  | some response =>
    obtain ⟨hvisited, -, hpages⟩ := detailOpenHandler_result hresult
    have hreports : ∀ request ∈ (detailOpenHandler options browser body).visited,
        ∃ result ∈ response.results, result.Answers request := by
      intro request hrequest
      rw [hvisited] at hrequest
      obtain ⟨i, hi⟩ := List.mem_iff_getElem?.mp hrequest
      obtain ⟨html, -, hat⟩ := hpages i request hi
      exact ⟨_, List.mem_of_getElem? hat, detailResult_answers html⟩
    exact ⟨fun _ => .inr (by simp), fun _ => hreports⟩

/-- Two requests, of which the second names a page that is not fetched over HTTPS. -/
def twoRequests : Option Json :=
  let request (id : String) (detailUrl : List (String × Json)) : Json :=
    .object ([("requestId", .string ("detail:" ++ id)), ("attemptId", .string id),
      ("idempotencyKey", .string ("open:" ++ id)), ("candidateId", .string id)] ++ detailUrl)
  some (.object
    [("tenantId", .string "t"), ("workspaceId", .string "w"),
      ("providerAccountHash", .string "h"), ("connectionId", .string "c"),
      ("providerDayKey", .string "2024-05-01"), ("workerCommandId", .string "cmd"),
      ("requests", .array
        [request "a" [], request "b" [("detailUrl", .string "http://www.liepin.com/b")]])])

/-- The options of a worker that approves every request, and `new URL` where it is called. -/
def approveAll : Server.WorkerOptions :=
  { detailOpenKeyApproved := some fun _ _ => true
    allowDataDetailUrls := false
    newUrl := fun url =>
      if url = "http://www.liepin.com/b" then some ⟨"http:", "www.liepin.com"⟩ else none }

def willingBrowser : Browser :=
  { readStorageState := fun _ => true, launch := true, newContext := true, newPage := true,
    goto := fun _ _ => true, content := fun _ _ => some "", closeContext := true,
    closeBrowser := true }

theorem acceptedBody_twoRequests : ∃ body, acceptedBody approveAll twoRequests = .ok body := by
  have hok : (acceptedBody approveAll twoRequests).toOption.isSome = true := by decide
  cases hbody : acceptedBody approveAll twoRequests with
  | ok body => exact ⟨body, rfl⟩
  | error response => simp [hbody, Except.toOption] at hok

/-- The first request is opened, and the response says nothing of it. -/
theorem not_reportsVisited_twoRequests :
    ¬∀ options browser json body, acceptedBody options json = .ok body →
      (openDetailsRoute options browser json).ReportsVisited := by
  intro h
  obtain ⟨body, hbody⟩ := acceptedBody_twoRequests
  have hvisited : (openDetailsRoute approveAll willingBrowser twoRequests).visited ≠ [] := by
    decide
  have hresponse : (openDetailsRoute approveAll willingBrowser twoRequests).response.results = [] := by
    decide
  obtain ⟨request, hrequest⟩ := List.exists_mem_of_ne_nil _ hvisited
  obtain ⟨result, hresult, -⟩ := h approveAll willingBrowser twoRequests body hbody request hrequest
  rw [hresponse] at hresult
  cases hresult

theorem reportsVisited_iff_twoRequests :
    ∃ body, acceptedBody approveAll twoRequests = .ok body ∧
      ((openDetailsRoute approveAll willingBrowser twoRequests).ReportsVisited ↔
        ¬OpensFirst approveAll willingBrowser body ∨
          NothingThrows approveAll willingBrowser body) := by
  obtain ⟨body, hbody⟩ := acceptedBody_twoRequests
  exact ⟨body, hbody, reportsVisited_iff hbody⟩

end Reports

end LiepinWorker

end SeekTalent

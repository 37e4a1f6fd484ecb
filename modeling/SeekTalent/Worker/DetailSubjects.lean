import SeekTalent.Worker.Exchange

/-!
# Whose detail is returned

An approval names a candidate, and not the URL that is opened. What is on the page is read from
the article of the candidate, but where there is no such article from the first one, and nothing
compares the two candidates afterwards. Python then books what it gets by the key of the request.
-/

namespace SeekTalent

namespace LiepinWorker

def DetailOpenResult.NamesSubject (result : DetailOpenResult) (request : DetailOpenRequest) : Prop :=
  result.status = .completed →
    ∃ candidate, result.candidate = some candidate ∧
      candidate.providerSubjectId = some request.candidateId

/-- Every completed result carries the candidate of the request it answers. -/
def Served.NamesSubjects (served : Served) (body : DetailOpenRequestBody) : Prop :=
  ∀ (i : Nat) (result : DetailOpenResult) (request : DetailOpenRequest),
    served.response.results[i]? = some result → body.requests[i]? = some request →
      result.NamesSubject request

def ReadsOwnArticle (html candidateId : String) : Prop :=
  (∃ fragment ∈ detailFragments html, attrValue fragment "data-candidate-id" = candidateId) ∨
    attrValue ((detailFragments html).head?.getD "") "data-candidate-id" = "" ∨
    textForClass ((detailFragments html).head?.getD "") "candidate-title" = ""

def ReadsOwnArticles (options : Server.WorkerOptions) (browser : Browser)
    (body : DetailOpenRequestBody) : Prop :=
  ∀ (i : Nat) (request : DetailOpenRequest) (html : String), body.requests[i]? = some request →
    ReadsPage options browser i request html → ReadsOwnArticle html request.candidateId

/-- No resume of one candidate is applied to the attempt of another. -/
def BooksOwn (prepared : DetailOpenCall.Prepared) (results : List LiepinDetailOpenResult) : Prop :=
  ∀ result ∈ results, ∀ attempt detail,
    prepared.attemptByKey result.idempotencyKey = some attempt → result.status = .completed →
      result.candidate = some detail → detail.providerSubjectId = some attempt.candidateProviderId

section

variable {options : Server.WorkerOptions} {browser : Browser} {json : Option Json}
  {body : DetailOpenRequestBody} {request : DetailOpenRequest} {html workerCommandId : String}

/-! ## 1. One page -/

theorem detailResult_status :
    (detailResult workerCommandId request html).status = .completed ↔
      (extractDetailFromDomFallback html request.candidateId).missingFields = [] := by
  unfold detailResult
  dsimp only
  split
  · rename_i h
    simp [h]
  · rename_i h
    simp [h]

theorem detailResult_namesSubject_iff :
    (detailResult workerCommandId request html).NamesSubject request ↔
      (attrValue (chosenFragment html request.candidateId) "data-candidate-id" ≠ "" →
        textForClass (chosenFragment html request.candidateId) "candidate-title" ≠ "" →
        attrValue (chosenFragment html request.candidateId) "data-candidate-id" =
          request.candidateId) := by
  unfold DetailOpenResult.NamesSubject
  rw [detailResult_status]
  by_cases hcomplete :
      (extractDetailFromDomFallback html request.candidateId).missingFields = []
  · obtain ⟨hid, htitle⟩ := missingFields_extract.mp hcomplete
    simp [hcomplete, detailResult, toPythonWorkerDetail, hid, htitle]
  · constructor
    · intro _ hid htitle
      exact absurd (missingFields_extract.mpr ⟨hid, htitle⟩) hcomplete
    · intro _ h
      exact absurd h hcomplete

theorem attrValue_empty : attrValue "" "data-candidate-id" = "" := rfl

theorem namesSubject_iff (hid : request.candidateId ≠ "") :
    (detailResult workerCommandId request html).NamesSubject request ↔
      ReadsOwnArticle html request.candidateId := by
  rw [detailResult_namesSubject_iff]
  unfold ReadsOwnArticle
  cases hfind : (detailFragments html).find? fun entry =>
      request.candidateId = "" || attrValue entry "data-candidate-id" = request.candidateId with
  | some fragment =>
    -- the article that is found is the candidate's
    have hown : attrValue fragment "data-candidate-id" = request.candidateId := by
      simpa [hid] using List.find?_some hfind
    have hchosen : chosenFragment html request.candidateId = fragment := by
      simp only [chosenFragment, hfind, Option.getD_some]
    rw [hchosen]
    exact ⟨fun _ => .inl ⟨fragment, List.mem_of_find?_eq_some hfind, hown⟩, fun _ _ _ => hown⟩
  | none =>
    have hchosen : chosenFragment html request.candidateId =
        (detailFragments html).head?.getD "" := by
      simp only [chosenFragment, hfind, Option.getD_none]
    have hnone : ∀ fragment ∈ detailFragments html,
        attrValue fragment "data-candidate-id" ≠ request.candidateId := by
      intro fragment hfragment
      simpa [hid] using List.find?_eq_none.mp hfind fragment hfragment
    have hfirst : attrValue ((detailFragments html).head?.getD "") "data-candidate-id" ≠
        request.candidateId := by
      cases hhead : (detailFragments html).head? with
      | none => exact fun h => hid (h.symm.trans attrValue_empty)
      | some fragment => exact hnone fragment (List.mem_of_mem_head? hhead)
    rw [hchosen]
    constructor
    · intro h
      right
      by_contra hneither
      rw [not_or] at hneither
      exact hfirst (h hneither.1 hneither.2)
    · rintro (⟨fragment, hfragment, hown⟩ | hempty | hempty) hsome htitle
      · exact absurd hown (hnone fragment hfragment)
      · exact absurd hempty hsome
      · exact absurd hempty htitle

/-! ## 2. All pages -/

theorem mem_of_mapM_eq_ok {ε α β : Type} {f : α → Except ε β} {xs : List α} {ys : List β} {y : β}
    (h : xs.mapM f = .ok ys) (hy : y ∈ ys) : ∃ x ∈ xs, f x = .ok y := by
  induction xs generalizing ys with
  | nil =>
    obtain rfl := Except.ok.inj h
    cases hy
  | cons x xs ih =>
    rw [List.mapM_cons] at h
    obtain ⟨z, hz, h⟩ := Stateful.bind_eq_ok h
    obtain ⟨zs, hzs, h⟩ := Stateful.bind_eq_ok h
    obtain rfl := Except.ok.inj h
    rcases List.mem_cons.mp hy with rfl | hy
    · exact ⟨x, List.mem_cons_self, hz⟩
    · obtain ⟨x', hx', hf⟩ := ih hzs hy
      exact ⟨x', List.mem_cons_of_mem x hx', hf⟩

theorem ReadsPage.unique {n : Nat} {html' : String} (h : ReadsPage options browser n request html)
    (h' : ReadsPage options browser n request html') : html = html' := by
  obtain ⟨url, hurl, -, hcontent⟩ := h
  obtain ⟨url', hurl', -, hcontent'⟩ := h'
  obtain rfl := Option.some.inj (hurl.symm.trans hurl')
  exact Option.some.inj (hcontent.symm.trans hcontent')

theorem stringValue_ne_empty {value : Option Json} {fieldName text : String}
    (h : Server.stringValue value fieldName = .ok text) : text ≠ "" := by
  rintro rfl
  unfold Server.stringValue at h
  split at h
  · split at h
    · cases h
    · rename_i hfilled
      obtain rfl := Except.ok.inj h
      exact hfilled rfl
  · cases h

theorem candidateId_ne_empty {entry : Json} (h : Server.detailOpenRequest entry = .ok request) :
    request.candidateId ≠ "" := by
  cases entry with
  | object members =>
    unfold Server.detailOpenRequest at h
    dsimp only at h
    obtain ⟨requestId, -, h⟩ := Stateful.bind_eq_ok h
    obtain ⟨attemptId, -, h⟩ := Stateful.bind_eq_ok h
    obtain ⟨idempotencyKey, -, h⟩ := Stateful.bind_eq_ok h
    obtain ⟨candidateId, hcandidate, h⟩ := Stateful.bind_eq_ok h
    obtain rfl := Except.ok.inj h
    exact stringValue_ne_empty hcandidate
  | _ => cases h

theorem acceptedBody_parsed (h : acceptedBody options json = .ok body) :
    ∃ members, json = some (.object members) ∧ Server.detailOpenRequestBody members = .ok body := by
  unfold acceptedBody at h
  split at h
  · rename_i members
    split at h
    · cases h
    · split at h
      · cases h
      · rename_i parsed hparsed
        split at h
        · cases h
        · split at h
          · obtain rfl := Except.ok.inj h
            exact ⟨members, rfl, hparsed⟩
          · cases h
  · cases h

theorem candidateId_ne_empty_of_accepted (h : acceptedBody options json = .ok body) :
    ∀ request ∈ body.requests, request.candidateId ≠ "" := by
  obtain ⟨members, -, hparsed⟩ := acceptedBody_parsed h
  unfold Server.detailOpenRequestBody at hparsed
  obtain ⟨workerCommandId, -, hparsed⟩ := Stateful.bind_eq_ok hparsed
  split at hparsed
  · obtain ⟨requests, hrequests, hparsed⟩ := Stateful.bind_eq_ok hparsed
    obtain rfl := Except.ok.inj hparsed
    intro request hrequest
    obtain ⟨entry, -, hentry⟩ := mem_of_mapM_eq_ok hrequests hrequest
    exact candidateId_ne_empty hentry
  · cases hparsed

theorem namesSubjects_iff (h : acceptedBody options json = .ok body) :
    (openDetailsRoute options browser json).NamesSubjects body ↔
      (NothingThrows options browser body → ReadsOwnArticles options browser body) := by
  rw [openDetailsRoute_of_accepted h, ← detailOpenHandler_returns_iff]
  have hids := candidateId_ne_empty_of_accepted h
  cases hresult : (detailOpenHandler options browser body).result with
  | none => simp [Served.NamesSubjects, Response.ofResult, Response.results]
  | some response =>
    obtain ⟨-, -, hpages⟩ := detailOpenHandler_result hresult
    constructor
    · intro hnames _ i request html hi hpage
      obtain ⟨html', hpage', hat⟩ := hpages i request hi
      obtain rfl := hpage.unique hpage'
      have hname := hnames i _ request hat hi
      exact (namesSubject_iff (hids request (List.mem_of_getElem? hi))).mp hname
    · intro hown i result request hat hi
      obtain ⟨html, hpage, hat'⟩ := hpages i request hi
      have hsame : detailResult body.workerCommandId request html = result :=
        Option.some.inj (hat'.symm.trans hat)
      rw [← hsame, namesSubject_iff (hids request (List.mem_of_getElem? hi))]
      exact hown (Option.some_ne_none response) i request html hi hpage

/-! ## 3. What Python books -/

theorem results_of_accepted (h : acceptedBody options json = .ok body) {result : DetailOpenResult}
    (hresult : result ∈ (openDetailsRoute options browser json).response.results) :
    ∃ (i : Nat) (request : DetailOpenRequest),
      (openDetailsRoute options browser json).response.results[i]? = some result ∧
        body.requests[i]? = some request ∧ result.Answers request := by
  rw [openDetailsRoute_of_accepted h] at hresult ⊢
  cases hhandler : (detailOpenHandler options browser body).result with
  | none => simp [hhandler, Response.ofResult, Response.results] at hresult
  | some response =>
    rw [hhandler] at hresult
    obtain ⟨-, hlength, hpages⟩ := detailOpenHandler_result hhandler
    obtain ⟨i, hi⟩ := List.mem_iff_getElem?.mp hresult
    obtain ⟨hlt, -⟩ := List.getElem?_eq_some_iff.mp hi
    have hlt' : i < body.requests.length := hlength ▸ hlt
    obtain ⟨html, -, hat⟩ := hpages i body.requests[i] (List.getElem?_eq_getElem hlt')
    refine ⟨i, body.requests[i], hi, List.getElem?_eq_getElem hlt', ?_⟩
    have hsame : result = detailResult body.workerCommandId body.requests[i] html :=
      Option.some.inj (hi.symm.trans hat)
    rw [hsame]
    exact detailResult_answers html

theorem open_injective {a b : String} (h : "open:" ++ a = "open:" ++ b) : a = b := by
  have hlists := congrArg String.toList h
  rw [String.toList_append, String.toList_append] at hlists
  exact String.toList_inj.mp (List.append_cancel_left hlists)

theorem booksOwn_of_namesSubjects {call : DetailOpenCall} {prepared : DetailOpenCall.Prepared}
    (sha256Json : RawDetailPayload → String) (hkeyed : Keyed prepared.attempts prepared.items)
    (hjson : json = some (requestJson (call.request prepared)))
    (h : acceptedBody options json = .ok body)
    (hnames : (openDetailsRoute options browser json).NamesSubjects body) :
    BooksOwn prepared
      ((openDetailsRoute options browser json).response.results.map (toPythonResult sha256Json)) := by
  intro pythonResult hpython attempt detail hattempt hstatus hdetail
  obtain ⟨result, hresult, rfl⟩ := List.mem_map.mp hpython
  obtain ⟨i, request, hi, hrequest, -, -, hkey⟩ := results_of_accepted h hresult
  have hcompleted : result.status = .completed := by
    cases hs : result.status with
    | completed => rfl
    | failedAfterPossibleConsumption => simp [toPythonResult, hs] at hstatus
  obtain ⟨candidate, hcandidate, hsubject⟩ := hnames i result request hi hrequest hcompleted
  -- the request is the worker's reading of an item of the call
  obtain ⟨members, hmembers, hparsed⟩ := acceptedBody_parsed h
  have hitems : workerBody (call.request prepared) = body :=
    (detailOpenRequestBody_requestJson (Option.some.inj (hjson.symm.trans hmembers))).mp hparsed
      |>.2.2.2
  have hmem : request ∈ prepared.items.map workerItem := by
    rw [← hitems] at hrequest
    exact List.mem_of_getElem? hrequest
  obtain ⟨item, hitem, rfl⟩ := List.mem_map.mp hmem
  have hmember := List.mem_of_find?_eq_some hattempt
  have hattempts : attempt ∈ prepared.attempts :=
    List.mem_of_mem_filter (List.mem_reverse.mp hmember)
  have hsame : attempt.idempotencyKey = item.idempotencyKey := by
    have hfound : attempt.idempotencyKey = (toPythonResult sha256Json result).idempotencyKey := by
      simpa using List.find?_some hattempt
    exact hfound.trans hkey
  rw [hkeyed.attempts attempt hattempts, hkeyed.items item hitem] at hsame
  rw [open_injective hsame]
  obtain rfl : _ = detail := by simpa [toPythonResult, hcandidate] using hdetail
  exact hsubject

/-- The worker returns no other candidate's detail exactly where something throws, or every page
    that is read has an article of its candidate, or a first article without an id or a title;
    and then no call of Python books one candidate's resume on the attempt of another. -/
theorem subjects_iff (h : acceptedBody options json = .ok body) :
    ((openDetailsRoute options browser json).NamesSubjects body ↔
      (NothingThrows options browser body → ReadsOwnArticles options browser body)) ∧
    ((openDetailsRoute options browser json).NamesSubjects body →
      ∀ (call : DetailOpenCall) store sent worker prepared sha256Json,
        (call.prepare.run worker store sent).result = .ok prepared →
        json = some (requestJson (call.request prepared)) →
          BooksOwn prepared ((openDetailsRoute options browser json).response.results.map
            (toPythonResult sha256Json))) := by
  refine ⟨namesSubjects_iff h, ?_⟩
  intro hnames call store sent worker prepared sha256Json hprepared hjson
  have hkeyed : Keyed prepared.attempts prepared.items :=
    (prepare_keys.run worker).2 prepared hprepared
  exact booksOwn_of_namesSubjects sha256Json hkeyed hjson h hnames

/-! ## 4. A page of somebody else -/

def requestForA : Option Json :=
  some (.object
    [("tenantId", .string "t"), ("workspaceId", .string "w"),
      ("providerAccountHash", .string "h"), ("connectionId", .string "c"),
      ("providerDayKey", .string "2024-05-01"), ("workerCommandId", .string "cmd"),
      ("requests", .array [.object
        [("requestId", .string "detail:a"), ("attemptId", .string "1"),
          ("idempotencyKey", .string "open:a"), ("candidateId", .string "a")]])])

def pageOfB : String :=
  "<article class='candidate-detail' data-candidate-id='b'><i class='candidate-title'>t</i></article>"

def browserAtB : Browser := { willingBrowser with content := fun _ _ => some pageOfB }

def bodyForA : DetailOpenRequestBody where
  tenantId := some "t"
  workspaceId := some "w"
  providerAccountHash := some "h"
  connectionId := some "c"
  providerDayKey := some "2024-05-01"
  workerCommandId := "cmd"
  requests :=
    [{ requestId := "detail:a", attemptId := "1", idempotencyKey := "open:a", candidateId := "a" }]

theorem acceptedBody_requestForA : acceptedBody approveAll requestForA = .ok bodyForA := by
  have hok : (acceptedBody approveAll requestForA).toOption = some bodyForA := by decide +kernel
  cases hbody : acceptedBody approveAll requestForA with
  | ok body =>
    rw [hbody] at hok
    rw [Option.some.inj hok]
  | error response =>
    rw [hbody] at hok
    cases hok

theorem nothingThrows_requestForA : NothingThrows approveAll browserAtB bodyForA where
  starts := ⟨⟨_, rfl, rfl⟩, rfl, rfl, rfl⟩
  reads := by
    intro n request hrequest
    obtain rfl : n = 0 := by
      have hlt : n < 1 := (List.getElem?_eq_some_iff.mp hrequest).1
      omega
    obtain rfl := Option.some.inj hrequest
    exact ⟨pageOfB, _, rfl, rfl, rfl⟩
  closeContext := rfl
  closeBrowser := rfl

theorem detailFragments_pageOfB : detailFragments pageOfB = [pageOfB] := by decide +kernel

theorem attrValue_pageOfB : attrValue pageOfB "data-candidate-id" = "b" := by decide +kernel

theorem textForClass_pageOfB : textForClass pageOfB "candidate-title" = "t" := by decide +kernel

theorem not_readsOwnArticle_pageOfB : ¬ReadsOwnArticle pageOfB "a" := by
  unfold ReadsOwnArticle
  rw [detailFragments_pageOfB]
  simp only [List.mem_singleton, exists_eq_left, List.head?_cons, Option.getD_some,
    attrValue_pageOfB, textForClass_pageOfB]
  simp

/-- The resume of b is returned for a. -/
theorem not_namesSubjects_pageOfB :
    ¬∀ options browser json body, acceptedBody options json = .ok body →
      (openDetailsRoute options browser json).NamesSubjects body := by
  intro h
  have hnames := h approveAll browserAtB requestForA bodyForA acceptedBody_requestForA
  have hreads := (namesSubjects_iff acceptedBody_requestForA).mp hnames nothingThrows_requestForA
  exact not_readsOwnArticle_pageOfB (hreads 0 _ pageOfB rfl ⟨_, rfl, rfl, rfl⟩)

theorem subjects_iff_requestForA :
    ∃ body, acceptedBody approveAll requestForA = .ok body ∧
      ((openDetailsRoute approveAll browserAtB requestForA).NamesSubjects body ↔
        (NothingThrows approveAll browserAtB body → ReadsOwnArticles approveAll browserAtB body)) := by
  exact ⟨bodyForA, acceptedBody_requestForA, (subjects_iff acceptedBody_requestForA).1⟩

end

end LiepinWorker

end SeekTalent

import SeekTalent.Base.Table
import SeekTalent.Worker.Extraction

/-!
# Card searches of the worker

A search opens one page of results and reads its articles. The cards that lack an id or a title are
dropped before they are counted; the others are cut to the page size, and their number says whether
there is a next page. Whoever follows the cursors gets all cards, and stops at a page that is not
full, exactly when every page but the last one shows as many complete cards as were asked for
(`faithful_iff`).
-/

namespace SeekTalent

namespace LiepinWorker

open Js

/-! ## 1. Cards -/

/-- The `rawPayload` of a card. -/
structure RawCardPayload where
  providerCandidateId : String
  title : String
  company : String
  skills : List String

structure WorkerCandidateCard where
  providerCandidateId : String
  extractionSource : ExtractionSource
  extractorVersion : String
  rawPayload : RawCardPayload
  searchableText : String
  privacy : PrivacyMetadata
  missingFields : List String

def cardArticlePattern : Regex :=
  .all [textIgnoreCase "<article", wordEdge, restOfTagWithClass "candidate-card",
    .lazyStar anything, textIgnoreCase "</article>"]

def cardFragments (html : String) : List String := cardArticlePattern.findAll html

def buildCard (payload : CandidatePayload) (extractionSource : ExtractionSource)
    (privacy : PrivacyMetadata) (rawPayload : RawCardPayload) : WorkerCandidateCard :=
  let providerCandidateId := stringValue payload.candidateId
  let title := stringValue payload.title
  { providerCandidateId
    extractionSource
    extractorVersion := EXTRACTOR_VERSION
    rawPayload
    searchableText := normalizeSearchableText
      ([title, stringValue payload.company, stringValue payload.location] ++ payload.skills ++
        [stringValue payload.summary, stringValue payload.experience,
          stringValue payload.education])
    privacy
    missingFields := missingWhenEmpty providerCandidateId "candidateId" ++
      missingWhenEmpty title "title" }

def cardOfFragment (html fragment : String) : WorkerCandidateCard :=
  let providerCandidateId := attrValue fragment "data-candidate-id"
  let title := textForClass fragment "candidate-title"
  let company := textForClass fragment "candidate-company"
  let skills := (Regex.findAllGroups itemPattern fragment).map fun groups =>
    cleanText (groups[1]?.getD "")
  buildCard
    { candidateId := some providerCandidateId, title := some title, company := some company, skills }
    .domFallback
    { redactionPolicyVersion := "liepin-fixture-redaction-v1"
      containsDirectContact := CONTACT_PATTERN.search html }
    { providerCandidateId, title, company, skills }

/-- The cards of `extractCardsFromDomFallback` -/
def extractCardsFromDomFallback (html : String) : List WorkerCandidateCard :=
  (cardFragments html).map (cardOfFragment html)

def isCompleteCard (card : WorkerCandidateCard) : Bool := card.missingFields.isEmpty

/-- The cards of `extractWorkerCards`, without network artifacts -/
def extractWorkerCards (fallbackHtml : String) : List WorkerCandidateCard :=
  (extractCardsFromDomFallback fallbackHtml).filter isCompleteCard

structure PythonWorkerCandidateCard where
  payload : RawCardPayload
  normalizedText : String
  providerSubjectId : Option String
  providerListingId : Option String
  syntheticCandidateFingerprint : String
  identityConfidence : String
  extractionSource : ExtractionSource
  extractorVersion : String
  piiClassification : String
  retentionPolicy : String
  accessScope : String
  redactionState : String

/-- `left || right` -/
def orElse (left right : String) : String := if left = "" then right else left

def ExtractionSource.value : ExtractionSource → String
  | .network => "network"
  | .domFallback => "dom_fallback"

def syntheticFingerprint (card : WorkerCandidateCard) : String :=
  orElse card.searchableText ("liepin:" ++ card.extractionSource.value)

/-- `toPythonWorkerCard`; the payload has no listing id. -/
def toPythonWorkerCard (card : WorkerCandidateCard) : PythonWorkerCandidateCard :=
  { payload := card.rawPayload
    normalizedText := card.searchableText
    providerSubjectId := if card.providerCandidateId = "" then none else some card.providerCandidateId
    providerListingId := none
    syntheticCandidateFingerprint := orElse card.providerCandidateId (syntheticFingerprint card)
    identityConfidence :=
      if card.providerCandidateId = "" then "synthetic_fingerprint" else "provider_subject_id"
    extractionSource := card.extractionSource
    extractorVersion := orElse card.extractorVersion EXTRACTOR_VERSION
    piiClassification :=
      if card.privacy.containsDirectContact then "direct_contact_possible" else "no_direct_contact"
    retentionPolicy := "provider_snapshot_7d"
    accessScope := "local_run_only"
    redactionState := "raw_provider_payload" }

/-! ## 2. Requests -/

inductive FilterValue
  | text (value : String)
  /-- a number, by its text -/
  | number (text : String)
  /-- the texts of an array -/
  | texts (values : List String)
  | other

/-- The cursor is the decimal text of a page number, and kept as the number. -/
structure CardSearchRequestBody where
  keyword : String
  pageSize : Nat
  cursor : Option Nat := none
  round : Nat
  traceId : String
  providerFilters : Option (List (String × FilterValue)) := none

abbrev SearchParams := List (String × String)

/-- `url.searchParams.set` -/
def setParam (params : SearchParams) (key value : String) : SearchParams :=
  Table.upsert Prod.fst params (key, value)

def appendFilter (params : SearchParams) (filter : String × FilterValue) : SearchParams :=
  if filter.1 = "" || Py.startsWith filter.1 "liepin_" then params
  else
    match filter.2 with
    | .text value => setParam params filter.1 value
    | .number text => setParam params filter.1 text
    | .texts values =>
      let textValues := values.filter fun value => trim value ≠ ""
      if textValues = [] then params else setParam params filter.1 (Py.join "," textValues)
    | .other => params

/-- The parameters of `searchUrlForRequest` -/
def searchUrlForRequest (request : CardSearchRequestBody) : SearchParams :=
  let params := setParam (setParam [] "key" request.keyword) "pageSize" (toString request.pageSize)
  let params :=
    match request.cursor with
    | some cursor => setParam params "page" (toString cursor)
    | none => params
  (request.providerFilters.getD []).foldl appendFilter params

structure SafeRequestPayload where
  keyword : String
  pageSize : Nat
  round : Nat
  traceId : String
  cursor : Option Nat
  providerFilters : Option (List (String × FilterValue))

def safeRequestPayload (request : CardSearchRequestBody) : SafeRequestPayload :=
  { keyword := request.keyword
    pageSize := request.pageSize
    round := request.round
    traceId := request.traceId
    cursor := request.cursor
    providerFilters := request.providerFilters }

structure CardSearchResponse where
  cards : List PythonWorkerCandidateCard
  diagnostics : List String
  exhausted : Bool
  nextCursor : Option Nat
  rawCandidateCount : Nat
  requestPayload : SafeRequestPayload

/-- From here on a number and its successor are not told apart: 2^53 + 1 is rounded to 2^53. -/
def exactLimit : Nat := 2 ^ 53

/-- `currentPage + 1` -/
def nextNumber (currentPage : Nat) : Nat := if currentPage < exactLimit then currentPage + 1 else currentPage

def nextCursorFor (request : CardSearchRequestBody) (rawCandidateCount : Nat) : Option Nat :=
  if rawCandidateCount < request.pageSize then none
  else
    let currentPage := request.cursor.getD 1
    if 0 < currentPage then some (nextNumber currentPage) else none

def diagnosticsFor (extractionSource : ExtractionSource) (rawCandidateCount : Nat) : List String :=
  ["card_search:" ++ extractionSource.value, "raw_candidate_count:" ++ toString rawCandidateCount]

/-- What a site shows for the parameters of an address. -/
abbrev Site := SearchParams → String

def searchCards (site : Site) (request : CardSearchRequestBody) : CardSearchResponse :=
  let fallbackHtml := site (searchUrlForRequest request)
  let cards := extractWorkerCards fallbackHtml
  let rawCandidateCount := cards.length
  { cards := (cards.take request.pageSize).map toPythonWorkerCard
    diagnostics := diagnosticsFor .domFallback rawCandidateCount
    exhausted := rawCandidateCount < request.pageSize
    nextCursor := nextCursorFor request rawCandidateCount
    rawCandidateCount
    requestPayload := safeRequestPayload request }

/-! ## 3. Following the cursors -/

variable (site : Site) (body : CardSearchRequestBody)

/-- The requests of a run: the first one has no cursor, each other one that of the response before. -/
def requestAt : Nat → Option CardSearchRequestBody
  | 0 => some { body with cursor := none }
  | n + 1 => do
    let request ← requestAt n
    let cursor ← (searchCards site request).nextCursor
    return { request with cursor := some cursor }

def pageRequest (page : Nat) : CardSearchRequestBody :=
  { body with cursor := if page = 1 then none else some page }

def shown (page : Nat) : String := site (searchUrlForRequest (pageRequest body page))

/-- **What a run should be**: the pages are visited from the first one on, each once, the response
    has all complete cards of its page in order, and only a page that is not full ends it. -/
structure Faithful : Prop where
  pages : ∀ n request, requestAt site body n = some request → request = pageRequest body (n + 1)
  cards : ∀ n request, requestAt site body n = some request →
    (searchCards site request).cards =
      (extractWorkerCards (shown site body (n + 1))).map toPythonWorkerCard
  ends : ∀ n request, requestAt site body n = some request →
    (searchCards site request).nextCursor = none ∨ (searchCards site request).exhausted = true →
      (cardFragments (shown site body (n + 1))).length < body.pageSize

/-- All pages before the last one show exactly as many complete cards as asked for, and the last one
    shows fewer articles. -/
def EvenPages : Prop :=
  ∃ last, 0 < last ∧ last ≤ exactLimit ∧
    (∀ page, 0 < page → page < last →
      (extractWorkerCards (shown site body page)).length = body.pageSize) ∧
    (cardFragments (shown site body last)).length < body.pageSize

/-! ## 4. The requests of a run -/

section Requests

variable {site body} {n page : Nat} {request : CardSearchRequestBody}

variable (site body) in
def pageCards (page : Nat) : List WorkerCandidateCard := extractWorkerCards (shown site body page)

def pageNumber (n : Nat) : Nat := min (n + 1) exactLimit

theorem two_le_exactLimit : 2 ≤ exactLimit := by decide

theorem pageNumber_pos (n : Nat) : 0 < pageNumber n := by
  have hlimit := two_le_exactLimit
  unfold pageNumber
  omega

theorem nextNumber_pageNumber (n : Nat) : nextNumber (pageNumber n) = pageNumber (n + 1) := by
  unfold nextNumber pageNumber
  split <;> omega

theorem pageNumber_of_le (h : n + 1 ≤ exactLimit) : pageNumber n = n + 1 := min_eq_left h

theorem nextCursor_pageRequest (hpage : 0 < page) :
    (searchCards site (pageRequest body page)).nextCursor =
      if (pageCards site body page).length < body.pageSize then none else some (nextNumber page) := by
  have hcurrent : (pageRequest body page).cursor.getD 1 = page := by
    unfold pageRequest
    dsimp only
    split
    · rename_i hone
      exact hone.symm
    · rfl
  show nextCursorFor (pageRequest body page) (pageCards site body page).length = _
  unfold nextCursorFor
  rw [hcurrent, if_pos hpage]
  rfl

theorem cards_pageRequest : (searchCards site (pageRequest body page)).cards =
    ((pageCards site body page).take body.pageSize).map toPythonWorkerCard := rfl

theorem exhausted_pageRequest : (searchCards site (pageRequest body page)).exhausted =
    decide ((pageCards site body page).length < body.pageSize) := rfl

/-- **One request more**: it is made where the page before was full. -/
theorem requestAt_succ (h : requestAt site body n = some (pageRequest body (pageNumber n))) :
    requestAt site body (n + 1) =
      if (pageCards site body (pageNumber n)).length < body.pageSize then none
      else some (pageRequest body (pageNumber (n + 1))) := by
  rw [requestAt, h]
  simp only [Option.bind_eq_bind, Option.bind_some]
  rw [nextCursor_pageRequest (pageNumber_pos n), nextNumber_pageNumber]
  split
  · rfl
  · have hne : pageNumber (n + 1) ≠ 1 := by
      have hlimit := two_le_exactLimit
      unfold pageNumber
      omega
    simp [pageRequest, hne]

theorem requestAt_of_full
    (h : ∀ k < n, body.pageSize ≤ (pageCards site body (pageNumber k)).length) :
    requestAt site body n = some (pageRequest body (pageNumber n)) := by
  induction n with
  | zero =>
    have hone : pageNumber 0 = 1 := by
      have hlimit := two_le_exactLimit
      unfold pageNumber
      omega
    simp [requestAt, pageRequest, hone]
  | succ n ih =>
    rw [requestAt_succ (ih fun k hk => h k (by omega)), if_neg (not_lt.mpr (h n (by omega)))]

theorem full_of_requestAt (h : requestAt site body n = some request) :
    ∀ k < n, body.pageSize ≤ (pageCards site body (pageNumber k)).length := by
  induction n generalizing request with
  | zero => exact fun k hk => absurd hk (Nat.not_lt_zero k)
  | succ n ih =>
    cases hbefore : requestAt site body n with
    | none =>
      rw [requestAt, hbefore] at h
      cases h
    | some before =>
      have hfull := ih hbefore
      rw [requestAt_succ (requestAt_of_full hfull)] at h
      intro k hk
      rcases Nat.lt_succ_iff_lt_or_eq.mp hk with hk | rfl
      · exact hfull k hk
      · by_contra hshort
        rw [if_pos (not_le.mp hshort)] at h
        cases h

end Requests

/-! ## 5. When a run is faithful -/

section Faithful

variable {site body}

theorem length_extractWorkerCards_le (html : String) :
    (extractWorkerCards html).length ≤ (cardFragments html).length := by
  unfold extractWorkerCards extractCardsFromDomFallback
  exact (List.length_filter_le ..).trans_eq (List.length_map ..)

theorem faithful_of_evenPages (h : EvenPages site body) : Faithful site body := by
  obtain ⟨last, hpos, hlimit, hfull, hlast⟩ := h
  have hshort : (pageCards site body last).length < body.pageSize :=
    (length_extractWorkerCards_le _).trans_lt hlast
  have hvisited : ∀ n request, requestAt site body n = some request →
      n < last ∧ request = pageRequest body (n + 1) := by
    intro n request hrequest
    have hall := full_of_requestAt hrequest
    have hn : n < last := by
      by_contra hle
      have hbefore := hall (last - 1) (by omega)
      rw [pageNumber_of_le (by omega), Nat.sub_add_cancel hpos] at hbefore
      omega
    refine ⟨hn, ?_⟩
    rw [requestAt_of_full hall, pageNumber_of_le (by omega)] at hrequest
    exact (Option.some.inj hrequest).symm
  have hcount : ∀ n < last, n + 1 < last ∧ (pageCards site body (n + 1)).length = body.pageSize ∨
      n + 1 = last := by
    intro n hn
    by_cases heq : n + 1 = last
    · exact .inr heq
    · exact .inl ⟨by omega, hfull (n + 1) (by omega) (by omega)⟩
  refine ⟨fun n request hrequest => (hvisited n request hrequest).2, ?_, ?_⟩
  · intro n request hrequest
    obtain ⟨hn, rfl⟩ := hvisited n request hrequest
    rw [cards_pageRequest, List.take_of_length_le]
    · rfl
    · rcases hcount n hn with ⟨-, hcards⟩ | rfl
      · exact hcards.le
      · exact hshort.le
  · intro n request hrequest hended
    obtain ⟨hn, rfl⟩ := hvisited n request hrequest
    rcases hcount n hn with ⟨-, hcards⟩ | rfl
    · rw [nextCursor_pageRequest (by omega), exhausted_pageRequest, hcards] at hended
      simp at hended
    · exact hlast

theorem exists_short (h : Faithful site body) :
    ∃ page, 0 < page ∧ page ≤ exactLimit ∧ (pageCards site body page).length < body.pageSize := by
  by_contra hnone
  have hfull : ∀ k < exactLimit, body.pageSize ≤ (pageCards site body (pageNumber k)).length := by
    intro k _
    by_contra hshort
    exact hnone ⟨pageNumber k, pageNumber_pos k, min_le_right _ _, not_le.mp hshort⟩
  have hpages := h.pages exactLimit _ (requestAt_of_full hfull)
  have hcursors := congrArg CardSearchRequestBody.cursor hpages
  have hlimit := two_le_exactLimit
  have hnumber : pageNumber exactLimit = exactLimit := min_eq_right (by omega)
  rw [hnumber] at hcursors
  unfold pageRequest at hcursors
  dsimp only at hcursors
  rw [if_neg (by omega), if_neg (by omega)] at hcursors
  have hequal := Option.some.inj hcursors
  omega

theorem evenPages_of_faithful (h : Faithful site body) : EvenPages site body := by
  classical
  have hshort := exists_short h
  obtain ⟨hpos, hlimit, hlast⟩ := Nat.find_spec hshort
  have hbefore : ∀ page, 0 < page → page < Nat.find hshort →
      body.pageSize ≤ (pageCards site body page).length := by
    intro page hpage hlt
    by_contra hless
    exact Nat.find_min hshort hlt ⟨hpage, by omega, not_le.mp hless⟩
  generalize Nat.find hshort = last at hpos hlimit hlast hbefore
  have hrequest : ∀ n < last, requestAt site body n = some (pageRequest body (n + 1)) := by
    intro n hn
    have hall : ∀ k < n, body.pageSize ≤ (pageCards site body (pageNumber k)).length := by
      intro k hk
      rw [pageNumber_of_le (by omega)]
      exact hbefore (k + 1) (by omega) (by omega)
    rw [requestAt_of_full hall, pageNumber_of_le (by omega)]
  refine ⟨last, hpos, hlimit, fun page hpage hlt => ?_, ?_⟩
  · have hcards := h.cards (page - 1) _ (hrequest (page - 1) (by omega))
    rw [Nat.sub_add_cancel hpage, cards_pageRequest] at hcards
    have hlength := congrArg List.length hcards
    rw [List.length_map, List.length_map, List.length_take] at hlength
    have hfull := hbefore page hpage hlt
    unfold pageCards at hlength hfull
    omega
  · have hends := h.ends (last - 1) _ (hrequest (last - 1) (by omega))
    rw [Nat.sub_add_cancel hpos, nextCursor_pageRequest hpos, if_pos hlast] at hends
    exact hends (.inl rfl)

/-- **A run is faithful if and only if the pages are even.** -/
theorem faithful_iff (site : Site) (body : CardSearchRequestBody) :
    Faithful site body ↔ EvenPages site body :=
  ⟨evenPages_of_faithful, faithful_of_evenPages⟩

end Faithful

/-! ## 6. A page with two cards -/

def card : String :=
  "<article class='candidate-card' data-candidate-id='b'><i class='candidate-title'>t</i></article>"

def cardRequest (pageSize : Nat) : CardSearchRequestBody :=
  { keyword := "k", pageSize, round := 1, traceId := "trace" }

def untitledCard : String := "<article class='candidate-card' data-candidate-id='b'></article>"

theorem length_twoCards : (extractWorkerCards (card ++ card)).length = 2 := by decide +kernel

theorem untitledCard_dropped :
    extractWorkerCards untitledCard = [] ∧ (cardFragments untitledCard).length = 1 := by
  constructor
  · exact List.eq_nil_of_length_eq_zero (by decide +kernel)
  · decide +kernel

/-- One card is asked for: of two only the first is returned, and a page with one that lacks its title
    is the end. -/
theorem unevenPages_not_faithful :
    ((searchCards (fun _ => card ++ card) (cardRequest 1)).cards.length = 1 ∧
      ¬Faithful (fun _ => card ++ card) (cardRequest 1)) ∧
    (searchCards (fun _ => untitledCard) (cardRequest 1)).exhausted = true ∧
      ¬Faithful (fun _ => untitledCard) (cardRequest 1) := by
  refine ⟨⟨?_, fun h => ?_⟩, ?_, fun h => ?_⟩
  · simp only [searchCards, cardRequest, List.length_map, List.length_take, length_twoCards]
    decide
  · obtain ⟨last, -, -, -, hlast⟩ := evenPages_of_faithful h
    have harticles : (cardFragments (card ++ card)).length < 1 := hlast
    have hcards := length_extractWorkerCards_le (card ++ card)
    rw [length_twoCards] at hcards
    omega
  · simp [searchCards, cardRequest, untitledCard_dropped.1]
  · obtain ⟨last, -, -, -, hlast⟩ := evenPages_of_faithful h
    have harticles : (cardFragments untitledCard).length < 1 := hlast
    rw [untitledCard_dropped.2] at harticles
    exact absurd harticles (by decide)

end LiepinWorker

end SeekTalent

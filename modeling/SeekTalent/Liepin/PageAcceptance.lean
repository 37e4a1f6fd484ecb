import SeekTalent.Liepin.CardAcceptance
import SeekTalent.PiAgent.PageCards

/-!
# From a page to the executor

A search in the browser ends with the cards of the last page, or with the code of the step that
stopped it, and in both cases with an envelope. Whatever the pages say, the executor accepts the
envelope unless its firewall finds something in a text of a card (`searchCards_page`). The pages
can bring that about: what the helper takes for a public text may have a telephone number in it
(`not_accepted_phonePage`).
-/

namespace SeekTalent

namespace PiAgent

open Stateful (bind_eq_ok map_eq_ok)

/-! ## 1. The search -/

abbrev ReasonCode := {code : String // code ∈ OPENCLI_SAFE_REASON_CODES}

structure PageState where
  ok : Bool
  safeReasonCode : ReasonCode
  /-- `observation["text"]` -/
  observedText : String := ""
  privateOutput : String := ""

/-- What comes of the steps of a search, or the codes that they raise. -/
structure BrowserSteps where
  keywordValidated : Except ReasonCode Unit := .ok ()
  opened : Except ReasonCode PageState
  /-- the wait, and the state after it -/
  firstState : Except ReasonCode PageState
  /-- the click on the reference that closes the pop-up, the wait and the state -/
  stateAfterClose : String → Except ReasonCode PageState
  filled : Except ReasonCode Unit := .ok ()
  /-- the click, the wait and the state -/
  finalState : Except ReasonCode PageState

/-- What an envelope of a search that was stopped is made of. -/
structure Stopped where
  safeReasonCode : String
  pagesVisited : Nat
  events : List TraceEvent

section Search

variable (tables : NumberTables) (sha256 : HashFunction)

def stepOf {α : Type} (pagesVisited : Nat) (events : List TraceEvent) (result : Except ReasonCode α) :
    Except Stopped α :=
  result.mapError fun (code : ReasonCode) => Stopped.mk code.val pagesVisited events

def requireOk (pagesVisited : Nat) (events : List TraceEvent) (state : PageState) :
    Except Stopped Unit :=
  if state.ok then .ok () else .error ⟨state.safeReasonCode.val, pagesVisited, events⟩

/-- The steps before the query is filled in, with the events so far. -/
def reachSearch (steps : BrowserSteps) : Except Stopped (List TraceEvent) := do
  stepOf 0 [] steps.keywordValidated
  let events : List TraceEvent := [{ actionKind := "open_search" }]
  let opened ← stepOf 0 events steps.opened
  requireOk 0 events opened
  let events := events ++ [{ actionKind := "wait_search_ready" }]
  let firstState ← stepOf 1 events steps.firstState
  let events := events ++ [{ actionKind := "observe", ok := some firstState.ok }]
  requireOk 1 events firstState
  match extractKnownModalCloseRef tables.toUnicodeTables firstState.observedText with
  | none => return events
  | some ref =>
    let events := events ++ [{ actionKind := "close_known_modal" }]
    let state ← stepOf 1 events (steps.stateAfterClose ref)
    let events := events ++ [{ actionKind := "observe_after_modal_close", ok := some state.ok }]
    requireOk 1 events state
    return events

/-- The steps of `search_liepin_cards`, to the events, the page and its cards. -/
def searchSteps (steps : BrowserSteps) (query : String) (maxCards : Nat) :
    Except Stopped (List TraceEvent × String × List CardSummary) := do
  let events ← reachSearch tables steps
  let events := events ++ [{ actionKind := "fill_search", chars := some query.length }]
  stepOf 1 events steps.filled
  let events := events ++ [{ actionKind := "click_search" }]
  let finalState ← stepOf 1 events steps.finalState
  let events := events ++ [{ actionKind := "observe_results", ok := some finalState.ok }]
  requireOk 1 events finalState
  let cards ← (extractLiepinCardSummaries tables sha256.hexdigest finalState.privateOutput
    maxCards).mapError fun code => Stopped.mk code 1 events
  return (events, finalState.privateOutput, cards)

/-- What `search_liepin_cards` makes its envelope of. -/
def searchLiepinCards (steps : BrowserSteps) (query : String) (maxCards : Nat) : CardsOutcome :=
  match searchSteps tables sha256 steps query maxCards with
  | .error stopped => .blocked stopped.safeReasonCode stopped.pagesVisited stopped.events
  | .ok (events, stateText, summaries) => .cards 1 events stateText summaries

end Search

/-! ## 2. Every search fits -/

def EVENT_KINDS : List String :=
  ["open_search", "wait_search_ready", "observe", "close_known_modal",
    "observe_after_modal_close", "fill_search", "click_search", "observe_results"]

def OwnEvents (events : List TraceEvent) : Prop :=
  ∀ event ∈ events, event.actionKind ∈ EVENT_KINDS ∧ event.routeKind = "search"

theorem name_eventKinds : ∀ kind ∈ EVENT_KINDS, Name kind := by
  have hname : ∀ {text : String} {cs : List Char}, text.toList = cs → cs.all isNameChar = true →
      Name text := by
    intro text cs htext hcs
    unfold Name
    rw [htext]
    exact hcs
  simp only [EVENT_KINDS, List.forall_mem_cons, List.not_mem_nil, false_imp_iff, implies_true,
    and_true]
  refine ⟨?_, ?_, ?_, ?_, ?_, ?_, ?_, ?_⟩ <;> exact hname String.toList_ofList (by decide)

theorem plain_of_ownEvents {events : List TraceEvent} (h : OwnEvents events) :
    ∀ event ∈ events, event.Plain := by
  intro event hevent
  obtain ⟨hkind, hroute⟩ := h event hevent
  refine ⟨name_eventKinds _ hkind, ?_, hroute⟩
  have hnone : ∀ kind ∈ EVENT_KINDS, kind ∉ ["contact", "download", "open_detail"] := by
    decide
  exact hnone _ hkind

theorem OwnEvents.snoc {events : List TraceEvent} {event : TraceEvent} (h : OwnEvents events)
    (hkind : event.actionKind ∈ EVENT_KINDS) (hroute : event.routeKind = "search") :
    OwnEvents (events ++ [event]) := by
  intro other hother
  rcases List.mem_append.mp hother with hother | hother
  · exact h other hother
  · obtain rfl := List.mem_singleton.mp hother
    exact ⟨hkind, hroute⟩

/-- Where a part of a search stops, it does so with a code of the helper, on the first page at
    most, and with the events of a search; otherwise its result is as it should be. -/
structure Ends {α : Type} (x : Except Stopped α) (Q : α → Prop) : Prop where
  stopped : ∀ stopped, x = .error stopped →
    stopped.safeReasonCode ∈ OPENCLI_SAFE_REASON_CODES ∧ stopped.pagesVisited ≤ 1 ∧
      OwnEvents stopped.events
  result : ∀ a, x = .ok a → Q a

section Ends

variable {α β : Type} {x : Except Stopped α} {f : α → Except Stopped β} {Q : α → Prop}
variable {Q' : β → Prop} {a : α} {events : List TraceEvent} {pagesVisited : Nat}
variable {tables : NumberTables} {sha256 : HashFunction} {steps : BrowserSteps} {query : String}
variable {maxCards : Nat}

theorem Ends.ok (h : Q a) : Ends (.ok a) Q :=
  ⟨fun _ h => (by cases h), fun _ heq => Except.ok.inj heq ▸ h⟩

theorem Ends.bind (hx : Ends x Q) (hf : ∀ a, Q a → Ends (f a) Q') : Ends (x >>= f) Q' := by
  cases x with
  | error stopped =>
    exact ⟨fun _ h => hx.stopped _ (by rw [← Except.error.inj h]), fun _ h => (by cases h)⟩
  | ok a => exact hf a (hx.result a rfl)

theorem ends_stepOf {result : Except ReasonCode α} (hpages : pagesVisited ≤ 1)
    (hevents : OwnEvents events) : Ends (stepOf pagesVisited events result) fun _ => True := by
  refine ⟨?_, fun _ _ => trivial⟩
  intro stopped h
  cases result with
  | error code =>
    obtain rfl := Except.error.inj h
    exact ⟨code.2, hpages, hevents⟩
  | ok a => cases h

theorem ends_requireOk {state : PageState} (hpages : pagesVisited ≤ 1)
    (hevents : OwnEvents events) :
    Ends (requireOk pagesVisited events state) fun _ => True := by
  refine ⟨?_, fun _ _ => trivial⟩
  intro stopped h
  unfold requireOk at h
  split at h
  · cases h
  · obtain rfl := Except.error.inj h
    exact ⟨state.safeReasonCode.2, hpages, hevents⟩

theorem ownEvents_nil : OwnEvents [] := by
  simp [OwnEvents]

theorem OwnEvents.step {events : List TraceEvent} (h : OwnEvents events) (kind : String)
    (chars : Option Nat) (ok : Option Bool) (hkind : kind ∈ EVENT_KINDS) :
    OwnEvents (events ++ [{ actionKind := kind, chars, ok }]) :=
  h.snoc hkind rfl

theorem ends_reachSearch (tables : NumberTables) (steps : BrowserSteps) :
    Ends (reachSearch tables steps) OwnEvents := by
  have hopen := ownEvents_nil.step "open_search" none none (by decide)
  have hwait := hopen.step "wait_search_ready" none none (by decide)
  unfold reachSearch
  refine (ends_stepOf (Nat.zero_le 1) ownEvents_nil).bind fun _ _ => ?_
  refine (ends_stepOf (Nat.zero_le 1) hopen).bind fun opened _ => ?_
  refine (ends_requireOk (Nat.zero_le 1) hopen).bind fun _ _ => ?_
  refine (ends_stepOf (Nat.le_refl 1) hwait).bind fun firstState _ => ?_
  have hobserve := hwait.step "observe" none firstState.ok (by decide)
  refine (ends_requireOk (Nat.le_refl 1) hobserve).bind fun _ _ => ?_
  split
  · exact .ok hobserve
  · have hclose := hobserve.step "close_known_modal" none none (by decide)
    refine (ends_stepOf (Nat.le_refl 1) hclose).bind fun state _ => ?_
    have hafter := hclose.step "observe_after_modal_close" none state.ok (by decide)
    exact (ends_requireOk (Nat.le_refl 1) hafter).bind fun _ _ => .ok hafter

theorem ends_searchSteps (hcards : 1 ≤ maxCards) :
    Ends (searchSteps tables sha256 steps query maxCards) fun found =>
      OwnEvents found.1 ∧ found.2.2.length ≤ maxCards := by
  unfold searchSteps
  refine (ends_reachSearch tables steps).bind fun events hevents => ?_
  have hfill := hevents.step "fill_search" query.length none (by decide)
  refine (ends_stepOf (Nat.le_refl 1) hfill).bind fun _ _ => ?_
  have hclick := hfill.step "click_search" none none (by decide)
  refine (ends_stepOf (Nat.le_refl 1) hclick).bind fun finalState _ => ?_
  have hresults := hclick.step "observe_results" none finalState.ok (by decide)
  refine (ends_requireOk (Nat.le_refl 1) hresults).bind fun _ _ => ?_
  cases hextract : extractLiepinCardSummaries tables sha256.hexdigest finalState.privateOutput
      maxCards with
  | error code =>
    refine ⟨?_, fun _ h => (by cases h)⟩
    intro stopped h
    obtain rfl := Except.error.inj h
    have hcode := raisesMalformed_extractLiepinCardSummaries code hextract
    refine ⟨?_, Nat.le_refl 1, hresults⟩
    show code ∈ OPENCLI_SAFE_REASON_CODES
    rw [hcode]
    decide
  | ok cards =>
    refine .ok ⟨hresults, ?_⟩
    obtain ⟨found, hfound, rfl⟩ := map_eq_ok hextract
    have hlength := length_placedCards_le hfound
    show (found.map Prod.snd).length ≤ maxCards
    rw [List.length_map]
    omega

/-- **Every search fits** what the executor is asked for. -/
theorem fits_searchLiepinCards {request : SearchCardsRequest} (hpages : 1 ≤ request.maxPages)
    (hcards : 1 ≤ request.maxCards) :
    (searchLiepinCards tables sha256 steps query request.maxCards).Fits request := by
  have hends := @ends_searchSteps tables sha256 steps query request.maxCards hcards
  unfold searchLiepinCards
  cases hsteps : searchSteps tables sha256 steps query request.maxCards with
  | error stopped =>
    obtain ⟨hcode, hvisited, hevents⟩ := hends.stopped stopped hsteps
    exact ⟨hcode, hvisited.trans hpages, plain_of_ownEvents hevents⟩
  | ok found =>
    obtain ⟨hevents, hlength⟩ := hends.result found hsteps
    exact ⟨hlength, hpages, plain_of_ownEvents hevents⟩

end Ends

/-! ## 3. The answer of the executor -/

/-- A search of the helper, as the executor asks for it. -/
def SearchCardsRequest.call (request : SearchCardsRequest) (tables : NumberTables)
    (sha256 : HashFunction) (steps : BrowserSteps) : CardsCall where
  request := { sourceRunId := request.sourceRunId, query := request.keywordQuery }
  outcome := searchLiepinCards tables sha256 steps request.keywordQuery request.maxCards

theorem fits_call {request : SearchCardsRequest} (tables : NumberTables) (sha256 : HashFunction)
    (steps : BrowserSteps) (hpages : 1 ≤ request.maxPages) (hcards : 1 ≤ request.maxCards) :
    (request.call tables sha256 steps).outcome.Fits request :=
  fits_searchLiepinCards hpages hcards

/-- **The answer to a search in the browser**: it has the status and the cards of the envelope if
the firewall finds nothing in the ids and the texts of the cards, and is a failure of the provider
otherwise. -/
theorem searchCards_page (executor : PiLiepinExecutor) (tables : NumberTables)
    (sha256 : HashFunction) (steps : BrowserSteps) (request : SearchCardsRequest) (files : Files)
    (hpages : 1 ≤ request.maxPages) (hcards : 1 ≤ request.maxCards) :
    ∃ envelope files',
      (request.call tables sha256 steps).run sha256 files = (.ok envelope, files') ∧
      if envelope.cards.all (cardPasses executor.tables) then
        (executor.searchCards files' request envelope).status = envelope.status ∧
        ∃ response, (executor.searchCards files' request envelope).cardSearch = some response ∧
          response.cards.length = envelope.cards.length
      else executor.searchCards files' request envelope = rejectedEnvelope := by
  obtain ⟨hrun, hwrote⟩ := run_spec sha256 (request.call tables sha256 steps) files
  have hfits := fits_call tables sha256 steps hpages hcards
  exact ⟨_, _, Prod.ext hrun rfl, searchCards_written hfits rfl rfl hwrote⟩

theorem rejected_of_cards {executor : PiLiepinExecutor} {tables : NumberTables}
    {sha256 : HashFunction} {steps : BrowserSteps} {request : SearchCardsRequest} (files : Files)
    (hpages : 1 ≤ request.maxPages) (hcards : 1 ≤ request.maxCards)
    (hrejected : ((writtenEnvelope sha256 (request.call tables sha256 steps).request
      (request.call tables sha256 steps).outcome).cards.all (cardPasses executor.tables)) = false) :
    ∃ files', (request.call tables sha256 steps).run sha256 files =
        (.ok (writtenEnvelope sha256 (request.call tables sha256 steps).request
          (request.call tables sha256 steps).outcome), files') ∧
      executor.searchCards files' request (writtenEnvelope sha256
        (request.call tables sha256 steps).request (request.call tables sha256 steps).outcome) =
          rejectedEnvelope := by
  obtain ⟨hrun, hwrote⟩ := run_spec sha256 (request.call tables sha256 steps) files
  have hanswer := @searchCards_written executor request _ _ _ _
    (fits_call tables sha256 steps hpages hcards) rfl rfl hwrote
  rw [if_neg (by rw [hrejected]; decide)] at hanswer
  exact ⟨_, Prod.ext hrun rfl, hanswer⟩

/-- The steps of a search that goes well, to a page. -/
def stepsTo (page : String) : BrowserSteps where
  opened := .ok { ok := true, safeReasonCode := ⟨"liepin_opencli_malformed_state", by decide⟩ }
  firstState := .ok { ok := true, safeReasonCode := ⟨"liepin_opencli_malformed_state", by decide⟩ }
  stateAfterClose _ :=
    .ok { ok := true, safeReasonCode := ⟨"liepin_opencli_malformed_state", by decide⟩ }
  finalState := .ok
    { ok := true
      safeReasonCode := ⟨"liepin_opencli_malformed_state", by decide⟩
      privateOutput := page }

/-- A candidate who gives a telephone number. -/
def phonePage : String := "工作5年·本科 13812345678"

def phoneSearch : SearchCardsRequest where
  sourceRunId := "run"
  keywordQuery := "java"
  maxPages := 1
  maxCards := 10

def phoneExecutor : PiLiepinExecutor where
  tables := .ideographs
  hmac := constantDigest
  sha256 := constantDigest
  sha256Json _ := ""

theorem searchCards_page_phonePage :
    ∃ envelope files', (phoneSearch.call ideographNumbers constantDigest (stepsTo phonePage)).run
        constantDigest (fun _ => none) = (.ok envelope, files') ∧
      if envelope.cards.all (cardPasses phoneExecutor.tables) then
        (phoneExecutor.searchCards files' phoneSearch envelope).status = envelope.status ∧
        ∃ response, (phoneExecutor.searchCards files' phoneSearch envelope).cardSearch =
          some response ∧ response.cards.length = envelope.cards.length
      else phoneExecutor.searchCards files' phoneSearch envelope = rejectedEnvelope :=
  searchCards_page phoneExecutor ideographNumbers constantDigest (stepsTo phonePage) phoneSearch
    (fun _ => none) (Nat.le_refl 1) (by decide)

/-- The page passes every test of the helper, and the firewall does not take its only card. -/
theorem not_accepted_phonePage :
    ∃ envelope files', (phoneSearch.call ideographNumbers constantDigest (stepsTo phonePage)).run
        constantDigest (fun _ => none) = (.ok envelope, files') ∧
      envelope.status = .succeeded ∧
      phoneExecutor.searchCards files' phoneSearch envelope = rejectedEnvelope := by
  obtain ⟨files', hrun, hanswer⟩ := @rejected_of_cards phoneExecutor ideographNumbers constantDigest
    (stepsTo phonePage) phoneSearch (fun _ => none) (Nat.le_refl 1) (by decide) (by decide)
  exact ⟨_, files', hrun, by decide, hanswer⟩

end PiAgent

end SeekTalent

import SeekTalent.Base.JsonWritten
import SeekTalent.Base.Loops
import SeekTalent.Liepin.PiExecutor

/-!
# Which envelopes of the browser helper are accepted

The envelope that the browser helper writes has the counts, the references and the action trace
that the executor asks for. What is left to ask is the firewall: the envelope is accepted if and
only if nothing in the texts of its cards looks like contact data, a credential or markup
(`searchCards_written`).
-/

namespace SeekTalent

namespace PiAgent

/-! ## 1. The action trace -/

def isNameChar (c : Char) : Bool := c.isLower || c.isDigit || c == '_' || c == '.'

def Name (text : String) : Prop := (text.toList.all isNameChar) = true

section Trace

variable {text key : String} {c : Char} {events : List TraceEvent} {event : TraceEvent}
variable {members : JsonObject}

theorem isNameChar_ascii (h : isNameChar c = true) :
    0x2E ≤ c.toNat ∧ c.toNat < 0x80 ∧ c.toLower = c ∧ c ≠ '/' := by
  have hrange : 0x61 ≤ c.toNat ∧ c.toNat ≤ 0x7A ∨ 0x30 ≤ c.toNat ∧ c.toNat ≤ 0x39 ∨
      c.toNat = 0x5F ∨ c.toNat = 0x2E := by
    delta isNameChar Char.isLower Char.isDigit at h
    simp only [Bool.or_eq_true, Bool.and_eq_true, decide_eq_true_eq, UInt32.le_iff_toNat_le,
      ge_iff_le, beq_iff_eq] at h
    rcases h with ((h | h) | rfl) | rfl
    · exact .inl h
    · exact .inr (.inl h)
    · exact .inr (.inr (.inl rfl))
    · exact .inr (.inr (.inr rfl))
  refine ⟨by omega, by omega, Char.toNat_inj.mp ?_, ?_⟩
  · rw [Py.toNat_toLower, if_neg (by omega)]
  · rintro rfl
    have hslash : '/'.toNat = 0x2F := rfl
    omega

theorem lowerChar_of_isNameChar (h : isNameChar c = true) : Js.lowerChar c = [c] := by
  obtain ⟨-, hsmall, hlower, -⟩ := isNameChar_ascii h
  unfold Js.lowerChar
  rw [if_neg (by omega), if_neg (by omega), hlower]

theorem toLowerCase_name (h : Name text) : Js.toLowerCase text = text := by
  have hchars : ∀ cs : List Char, cs.all isNameChar = true → cs.flatMap Js.lowerChar = cs := by
    intro cs hcs
    induction cs with
    | nil => rfl
    | cons c cs ih =>
      rw [List.all_cons, Bool.and_eq_true] at hcs
      rw [List.flatMap_cons, lowerChar_of_isNameChar hcs.1, ih hcs.2]
      rfl
  unfold Js.toLowerCase
  rw [hchars _ h, String.ofList_toList]

theorem not_contains_name (h : Name text) {needle : String} {cs : List Char}
    (hneedle : needle.toList = cs) (hc : ∃ c ∈ cs, c = ' ' ∨ c = '/') :
    Py.contains text needle = false := by
  unfold Py.contains
  rw [decide_eq_false_iff_not, hneedle]
  intro hstretch
  obtain ⟨c, hmem, hc⟩ := hc
  obtain ⟨hlarge, -, -, hslash⟩ := isNameChar_ascii (List.all_eq_true.mp h c (hstretch.subset hmem))
  rcases hc with rfl | rfl
  · have hblank : ' '.toNat = 0x20 := rfl
    omega
  · exact hslash rfl

theorem containsForbiddenDetailTrace_name (h : Name text) :
    containsForbiddenDetailTrace (.string text) = false := by
  rw [containsForbiddenDetailTrace, toLowerCase_name h]
  simp only [List.any_cons, List.any_nil, Bool.or_false, Bool.or_eq_false_iff]
  refine ⟨not_contains_name h String.toList_ofList ⟨' ', by decide, .inl rfl⟩,
    not_contains_name h String.toList_ofList ⟨' ', by decide, .inl rfl⟩,
    not_contains_name h String.toList_ofList ⟨'/', by decide, .inr rfl⟩⟩

theorem membersForbidden_eq (members : List (String × Json)) :
    membersForbidden members = members.any fun member => containsForbiddenDetailTrace member.2 := by
  induction members with
  | nil => rfl
  | cons member members ih =>
    obtain ⟨key, value⟩ := member
    rw [membersForbidden, ih, List.any_cons]

theorem itemsForbidden_eq (items : List Json) :
    itemsForbidden items = items.any containsForbiddenDetailTrace := by
  induction items with
  | nil => rfl
  | cons item items ih => rw [itemsForbidden, ih, List.any_cons]

theorem forbiddenMapping_eq_false
    (hroute : loweredText (members.getOr "route_kind" "routeKind") ≠ "detail")
    (haction : loweredText (members.getOr "action_kind" "actionKind") ∉
      ["contact", "download", "open_detail"])
    (hurl : members.getOr "url" "href" = none) : forbiddenMapping members = false := by
  unfold forbiddenMapping
  rw [hurl]
  simp only [Bool.or_eq_false_iff]
  refine ⟨⟨beq_eq_false_iff_ne.mpr hroute, decide_eq_false haction⟩, ?_⟩
  simp [loweredText, Py.contains]

structure TraceEvent.Plain (event : TraceEvent) : Prop where
  name : Name event.actionKind
  action : event.actionKind ∉ ["contact", "download", "open_detail"]
  route : event.routeKind = "search"

theorem name_search : Name "search" := by
  have hlist : "search".toList = ['s', 'e', 'a', 'r', 'c', 'h'] := String.toList_ofList
  unfold Name
  rw [hlist]
  decide

theorem get_eventMembers {chars ok : List (String × Json)} {kind route : Json}
    (hchars : ∀ member ∈ chars, member.1 = "chars") (hok : ∀ member ∈ ok, member.1 = "ok")
    (hkey : key ≠ "chars") (hkey' : key ≠ "ok") :
    JsonObject.get ([("action_kind", kind)] ++ chars ++ ok ++ [("route_kind", route)]) key =
      JsonObject.get [("action_kind", kind), ("route_kind", route)] key := by
  have hnone : ∀ {members : List (String × Json)} {name : String},
      (∀ member ∈ members, member.1 = name) → key ≠ name → JsonObject.get members key = none := by
    intro members name hmembers hne
    rw [JsonObject.get_eq_none_iff]
    intro hmem
    obtain ⟨member, hmember, hname⟩ := List.mem_map.mp hmem
    exact hne (hname ▸ hmembers member hmember)
  rw [JsonObject.get_append, JsonObject.get_append, JsonObject.get_append, hnone hchars hkey,
    hnone hok hkey', Option.or_none, Option.or_none, ← JsonObject.get_append]
  rfl

theorem forbiddenMapping_event {kind : String} (hname : Name kind)
    (haction : kind ∉ ["contact", "download", "open_detail"])
    (hget : ∀ key, key ≠ "chars" → key ≠ "ok" → members.get key =
      JsonObject.get [("action_kind", .string kind), ("route_kind", .string "search")] key) :
    forbiddenMapping members = false := by
  apply forbiddenMapping_eq_false
  · have hroute : members.getOr "route_kind" "routeKind" = some (.string "search") := by
      unfold JsonObject.getOr
      rw [hget "route_kind" (by simp) (by simp)]
      simp [JsonObject.get, Json.truthy]
    rw [hroute]
    show Js.toLowerCase "search" ≠ "detail"
    rw [toLowerCase_name name_search]
    simp
  · unfold JsonObject.getOr
    rw [hget "action_kind" (by simp) (by simp), hget "actionKind" (by simp) (by simp)]
    by_cases hempty : kind = ""
    · subst hempty
      simp [JsonObject.get, Json.truthy, loweredText]
    · have htruthy : Json.truthy (.string kind) = true := by simp [Json.truthy, hempty]
      simp only [JsonObject.get, List.find?_cons, decide_true, Option.map_some, htruthy, if_true]
      show Js.toLowerCase kind ∉ _
      rw [toLowerCase_name hname]
      exact haction
  · unfold JsonObject.getOr
    rw [hget "url" (by simp) (by simp), hget "href" (by simp) (by simp)]
    simp [JsonObject.get]

theorem containsForbiddenDetailTrace_event (h : event.Plain) :
    containsForbiddenDetailTrace event.json = false := by
  obtain ⟨kind, route, chars, ok⟩ := event
  obtain ⟨hname, haction, hroute⟩ := h
  dsimp only at hname haction hroute
  subst hroute
  show (forbiddenMapping _ || membersForbidden _) = false
  rw [Bool.or_eq_false_iff]
  constructor
  · apply forbiddenMapping_event hname haction
    intro key hkey hkey'
    apply get_eventMembers _ _ hkey hkey'
    · intro member hmember
      cases chars with
      | none => cases hmember
      | some n => rw [List.mem_singleton.mp hmember]
    · intro member hmember
      cases ok with
      | none => cases hmember
      | some ok => rw [List.mem_singleton.mp hmember]
  · have hkind := containsForbiddenDetailTrace_name hname
    have hsearch := containsForbiddenDetailTrace_name name_search
    have hnumber : ∀ n : ℚ, containsForbiddenDetailTrace (.number n) = false := fun _ => rfl
    have hbool : ∀ value : Bool, containsForbiddenDetailTrace (.bool value) = false := fun _ => rfl
    rw [membersForbidden_eq]
    cases chars <;> cases ok <;> simp [hkind, hsearch, hnumber, hbool]

theorem plain_event (event : TraceEvent) : Json.Plain event.json := by
  obtain ⟨kind, route, chars, ok⟩ := event
  unfold TraceEvent.json
  apply Json.Plain.object
  · cases chars <;> cases ok <;> simp
  · cases chars <;> cases ok <;> simp [Json.Plain.string, Json.Plain.number, Json.Plain.bool]

theorem plain_events (events : List TraceEvent) :
    Json.Plain (.array (events.map TraceEvent.json)) := by
  apply Json.Plain.array
  intro item hitem
  obtain ⟨event, -, rfl⟩ := List.mem_map.mp hitem
  exact plain_event event

theorem containsForbiddenDetailTrace_events (h : ∀ event ∈ events, event.Plain) :
    containsForbiddenDetailTrace (.array (events.map TraceEvent.json)) = false := by
  rw [containsForbiddenDetailTrace, itemsForbidden_eq, List.any_eq_false]
  intro item hitem
  obtain ⟨event, hevent, rfl⟩ := List.mem_map.mp hitem
  rw [containsForbiddenDetailTrace_event (h event hevent)]
  simp

theorem name_mode : Name "card" := by
  have hlist : "card".toList = ['c', 'a', 'r', 'd'] := String.toList_ofList
  unfold Name
  rw [hlist]
  decide

theorem name_source : Name "liepin" := by
  have hlist : "liepin".toList = ['l', 'i', 'e', 'p', 'i', 'n'] := String.toList_ofList
  unfold Name
  rw [hlist]
  decide

theorem name_version : Name "seektalent.opencli_action_trace.v1" := by
  have hlist : "seektalent.opencli_action_trace.v1".toList = ['s', 'e', 'e', 'k', 't', 'a', 'l', 'e',
      'n', 't', '.', 'o', 'p', 'e', 'n', 'c', 'l', 'i', '_', 'a', 'c', 't', 'i', 'o', 'n', '_', 't',
      'r', 'a', 'c', 'e', '.', 'v', '1'] := String.toList_ofList
  unfold Name
  rw [hlist]
  decide

theorem forbiddenMapping_trace
    (h : ∀ key ∈ ["route_kind", "routeKind", "action_kind", "actionKind", "url", "href"],
      members.get key = none) : forbiddenMapping members = false := by
  apply forbiddenMapping_eq_false
  · unfold JsonObject.getOr
    rw [h "route_kind" (by simp), h "routeKind" (by simp)]
    simp [loweredText]
  · unfold JsonObject.getOr
    rw [h "action_kind" (by simp), h "actionKind" (by simp)]
    simp [loweredText]
  · unfold JsonObject.getOr
    rw [h "url" (by simp), h "href" (by simp)]

theorem cardModeTrace_dumped {files : Files} {ref : String}
    (hplain : Json.Plain (.object members))
    (hmaterial : resolveMaterial files ref = some (dumped (.object members)))
    (hkeys : ∀ key ∈ ["route_kind", "routeKind", "action_kind", "actionKind", "url", "href"],
      members.get key = none)
    (hvalues : ∀ member ∈ members, containsForbiddenDetailTrace member.2 = false) :
    cardModeTrace files ref = true := by
  have hparse : Json.parse (dumped (.object members)) = some (.object members) :=
    Json.parse_write hplain
  unfold cardModeTrace
  rw [hmaterial]
  dsimp only
  rw [hparse, Option.getD_some, containsForbiddenDetailTrace, forbiddenMapping_trace hkeys,
    membersForbidden_eq, List.any_eq_false.mpr]
  · rfl
  · intro member hmember
    rw [hvalues member hmember]
    simp

theorem cardModeTrace_cardsTrace {files : Files} {ref : String} {cardsSeen : Nat}
    (h : ∀ event ∈ events, event.Plain)
    (hmaterial : resolveMaterial files ref = some (cardsTrace events cardsSeen)) :
    cardModeTrace files ref = true := by
  apply cardModeTrace_dumped _ hmaterial
  · simp [JsonObject.get]
  · have hnumber : ∀ n : ℚ, containsForbiddenDetailTrace (.number n) = false := fun _ => rfl
    simp [hnumber, containsForbiddenDetailTrace_events h, containsForbiddenDetailTrace_name name_mode,
      containsForbiddenDetailTrace_name name_source, containsForbiddenDetailTrace_name name_version]
  · apply Json.Plain.object
    · simp
    · simp [Json.Plain.number, Json.Plain.string, plain_events]

theorem cardModeTrace_blockedTrace {files : Files} {ref safeReasonCode : String}
    (h : ∀ event ∈ events, event.Plain) (hcode : Name safeReasonCode)
    (hmaterial : resolveMaterial files ref = some (blockedTrace safeReasonCode events)) :
    cardModeTrace files ref = true := by
  apply cardModeTrace_dumped _ hmaterial
  · simp [JsonObject.get]
  · simp [containsForbiddenDetailTrace_events h, containsForbiddenDetailTrace_name name_mode,
      containsForbiddenDetailTrace_name name_source, containsForbiddenDetailTrace_name name_version,
      containsForbiddenDetailTrace_name hcode]
  · apply Json.Plain.object
    · simp
    · simp [Json.Plain.string, plain_events]

end Trace

/-! ## 2. The envelope -/

/-- What the helper answers a call with: the events and the codes are its own, it visits one page
at most, and takes no more cards than it was asked for. -/
def CardsOutcome.Fits (request : SearchCardsRequest) : CardsOutcome → Prop
  | .blocked safeReasonCode pagesVisited events =>
    safeReasonCode ∈ OPENCLI_SAFE_REASON_CODES ∧ pagesVisited ≤ request.maxPages ∧
      ∀ event ∈ events, event.Plain
  | .cards pagesVisited events _ summaries =>
    summaries.length ≤ request.maxCards ∧ pagesVisited ≤ request.maxPages ∧
      ∀ event ∈ events, event.Plain

/-- The firewall finds nothing in the texts of a card. -/
def cardPasses (tables : Py.UnicodeTables) (card : EnvelopeCard) : Bool :=
  safeText tables card.candidateResumeId && card.safeCardSummary.texts.all (safeValue tables)

section Envelope

variable {executor : PiLiepinExecutor} {request : SearchCardsRequest} {call : CardsCall}
variable {files files' : Files} {sha256 : HashFunction} {outcome : CardsOutcome} {safeRunId : String}

theorem name_reasonCodes : ∀ code ∈ OPENCLI_SAFE_REASON_CODES, Name code := by
  have hname : ∀ {text : String} {cs : List Char}, text.toList = cs → cs.all isNameChar = true →
      Name text := by
    intro text cs htext hcs
    unfold Name
    rw [htext]
    exact hcs
  simp only [OPENCLI_SAFE_REASON_CODES, List.forall_mem_cons, List.not_mem_nil, false_imp_iff,
    implies_true, and_true]
  refine ⟨?_, ?_, ?_, ?_, ?_, ?_, ?_, ?_, ?_, ?_, ?_, ?_, ?_, ?_, ?_, ?_, ?_⟩ <;>
    exact hname String.toList_ofList (by decide)

theorem providerRank_writtenCards {summaries : List CardSummary} : ∀ {rank : Nat},
    (writtenCards sha256 safeRunId rank summaries).map EnvelopeCard.providerRank =
      List.range' rank summaries.length := by
  induction summaries with
  | nil => exact fun {_} => rfl
  | cons summary summaries ih =>
    intro rank
    rw [writtenCards, List.map_cons, ih, List.length_cons, List.range'_succ]
    rfl

theorem length_writtenCards {summaries : List CardSummary} {rank : Nat} :
    (writtenCards sha256 safeRunId rank summaries).length = summaries.length := by
  have h : ((writtenCards sha256 safeRunId rank summaries).map
      EnvelopeCard.providerRank).length = _ := congrArg List.length providerRank_writtenCards
  rwa [List.length_map, List.length_range'] at h

theorem modelValidates_writtenEnvelope (h : outcome.Fits request) :
    modelValidates (writtenEnvelope sha256 call.request outcome) = true := by
  cases outcome with
  | blocked safeReasonCode pagesVisited events =>
    simp [modelValidates, writtenEnvelope, stopReasonFits, h.1]
  | cards pagesVisited events stateText summaries =>
    have hranks : ∀ card ∈ writtenCards sha256 (safeArtifactSegment call.request.sourceRunId) 1
        summaries, 1 ≤ card.providerRank := by
      intro card hcard
      have hmem := List.mem_map_of_mem (f := EnvelopeCard.providerRank) hcard
      rw [providerRank_writtenCards, List.mem_range'_1] at hmem
      exact hmem.1
    have hnodup : ((writtenCards sha256 (safeArtifactSegment call.request.sourceRunId) 1
        summaries).map EnvelopeCard.providerRank).Nodup := by
      rw [providerRank_writtenCards]
      exact List.nodup_range'
    simpa [modelValidates, writtenEnvelope, stopReasonFits, hnodup] using hranks

theorem registeredRef_writtenEnvelope (hwrote : Wrote call.segment (call.text? sha256) files files')
    {ref : String} (href : ref ∈ (writtenEnvelope sha256 call.request call.outcome).refs) :
    registeredRef files' ref = true := by
  obtain ⟨artifact, htext, rfl⟩ := mem_refs_iff.mp href
  obtain ⟨text, htext⟩ := Option.ne_none_iff_exists'.mp htext
  have hfile : files' (artifact.path (safeArtifactSegment call.request.sourceRunId)) = some text :=
    hwrote.written artifact text htext
  unfold registeredRef
  rw [PiArtifact.resolveMaterial_ref, hfile]
  rfl

theorem cardModeTrace_writtenEnvelope (hfits : call.outcome.Fits request)
    (hwrote : Wrote call.segment (call.text? sha256) files files') :
    cardModeTrace files' (writtenEnvelope sha256 call.request call.outcome).actionTraceRef = true := by
  obtain ⟨cardsRequest, outcome⟩ := call
  have hresolve : ∀ text, (CardsCall.mk cardsRequest outcome).text? sha256 .actionTrace = some text →
      resolveMaterial files' (PiArtifact.ref (safeArtifactSegment cardsRequest.sourceRunId)
        .actionTrace) = some text := by
    intro text htext
    rw [PiArtifact.resolveMaterial_ref]
    exact hwrote.written _ _ htext
  cases outcome with
  | blocked safeReasonCode pagesVisited events =>
    exact cardModeTrace_blockedTrace hfits.2.2 (name_reasonCodes _ hfits.1) (hresolve _ rfl)
  | cards pagesVisited events stateText summaries =>
    exact cardModeTrace_cardsTrace hfits.2.2 (hresolve _ rfl)

theorem validateCardEnvelope_writtenEnvelope (tables : Py.UnicodeTables)
    (hfits : call.outcome.Fits request)
    (hsource : call.request.sourceRunId = request.sourceRunId)
    (hquery : call.request.query = request.keywordQuery)
    (hwrote : Wrote call.segment (call.text? sha256) files files') :
    validateCardEnvelope tables files' request
        (writtenEnvelope sha256 call.request call.outcome) =
      (writtenEnvelope sha256 call.request call.outcome).cards.all (cardPasses tables) := by
  have hrefs : ∀ ref ∈ (writtenEnvelope sha256 call.request call.outcome).refs,
      registeredRef files' ref = true := fun ref href => registeredRef_writtenEnvelope hwrote href
  have htrace := cardModeTrace_writtenEnvelope hfits hwrote
  have hcounts : (writtenEnvelope sha256 call.request call.outcome).sourceRunId =
        request.sourceRunId ∧
      (writtenEnvelope sha256 call.request call.outcome).query = request.keywordQuery ∧
      (writtenEnvelope sha256 call.request call.outcome).pagesVisited ≤ request.maxPages ∧
      (writtenEnvelope sha256 call.request call.outcome).cardsReturned ≤ request.maxCards := by
    obtain ⟨cardsRequest, outcome⟩ := call
    cases outcome with
    | blocked safeReasonCode pagesVisited events =>
      exact ⟨hsource, hquery, hfits.2.1, Nat.zero_le _⟩
    | cards pagesVisited events stateText summaries =>
      refine ⟨hsource, hquery, hfits.2.1, ?_⟩
      show (writtenCards _ _ 1 summaries).length ≤ request.maxCards
      rw [length_writtenCards]
      exact hfits.1
  generalize writtenEnvelope sha256 call.request call.outcome = envelope at hrefs htrace hcounts ⊢
  obtain ⟨hsource, hquery, hpages, hcards⟩ := hcounts
  simp only [CardsEnvelope.refs, List.forall_mem_cons, List.forall_mem_append,
    List.mem_flatMap, forall_exists_index, and_imp] at hrefs
  obtain ⟨haction, hlists, hcardRefs⟩ := hrefs
  have hlists : (envelope.safeSummaryRefs ++ envelope.protectedSnapshotRefs).all
      (registeredRef files') = true := by
    rw [List.all_eq_true]
    intro ref href
    rcases List.mem_append.mp href with href | href
    · exact hlists.1 ref href
    · exact hlists.2 ref href
  have hcard : ∀ card ∈ envelope.cards, validCard tables files' card = cardPasses tables card := by
    intro card hcard
    unfold validCard cardPasses
    rw [hcardRefs _ card hcard (List.mem_cons_self),
      hcardRefs _ card hcard (List.mem_cons_of_mem _ List.mem_cons_self),
      hcardRefs _ card hcard (List.mem_cons_of_mem _ (List.mem_cons_of_mem _ List.mem_cons_self)),
      Bool.and_true, Bool.and_true, Bool.and_true]
  unfold validateCardEnvelope
  rw [hsource, hquery, decide_eq_true hpages, decide_eq_true hcards, haction, htrace, hlists]
  simp only [beq_self_eq_true, Bool.and_self, Bool.true_and]
  rw [Bool.eq_iff_iff, List.all_eq_true, List.all_eq_true]
  exact forall₂_congr fun card hmem => by rw [hcard card hmem]

/-- **The answer to an envelope of the helper**: it is taken as it is if the texts of its cards
pass the firewall, and is a failure of the provider otherwise. -/
theorem searchCards_written (hfits : call.outcome.Fits request)
    (hsource : call.request.sourceRunId = request.sourceRunId)
    (hquery : call.request.query = request.keywordQuery)
    (hwrote : Wrote call.segment (call.text? sha256) files files') :
    if (writtenEnvelope sha256 call.request call.outcome).cards.all (cardPasses executor.tables) then
      (executor.searchCards files' request
          (writtenEnvelope sha256 call.request call.outcome)).status =
        (writtenEnvelope sha256 call.request call.outcome).status ∧
      ∃ response, (executor.searchCards files' request
          (writtenEnvelope sha256 call.request call.outcome)).cardSearch = some response ∧
        response.cards.length = (writtenEnvelope sha256 call.request call.outcome).cards.length
    else executor.searchCards files' request
      (writtenEnvelope sha256 call.request call.outcome) = rejectedEnvelope := by
  have hvalid := validateCardEnvelope_writtenEnvelope executor.tables hfits hsource hquery hwrote
  have hmodel : modelValidates (writtenEnvelope sha256 call.request call.outcome) = true :=
    modelValidates_writtenEnvelope hfits
  have hmaterial : ∀ card ∈ (writtenEnvelope sha256 call.request call.outcome).cards,
      (executor.mapCard files' (writtenEnvelope sha256 call.request call.outcome).sourceRunId
        (writtenEnvelope sha256 call.request call.outcome).actionTraceRef card).isSome := by
    intro card hcard
    have href : registeredRef files' card.providerCandidateKeyMaterialRef = true := by
      apply registeredRef_writtenEnvelope hwrote
      unfold CardsEnvelope.refs
      apply List.mem_cons_of_mem
      apply List.mem_append_right
      exact List.mem_flatMap.mpr ⟨card, hcard, List.mem_cons_self⟩
    unfold PiLiepinExecutor.mapCard PiLiepinExecutor.providerCandidateHash
    rw [Option.isSome_map, Option.isSome_map]
    exact href
  generalize writtenEnvelope sha256 call.request call.outcome = envelope
    at hvalid hmodel hmaterial ⊢
  unfold PiLiepinExecutor.searchCards
  rw [hmodel, hvalid, Bool.true_and]
  obtain ⟨cards, hcards, hall⟩ := Loops.exists_some fun card hcard =>
    (Option.isSome_iff_exists.mp (hmaterial card hcard)).imp fun _ h => ⟨h, trivial⟩
  split
  · unfold PiLiepinExecutor.mapCardSearch
    rw [hcards]
    exact ⟨rfl, _, rfl, hall.length_eq.symm⟩
  · rfl

end Envelope

end PiAgent

end SeekTalent

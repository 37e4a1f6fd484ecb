import Mathlib.Data.List.TakeWhile
import SeekTalent.Base.Run
import SeekTalent.Round.TermPool

/-!
# Forced decisions are accepted

A round that the runtime decides itself must not fail on the runtime's own rules: the
decision is made, and the validator accepts its query. Three of the four forced decisions
query an anchor with a term of another kind, or the anchor alone where that is allowed, and
they are accepted as long as their texts are not too long. The fourth, which continues in the
place of a stop, pairs two title anchors in the first round and does not look at their
families (`forcedDecision_accepted_iff`, `sameFamilyAnchors_rejected`).
-/

namespace SeekTalent

open Stateful (bind_eq_ok map_eq_ok)

variable {tables : Py.UnicodeTables} {pool : List QueryTermCandidate} {roundNo : Int}
variable {anchor : QueryTermCandidate} {companions : List QueryTermCandidate}

/-! ## An anchor with companions -/

structure Anchored (tables : Py.UnicodeTables) (pool : List QueryTermCandidate) (roundNo : Int)
    (anchor : QueryTermCandidate) (companions : List QueryTermCandidate) : Prop where
  anchor_mem : anchor ∈ pool
  primary : anchor.IsPrimaryAnchor
  mem : ∀ item ∈ companions, item ∈ pool
  companion : ∀ item ∈ companions, Companion roundNo item
  nodup : companions.Nodup
  one : 1 ≤ companions.length
  two : companions.length ≤ 2
  first : roundNo = 1 → companions.length = 1

def anchoredTerms (anchor : QueryTermCandidate) (companions : List QueryTermCandidate) :
    List String :=
  anchor.term :: companions.map (·.term)

theorem Anchored.isOk_iff (hanchored : Anchored tables pool roundNo anchor companions)
    (hdistinct : TermsDistinct tables pool) (allowance : QueryAllowance) (terms : List String) :
    canonicalizeControllerQueryTerms tables allowance (anchoredTerms anchor companions) roundNo
        pool = .ok terms ↔
      duplicateFamilies tables (anchor :: companions) = [] ∧
        terms = anchoredTerms anchor companions := by
  unfold anchoredTerms
  rw [canonicalize_anchored hdistinct hanchored.anchor_mem hanchored.primary hanchored.mem
    hanchored.companion hanchored.nodup hanchored.one hanchored.two hanchored.first]
  by_cases hdup : duplicateFamilies tables (anchor :: companions) = []
  · rw [if_pos hdup]
    simp [hdup, eq_comm]
  · rw [if_neg hdup]
    simp [hdup]

theorem uniqueStrings_nil : uniqueStrings tables [] = [] := rfl

theorem duplicateFamilies_eq_nil (hnodup : ((anchor :: companions).map (·.family)).Nodup) :
    duplicateFamilies tables (anchor :: companions) = [] := by
  have hnone := duplicateFamiliesFrom_eq_nil.mpr ⟨hnodup, fun _ _ => List.not_mem_nil⟩
  rw [duplicateFamilies, hnone, uniqueStrings_nil]

theorem strip_ne_empty {s : String} {c : Char} (hhead : s.toList.head? = some c)
    (hc : Py.isSpace c = false) : Py.strip s ≠ "" := by
  intro hempty
  have htrim : Py.trim Py.isSpace s.toList = [] := by
    simpa [Py.strip] using hempty
  cases hs : s.toList with
  | nil => simp [hs] at hhead
  | cons d ds =>
    obtain rfl : d = c := by simpa [hs] using hhead
    rw [hs, Py.trim, List.reverse_eq_nil_iff, List.dropWhile_eq_nil_iff] at htrim
    have hd := htrim d (by simp [hc])
    rw [hc] at hd
    cases hd

theorem duplicateFamilies_pair {secondary : QueryTermCandidate} (hrole : RoleFamily secondary.family) :
    duplicateFamilies tables [anchor, secondary] = [] ↔ anchor.family ≠ secondary.family := by
  constructor
  · intro hnil heq
    have hstrip := strip_ne_empty hrole.head (by decide)
    simp [duplicateFamilies, duplicateFamiliesFrom, heq, uniqueStrings, uniqueStringsFrom,
      hstrip] at hnil
  · intro hne
    exact duplicateFamilies_eq_nil (by simpa using hne)

/-! ## The runtime's own choice of a query -/

section Select

/-- The loop of `select_query_terms` adds terms of families that are not used yet. -/
theorem selectFamilies_spec {budget : Nat} (usedFamilies : List String)
    (selected ordered : List QueryTermCandidate) (hroom : selected.length < budget) :
    ∃ more, selectFamilies budget usedFamilies selected ordered = selected ++ more ∧
      more.Sublist ordered ∧ (more.map (·.family)).Nodup ∧
      (∀ item ∈ more, item.family ∉ usedFamilies) ∧ (selected ++ more).length ≤ budget ∧
      ((∃ item ∈ ordered, item.family ∉ usedFamilies) → more ≠ []) := by
  induction ordered generalizing usedFamilies selected with
  | nil => exact ⟨[], by simp [selectFamilies], by simp, by simp, by simp, by simpa using hroom.le,
      by simp⟩
  | cons item rest ih =>
    unfold selectFamilies
    by_cases hused : item.family ∈ usedFamilies
    · rw [if_pos hused]
      obtain ⟨more, hmore, hsub, hnodup, hnew, hlength, hsome⟩ := ih usedFamilies selected hroom
      refine ⟨more, hmore, hsub.cons item, hnodup, hnew, hlength, fun hany => hsome ?_⟩
      obtain ⟨other, hother, hfresh⟩ := hany
      rcases List.mem_cons.mp hother with rfl | hother
      · exact absurd hused hfresh
      · exact ⟨other, hother, hfresh⟩
    · rw [if_neg hused]
      by_cases hfull : budget ≤ (selected ++ [item]).length
      · rw [if_pos hfull]
        refine ⟨[item], rfl, by simp, by simp, by simpa using hused, ?_, by simp⟩
        rw [List.length_append, List.length_singleton]
        omega
      · rw [if_neg hfull]
        obtain ⟨more, hmore, hsub, hnodup, hnew, hlength, -⟩ :=
          ih (item.family :: usedFamilies) (selected ++ [item]) (not_le.mp hfull)
        refine ⟨item :: more, by simpa using hmore, hsub.cons_cons item, ?_, ?_, by simpa using hlength,
          by simp⟩
        · rw [List.map_cons, List.nodup_cons]
          refine ⟨fun hmem => ?_, hnodup⟩
          obtain ⟨other, hother, heq⟩ := List.mem_map.mp hmem
          exact hnew other hother (heq ▸ List.mem_cons_self ..)
        · intro other hother
          rcases List.mem_cons.mp hother with rfl | hother
          · exact hused
          · exact fun hin => hnew other hother (List.mem_cons_of_mem _ hin)

/-- The two title anchors that a forced search of the first round is made of, if there is a
    secondary one, have one family. -/
def AnchorsShareFamily (tables : Py.UnicodeTables) (pool : List QueryTermCandidate) : Prop :=
  ∃ anchor secondary, (activePrimaryAnchors tables pool).head? = some anchor ∧
    (activeSecondaryAnchors tables pool).head? = some secondary ∧ anchor.family = secondary.family

theorem nodup_of_distinct (h : TermsDistinct tables pool) : pool.Nodup := h.nodup.of_map

theorem mem_activePrimaryAnchors : anchor ∈ activePrimaryAnchors tables pool ↔
    anchor ∈ pool ∧ anchor.active = true ∧ anchor.IsPrimaryAnchor := by
  simp [activePrimaryAnchors]

theorem TermPoolOk.activePrimaryAnchors_ne_nil (h : TermPoolOk tables pool) :
    activePrimaryAnchors tables pool ≠ [] := by
  obtain ⟨item, hitem, hactive, hprimary⟩ := h.anchored
  exact List.ne_nil_of_mem (mem_activePrimaryAnchors.mpr ⟨hitem, hactive, hprimary⟩)

theorem companion_of_support {item : QueryTermCandidate} (hactive : item.active = true)
    (hsupport : item.IsSupport) : Companion roundNo item := by
  refine ⟨hsupport.1, fun hprimary => hsupport.2 hprimary.isTitleAnchor, .inl hactive, ?_⟩
  intro _ hrole
  exact hsupport.2 ⟨hsupport.1, .inr hrole⟩

/-- **The runtime's choice** is an anchor with companions. The families repeat only in the
    first round, if those of two title anchors do. -/
theorem selectQueryTerms_spec (h : TermPoolOk tables pool) (roundNo : Int) :
    ∃ anchor companions, Anchored tables pool roundNo anchor companions ∧
      selectQueryTerms tables pool roundNo =
        canonicalizeControllerQueryTerms tables {} (anchoredTerms anchor companions) roundNo pool ∧
      (duplicateFamilies tables (anchor :: companions) = [] ↔
        ¬(roundNo = 1 ∧ AnchorsShareFamily tables pool)) := by
  unfold selectQueryTerms
  cases hanchors : activePrimaryAnchors tables pool with
  | nil => exact absurd hanchors h.activePrimaryAnchors_ne_nil
  | cons anchor anchors =>
    obtain ⟨hanchor, hactive, hprimary⟩ :=
      mem_activePrimaryAnchors.mp (hanchors ▸ List.mem_cons_self .. :
        anchor ∈ activePrimaryAnchors tables pool)
    dsimp only
    cases hsecond : (if roundNo = 1 then activeSecondaryAnchors tables pool else []) with
    | cons secondary others =>
      -- the first round, with the two title anchors
      have hround : roundNo = 1 := by
        by_contra hne
        simp [hne] at hsecond
      rw [if_pos hround] at hsecond
      have hmem : secondary ∈ activeSecondaryAnchors tables pool :=
        hsecond ▸ List.mem_cons_self ..
      simp only [activeSecondaryAnchors, Py.mem_sortedBy, List.mem_filter,
        decide_eq_true_eq] at hmem
      obtain ⟨hpool, hsecActive, hadmitted, hrole⟩ := hmem
      have htitle : secondary.IsTitleAnchor := ⟨hadmitted, .inr hrole⟩
      refine ⟨anchor, [secondary], ⟨hanchor, hprimary, by simpa using hpool, ?_, by simp, by simp,
        by simp, by simp⟩, rfl, ?_⟩
      · intro item hitem
        obtain rfl := List.mem_singleton.mp hitem
        refine ⟨hadmitted, fun hprim => ?_, .inr htitle, fun hlate => by omega⟩
        simp [QueryTermCandidate.IsPrimaryAnchor, hrole, isPrimaryAnchorRole] at hprim
      · rw [duplicateFamilies_pair (h.roleFamily secondary hpool htitle)]
        have hshare : AnchorsShareFamily tables pool ↔ anchor.family = secondary.family := by
          simp [AnchorsShareFamily, hanchors, hsecond]
        rw [hshare]
        simp [hround]
    | nil =>
      -- active supports of different families
      have hshare : ¬(roundNo = 1 ∧ AnchorsShareFamily tables pool) := by
        intro hbad
        obtain ⟨hround, -, secondary, -, hhead, -⟩ := hbad
        rw [if_pos hround] at hsecond
        rw [hsecond] at hhead
        cases hhead
      have hordered : ∀ item, item ∈ activeNonAnchors tables pool ↔
          item ∈ pool ∧ item.active = true ∧ item.IsSupport := by
        simp [activeNonAnchors, QueryTermCandidate.IsSupport]
      have hrole := h.roleFamily anchor hanchor hprimary.isTitleAnchor
      have hother : ∀ item ∈ activeNonAnchors tables pool, item.family ∉ [anchor.family] := by
        intro item hitem
        obtain ⟨hpool, -, hsupport⟩ := (hordered item).mp hitem
        rw [List.mem_singleton]
        exact (hrole.ne (h.supportFamily item hpool hsupport)).symm
      obtain ⟨support, hsupport⟩ := h.supported
      have hsome : support ∈ activeNonAnchors tables pool := (hordered support).mpr hsupport
      have hlength := List.length_pos_of_mem hsome
      have hbudget : 0 < (if roundNo = 1 then 1
          else min 2 (activeNonAnchors tables pool).length) := by
        split <;> omega
      obtain ⟨more, hmore, hsub, hnodup, hnew, hle, hne⟩ :=
        selectFamilies_spec [anchor.family] [] (activeNonAnchors tables pool)
          (by simpa using hbudget)
      rw [List.nil_append] at hmore hle
      have hne := hne ⟨support, hsome, hother support hsome⟩
      dsimp only
      rw [hmore]
      have hsupports : ∀ item ∈ more, item ∈ pool ∧ item.active = true ∧ item.IsSupport :=
        fun item hitem => (hordered item).mp (hsub.subset hitem)
      have hpoolNodup : (activeNonAnchors tables pool).Nodup :=
        Py.perm_sortedBy.nodup_iff.mpr ((nodup_of_distinct h.distinct).filter _)
      refine ⟨anchor, more, ⟨hanchor, hprimary, fun item hitem => (hsupports item hitem).1, ?_,
        hsub.nodup hpoolNodup, List.length_pos_iff.mpr hne, ?_, ?_⟩, ?_, ?_⟩
      · intro item hitem
        exact companion_of_support (hsupports item hitem).2.1 (hsupports item hitem).2.2
      · refine hle.trans ?_
        split <;> omega
      · intro hround
        have hpos := List.length_pos_iff.mpr hne
        rw [if_pos hround] at hle
        omega
      · cases more with
        | nil => exact absurd rfl hne
        | cons first rest => rfl
      · refine ⟨fun _ => hshare, fun _ => duplicateFamilies_eq_nil ?_⟩
        rw [List.map_cons, List.nodup_cons]
        refine ⟨fun hmem => ?_, hnodup⟩
        obtain ⟨item, hitem, heq⟩ := List.mem_map.mp hmem
        exact hnew item hitem (by simp [heq])

end Select

/-! ## Which decision is forced -/

/-- The functions that make a decision in the controller's place. -/
inductive ForcedLane where
  | continueSearch
  | reserveBroaden
  | candidateFeedback
  | anchorOnly
  deriving DecidableEq

def MissesResponse (inputs : RoundInputs) (decision : ControllerDecision) : Prop :=
  inputs.previousReflection.isSome ∧ Py.strip (decision.responseToReflection.getD "") = ""

instance (inputs : RoundInputs) (decision : ControllerDecision) :
    Decidable (MissesResponse inputs decision) :=
  inferInstanceAs (Decidable (_ ∧ _))

/-- A stop the controller may not make becomes a search. -/
def continuedLane (inputs : RoundInputs) (decision : ControllerDecision) : Option ForcedLane :=
  match decision with
  | .search _ => none
  | .stop stop =>
    if MissesResponse inputs (.stop stop) ∨ inputs.stopGuidance.canStop then none
    else some .continueSearch

section Lane

variable (tables : Py.UnicodeTables)

/-- Which function forces the decision of a round, if one does. -/
def forcedLane (inputs : RoundInputs) (retrieval : RetrievalState) (decision : ControllerDecision) :
    Option ForcedLane :=
  if ¬needsRescue inputs.stopGuidance.qualityGateStatus then continuedLane inputs decision
  else match (chooseRescueDecision tables inputs retrieval).1.selectedLane with
    | .reserveBroaden => some .reserveBroaden
    | .candidateFeedback =>
      if (feedbackDecision tables inputs retrieval).acceptedTerm.isSome then
        some .candidateFeedback
      else if retrieval.anchorOnlyBroadenAttempted then continuedLane inputs decision
      else some .anchorOnly
    | .anchorOnly => some .anchorOnly
    | _ => continuedLane inputs decision

def forcedRationale (inputs : RoundInputs) (retrieval : RetrievalState) : ForcedLane → String
  | .continueSearch => continueRationale inputs.stopGuidance.reason
  | .reserveBroaden =>
    broadenRationale (((untriedAdmittedNonAnchorReserve tables retrieval).map
      reserveDetail).getD anchorOnlyDetail) inputs.stopGuidance.reason
  | .candidateFeedback =>
    feedbackRationale (((feedbackDecision tables inputs retrieval).acceptedTerm.map
      (·.term)).getD "") inputs.stopGuidance.reason
  | .anchorOnly => broadenRationale anchorOnlyDetail inputs.stopGuidance.reason

def Planned (frame : PlanFrame) (inputs : RoundInputs) (retrieval : RetrievalState)
    (search : SearchControllerDecision) : Prop :=
  ∃ plan, planRound tables frame inputs retrieval search = .ok plan

/-- A decision is made, it is a search, and the same round makes a plan of it. -/
def Accepted (frame : PlanFrame) (inputs : RoundInputs) (outcome : Except String Resolution) :
    Prop :=
  ∃ resolution search, outcome = .ok resolution ∧ resolution.decision = .search search ∧
    Planned tables frame inputs resolution.retrieval search

end Lane

/-! ## The texts of a forced decision -/

section Validate

variable {search : SearchControllerDecision}

theorem lengthErrors_eq_nil {field text : String} {most : Nat} (hne : text ≠ "") :
    lengthErrors field 1 most text = [] ↔ text.length ≤ most := by
  have hpos : ¬text.length < 1 := by
    simpa using hne
  unfold lengthErrors
  rw [if_neg hpos]
  split
  · simpa using ‹most < text.length›
  · simpa using ‹¬most < text.length›

theorem validate_eq_ok_iff {inputs : RoundInputs} {summary beginning responder : String}
    {queryTerms : List String} (hsummary : summary ≠ "")
    (hshort : summary.length ≤ thoughtSummaryMaxChars) (hpos : 0 < responder.length)
    (hle : responder.length ≤ beginning.length) :
    (runtimeDecision inputs summary (beginning ++ inputs.stopGuidance.reason) responder
      queryTerms).validate = .ok search ↔
    (beginning ++ inputs.stopGuidance.reason).length ≤ decisionRationaleMaxChars ∧
      search = runtimeDecision inputs summary (beginning ++ inputs.stopGuidance.reason) responder
        queryTerms := by
  have hrationale : beginning ++ inputs.stopGuidance.reason ≠ "" := by
    intro hempty
    have hlength := congrArg String.length hempty
    rw [String.length_append, String.length_empty] at hlength
    omega
  have hresponse : ∀ text most, lengthErrors "response_to_reflection" 0 most text = [] ↔
      text.length ≤ most := by
    intro text most
    unfold lengthErrors
    rw [if_neg (Nat.not_lt_zero _)]
    split
    · simpa using ‹most < text.length›
    · simpa using ‹¬most < text.length›
  have herrors : (lengthErrors "thought_summary" 1 thoughtSummaryMaxChars summary ++
      lengthErrors "decision_rationale" 1 decisionRationaleMaxChars
        (beginning ++ inputs.stopGuidance.reason) ++
      lengthErrors "response_to_reflection" 0 responseToReflectionMaxChars
        (responder ++ inputs.stopGuidance.reason) = []) ↔
      (beginning ++ inputs.stopGuidance.reason).length ≤ decisionRationaleMaxChars := by
    rw [List.append_eq_nil_iff, List.append_eq_nil_iff, lengthErrors_eq_nil hsummary,
      lengthErrors_eq_nil hrationale, hresponse]
    constructor
    · intro h
      exact h.1.2
    · intro h
      refine ⟨⟨hshort, h⟩, ?_⟩
      rw [String.length_append] at h ⊢
      have hmax : responseToReflectionMaxChars = decisionRationaleMaxChars := rfl
      omega
  unfold SearchControllerDecision.validate
  dsimp only [runtimeDecision]
  by_cases hfits : (beginning ++ inputs.stopGuidance.reason).length ≤ decisionRationaleMaxChars
  · rw [if_pos (herrors.mpr hfits)]
    constructor
    · intro h
      exact ⟨hfits, (Except.ok.inj h).symm⟩
    · intro h
      exact congrArg Except.ok h.2.symm
  · rw [if_neg fun h => hfits (herrors.mp h)]
    constructor
    · intro h
      cases h
    · intro h
      exact absurd h.1 hfits

end Validate

/-! ## Each forced decision -/

section Forced

variable {frame : PlanFrame} {inputs : RoundInputs} {retrieval : RetrievalState}
variable {decision : ControllerDecision} {search : SearchControllerDecision}

theorem planned_iff : Planned tables frame inputs retrieval search ↔
    ∃ terms, canonicalizeControllerQueryTerms tables
      { allowedInactiveNonAnchorTerms :=
          reflectionBackedInactiveTerms tables inputs.previousReflection
        allowAnchorOnly := inputs.stopGuidance.qualityGateStatus = .broadenRequired ||
          retrieval.anchorOnlyBroadenAttempted }
      search.proposedQueryTerms inputs.roundNo retrieval.queryTermPool = .ok terms := by
  unfold Planned planRound buildRoundRetrievalPlan
  cases canonicalizeControllerQueryTerms tables _ search.proposedQueryTerms inputs.roundNo
    retrieval.queryTermPool with
  | error message => simp [Except.map]
  | ok terms => simp [Except.map]

/-- The text of `force_continue_decision` that may be too long. -/
theorem continue_validate_iff {queryTerms : List String} :
    (runtimeDecision inputs "Runtime override: stop guidance requires continuing."
      (continueRationale inputs.stopGuidance.reason) "Runtime override: "
      queryTerms).validate = .ok search ↔
    (continueRationale inputs.stopGuidance.reason).length ≤ decisionRationaleMaxChars ∧
      search = runtimeDecision inputs "Runtime override: stop guidance requires continuing."
        (continueRationale inputs.stopGuidance.reason) "Runtime override: " queryTerms :=
  validate_eq_ok_iff (by simp) (by decide) (by decide) (by decide)

/-- **Continuing** works unless the first round pairs title anchors of one family. -/
theorem forceContinue_planned_iff (hpool : TermPoolOk tables retrieval.queryTermPool) :
    (∃ search, forceContinueDecision tables inputs retrieval = .ok search ∧
      Planned tables frame inputs retrieval search) ↔
    (continueRationale inputs.stopGuidance.reason).length ≤ decisionRationaleMaxChars ∧
      ¬(inputs.roundNo = 1 ∧ AnchorsShareFamily tables retrieval.queryTermPool) := by
  obtain ⟨anchor, companions, hanchored, hselect, hfamilies⟩ :=
    selectQueryTerms_spec hpool inputs.roundNo
  have hok := hanchored.isOk_iff hpool.distinct
  unfold forceContinueDecision
  rw [hselect, ← hfamilies]
  constructor
  · intro h
    obtain ⟨search, hsearch, -⟩ := h
    obtain ⟨terms, hterms, hvalid⟩ := bind_eq_ok hsearch
    exact ⟨(continue_validate_iff.mp hvalid).1, ((hok _ _).mp hterms).1⟩
  · intro h
    obtain ⟨hfits, hdup⟩ := h
    rw [(hok {} (anchoredTerms anchor companions)).mpr ⟨hdup, rfl⟩]
    exact ⟨_, continue_validate_iff.mpr ⟨hfits, rfl⟩,
      planned_iff.mpr ⟨anchoredTerms anchor companions, (hok _ _).mpr ⟨hdup, rfl⟩⟩⟩

theorem activeAdmittedAnchor_spec (hpool : TermPoolOk tables pool) :
    ∃ anchor, activeAdmittedAnchor tables pool = .ok anchor ∧ anchor ∈ pool ∧
      anchor.active = true ∧ anchor.IsPrimaryAnchor := by
  have hsame : activeAdmittedAnchors tables pool = activePrimaryAnchors tables pool := rfl
  unfold activeAdmittedAnchor
  rw [hsame]
  cases hanchors : activePrimaryAnchors tables pool with
  | nil => exact absurd hanchors hpool.activePrimaryAnchors_ne_nil
  | cons anchor rest =>
    exact ⟨anchor, rfl, mem_activePrimaryAnchors.mp (hanchors ▸ List.mem_cons_self ..)⟩

theorem anchored_pair {support : QueryTermCandidate} (roundNo : Int)
    (hpool : TermPoolOk tables pool)
    (hanchor : anchor ∈ pool) (hprimary : anchor.IsPrimaryAnchor) (hmem : support ∈ pool)
    (hactive : support.active = true) (hsupport : support.IsSupport) (allowance : QueryAllowance) :
    canonicalizeControllerQueryTerms tables allowance [anchor.term, support.term] roundNo pool =
      .ok [anchor.term, support.term] := by
  have hanchored : Anchored tables pool roundNo anchor [support] := by
    refine ⟨hanchor, hprimary, by simpa using hmem, ?_, by simp, by simp, by simp, by simp⟩
    intro item hitem
    obtain rfl := List.mem_singleton.mp hitem
    exact companion_of_support hactive hsupport
  refine (hanchored.isOk_iff hpool.distinct allowance _).mpr ⟨duplicateFamilies_eq_nil ?_, rfl⟩
  have hne := (hpool.roleFamily anchor hanchor hprimary.isTitleAnchor).ne
    (hpool.supportFamily support hmem hsupport)
  simpa using hne

theorem reserve_spec {reserve : QueryTermCandidate}
    (h : untriedAdmittedNonAnchorReserve tables retrieval = some reserve) :
    reserve ∈ retrieval.queryTermPool ∧ reserve.IsSupport ∧
      reserve.family ∉ triedQueryFamilies tables retrieval := by
  have hmem := Py.mem_of_minBy h
  simp only [untriedAdmittedNonAnchors, List.mem_filter, decide_eq_true_eq] at hmem
  obtain ⟨hpool, hadmitted, hrole, huntried⟩ := hmem
  exact ⟨hpool, isSupport_iff.mpr ⟨hadmitted, by simpa using hrole⟩, huntried⟩

theorem broaden_length {broadenDetail : String} :
    ("Runtime override: " : String).length ≤
      ("Runtime broaden: " ++ broadenDetail ++ "; ").length := by
  rw [String.length_append, String.length_append]
  have hresponder : ("Runtime override: " : String).length = 18 := by decide
  have hbroaden : ("Runtime broaden: " : String).length = 17 := by decide
  have hseparator : ("; " : String).length = 2 := by decide
  omega

theorem forceBroadenDecision_eq {reserve : QueryTermCandidate}
    (hanchor : activeAdmittedAnchor tables retrieval.queryTermPool = .ok anchor)
    (hreserve : untriedAdmittedNonAnchorReserve tables retrieval = some reserve) :
    forceBroadenDecision tables inputs retrieval =
      (runtimeDecision inputs "Runtime override: broaden before low-quality stop."
        (broadenRationale (reserveDetail reserve) inputs.stopGuidance.reason) "Runtime override: "
        [anchor.term, reserve.term]).validate.map (·, retrieval.activate tables reserve.term) := by
  unfold forceBroadenDecision
  rw [hanchor, hreserve]
  rfl

/-- **Broadening** works if the text fits. -/
theorem forceBroaden_planned_iff (frame : PlanFrame) {reserve : QueryTermCandidate}
    (hpool : TermPoolOk tables retrieval.queryTermPool)
    (hreserve : untriedAdmittedNonAnchorReserve tables retrieval = some reserve) :
    (∃ search after, forceBroadenDecision tables inputs retrieval = .ok (search, after) ∧
      Planned tables frame inputs after search) ↔
    (broadenRationale (reserveDetail reserve) inputs.stopGuidance.reason).length ≤
      decisionRationaleMaxChars := by
  obtain ⟨anchor, hanchor, hmem, hactive, hprimary⟩ := activeAdmittedAnchor_spec hpool
  obtain ⟨hreserveMem, hsupport, -⟩ := reserve_spec hreserve
  have hvalidate : ∀ search, (runtimeDecision inputs
      "Runtime override: broaden before low-quality stop."
      (broadenRationale (reserveDetail reserve) inputs.stopGuidance.reason) "Runtime override: "
      [anchor.term, reserve.term]).validate = .ok search ↔ _ := fun _ =>
    validate_eq_ok_iff (by simp) (by decide) (by decide) broaden_length
  rw [forceBroadenDecision_eq hanchor hreserve]
  constructor
  · intro h
    obtain ⟨search, after, hforced, -⟩ := h
    obtain ⟨decision, hdecision, -⟩ := map_eq_ok hforced
    exact ((hvalidate decision).mp hdecision).1
  · intro hfits
    rw [(hvalidate _).mpr ⟨hfits, rfl⟩]
    refine ⟨_, _, rfl, planned_iff.mpr ⟨[anchor.term, reserve.term], ?_⟩⟩
    -- the reserve is active by now, and the anchor is what it was
    have hanchorMem : anchor ∈ activateQueryTerm tables retrieval.queryTermPool reserve.term := by
      rw [activateQueryTerm_eq]
      exact List.mem_map.mpr ⟨anchor, hmem, activated_eq_self hactive⟩
    have hactivatedMem : activated tables reserve.term reserve ∈
        activateQueryTerm tables retrieval.queryTermPool reserve.term := by
      rw [activateQueryTerm_eq]
      exact List.mem_map_of_mem hreserveMem
    have haccepted := anchored_pair inputs.roundNo (hpool.activate reserve.term)
      hanchorMem hprimary hactivatedMem activated_self_active (isSupport_activated.mpr hsupport)
    rw [activated_term] at haccepted
    exact haccepted _

theorem forceCandidateFeedbackDecision_eq {accepted : QueryTermCandidate}
    (haccepted : (feedbackDecision tables inputs retrieval).acceptedTerm = some accepted) :
    forceCandidateFeedbackDecision tables inputs retrieval =
      (runtimeDecision inputs "Runtime rescue: candidate feedback expansion."
        (feedbackRationale accepted.term inputs.stopGuidance.reason) "Runtime rescue: "
        (feedbackDecision tables inputs retrieval).forcedQueryTerms).validate.map
          (some ·, retrieval.attemptFeedback.learn accepted) := by
  unfold forceCandidateFeedbackDecision
  dsimp only
  rw [haccepted]
  rfl

theorem feedback_length {term : String} :
    ("Runtime rescue: " : String).length ≤
      ("Runtime rescue: candidate feedback term " ++ term ++ "; ").length := by
  rw [String.length_append, String.length_append]
  have hresponder : ("Runtime rescue: " : String).length = 16 := by decide
  have hfeedback : ("Runtime rescue: candidate feedback term " : String).length = 40 := by
    decide
  omega

/-- **Learning a term** works if the text fits. -/
theorem forceFeedback_planned_iff (frame : PlanFrame) {accepted : QueryTermCandidate}
    (hpool : TermPoolOk tables retrieval.queryTermPool)
    (haccepted : (feedbackDecision tables inputs retrieval).acceptedTerm = some accepted) :
    (∃ search after,
      forceCandidateFeedbackDecision tables inputs retrieval = .ok (some search, after) ∧
      Planned tables frame inputs after search) ↔
    (feedbackRationale accepted.term inputs.stopGuidance.reason).length ≤
      decisionRationaleMaxChars := by
  have hlearned := learnedTerm_of_accepted hpool.distinct haccepted
  obtain ⟨anchor, -, hanchor, -, -, -, hterms⟩ := Feedback.accepted_spec haccepted
  have hterms : (feedbackDecision tables inputs retrieval).forcedQueryTerms =
    [anchor.term, accepted.term] := hterms
  have hvalidate : ∀ search, (runtimeDecision inputs
      "Runtime rescue: candidate feedback expansion."
      (feedbackRationale accepted.term inputs.stopGuidance.reason) "Runtime rescue: "
      [anchor.term, accepted.term]).validate = .ok search ↔ _ := fun _ =>
    validate_eq_ok_iff (by simp) (by decide) (by decide) feedback_length
  rw [forceCandidateFeedbackDecision_eq haccepted, hterms]
  constructor
  · intro h
    obtain ⟨search, after, hforced, -⟩ := h
    obtain ⟨decision, hdecision, -⟩ := map_eq_ok hforced
    exact ((hvalidate decision).mp hdecision).1
  · intro hfits
    rw [(hvalidate _).mpr ⟨hfits, rfl⟩]
    refine ⟨_, _, rfl, planned_iff.mpr ⟨[anchor.term, accepted.term], ?_⟩⟩
    have hprimary : anchor.IsPrimaryAnchor := by
      have hanchor := List.find?_some hanchor
      simp only [decide_eq_true_eq] at hanchor
      exact hanchor.2
    exact anchored_pair inputs.roundNo (hpool.learn hlearned)
      (List.mem_append_left _ (List.mem_of_find?_eq_some hanchor)) hprimary (by simp)
      hlearned.active hlearned.support _

/-- **The anchor alone** works if the text fits, once it is allowed. -/
theorem forceAnchorOnly_planned_iff (hpool : TermPoolOk tables retrieval.queryTermPool)
    (hallowed : retrieval.anchorOnlyBroadenAttempted = true) :
    (∃ search, forceAnchorOnlyDecision tables inputs retrieval = .ok search ∧
      Planned tables frame inputs retrieval search) ↔
    (broadenRationale anchorOnlyDetail inputs.stopGuidance.reason).length ≤
      decisionRationaleMaxChars := by
  obtain ⟨anchor, hanchor, hmem, -, hprimary⟩ := activeAdmittedAnchor_spec hpool
  have hvalidate : ∀ search, (runtimeDecision inputs
      "Runtime rescue: final anchor-only broaden."
      (broadenRationale anchorOnlyDetail inputs.stopGuidance.reason) "Runtime rescue: "
      [anchor.term]).validate = .ok search ↔ _ := fun _ =>
    validate_eq_ok_iff (by simp) (by decide) (by decide) (by decide)
  unfold forceAnchorOnlyDecision
  rw [hanchor]
  constructor
  · intro h
    obtain ⟨search, hforced, -⟩ := h
    exact ((hvalidate search).mp hforced).1
  · intro hfits
    refine ⟨_, (hvalidate _).mpr ⟨hfits, rfl⟩, planned_iff.mpr ⟨[anchor.term], ?_⟩⟩
    exact canonicalize_anchorOnly hpool.distinct hmem hprimary (by simp [hallowed])

/-! ## The decision of the round -/

variable {lane : ForcedLane} {rescue : Option RescueDecision}

theorem accepted_iff {made : Except String SearchControllerDecision} :
    Accepted tables frame inputs
      (made.map fun search => ⟨.search search, rescue, retrieval⟩) ↔
    ∃ search, made = .ok search ∧ Planned tables frame inputs retrieval search := by
  constructor
  · intro h
    obtain ⟨resolution, search, hmade, hsearch, hplanned⟩ := h
    obtain ⟨made', hmade', rfl⟩ := map_eq_ok hmade
    obtain rfl := ControllerDecision.search.inj hsearch
    exact ⟨made', hmade', hplanned⟩
  · intro h
    obtain ⟨search, rfl, hplanned⟩ := h
    exact ⟨_, search, rfl, rfl, hplanned⟩

theorem continuedLane_spec (tables : Py.UnicodeTables) (retrieval : RetrievalState)
    (h : continuedLane inputs decision = some lane) :
    lane = .continueSearch ∧ sanitizeOrContinue tables inputs retrieval decision =
      (forceContinueDecision tables inputs retrieval).map .search := by
  unfold continuedLane at h
  split at h
  · cases h
  · rename_i stop
    split at h
    · cases h
    · rename_i hgo
      rw [not_or] at hgo
      refine ⟨(Option.some.inj h).symm, ?_⟩
      have hsanitize : ∃ stop', sanitizeControllerDecision tables inputs retrieval (.stop stop) =
          .ok (.stop stop') := by
        unfold sanitizeControllerDecision
        dsimp only
        exact ⟨_, if_neg hgo.1⟩
      obtain ⟨stop', hstop'⟩ := hsanitize
      unfold sanitizeOrContinue
      rw [hstop']
      show (if inputs.stopGuidance.canStop = true then _ else _) = _
      rw [if_neg hgo.2]
      cases forceContinueDecision tables inputs retrieval with
      | error message => rfl
      | ok search => rfl

theorem takeController_accepted_iff (retrieval : RetrievalState)
    (hpool : TermPoolOk tables retrieval.queryTermPool)
    (hlane : continuedLane inputs decision = some lane) :
    Accepted tables frame inputs (takeController tables inputs retrieval rescue decision) ↔
    (forcedRationale tables inputs retrieval lane).length ≤ decisionRationaleMaxChars ∧
      ¬(lane = .continueSearch ∧ inputs.roundNo = 1 ∧
        AnchorsShareFamily tables retrieval.queryTermPool) := by
  obtain ⟨rfl, hmade⟩ := continuedLane_spec tables retrieval hlane
  have hsame : takeController tables inputs retrieval rescue decision =
      (forceContinueDecision tables inputs retrieval).map fun search =>
        ⟨.search search, rescue, retrieval⟩ := by
    unfold takeController
    rw [hmade]
    cases forceContinueDecision tables inputs retrieval with
    | error message => rfl
    | ok search => rfl
  rw [hsame, accepted_iff, forceContinue_planned_iff hpool]
  simp [forcedRationale]

theorem takeAnchorOnly_accepted_iff (retrieval : RetrievalState) {rescue : RescueDecision}
    (hpool : TermPoolOk tables retrieval.queryTermPool) :
    Accepted tables frame inputs (takeAnchorOnly tables inputs retrieval rescue) ↔
    (forcedRationale tables inputs retrieval .anchorOnly).length ≤ decisionRationaleMaxChars := by
  have hsame : takeAnchorOnly tables inputs retrieval rescue =
      (forceAnchorOnlyDecision tables inputs retrieval.attemptAnchorOnly).map fun search =>
        ⟨.search search, some rescue, retrieval.attemptAnchorOnly⟩ := by
    unfold takeAnchorOnly
    dsimp only
    cases forceAnchorOnlyDecision tables inputs retrieval.attemptAnchorOnly with
    | error message => rfl
    | ok search => rfl
  rw [hsame, accepted_iff]
  exact forceAnchorOnly_planned_iff hpool rfl

theorem takeReserve_accepted_iff (retrieval : RetrievalState) {rescue : RescueDecision}
    (hpool : TermPoolOk tables retrieval.queryTermPool)
    (hreserve : (untriedAdmittedNonAnchorReserve tables retrieval).isSome) :
    Accepted tables frame inputs (takeReserve tables inputs retrieval rescue) ↔
    (forcedRationale tables inputs retrieval .reserveBroaden).length ≤
      decisionRationaleMaxChars := by
  obtain ⟨reserve, hreserve⟩ := Option.isSome_iff_exists.mp hreserve
  unfold forcedRationale
  rw [hreserve]
  refine Iff.trans ?_ (forceBroaden_planned_iff frame hpool hreserve)
  constructor
  · intro h
    obtain ⟨resolution, search, hmade, hsearch, hplanned⟩ := h
    obtain ⟨⟨made, after⟩, hforced, hreturn⟩ := bind_eq_ok hmade
    obtain rfl := Except.ok.inj hreturn
    obtain rfl := ControllerDecision.search.inj hsearch
    exact ⟨made, after, hforced, hplanned⟩
  · intro h
    obtain ⟨search, after, hforced, hplanned⟩ := h
    unfold takeReserve
    rw [hforced]
    exact ⟨_, search, rfl, rfl, hplanned⟩

theorem takeFeedback_accepted_iff (retrieval : RetrievalState) {rescue : RescueDecision}
    (hpool : TermPoolOk tables retrieval.queryTermPool)
    (haccepted : (feedbackDecision tables inputs retrieval).acceptedTerm.isSome) :
    Accepted tables frame inputs (takeFeedback tables inputs retrieval rescue decision) ↔
    (forcedRationale tables inputs retrieval .candidateFeedback).length ≤
      decisionRationaleMaxChars := by
  obtain ⟨accepted, haccepted⟩ := Option.isSome_iff_exists.mp haccepted
  unfold forcedRationale
  rw [haccepted]
  refine Iff.trans ?_ (forceFeedback_planned_iff frame hpool haccepted)
  have hforced := forceCandidateFeedbackDecision_eq haccepted
  constructor
  · intro h
    obtain ⟨resolution, search, hmade, hsearch, hplanned⟩ := h
    obtain ⟨⟨made, after⟩, hstep, hreturn⟩ := bind_eq_ok hmade
    obtain ⟨search', -, heq⟩ := map_eq_ok (hforced ▸ hstep)
    obtain ⟨rfl, rfl⟩ := Prod.mk.inj heq
    obtain rfl := Except.ok.inj hreturn
    obtain rfl := ControllerDecision.search.inj hsearch
    exact ⟨_, _, hstep, hplanned⟩
  · intro h
    obtain ⟨search, after, hmade, hplanned⟩ := h
    unfold takeFeedback
    rw [hmade]
    exact ⟨_, search, rfl, rfl, hplanned⟩

theorem continueAfterEmptyFeedback_lane {rescue : RescueDecision} :
    (continueAfterEmptyFeedback retrieval rescue).selectedLane =
      if retrieval.anchorOnlyBroadenAttempted then .allowStop else .anchorOnly := by
  unfold continueAfterEmptyFeedback
  split <;> rfl

theorem takeFeedback_of_none (rescue : RescueDecision) (decision : ControllerDecision)
    (hnone : (feedbackDecision tables inputs retrieval).acceptedTerm = none) :
    ∃ after rescue', (∃ lane, after = retrieval.attemptFeedback.correctLane lane) ∧
      rescue'.selectedLane =
        (if retrieval.anchorOnlyBroadenAttempted then .allowStop else .anchorOnly) ∧
      takeFeedback tables inputs retrieval rescue decision =
        if retrieval.anchorOnlyBroadenAttempted then
          takeController tables inputs after (some rescue') decision
        else takeAnchorOnly tables inputs after rescue' := by
  have hforced : forceCandidateFeedbackDecision tables inputs retrieval =
      .ok (none, retrieval.attemptFeedback) := by
    unfold forceCandidateFeedbackDecision
    dsimp only
    rw [hnone]
  have hlane : (continueAfterEmptyFeedback retrieval.attemptFeedback rescue).selectedLane =
      if retrieval.anchorOnlyBroadenAttempted then .allowStop else .anchorOnly :=
    continueAfterEmptyFeedback_lane
  refine ⟨retrieval.attemptFeedback.correctLane
    (continueAfterEmptyFeedback retrieval.attemptFeedback rescue).selectedLane, _, ⟨_, rfl⟩,
    hlane, ?_⟩
  unfold takeFeedback
  rw [hforced]
  show (if (continueAfterEmptyFeedback retrieval.attemptFeedback rescue).selectedLane = .anchorOnly
    then _ else _) = _
  cases hattempted : retrieval.anchorOnlyBroadenAttempted with
  | true =>
    rw [hattempted] at hlane
    rw [if_neg (by simp [hlane]), if_pos rfl]
  | false =>
    rw [hattempted] at hlane
    rw [if_pos (by simp [hlane]), if_neg Bool.false_ne_true]

end Forced

/-- **Forced decisions.** In every state of a run in which the runtime decides in the
    controller's place, the decision is made and accepted if and only if its rationale is not
    too long, and it is not the first round's search with two title anchors of one family. -/
theorem forcedDecision_accepted_iff (tables : Py.UnicodeTables) (frame : PlanFrame)
    (inputs : RoundInputs) (retrieval : RetrievalState) (decision : ControllerDecision)
    (lane : ForcedLane) (hreachable : ReachablePool tables retrieval.queryTermPool)
    (hlane : forcedLane tables inputs retrieval decision = some lane) :
    Accepted tables frame inputs (resolveRoundDecision tables inputs retrieval decision) ↔
      (forcedRationale tables inputs retrieval lane).length ≤ decisionRationaleMaxChars ∧
      ¬(lane = .continueSearch ∧ inputs.roundNo = 1 ∧
        AnchorsShareFamily tables retrieval.queryTermPool) := by
  have hpool := hreachable.termPoolOk
  unfold forcedLane at hlane
  unfold resolveRoundDecision
  by_cases hrescue : needsRescue inputs.stopGuidance.qualityGateStatus = true
  · rw [if_neg (not_not.mpr hrescue)] at hlane
    rw [if_pos hrescue]
    have hselected := selectedLane_eq (untriedAdmittedNonAnchorReserve tables retrieval).isSome
      (2 ≤ (feedbackSeeds inputs).length) inputs.candidateFeedbackEnabled
      retrieval.candidateFeedbackAttempted retrieval.anchorOnlyBroadenAttempted hrescue
    unfold chooseRescueDecision at hlane ⊢
    dsimp only at hlane ⊢
    generalize chooseRescueLane inputs.stopGuidance
      (untriedAdmittedNonAnchorReserve tables retrieval).isSome
      (decide (2 ≤ (feedbackSeeds inputs).length)) inputs.candidateFeedbackEnabled
      retrieval.candidateFeedbackAttempted retrieval.anchorOnlyBroadenAttempted = rescue
      at hlane hselected ⊢
    cases hchosen : rescue.selectedLane with
    | reserveBroaden =>
      rw [hchosen] at hlane hselected
      obtain rfl := Option.some.inj hlane
      have hreserve : (untriedAdmittedNonAnchorReserve tables retrieval).isSome = true := by
        by_contra hno
        rw [if_neg hno] at hselected
        split at hselected
        · cases hselected
        · split at hselected <;> cases hselected
      exact (takeReserve_accepted_iff (retrieval.noteLane ..) hpool hreserve).trans
        (by simp; rfl)
    | candidateFeedback =>
      rw [hchosen] at hlane
      cases haccepted : (feedbackDecision tables inputs retrieval).acceptedTerm with
      | some accepted =>
        rw [haccepted] at hlane
        obtain rfl := Option.some.inj hlane
        exact (takeFeedback_accepted_iff (retrieval.noteLane ..) hpool
          (Option.isSome_of_eq_some haccepted)).trans (by simp; rfl)
      | none =>
        rw [haccepted, Option.isSome_none, if_neg Bool.false_ne_true] at hlane
        obtain ⟨after, rescue', ⟨lane', hlane'⟩, -, htake⟩ := takeFeedback_of_none rescue decision
          (show (feedbackDecision tables inputs (retrieval.noteLane inputs.roundNo
            .candidateFeedback)).acceptedTerm = none from haccepted)
        have hafter : after.queryTermPool = retrieval.queryTermPool := by rw [hlane']; rfl
        have hnoted : (retrieval.noteLane inputs.roundNo
          .candidateFeedback).anchorOnlyBroadenAttempted = retrieval.anchorOnlyBroadenAttempted := rfl
        rw [hnoted] at htake
        show Accepted tables frame inputs (takeFeedback ..) ↔ _
        rw [htake]
        dsimp only at hlane
        by_cases hattempted : retrieval.anchorOnlyBroadenAttempted = true
        · rw [if_pos hattempted] at hlane
          obtain ⟨rfl, -⟩ := continuedLane_spec tables after hlane
          rw [if_pos hattempted,
            takeController_accepted_iff after (by rw [hafter]; exact hpool) hlane,
            hafter]
          rfl
        · rw [if_neg hattempted] at hlane
          obtain rfl := Option.some.inj hlane
          rw [if_neg hattempted, takeAnchorOnly_accepted_iff after (by rw [hafter]; exact hpool)]
          simp [forcedRationale]
    | anchorOnly =>
      rw [hchosen] at hlane
      obtain rfl := Option.some.inj hlane
      exact (takeAnchorOnly_accepted_iff (retrieval.noteLane ..) hpool).trans
        (by simp; rfl)
    | continueController =>
      rw [hchosen] at hlane
      exact takeController_accepted_iff (retrieval.noteLane ..) hpool hlane
    | allowStop =>
      rw [hchosen] at hlane
      exact takeController_accepted_iff (retrieval.noteLane ..) hpool hlane
  · rw [if_pos hrescue] at hlane
    rw [if_neg hrescue]
    exact takeController_accepted_iff retrieval hpool hlane

/-! ## Two title anchors of one family -/

def compiledPool (titles jdQueryTerms : List String) : List QueryTermCandidate :=
  (compileQueryTermPool .ascii
    { jobTitle := "", titleAnchorTerms := titles, jdQueryTerms, notesQueryTerms := [] }).toOption.getD
    []

theorem reachable_compiledPool (titles jdQueryTerms : List String)
    (h : compiledPool titles jdQueryTerms ≠ []) :
    ReachablePool .ascii (compiledPool titles jdQueryTerms) := by
  unfold compiledPool at h ⊢
  cases hcompiled : compileQueryTermPool .ascii
    { jobTitle := "", titleAnchorTerms := titles, jdQueryTerms, notesQueryTerms := [] } with
  | error message =>
    rw [hcompiled] at h
    exact absurd rfl h
  | ok pool => exact .compiled hcompiled

/-- The first round, before which nothing was searched and a stop is not allowed. -/
def firstRound : RoundInputs :=
  { runState := {}
    requirementSheet := { roleTitle := "Engineer" }
    stopGuidance := { canStop := false, reason := "0 retrieval rounds completed; min_rounds is 3." }
    roundNo := 1
    maxRounds := 10 }

def stopDecision : ControllerDecision :=
  .stop
    { thoughtSummary := "Stop.", decisionRationale := "Nothing to search.", stopReason := "done" }

def sampleFrame : PlanFrame :=
  { planVersion := 1, locationExecutionPlan := { mode := .none, targetNew := 10 }, targetNew := 10 }

theorem forcedDecision_accepted_first :
    Accepted .ascii sampleFrame firstRound (resolveRoundDecision .ascii firstRound
      { queryTermPool := compiledPool ["Rust"] ["Tokio", "Kafka"] } stopDecision) :=
  (forcedDecision_accepted_iff .ascii sampleFrame firstRound
    { queryTermPool := compiledPool ["Rust"] ["Tokio", "Kafka"] } stopDecision .continueSearch
    (reachable_compiledPool ["Rust"] ["Tokio", "Kafka"] (by decide))
    (by decide)).mpr
    ⟨by decide, by
      intro hbad
      obtain ⟨-, -, anchor, secondary, -, hsecondary, -⟩ := hbad
      have hnone : (activeSecondaryAnchors .ascii (compiledPool ["Rust"] ["Tokio", "Kafka"])) = [] := by
        decide
      rw [hnone] at hsecondary
      cases hsecondary⟩

/-- "C++" and "C#" are different titles of one family, and the forced search raises. -/
theorem sameFamilyAnchors_rejected :
    ReachablePool .ascii (compiledPool ["C++", "C#"] ["Qt", "CUDA"]) ∧
    forcedLane .ascii firstRound { queryTermPool := compiledPool ["C++", "C#"] ["Qt", "CUDA"] }
      stopDecision = some .continueSearch ∧
    resolveRoundDecision .ascii firstRound
      { queryTermPool := compiledPool ["C++", "C#"] ["Qt", "CUDA"] } stopDecision =
        .error "query terms must not repeat compiler families: role.c" := by
  refine ⟨reachable_compiledPool _ _ (by decide +kernel), by decide +kernel, ?_⟩
  decide +kernel

end SeekTalent

import SeekTalent.Retrieval.Coverage
import SeekTalent.Retrieval.RoundStart
import SeekTalent.Round.ForcedDecision

/-!
# The rescue ladder over the rounds of a run

What the ladder has tried is remembered in two places: the lanes of feedback and of the
anchor alone set a flag, a family held in reserve is known from the queries that were sent.
A run is followed from the compiled pool on, round by round. In every round the two flags
say how often their lanes were taken, and every family that was forced has been sent.
-/

namespace SeekTalent

open Stateful (bind_eq_ok map_eq_ok)

/-! ## 1. A round and the lanes it takes -/

structure LadderRound where
  inputs : RoundInputs
  controller : ControllerDecision
  before : RetrievalState

section Lanes

variable (tables : Py.UnicodeTables)

/-- The lanes a round takes, in order: from a feedback without a term it goes on. -/
def LadderRound.lanes (r : LadderRound) : List RescueLane :=
  if needsRescue r.inputs.stopGuidance.qualityGateStatus then
    let (rescue, retrieval) := chooseRescueDecision tables r.inputs r.before
    if rescue.selectedLane = .candidateFeedback ∧
        (feedbackDecision tables r.inputs retrieval).acceptedTerm = none then
      [.candidateFeedback,
        (continueAfterEmptyFeedback retrieval.attemptFeedback rescue).selectedLane]
    else [rescue.selectedLane]
  else []

/-- The family that `reserve_broaden` forces in the round. -/
def LadderRound.forcedFamily (r : LadderRound) : Option String :=
  if .reserveBroaden ∈ r.lanes tables then
    (untriedAdmittedNonAnchorReserve tables r.before).map (·.family)
  else none

def LadderRound.resolution (r : LadderRound) : Except String Resolution :=
  resolveRoundDecision tables r.inputs r.before r.controller

def FamilySent (retrieval : RetrievalState) (family : String) : Prop :=
  ∃ record ∈ retrieval.sentQueryHistory, ∃ term ∈ record.queryTerms,
    ∃ item ∈ retrieval.queryTermPool,
      queryTermKey tables item.term = queryTermKey tables term ∧ item.family = family

end Lanes

variable {tables : Py.UnicodeTables} {r : LadderRound} {pool pool' : List QueryTermCandidate}
variable {retrieval : RetrievalState} {inputs : RoundInputs} {resolution : Resolution}
variable {rescue : RescueDecision}

theorem LadderRound.lanes_of_not_needed (tables : Py.UnicodeTables) (r : LadderRound)
    (h : ¬needsRescue r.inputs.stopGuidance.qualityGateStatus = true) : r.lanes tables = [] :=
  if_neg h

theorem chosenLane_eq (tables : Py.UnicodeTables) (inputs : RoundInputs)
    (retrieval : RetrievalState) (h : needsRescue inputs.stopGuidance.qualityGateStatus = true) :
    (chooseRescueDecision tables inputs retrieval).1.selectedLane =
      if (untriedAdmittedNonAnchorReserve tables retrieval).isSome then .reserveBroaden
      else if inputs.candidateFeedbackEnabled ∧ ¬retrieval.candidateFeedbackAttempted ∧
        decide (2 ≤ (feedbackSeeds inputs).length) then .candidateFeedback
      else if ¬retrieval.anchorOnlyBroadenAttempted then .anchorOnly
      else .allowStop :=
  selectedLane_eq _ _ _ _ _ h

theorem LadderRound.lanes_eq (tables : Py.UnicodeTables) (r : LadderRound)
    (h : needsRescue r.inputs.stopGuidance.qualityGateStatus = true) :
    r.lanes tables = [(chooseRescueDecision tables r.inputs r.before).1.selectedLane] ∨
    ((chooseRescueDecision tables r.inputs r.before).1.selectedLane = .candidateFeedback ∧
      r.lanes tables = [.candidateFeedback,
        if r.before.anchorOnlyBroadenAttempted then .allowStop else .anchorOnly]) := by
  unfold LadderRound.lanes
  rw [if_pos h]
  dsimp only
  split
  · rename_i hempty
    refine .inr ⟨hempty.1, ?_⟩
    rw [continueAfterEmptyFeedback_lane]
    rfl
  · exact .inl rfl

structure LadderRound.Open (tables : Py.UnicodeTables) (r : LadderRound) : Prop where
  feedback : .candidateFeedback ∈ r.lanes tables → r.before.candidateFeedbackAttempted = false
  anchorOnly : .anchorOnly ∈ r.lanes tables → r.before.anchorOnlyBroadenAttempted = false
  reserve : .reserveBroaden ∈ r.lanes tables →
    ∃ item, untriedAdmittedNonAnchorReserve tables r.before = some item
  nodup : (r.lanes tables).Nodup

/-- **No round** takes a lane that is used up. -/
theorem LadderRound.lanes_open (tables : Py.UnicodeTables) (r : LadderRound) : r.Open tables := by
  by_cases hrescue : needsRescue r.inputs.stopGuidance.qualityGateStatus = true
  · have hchosen := chosenLane_eq tables r.inputs r.before hrescue
    rcases r.lanes_eq tables hrescue with hlanes | ⟨hfeedback, hlanes⟩
    · rw [hchosen] at hlanes
      split at hlanes
      · rename_i hreserve
        constructor <;> simp [hlanes, Option.isSome_iff_exists.mp hreserve]
      split at hlanes
      · rename_i hopen
        constructor <;> simp_all
      split at hlanes
      · rename_i hopen
        constructor <;> simp_all
      · constructor <;> simp [hlanes]
    · have hattempted : r.before.candidateFeedbackAttempted = false := by
        rw [hchosen] at hfeedback
        split at hfeedback
        · cases hfeedback
        split at hfeedback
        · rename_i hopen
          simpa using hopen.2.1
        split at hfeedback <;> cases hfeedback
      cases honly : r.before.anchorOnlyBroadenAttempted <;> rw [honly] at hlanes <;>
        constructor <;> simp [hlanes, hattempted, honly]
  · rw [Bool.not_eq_true] at hrescue
    have hlanes := r.lanes_of_not_needed tables (by simp [hrescue])
    constructor <;> simp [hlanes]

/-! ## 2. What a decision does -/

structure PoolGrows (tables : Py.UnicodeTables) (pool pool' : List QueryTermCandidate) : Prop where
  reachable : ReachablePool tables pool → ReachablePool tables pool'
  kept : ∀ item ∈ pool, ∃ item' ∈ pool', item'.term = item.term ∧ item'.family = item.family

theorem PoolGrows.refl (pool : List QueryTermCandidate) : PoolGrows tables pool pool :=
  ⟨id, fun item hitem => ⟨item, hitem, rfl, rfl⟩⟩

theorem PoolGrows.activate (term : String) :
    PoolGrows tables pool (activateQueryTerm tables pool term) := by
  refine ⟨.activated term, fun item hitem => ?_⟩
  rw [activateQueryTerm_eq]
  exact ⟨_, List.mem_map_of_mem hitem, by simp, by simp⟩

theorem PoolGrows.learn {accepted : QueryTermCandidate}
    (h : (feedbackDecision tables inputs retrieval).acceptedTerm = some accepted) :
    PoolGrows tables retrieval.queryTermPool (retrieval.queryTermPool ++ [accepted]) :=
  ⟨fun hpool => .learned hpool h, fun item hitem => ⟨item, List.mem_append_left _ hitem, rfl, rfl⟩⟩

structure ForcesReserve (tables : Py.UnicodeTables) (pool : List QueryTermCandidate)
    (reserve : QueryTermCandidate) (resolution : Resolution) : Prop where
  pool_eq : resolution.retrieval.queryTermPool = activateQueryTerm tables pool reserve.term
  decision_eq : ∃ anchor search, activeAdmittedAnchor tables pool = .ok anchor ∧
    resolution.decision = .search search ∧
    search.proposedQueryTerms = [anchor.term, reserve.term]

structure LadderRound.Effect (tables : Py.UnicodeTables) (r : LadderRound)
    (resolution : Resolution) : Prop where
  history : resolution.retrieval.sentQueryHistory = r.before.sentQueryHistory
  pool : PoolGrows tables r.before.queryTermPool resolution.retrieval.queryTermPool
  feedback : resolution.retrieval.candidateFeedbackAttempted =
    (r.before.candidateFeedbackAttempted || decide (.candidateFeedback ∈ r.lanes tables))
  anchorOnly : resolution.retrieval.anchorOnlyBroadenAttempted =
    (r.before.anchorOnlyBroadenAttempted || decide (.anchorOnly ∈ r.lanes tables))
  reserve : .reserveBroaden ∈ r.lanes tables → ∀ reserve,
    untriedAdmittedNonAnchorReserve tables r.before = some reserve →
      ForcesReserve tables r.before.queryTermPool reserve resolution
  stop : ∀ stop, resolution.decision = .stop stop → r.inputs.stopGuidance.canStop = true
  /-- the lane that is reported is the last one -/
  rescue : resolution.rescueDecision.map (·.selectedLane) = (r.lanes tables).getLast?

theorem validate_eq {decision search : SearchControllerDecision}
    (h : decision.validate = .ok search) : search = decision := by
  unfold SearchControllerDecision.validate at h
  dsimp only at h
  -- first on whether there is a response, then on whether there are errors
  split at h
  all_goals
    split at h
    · exact (Except.ok.inj h).symm
    · cases h

theorem takeReserve_ok {reserve : QueryTermCandidate}
    (hreserve : untriedAdmittedNonAnchorReserve tables retrieval = some reserve)
    (h : takeReserve tables inputs retrieval rescue = .ok resolution) :
    resolution.rescueDecision = some rescue ∧
      resolution.retrieval = retrieval.activate tables reserve.term ∧
      ForcesReserve tables retrieval.queryTermPool reserve resolution := by
  obtain ⟨⟨search, after⟩, hforced, hreturn⟩ := bind_eq_ok h
  obtain rfl := Except.ok.inj hreturn
  have hanchor : ∃ anchor, activeAdmittedAnchor tables retrieval.queryTermPool = .ok anchor := by
    obtain ⟨anchor, hanchor, -⟩ := bind_eq_ok hforced
    exact ⟨anchor, hanchor⟩
  obtain ⟨anchor, hanchor⟩ := hanchor
  rw [forceBroadenDecision_eq hanchor hreserve] at hforced
  obtain ⟨made, hmade, heq⟩ := map_eq_ok hforced
  obtain ⟨rfl, rfl⟩ := Prod.mk.inj heq
  obtain rfl := validate_eq hmade
  exact ⟨rfl, rfl, rfl, anchor, _, hanchor, rfl, rfl⟩

theorem takeAnchorOnly_ok (h : takeAnchorOnly tables inputs retrieval rescue = .ok resolution) :
    resolution.rescueDecision = some rescue ∧
      resolution.retrieval = retrieval.attemptAnchorOnly ∧
      ∃ search, resolution.decision = .search search := by
  obtain ⟨search, -, hreturn⟩ := bind_eq_ok h
  obtain rfl := Except.ok.inj hreturn
  exact ⟨rfl, rfl, search, rfl⟩

theorem takeController_ok {rescue : Option RescueDecision} {decision : ControllerDecision}
    (h : takeController tables inputs retrieval rescue decision = .ok resolution) :
    resolution.rescueDecision = rescue ∧ resolution.retrieval = retrieval ∧
      ∀ stop, resolution.decision = .stop stop → inputs.stopGuidance.canStop = true := by
  obtain ⟨made, hmade, hreturn⟩ := bind_eq_ok h
  obtain rfl := Except.ok.inj hreturn
  refine ⟨rfl, rfl, fun stop hstop => ?_⟩
  have hstop : made = .stop stop := hstop
  obtain ⟨sanitized, -, hrest⟩ := bind_eq_ok hmade
  cases sanitized with
  | search search =>
    obtain rfl := Except.ok.inj hrest
    cases hstop
  | stop sanitized =>
    by_contra hno
    dsimp only at hrest
    rw [if_neg hno] at hrest
    obtain ⟨forced, -, hforced⟩ := bind_eq_ok hrest
    obtain rfl := Except.ok.inj hforced
    cases hstop

theorem takeFeedback_ok {decision : ControllerDecision} {accepted : QueryTermCandidate}
    (haccepted : (feedbackDecision tables inputs retrieval).acceptedTerm = some accepted)
    (h : takeFeedback tables inputs retrieval rescue decision = .ok resolution) :
    resolution.rescueDecision = some rescue ∧
      resolution.retrieval = retrieval.attemptFeedback.learn accepted ∧
      ∃ search, resolution.decision = .search search := by
  obtain ⟨⟨made, after⟩, hforced, hreturn⟩ := bind_eq_ok h
  rw [forceCandidateFeedbackDecision_eq haccepted] at hforced
  obtain ⟨search, -, heq⟩ := map_eq_ok hforced
  obtain ⟨rfl, rfl⟩ := Prod.mk.inj heq
  obtain rfl := Except.ok.inj hreturn
  exact ⟨rfl, rfl, search, rfl⟩

theorem feedbackDecision_noteLane (roundNo : Int) (lane : RescueLane) :
    feedbackDecision tables inputs (retrieval.noteLane roundNo lane) =
      feedbackDecision tables inputs retrieval := rfl

theorem reserve_noteLane (roundNo : Int) (lane : RescueLane) :
    untriedAdmittedNonAnchorReserve tables (retrieval.noteLane roundNo lane) =
      untriedAdmittedNonAnchorReserve tables retrieval := rfl

theorem LadderRound.lanes_chosen {lane : RescueLane}
    (hrescue : needsRescue r.inputs.stopGuidance.qualityGateStatus = true)
    (hchosen : (chooseRescueDecision tables r.inputs r.before).1.selectedLane = lane)
    (hlane : lane = .candidateFeedback →
      (feedbackDecision tables r.inputs r.before).acceptedTerm ≠ none) :
    r.lanes tables = [lane] := by
  unfold LadderRound.lanes
  rw [if_pos hrescue]
  dsimp only
  rw [hchosen, if_neg]
  intro hempty
  exact hlane hempty.1 hempty.2

theorem LadderRound.lanes_empty_feedback
    (hrescue : needsRescue r.inputs.stopGuidance.qualityGateStatus = true)
    (hchosen : (chooseRescueDecision tables r.inputs r.before).1.selectedLane = .candidateFeedback)
    (hnone : (feedbackDecision tables r.inputs r.before).acceptedTerm = none) :
    r.lanes tables = [.candidateFeedback,
      if r.before.anchorOnlyBroadenAttempted then .allowStop else .anchorOnly] := by
  unfold LadderRound.lanes
  rw [if_pos hrescue]
  dsimp only
  rw [if_pos ⟨hchosen, hnone⟩, continueAfterEmptyFeedback_lane]
  rfl

section Effects

variable {roundNo : Int} {lane : RescueLane}

theorem LadderRound.effect_reserve (hlanes : r.lanes tables = [.reserveBroaden])
    (hrescue : rescue.selectedLane = .reserveBroaden)
    (h : takeReserve tables r.inputs (r.before.noteLane roundNo lane) rescue = .ok resolution) :
    r.Effect tables resolution := by
  obtain ⟨reserve, hreserve⟩ := (r.lanes_open tables).reserve (by simp [hlanes])
  obtain ⟨hreported, hretrieval, hforces⟩ := takeReserve_ok (by rwa [reserve_noteLane]) h
  have hsearch : ∃ search, resolution.decision = .search search := by
    obtain ⟨-, search, -, hsearch, -⟩ := hforces.decision_eq
    exact ⟨search, hsearch⟩
  obtain ⟨search, hsearch⟩ := hsearch
  constructor
  · rw [hretrieval]
    rfl
  · rw [hretrieval]
    exact .activate reserve.term
  · rw [hretrieval, hlanes]
    simp [RetrievalState.activate, RetrievalState.noteLane]
  · rw [hretrieval, hlanes]
    simp [RetrievalState.activate, RetrievalState.noteLane]
  · intro _ other hother
    obtain rfl := Option.some.inj (hreserve.symm.trans hother)
    exact hforces
  · intro stop hstop
    rw [hsearch] at hstop
    cases hstop
  · simp [hreported, hlanes, hrescue]

theorem LadderRound.effect_feedback {accepted : QueryTermCandidate} {decision : ControllerDecision}
    (hlanes : r.lanes tables = [.candidateFeedback])
    (hrescue : rescue.selectedLane = .candidateFeedback)
    (haccepted : (feedbackDecision tables r.inputs r.before).acceptedTerm = some accepted)
    (h : takeFeedback tables r.inputs (r.before.noteLane roundNo lane) rescue decision =
      .ok resolution) : r.Effect tables resolution := by
  obtain ⟨hreported, hretrieval, search, hsearch⟩ :=
    takeFeedback_ok (by rwa [feedbackDecision_noteLane]) h
  constructor
  · rw [hretrieval]
    rfl
  · rw [hretrieval]
    exact .learn haccepted
  · rw [hretrieval, hlanes]
    simp [RetrievalState.learn, RetrievalState.attemptFeedback]
  · rw [hretrieval, hlanes]
    simp [RetrievalState.learn, RetrievalState.attemptFeedback, RetrievalState.noteLane]
  · simp [hlanes]
  · intro stop hstop
    rw [hsearch] at hstop
    cases hstop
  · simp [hreported, hlanes, hrescue]

/-- A state in which a lane is taken that makes no use of the pool: what it was before, or
    that feedback has been attempted. -/
structure LadderRound.Tries (r : LadderRound) (feedback : Bool) (retrieval : RetrievalState) :
    Prop where
  history : retrieval.sentQueryHistory = r.before.sentQueryHistory
  pool : retrieval.queryTermPool = r.before.queryTermPool
  feedback : retrieval.candidateFeedbackAttempted =
    (r.before.candidateFeedbackAttempted || feedback)
  anchorOnly : retrieval.anchorOnlyBroadenAttempted = r.before.anchorOnlyBroadenAttempted

theorem LadderRound.effect_anchorOnly (htries : r.Tries (.candidateFeedback ∈ r.lanes tables) retrieval)
    (hrescue : some rescue.selectedLane = (r.lanes tables).getLast?)
    (hanchor : .anchorOnly ∈ r.lanes tables) (hreserve : .reserveBroaden ∉ r.lanes tables)
    (h : takeAnchorOnly tables r.inputs retrieval rescue = .ok resolution) :
    r.Effect tables resolution := by
  obtain ⟨hreported, hretrieval, search, hsearch⟩ := takeAnchorOnly_ok h
  constructor
  · rw [hretrieval]
    exact htries.history
  · rw [hretrieval, attemptAnchorOnly_queryTermPool, htries.pool]
    exact .refl _
  · rw [hretrieval]
    exact htries.feedback
  · rw [hretrieval]
    simp [RetrievalState.attemptAnchorOnly, hanchor]
  · exact fun hin => absurd hin hreserve
  · intro stop hstop
    rw [hsearch] at hstop
    cases hstop
  · rw [hreported, ← hrescue]
    rfl

theorem LadderRound.effect_controller {rescue : Option RescueDecision}
    (htries : r.Tries (.candidateFeedback ∈ r.lanes tables) retrieval)
    (hrescue : rescue.map (·.selectedLane) = (r.lanes tables).getLast?)
    (hanchor : .anchorOnly ∉ r.lanes tables) (hreserve : .reserveBroaden ∉ r.lanes tables)
    (h : takeController tables r.inputs retrieval rescue r.controller = .ok resolution) :
    r.Effect tables resolution := by
  obtain ⟨hreported, hretrieval, hstop⟩ := takeController_ok h
  refine ⟨?_, ?_, ?_, ?_, fun hin => absurd hin hreserve, hstop, by rw [hreported, hrescue]⟩
  · rw [hretrieval]
    exact htries.history
  · rw [hretrieval, htries.pool]
    exact .refl _
  · rw [hretrieval]
    exact htries.feedback
  · rw [hretrieval, htries.anchorOnly]
    simp [hanchor]

theorem LadderRound.tries_noteLane (r : LadderRound) :
    r.Tries false (r.before.noteLane roundNo lane) :=
  ⟨rfl, rfl, by simp [RetrievalState.noteLane], rfl⟩

/-- **What a decision that was made has done.** -/
theorem LadderRound.effect (h : r.resolution tables = .ok resolution) :
    r.Effect tables resolution := by
  unfold LadderRound.resolution resolveRoundDecision at h
  by_cases hrescue : needsRescue r.inputs.stopGuidance.qualityGateStatus = true
  · rw [if_pos hrescue] at h
    have hnoted : (chooseRescueDecision tables r.inputs r.before).2 =
        r.before.noteLane r.inputs.roundNo
          (chooseRescueDecision tables r.inputs r.before).1.selectedLane := rfl
    dsimp only at h
    rw [hnoted] at h
    cases hchosen : (chooseRescueDecision tables r.inputs r.before).1.selectedLane with
    | reserveBroaden =>
      rw [hchosen] at h
      exact LadderRound.effect_reserve (LadderRound.lanes_chosen hrescue hchosen nofun) hchosen h
    | candidateFeedback =>
      rw [hchosen] at h
      cases haccepted : (feedbackDecision tables r.inputs r.before).acceptedTerm with
      | some accepted =>
        have hlanes := LadderRound.lanes_chosen hrescue hchosen fun _ => by simp [haccepted]
        exact LadderRound.effect_feedback hlanes hchosen haccepted h
      | none =>
        have hlanes := LadderRound.lanes_empty_feedback hrescue hchosen haccepted
        obtain ⟨after, rescue', ⟨lane, hafter⟩, hrescue', htake⟩ := takeFeedback_of_none
          (chooseRescueDecision tables r.inputs r.before).1 r.controller
          (by rwa [feedbackDecision_noteLane] : (feedbackDecision tables r.inputs
            (r.before.noteLane r.inputs.roundNo .candidateFeedback)).acceptedTerm = none)
        rw [noteLane_anchorOnlyBroadenAttempted] at hrescue' htake
        dsimp only at h
        rw [htake, hafter] at h
        have htries : r.Tries (.candidateFeedback ∈ r.lanes tables)
            ((r.before.noteLane r.inputs.roundNo
              .candidateFeedback).attemptFeedback.correctLane lane) := by
          refine ⟨rfl, rfl, ?_, rfl⟩
          simp [hlanes, RetrievalState.correctLane, RetrievalState.attemptFeedback]
        cases hattempted : r.before.anchorOnlyBroadenAttempted with
        | true =>
          rw [hattempted] at hlanes hrescue'
          have h := (if_pos hattempted).symm.trans h
          exact LadderRound.effect_controller htries (by simp [hlanes, hrescue'])
            (by simp [hlanes]) (by simp [hlanes]) h
        | false =>
          rw [hattempted] at hlanes hrescue'
          have h := (if_neg (by simp [hattempted])).symm.trans h
          exact LadderRound.effect_anchorOnly htries (by simp [hlanes, hrescue'])
            (by simp [hlanes]) (by simp [hlanes]) h
    | anchorOnly =>
      have hlanes := LadderRound.lanes_chosen hrescue hchosen nofun
      rw [hchosen] at h
      have htries : r.Tries (.candidateFeedback ∈ r.lanes tables)
          (r.before.noteLane r.inputs.roundNo .anchorOnly) := by
        simpa [hlanes] using r.tries_noteLane
      exact LadderRound.effect_anchorOnly htries (by simp [hlanes, hchosen]) (by simp [hlanes])
        (by simp [hlanes]) h
    | continueController =>
      have hlanes := LadderRound.lanes_chosen hrescue hchosen nofun
      rw [hchosen] at h
      have htries : r.Tries (.candidateFeedback ∈ r.lanes tables)
          (r.before.noteLane r.inputs.roundNo .continueController) := by
        simpa [hlanes] using r.tries_noteLane
      exact LadderRound.effect_controller htries (by simp [hlanes, hchosen]) (by simp [hlanes])
        (by simp [hlanes]) h
    | allowStop =>
      have hlanes := LadderRound.lanes_chosen hrescue hchosen nofun
      rw [hchosen] at h
      have htries : r.Tries (.candidateFeedback ∈ r.lanes tables)
          (r.before.noteLane r.inputs.roundNo .allowStop) := by
        simpa [hlanes] using r.tries_noteLane
      exact LadderRound.effect_controller htries (by simp [hlanes, hchosen]) (by simp [hlanes])
        (by simp [hlanes]) h
  · have hlanes := r.lanes_of_not_needed tables hrescue
    rw [if_neg hrescue] at h
    refine LadderRound.effect_controller ?_ (by simp [hlanes]) (by simp [hlanes])
      (by simp [hlanes]) h
    exact ⟨rfl, rfl, by simp [hlanes], rfl⟩

end Effects

/-! ## 3. What a round sends -/

/-- The ids of a logical query, which are hashes of what it is made of. -/
structure QueryNames where
  instanceId : LaneType → List String → String
  fingerprint : LaneType → List String → String

def buildLogicalQueryState (names : QueryNames) (laneType : LaneType) (queryTerms : List String) :
    LogicalQuery :=
  { queryRole := if laneType ≠ .exploit then .explore else .exploit
    laneType
    queryTerms
    keywordQuery := serializeKeywordQuery queryTerms
    queryInstanceId := names.instanceId laneType queryTerms
    queryFingerprint := names.fingerprint laneType queryTerms }

def selectPrfAnchor (plan : RoundRetrievalPlan) : Except String String :=
  match (plan.roleAnchorTerms ++ plan.mustHaveAnchorTerms ++ plan.queryTerms).find?
      (Py.strip · ≠ "") with
  | some term => .ok term
  | none => .error "PRF second lane requires at least one anchor term."

/-- `build_second_lane_decision`, of which the query is kept. It is given the expression that
    the feedback policy accepted, if there is one, and the terms to explore. -/
def buildSecondLane (names : QueryNames) (plan : RoundRetrievalPlan)
    (acceptedExpression : Option String) (exploreTerms : List String) :
    Except String (Option LogicalQuery) :=
  if plan.roundNo = 1 ∨ plan.queryTerms.length ≤ 1 then .ok none
  else match acceptedExpression with
    | some expression => do
      let anchor ← selectPrfAnchor plan
      return some (buildLogicalQueryState names .prfProbe [anchor, expression])
    | none =>
      if exploreTerms = [] then .ok none
      else .ok (some (buildLogicalQueryState names .genericExplore exploreTerms))

def buildRoundQueryBundle (names : QueryNames) (plan : RoundRetrievalPlan)
    (acceptedExpression : Option String) (exploreTerms : List String) :
    Except String (List LogicalQuery) := do
  let secondLane ← buildSecondLane names plan acceptedExpression exploreTerms
  return buildLogicalQueryState names .exploit plan.queryTerms :: secondLane.toList

/-- `sent_query_history.extend(…)` -/
def RetrievalState.send (retrieval : RetrievalState) (records : List SentQueryRecord) :
    RetrievalState :=
  { retrieval with sentQueryHistory := retrieval.sentQueryHistory ++ records }

theorem hasCity_buildLocationExecutionPlan {F : Type} {c : RoundCall F}
    {allowed preferred : List String} {roundNo : Nat} {n : Int}
    (h : c.plan = buildLocationExecutionPlan allowed preferred roundNo n) :
    c.HasCity 0 c.initial := by
  have hactive : ∀ city, city ∈ c.plan.balancedOrder → city ∈ c.plan.allowedLocations →
      c.plan.mode ≠ .none → c.activeCities c.initial 0 ≠ [] := by
    intro city horder hallowed hmode
    apply List.ne_nil_of_mem (a := city)
    simp [RoundCall.activeCities, RoundCall.initial, horder, hallowed, hmode]
  unfold RoundCall.HasCity
  cases allowed with
  | nil => simp [h, buildLocationExecutionPlan]
  | cons city rest =>
    cases rest with
    | nil => simp [h, buildLocationExecutionPlan]
    | cons other rest =>
      unfold buildLocationExecutionPlan at h
      dsimp only at h
      split at h
      · rename_i hpreferred
        rw [h]
        exact hpreferred
      · rw [h]
        show c.activeCities c.initial 0 ≠ []
        have hrotated : city ∈ rotateLocations (city :: other :: rest)
            (rotationOffset roundNo (city :: other :: rest).length) := by
          rw [mem_rotateLocations]
          exact List.mem_cons_self ..
        apply hactive city
        · rw [h]
          exact hrotated
        · simp [h]
        · simp [h]

section Send

variable {F : Type} [PyFloat F] {names : QueryNames} {plan : RoundRetrievalPlan}
variable {queries : List LogicalQuery} {accepted : Option String} {exploreTerms : List String}

theorem buildRoundQueryBundle_ok
    (h : buildRoundQueryBundle names plan accepted exploreTerms = .ok queries) :
    queries = [buildLogicalQueryState names .exploit plan.queryTerms] ∨
      ∃ second, second.laneType ≠ .exploit ∧
        queries = [buildLogicalQueryState names .exploit plan.queryTerms, second] := by
  obtain ⟨secondLane, hsecond, hreturn⟩ := bind_eq_ok h
  obtain rfl := Except.ok.inj hreturn
  unfold buildSecondLane at hsecond
  split at hsecond
  · obtain rfl := Except.ok.inj hsecond
    exact .inl rfl
  split at hsecond
  · obtain ⟨anchor, -, hmade⟩ := bind_eq_ok hsecond
    obtain rfl := Except.ok.inj hmade
    exact .inr ⟨_, by simp [buildLogicalQueryState], rfl⟩
  split at hsecond
  · obtain rfl := Except.ok.inj hsecond
    exact .inl rfl
  · obtain rfl := Except.ok.inj hsecond
    exact .inr ⟨_, by simp [buildLogicalQueryState], rfl⟩

theorem exploit_target_pos {laneOrder : List LaneType → List LaneType}
    (horder : ∀ l x, x ∈ laneOrder l ↔ x ∈ l) {n : Int} (hn : 0 < n)
    (h : buildRoundQueryBundle names plan accepted exploreTerms = .ok queries) :
    0 < allocateInitialLaneTargets F laneOrder queries n .exploit := by
  rcases buildRoundQueryBundle_ok h with rfl | ⟨second, hsecond, rfl⟩
  · simpa [allocateInitialLaneTargets, buildLogicalQueryState] using hn
  · unfold allocateInitialLaneTargets
    dsimp only
    generalize htypes : (List.map (·.laneType)
      [buildLogicalQueryState names .exploit plan.queryTerms, second]).dedup = laneTypes
    have hexploit : LaneType.exploit ∈ laneTypes := by
      rw [← htypes, List.mem_dedup]
      simp [buildLogicalQueryState]
    have hother : ((laneOrder laneTypes).find? (· ≠ .exploit)).getD .exploit ≠ .exploit := by
      have hmem : second.laneType ∈ laneOrder laneTypes := by
        rw [horder, ← htypes, List.mem_dedup]
        simp
      cases hfind : (laneOrder laneTypes).find? (· ≠ .exploit) with
      | none => simpa [hsecond] using List.find?_eq_none.mp hfind _ hmem
      | some other => simpa using List.find?_some hfind
    rw [if_neg (not_not.mpr hexploit)]
    generalize ((laneOrder laneTypes).find? (· ≠ .exploit)).getD .exploit = other at hother
    have hupdate : ∀ x y : Int, laneTargets .exploit x other y .exploit = x := by
      intro x y
      simp [laneTargets, Function.update_of_ne hother.symm]
    split
    · rw [hupdate]
      omega
    · rw [hupdate]
      split <;> omega

end Send

/-! ## 4. The rounds of a run -/

/-- What a round takes from outside of its decision: the frame of the plan, the locations of
    the requirements, and what makes up the second lane. -/
structure RoundSetup where
  frame : PlanFrame
  allowedLocations : List String
  preferredLocations : List String
  names : QueryNames
  acceptedExpression : Option String
  exploreTerms : List String

section Rounds

variable (F : Type) [PyFloat F] (tables : Py.UnicodeTables)

structure LadderRound.Searched (r : LadderRound) (setup : RoundSetup) (resolution : Resolution)
    (search : SearchControllerDecision) (plan : RoundRetrievalPlan) (call : RoundCall F)
    (result : RetrievalExecutionResult) : Prop where
  resolved : r.resolution tables = .ok resolution
  searches : resolution.decision = .search search
  locations : setup.frame.locationExecutionPlan = buildLocationExecutionPlan
    setup.allowedLocations setup.preferredLocations call.roundNo topK
  planned : planRound tables setup.frame r.inputs resolution.retrieval search = .ok plan
  queries : buildRoundQueryBundle setup.names plan setup.acceptedExpression setup.exploreTerms =
    .ok call.queryStates
  roundNo : r.inputs.roundNo = call.roundNo
  location : call.plan = plan.locationExecutionPlan
  target : call.targetNew = topK
  returned : call.outcome.1 = .ok result

inductive RoundsRun : List LadderRound → RetrievalState → Prop where
  | start {input : QueryCompiler.Input} {pool : List QueryTermCandidate}
      (compiled : compileQueryTermPool tables input = .ok pool) :
      RoundsRun [] { queryTermPool := pool }
  | searched {rounds : List LadderRound} {r : LadderRound} {setup : RoundSetup}
      {resolution : Resolution} {search : SearchControllerDecision} {plan : RoundRetrievalPlan}
      {call : RoundCall F} {result : RetrievalExecutionResult}
      (run : RoundsRun rounds r.before)
      (round : r.Searched F tables setup resolution search plan call result) :
      RoundsRun (rounds ++ [r]) (resolution.retrieval.send result.sentQueryRecords)

end Rounds

section Sent

variable {after : RetrievalState} {family : String} {records : List SentQueryRecord}

theorem FamilySent.tried (hpool : TermsDistinct tables retrieval.queryTermPool)
    (h : FamilySent tables retrieval family) : family ∈ triedQueryFamilies tables retrieval := by
  obtain ⟨record, hrecord, term, hterm, item, hitem, hkey, rfl⟩ := h
  have hfound : queryTermIndex tables retrieval.queryTermPool (queryTermKey tables term) =
      some item := by
    rw [← hkey, hpool.key_eq hitem]
    exact hpool.queryTermIndex_eq hitem
  unfold triedQueryFamilies
  refine List.mem_flatMap.mpr ⟨record, hrecord, List.mem_filterMap.mpr ⟨term, hterm, ?_⟩⟩
  rw [hfound]
  rfl

theorem FamilySent.grows (hpool : PoolGrows tables retrieval.queryTermPool after.queryTermPool)
    (hhistory : after.sentQueryHistory = retrieval.sentQueryHistory)
    (h : FamilySent tables retrieval family) :
    FamilySent tables (after.send records) family := by
  obtain ⟨record, hrecord, term, hterm, item, hitem, hkey, rfl⟩ := h
  obtain ⟨item', hitem', hsame, hfamily⟩ := hpool.kept item hitem
  refine ⟨record, ?_, term, hterm, item', hitem', by rw [hsame, hkey], hfamily⟩
  unfold RetrievalState.send
  rw [hhistory]
  exact List.mem_append_left _ hrecord

/-- **What is forced was not sent before.** -/
theorem LadderRound.forcedFamily_unsent (hpool : ReachablePool tables r.before.queryTermPool)
    (h : r.forcedFamily tables = some family) : ¬FamilySent tables r.before family := by
  unfold LadderRound.forcedFamily at h
  split at h
  · obtain ⟨reserve, hreserve, rfl⟩ := Option.map_eq_some_iff.mp h
    intro hsent
    exact (reserve_spec hreserve).2.2 (hsent.tried hpool.termPoolOk.distinct)
  · cases h

end Sent

section Search

variable {F : Type} [PyFloat F] {setup : RoundSetup} {search : SearchControllerDecision}
variable {plan : RoundRetrievalPlan} {call : RoundCall F} {result : RetrievalExecutionResult}
variable {family : String}

theorem planRound_ok {frame : PlanFrame}
    (h : planRound tables frame inputs retrieval search = .ok plan) :
    plan.locationExecutionPlan = frame.locationExecutionPlan ∧
      ∃ allowance, canonicalizeControllerQueryTerms tables allowance search.proposedQueryTerms
        inputs.roundNo retrieval.queryTermPool = .ok plan.queryTerms := by
  obtain ⟨terms, hterms, rfl⟩ := map_eq_ok h
  exact ⟨rfl, _, hterms⟩

theorem LadderRound.Searched.plan_sent
    (h : r.Searched F tables setup resolution search plan call result) :
    ∃ record ∈ result.sentQueryRecords, record.queryTerms = plan.queryTerms := by
  obtain ⟨rest, hqueries⟩ : ∃ rest, call.queryStates =
      buildLogicalQueryState setup.names .exploit plan.queryTerms :: rest := by
    rcases buildRoundQueryBundle_ok h.queries with hone | ⟨second, -, htwo⟩
    · exact ⟨[], hone⟩
    · exact ⟨[second], htwo⟩
  have htarget : 0 < allocateInitialLaneTargets F call.laneOrder call.queryStates call.targetNew
      .exploit := by
    rw [h.target]
    exact exploit_target_pos call.mem_laneOrder (by simp [topK]) h.queries
  have hcity : call.HasCity 0 call.initial := by
    have hplan := (planRound_ok h.planned).1
    exact hasCity_buildLocationExecutionPlan (h.location.trans (hplan.trans h.locations))
  obtain ⟨d, hd, hlane⟩ := RoundCall.first_searched hqueries htarget hcity h.returned
  have hmade := (call.made d hd).lane_eq
  rw [hlane, hqueries] at hmade
  have hquery := Option.some.inj hmade
  obtain ⟨-, rfl⟩ := RoundCall.outcome_ok h.returned
  refine ⟨call.sentQueryRecord d, List.mem_map_of_mem hd, ?_⟩
  show d.call.query.toLogicalQuery.queryTerms = _
  rw [← hquery]
  rfl

/-- **A family that is forced is sent** in the same round. -/
theorem LadderRound.Searched.forced_sent
    (h : r.Searched F tables setup resolution search plan call result)
    (hpool : ReachablePool tables r.before.queryTermPool)
    (hforced : r.forcedFamily tables = some family) :
    FamilySent tables (resolution.retrieval.send result.sentQueryRecords) family := by
  unfold LadderRound.forcedFamily at hforced
  split at hforced
  case isFalse => cases hforced
  rename_i hlane
  obtain ⟨reserve, hreserve, rfl⟩ := Option.map_eq_some_iff.mp hforced
  obtain ⟨hafter, anchor, search', hanchor, hsearch', hterms⟩ :=
    (LadderRound.effect h.resolved).reserve hlane reserve hreserve
  obtain rfl := ControllerDecision.search.inj (h.searches.symm.trans hsearch')
  obtain ⟨anchor', hanchor', hmem, hactive, hprimary⟩ := activeAdmittedAnchor_spec hpool.termPoolOk
  obtain rfl := Except.ok.inj (hanchor.symm.trans hanchor')
  obtain ⟨hreserveMem, hsupport, -⟩ := reserve_spec hreserve
  -- the reserve is active by now, so the validator takes the query as it is
  have hactivated : activated tables reserve.term reserve ∈
      activateQueryTerm tables r.before.queryTermPool reserve.term := by
    rw [activateQueryTerm_eq]
    exact List.mem_map_of_mem hreserveMem
  have hplanned : plan.queryTerms = [anchor.term, reserve.term] := by
    obtain ⟨-, allowance, hcanonical⟩ := planRound_ok h.planned
    have hanchorMem : anchor ∈ activateQueryTerm tables r.before.queryTermPool reserve.term := by
      rw [activateQueryTerm_eq]
      exact List.mem_map.mpr ⟨anchor, hmem, activated_eq_self hactive⟩
    have hpair := anchored_pair r.inputs.roundNo (hpool.termPoolOk.activate reserve.term)
      hanchorMem hprimary hactivated activated_self_active (isSupport_activated.mpr hsupport)
      allowance
    rw [activated_term, ← hterms, ← hafter] at hpair
    rw [← hterms]
    exact Except.ok.inj (hcanonical.symm.trans hpair)
  obtain ⟨record, hrecord, hsent⟩ := h.plan_sent
  refine ⟨record, List.mem_append_right _ hrecord, reserve.term, by simp [hsent, hplanned],
    activated tables reserve.term reserve, ?_, by simp, by simp⟩
  show _ ∈ resolution.retrieval.queryTermPool
  rw [hafter]
  exact hactivated

end Search

/-! ## 5. What holds after every round -/

structure LadderInvariant (tables : Py.UnicodeTables) (rounds : List LadderRound)
    (retrieval : RetrievalState) : Prop where
  pool : ReachablePool tables retrieval.queryTermPool
  feedback : (rounds.flatMap (·.lanes tables)).count .candidateFeedback =
    retrieval.candidateFeedbackAttempted.toNat
  anchorOnly : (rounds.flatMap (·.lanes tables)).count .anchorOnly =
    retrieval.anchorOnlyBroadenAttempted.toNat
  families : (rounds.filterMap (·.forcedFamily tables)).Nodup
  sent : ∀ family ∈ rounds.filterMap (·.forcedFamily tables), FamilySent tables retrieval family

theorem count_lane {lane : RescueLane} {attempted : Bool} (hnodup : (r.lanes tables).Nodup)
    (hopen : lane ∈ r.lanes tables → attempted = false) :
    attempted.toNat + (r.lanes tables).count lane =
      (attempted || decide (lane ∈ r.lanes tables)).toNat := by
  by_cases hlane : lane ∈ r.lanes tables
  · simp [hlane, hopen hlane, List.count_eq_one_of_mem hnodup hlane]
  · simp [hlane, List.count_eq_zero_of_not_mem hlane]

theorem LadderInvariant.families_append {rounds : List LadderRound}
    (h : LadderInvariant tables rounds r.before) :
    ((rounds ++ [r]).filterMap (·.forcedFamily tables)).Nodup := by
  rw [List.filterMap_append]
  refine h.families.append ?_ ?_
  · cases hforced : r.forcedFamily tables <;> simp [hforced]
  · intro family hbefore hnow
    have hforced : r.forcedFamily tables = some family := by simpa using hnow
    exact r.forcedFamily_unsent h.pool hforced (h.sent family hbefore)

theorem RoundsRun.invariant {F : Type} [PyFloat F] {rounds : List LadderRound}
    (h : RoundsRun F tables rounds retrieval) : LadderInvariant tables rounds retrieval := by
  induction h with
  | start compiled => exact ⟨.compiled compiled, rfl, rfl, List.nodup_nil, by simp⟩
  | @searched rounds r setup resolution search plan call result run round ih =>
    have heffect := LadderRound.effect round.resolved
    have hopen := r.lanes_open tables
    constructor
    · exact heffect.pool.reachable ih.pool
    · rw [List.flatMap_append, List.count_append, ih.feedback, List.flatMap_singleton,
        count_lane hopen.nodup hopen.feedback, ← heffect.feedback]
      rfl
    · rw [List.flatMap_append, List.count_append, ih.anchorOnly, List.flatMap_singleton,
        count_lane hopen.nodup hopen.anchorOnly, ← heffect.anchorOnly]
      rfl
    · exact ih.families_append
    · intro family hfamily
      rw [List.filterMap_append, List.mem_append] at hfamily
      rcases hfamily with hbefore | hnow
      · exact (ih.sent family hbefore).grows heffect.pool heffect.history
      · have hforced : r.forcedFamily tables = some family := by simpa using hnow
        exact round.forced_sent ih.pool hforced

/-- **The ladder over a run.** Up to and in any round, feedback is forced at most once, the
    anchor alone is forced at most once, and no family held in reserve is forced twice or
    after it was sent. And a round stops only if the stop guidance allows it. -/
theorem ladder_spec (F : Type) [PyFloat F] (tables : Py.UnicodeTables) (rounds : List LadderRound)
    (r : LadderRound) (h : RoundsRun F tables rounds r.before) :
    ((rounds ++ [r]).flatMap (·.lanes tables)).count .candidateFeedback ≤ 1 ∧
    ((rounds ++ [r]).flatMap (·.lanes tables)).count .anchorOnly ≤ 1 ∧
    ((rounds ++ [r]).filterMap (·.forcedFamily tables)).Nodup ∧
    (∀ family, r.forcedFamily tables = some family → ¬FamilySent tables r.before family) ∧
    ∀ resolution stop, r.resolution tables = .ok resolution → resolution.decision = .stop stop →
      r.inputs.stopGuidance.canStop = true := by
  have hinvariant := h.invariant
  have hopen := r.lanes_open tables
  refine ⟨?_, ?_, hinvariant.families_append, ?_, ?_⟩
  · rw [List.flatMap_append, List.count_append, hinvariant.feedback, List.flatMap_singleton,
      count_lane hopen.nodup hopen.feedback]
    exact Bool.toNat_le _
  · rw [List.flatMap_append, List.count_append, hinvariant.anchorOnly, List.flatMap_singleton,
      count_lane hopen.nodup hopen.anchorOnly]
    exact Bool.toNat_le _
  · intro family hforced
    exact r.forcedFamily_unsent hinvariant.pool hforced
  · intro resolution stop hresolved hstop
    exact (LadderRound.effect hresolved).stop stop hstop

/-! ## 6. A family that is forced, then the next one -/

def twoReserves : RetrievalState := { queryTermPool := compiledPool ["Rust"] ["Tokio", "Kafka"] }

def broadenRound (before : RetrievalState) : LadderRound :=
  { inputs :=
      { firstRound with
        stopGuidance :=
          { canStop := false, reason := "Too few fits.", qualityGateStatus := .broadenRequired } }
    controller := stopDecision
    before }

def tokioResolution : Resolution :=
  { decision := .search (runtimeDecision (broadenRound twoReserves).inputs
      "Runtime override: broaden before low-quality stop."
      "Runtime broaden: reserve admitted family domain.tokio; Too few fits." "Runtime override: "
      ["Rust", "Tokio"])
    rescueDecision := some { selectedLane := .reserveBroaden }
    retrieval := { twoReserves with rescueLaneHistory := [(1, .reserveBroaden)] } }

def tokioPlan : RoundRetrievalPlan :=
  { planVersion := 1
    roundNo := 1
    queryTerms := ["Rust", "Tokio"]
    roleAnchorTerms := ["Rust"]
    mustHaveAnchorTerms := ["Tokio"]
    keywordQuery := "Rust Tokio"
    locationExecutionPlan := sampleFrame.locationExecutionPlan
    targetNew := 10
    rationale := "Runtime broaden: reserve admitted family domain.tokio; Too few fits." }

def sampleSetup : RoundSetup :=
  { frame := sampleFrame
    allowedLocations := []
    preferredLocations := []
    names := { instanceId := fun _ _ => "query", fingerprint := fun _ _ => "print" }
    acceptedExpression := none
    exploreTerms := [] }

def tokioCall : RoundCall Rat :=
  { runtime := sliceRuntime fun _ _ => []
    plan := sampleFrame.locationExecutionPlan
    queryStates := [buildLogicalQueryState sampleSetup.names .exploit ["Rust", "Tokio"]]
    targetNew := 10
    thresholds := .default }

def afterTokio : RetrievalState :=
  tokioResolution.retrieval.send (tokioCall.result tokioCall.outcome.2).sentQueryRecords

theorem roundsRun_afterTokio : RoundsRun Rat .ascii [broadenRound twoReserves] afterTokio := by
  have hcompiled : compileQueryTermPool .ascii
      { jobTitle := "", titleAnchorTerms := ["Rust"], jdQueryTerms := ["Tokio", "Kafka"]
        notesQueryTerms := [] } = .ok (compiledPool ["Rust"] ["Tokio", "Kafka"]) := by
    decide +kernel
  have hround : (broadenRound twoReserves).Searched Rat .ascii sampleSetup tokioResolution
      (runtimeDecision (broadenRound twoReserves).inputs
        "Runtime override: broaden before low-quality stop."
        "Runtime broaden: reserve admitted family domain.tokio; Too few fits."
        "Runtime override: " ["Rust", "Tokio"]) tokioPlan tokioCall
      (tokioCall.result tokioCall.outcome.2) := by
    refine ⟨?_, rfl, rfl, ?_, ?_, rfl, rfl, rfl, rfl⟩
    · decide +kernel
    · decide +kernel
    · decide
  exact .searched (.start hcompiled) hround

theorem ladder_spec_afterTokio :
    (([broadenRound twoReserves] ++ [broadenRound afterTokio]).flatMap
      (·.lanes .ascii)).count .candidateFeedback ≤ 1 ∧
    (([broadenRound twoReserves] ++ [broadenRound afterTokio]).flatMap
      (·.lanes .ascii)).count .anchorOnly ≤ 1 ∧
    (([broadenRound twoReserves] ++ [broadenRound afterTokio]).filterMap
      (·.forcedFamily .ascii)).Nodup ∧
    (∀ family, (broadenRound afterTokio).forcedFamily .ascii = some family →
      ¬FamilySent .ascii afterTokio family) ∧
    ∀ resolution stop, (broadenRound afterTokio).resolution .ascii = .ok resolution →
      resolution.decision = .stop stop →
        (broadenRound afterTokio).inputs.stopGuidance.canStop = true :=
  ladder_spec Rat .ascii [broadenRound twoReserves] (broadenRound afterTokio) roundsRun_afterTokio

end SeekTalent

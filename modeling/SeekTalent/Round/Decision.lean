import SeekTalent.Identity.TopPool
import SeekTalent.Query.Feedback
import SeekTalent.Query.FilterPlan
import SeekTalent.Query.Plan

/-!
# The decision of a round

What the runtime makes of the controller's decision. A proposed search is canonicalized. When
the quality gate has run out of queries, the rescue ladder comes before the controller: a
family held in reserve, a term learned from candidates, the anchor alone. And where the stop
guidance does not allow it, a stop becomes a search of the runtime's own choice.
-/

namespace SeekTalent

inductive StopQualityGateStatus where
  | pass
  | continueLowQuality
  | broadenRequired
  | lowQualityExhausted
  | budgetStopAllowed
  deriving DecidableEq

structure StopGuidance where
  canStop : Bool
  reason : String
  qualityGateStatus : StopQualityGateStatus := .pass

inductive RescueLane where
  | reserveBroaden
  | candidateFeedback
  | anchorOnly
  | continueController
  | allowStop
  deriving DecidableEq

structure SkippedRescueLane where
  lane : String
  reason : String
  deriving DecidableEq

structure RescueDecision where
  selectedLane : RescueLane
  skippedLanes : List SkippedRescueLane := []
  deriving DecidableEq

structure ReflectionKeywordAdvice where
  suggestedActivateTerms : List String := []
  suggestedKeepTerms : List String := []

/-- The part of the retrieval state that decisions read and change. -/
structure RetrievalState where
  candidateFeedbackAttempted : Bool := false
  anchorOnlyBroadenAttempted : Bool := false
  rescueLaneHistory : List (Int × RescueLane) := []
  queryTermPool : List QueryTermCandidate := []
  sentQueryHistory : List SentQueryRecord := []
  deriving DecidableEq

/-! ## Decisions -/

structure SearchControllerDecision where
  thoughtSummary : String
  decisionRationale : String
  proposedQueryTerms : List String
  proposedFilterPlan : ProposedFilterPlan
  responseToReflection : Option String := none
  deriving DecidableEq

structure StopControllerDecision where
  thoughtSummary : String
  decisionRationale : String
  responseToReflection : Option String := none
  stopReason : String
  deriving DecidableEq

inductive ControllerDecision where
  | search (decision : SearchControllerDecision)
  | stop (decision : StopControllerDecision)
  deriving DecidableEq

/-- `response_to_reflection` of either kind. -/
def ControllerDecision.responseToReflection : ControllerDecision → Option String
  | .search decision => decision.responseToReflection
  | .stop decision => decision.responseToReflection

def thoughtSummaryMaxChars : Nat := 500

def decisionRationaleMaxChars : Nat := 2000

def responseToReflectionMaxChars : Nat := 2000

def lengthErrors (field : String) (least most : Nat) (text : String) : List String :=
  if text.length < least then [field ++ ": String should have at least 1 character"]
  else if most < text.length then
    [field ++ ": String should have at most " ++ toString most ++ " characters"]
  else []

/-- The validation of a new `SearchControllerDecision`. -/
def SearchControllerDecision.validate (decision : SearchControllerDecision) :
    Except String SearchControllerDecision :=
  let errors :=
    lengthErrors "thought_summary" 1 thoughtSummaryMaxChars decision.thoughtSummary ++
      lengthErrors "decision_rationale" 1 decisionRationaleMaxChars decision.decisionRationale ++
      (match decision.responseToReflection with
        | none => []
        | some response =>
          lengthErrors "response_to_reflection" 0 responseToReflectionMaxChars response)
  if errors = [] then .ok decision else .error (Py.join "; " errors)

/-- What a round's decision reads and leaves alone. -/
structure RoundInputs where
  runState : RunState
  requirementSheet : RequirementSheet
  previousReflection : Option ReflectionKeywordAdvice := none
  stopGuidance : StopGuidance
  candidateFeedbackEnabled : Bool := true
  roundNo : Int
  maxRounds : Int

section Decide

variable (tables : Py.UnicodeTables)

/-! ## The terms of the pool -/

def activeAdmittedAnchors (pool : List QueryTermCandidate) : List QueryTermCandidate :=
  Py.sortedBy (termSortKey tables) (pool.filter fun item =>
    item.active ∧ item.queryability = .admitted ∧ isPrimaryAnchorRole item.retrievalRole)

def activeAdmittedAnchor (pool : List QueryTermCandidate) : Except String QueryTermCandidate :=
  match activeAdmittedAnchors tables pool with
  | [] => .error "compiled query term pool must include one active admitted anchor."
  | anchor :: _ => .ok anchor

def triedQueryFamilies (retrieval : RetrievalState) : List String :=
  retrieval.sentQueryHistory.flatMap fun record =>
    record.queryTerms.filterMap fun term =>
      (queryTermIndex tables retrieval.queryTermPool (queryTermKey tables term)).map (·.family)

def untriedAdmittedNonAnchors (retrieval : RetrievalState) : List QueryTermCandidate :=
  retrieval.queryTermPool.filter fun item =>
    item.queryability = .admitted ∧ ¬isTitleAnchorRole item.retrievalRole ∧
      item.family ∉ triedQueryFamilies tables retrieval

def untriedAdmittedNonAnchorReserve (retrieval : RetrievalState) : Option QueryTermCandidate :=
  Py.minBy (fun item : QueryTermCandidate =>
      (toLex ((if item.active then 0 else 1), toLex (item.priority,
        toLex (item.firstAddedRound, item.family))) : Int ×ₗ Int ×ₗ Int ×ₗ String))
    (untriedAdmittedNonAnchors tables retrieval)

def activateQueryTerm (pool : List QueryTermCandidate) (term : String) : List QueryTermCandidate :=
  pool.map fun item =>
    if queryTermKey tables item.term = queryTermKey tables term then { item with active := true }
    else item

/-! ## What the decision changes -/

def RetrievalState.activate (retrieval : RetrievalState) (term : String) : RetrievalState :=
  { retrieval with queryTermPool := activateQueryTerm tables retrieval.queryTermPool term }

/-- `candidate_feedback_attempted = True` -/
def RetrievalState.attemptFeedback (retrieval : RetrievalState) : RetrievalState :=
  { retrieval with candidateFeedbackAttempted := true }

/-- `anchor_only_broaden_attempted = True` -/
def RetrievalState.attemptAnchorOnly (retrieval : RetrievalState) : RetrievalState :=
  { retrieval with anchorOnlyBroadenAttempted := true }

/-- `query_term_pool.append(term)` -/
def RetrievalState.learn (retrieval : RetrievalState) (accepted : QueryTermCandidate) :
    RetrievalState :=
  { retrieval with queryTermPool := retrieval.queryTermPool ++ [accepted] }

/-- `rescue_lane_history.append(…)` -/
def RetrievalState.noteLane (retrieval : RetrievalState) (roundNo : Int) (lane : RescueLane) :
    RetrievalState :=
  { retrieval with rescueLaneHistory := retrieval.rescueLaneHistory ++ [(roundNo, lane)] }

/-- `rescue_lane_history[-1]["selected_lane"] = lane` -/
def RetrievalState.correctLane (retrieval : RetrievalState) (lane : RescueLane) :
    RetrievalState :=
  { retrieval with
    rescueLaneHistory := retrieval.rescueLaneHistory.modifyLast fun entry => (entry.1, lane) }

/-! ## The rescue ladder -/

/-- The status calls for the rescue ladder (`RESCUE_STATUSES`). -/
def needsRescue (status : StopQualityGateStatus) : Bool :=
  status ∈ [.broadenRequired, .lowQualityExhausted]

def chooseRescueLane (stopGuidance : StopGuidance) (hasUntriedReserveFamily
    hasFeedbackSeedResumes candidateFeedbackEnabled candidateFeedbackAttempted
    anchorOnlyBroadenAttempted : Bool) : RescueDecision :=
  if ¬needsRescue stopGuidance.qualityGateStatus then
    if stopGuidance.canStop then { selectedLane := .allowStop }
    else { selectedLane := .continueController }
  else if hasUntriedReserveFamily then { selectedLane := .reserveBroaden }
  else
    let skippedLanes := [⟨"reserve_broaden", "no_untried_reserve_family"⟩]
    if candidateFeedbackEnabled ∧ ¬candidateFeedbackAttempted ∧ hasFeedbackSeedResumes then
      { selectedLane := .candidateFeedback, skippedLanes }
    else
      let reason :=
        if ¬candidateFeedbackEnabled then "disabled"
        else if candidateFeedbackAttempted then "already_attempted"
        else "no_feedback_seed_resumes"
      let skippedLanes := skippedLanes ++ [⟨"candidate_feedback", reason⟩]
      if ¬anchorOnlyBroadenAttempted then { selectedLane := .anchorOnly, skippedLanes }
      else
        { selectedLane := .allowStop
          skippedLanes := skippedLanes ++ [⟨"anchor_only", "already_attempted"⟩] }

def feedbackSeeds (inputs : RoundInputs) : List ScoredCandidate :=
  Feedback.selectFeedbackSeedResumes inputs.runState.topCandidates

/-- `_choose_rescue_decision`, which also writes the lane down. -/
def chooseRescueDecision (inputs : RoundInputs) (retrieval : RetrievalState) :
    RescueDecision × RetrievalState :=
  let decision := chooseRescueLane inputs.stopGuidance
    (untriedAdmittedNonAnchorReserve tables retrieval).isSome
    (2 ≤ (feedbackSeeds inputs).length) inputs.candidateFeedbackEnabled
    retrieval.candidateFeedbackAttempted retrieval.anchorOnlyBroadenAttempted
  (decision, retrieval.noteLane inputs.roundNo decision.selectedLane)

def continueAfterEmptyFeedback (retrieval : RetrievalState) (rescue : RescueDecision) :
    RescueDecision :=
  let skippedLanes := rescue.skippedLanes ++ [⟨"candidate_feedback", "no_safe_feedback_term"⟩]
  if retrieval.anchorOnlyBroadenAttempted then
    { selectedLane := .allowStop
      skippedLanes := skippedLanes ++ [⟨"anchor_only", "already_attempted"⟩] }
  else { selectedLane := .anchorOnly, skippedLanes }

/-! ## Forced decisions -/

def runtimeDecision (inputs : RoundInputs) (thoughtSummary decisionRationale responder : String)
    (proposedQueryTerms : List String) : SearchControllerDecision :=
  { thoughtSummary
    decisionRationale
    proposedQueryTerms
    proposedFilterPlan := buildDefaultFilterPlan inputs.requirementSheet
    responseToReflection := some (responder ++ inputs.stopGuidance.reason) }

def continueRationale (reason : String) : String :=
  "Runtime stop guidance requires continuing: " ++ reason

def forceContinueDecision (inputs : RoundInputs) (retrieval : RetrievalState) :
    Except String SearchControllerDecision := do
  let queryTerms ← selectQueryTerms tables retrieval.queryTermPool inputs.roundNo
  (runtimeDecision inputs "Runtime override: stop guidance requires continuing."
    (continueRationale inputs.stopGuidance.reason) "Runtime override: " queryTerms).validate

def broadenRationale (broadenDetail reason : String) : String :=
  "Runtime broaden: " ++ broadenDetail ++ "; " ++ reason

def anchorOnlyDetail : String := "anchor-only search"

def reserveDetail (reserve : QueryTermCandidate) : String :=
  "reserve admitted family " ++ reserve.family

def forceBroadenDecision (inputs : RoundInputs) (retrieval : RetrievalState) :
    Except String (SearchControllerDecision × RetrievalState) := do
  let anchor ← activeAdmittedAnchor tables retrieval.queryTermPool
  let (queryTerms, broadenDetail, retrieval) :=
    match untriedAdmittedNonAnchorReserve tables retrieval with
    | none => ([anchor.term], anchorOnlyDetail, retrieval)
    | some reserve =>
      ([anchor.term, reserve.term], reserveDetail reserve, retrieval.activate tables reserve.term)
  let decision ← (runtimeDecision inputs "Runtime override: broaden before low-quality stop."
    (broadenRationale broadenDetail inputs.stopGuidance.reason) "Runtime override: "
    queryTerms).validate
  return (decision, retrieval)

def feedbackDecision (inputs : RoundInputs) (retrieval : RetrievalState) :
    Feedback.CandidateFeedbackDecision :=
  Feedback.buildFeedbackDecision tables (feedbackSeeds inputs)
    (inputs.runState.scorecardsByResumeId.filter fun item =>
      item.fitBucket = .notFit ∨ 60 < item.riskScore)
    retrieval.queryTermPool (retrieval.sentQueryHistory.flatMap (·.queryTerms)) inputs.roundNo

def feedbackRationale (term reason : String) : String :=
  "Runtime rescue: candidate feedback term " ++ term ++ "; " ++ reason

def forceCandidateFeedbackDecision (inputs : RoundInputs) (retrieval : RetrievalState) :
    Except String (Option SearchControllerDecision × RetrievalState) :=
  let feedback := feedbackDecision tables inputs retrieval
  let retrieval := retrieval.attemptFeedback
  match feedback.acceptedTerm with
  | none => .ok (none, retrieval)
  | some accepted => do
    let decision ← (runtimeDecision inputs "Runtime rescue: candidate feedback expansion."
      (feedbackRationale accepted.term inputs.stopGuidance.reason) "Runtime rescue: "
      feedback.forcedQueryTerms).validate
    return (some decision, retrieval.learn accepted)

def forceAnchorOnlyDecision (inputs : RoundInputs) (retrieval : RetrievalState) :
    Except String SearchControllerDecision := do
  let anchor ← activeAdmittedAnchor tables retrieval.queryTermPool
  (runtimeDecision inputs "Runtime rescue: final anchor-only broaden."
    (broadenRationale anchorOnlyDetail inputs.stopGuidance.reason) "Runtime rescue: "
    [anchor.term]).validate

/-! ## The controller's own decision -/

/-- A text in any case, as `(?i)` takes its letters. -/
def ignoreCase (text : String) : Regex :=
  .all (text.toList.map fun letter => .char fun c =>
    c.toLower = letter || (letter = 'i' && (c = 'İ' || c = 'ı')) ||
      (letter = 's' && c = 'ſ') || (letter = 'k' && c = 'K'))

/-- `the search has reached the maximum rounds \(\d+\),\s*` -/
def reachedMaximumRounds : Regex :=
  .all
    [ignoreCase "the search has reached the maximum rounds (",
      .atLeast 1 (.char tables.isDecimal), .text "),", .star Feedback.space]

/-- `max(?:imum)? rounds? reached` -/
def maxRoundsReached : Regex :=
  .all
    [ignoreCase "max", .opt (ignoreCase "imum"), ignoreCase " round", .opt (ignoreCase "s"),
      ignoreCase " reached"]

def sanitizePrematureMaxRoundClaim (text : String) (roundNo maxRounds : Int) : String :=
  if maxRounds ≤ roundNo then text
  else
    let lowered := Py.casefold tables text
    if ¬Py.contains lowered "max rounds" ∧ ¬Py.contains lowered "maximum rounds" then text
    else
      let cleaned := (reachedMaximumRounds tables).sub
        "The search appears exhausted with diminishing returns, " text
      let cleaned := Regex.sub
        (.all
          [ignoreCase "search is exhausted:", .star Feedback.space, maxRoundsReached, .text ",",
            .star Feedback.space])
        "Search is exhausted with diminishing returns; " cleaned
      let cleaned := Regex.sub
        (.all
          [Feedback.wordBoundary tables, maxRoundsReached, Feedback.wordBoundary tables,
            .opt (.char (· ∈ [':', ','])), .star Feedback.space])
        "diminishing returns, " cleaned
      Py.join " " (Py.split cleaned)

def reflectionBackedInactiveTerms (advice : Option ReflectionKeywordAdvice) : List String :=
  match advice with
  | none => []
  | some advice =>
    (advice.suggestedActivateTerms ++ advice.suggestedKeepTerms).map fun term =>
      Py.casefold tables (normalizeTerm term)

def sanitizeControllerDecision (inputs : RoundInputs) (retrieval : RetrievalState)
    (decision : ControllerDecision) : Except String ControllerDecision :=
  let allowedInactiveNonAnchorTerms :=
    reflectionBackedInactiveTerms tables inputs.previousReflection
  if inputs.previousReflection.isSome ∧
      Py.strip (decision.responseToReflection.getD "") = "" then
    .error "response_to_reflection is required after a reflection round"
  else match decision with
    | .stop decision =>
      let sanitize := fun text =>
        sanitizePrematureMaxRoundClaim tables text inputs.roundNo inputs.maxRounds
      .ok (.stop
        { decision with
          decisionRationale := sanitize decision.decisionRationale
          stopReason := sanitize decision.stopReason })
    | .search decision => do
      let queryTerms ← canonicalizeControllerQueryTerms tables { allowedInactiveNonAnchorTerms }
        decision.proposedQueryTerms inputs.roundNo retrieval.queryTermPool
      return .search
        { decision with
          proposedQueryTerms := queryTerms
          proposedFilterPlan :=
            canonicalizeFilterPlan tables inputs.requirementSheet decision.proposedFilterPlan }

/-- The controller's decision, unless it is a stop that is not allowed. -/
def sanitizeOrContinue (inputs : RoundInputs) (retrieval : RetrievalState)
    (decision : ControllerDecision) : Except String ControllerDecision := do
  match ← sanitizeControllerDecision tables inputs retrieval decision with
  | .search decision => return .search decision
  | .stop decision =>
    if inputs.stopGuidance.canStop then return .stop decision
    else return .search (← forceContinueDecision tables inputs retrieval)

/-! ## The decision -/

/-- What `resolve_round_decision` returns, and the state it leaves. -/
structure Resolution where
  decision : ControllerDecision
  rescueDecision : Option RescueDecision
  retrieval : RetrievalState
  deriving DecidableEq

def takeReserve (inputs : RoundInputs) (retrieval : RetrievalState) (rescue : RescueDecision) :
    Except String Resolution := do
  let (decision, retrieval) ← forceBroadenDecision tables inputs retrieval
  return ⟨.search decision, some rescue, retrieval⟩

/-- The lane of the anchor alone, which is marked as attempted before the decision is made. -/
def takeAnchorOnly (inputs : RoundInputs) (retrieval : RetrievalState) (rescue : RescueDecision) :
    Except String Resolution := do
  let retrieval := retrieval.attemptAnchorOnly
  return ⟨.search (← forceAnchorOnlyDecision tables inputs retrieval), some rescue, retrieval⟩

def takeController (inputs : RoundInputs) (retrieval : RetrievalState)
    (rescue : Option RescueDecision) (decision : ControllerDecision) : Except String Resolution := do
  return ⟨← sanitizeOrContinue tables inputs retrieval decision, rescue, retrieval⟩

/-- The lane of candidate feedback, and what comes after it when no term is found. -/
def takeFeedback (inputs : RoundInputs) (retrieval : RetrievalState) (rescue : RescueDecision)
    (decision : ControllerDecision) : Except String Resolution := do
  let (feedback, retrieval) ← forceCandidateFeedbackDecision tables inputs retrieval
  match feedback with
  | some decision => return ⟨.search decision, some rescue, retrieval⟩
  | none =>
    let rescue := continueAfterEmptyFeedback retrieval rescue
    let retrieval := retrieval.correctLane rescue.selectedLane
    if rescue.selectedLane = .anchorOnly then takeAnchorOnly tables inputs retrieval rescue
    else takeController tables inputs retrieval (some rescue) decision

def resolveRoundDecision (inputs : RoundInputs) (retrieval : RetrievalState)
    (decision : ControllerDecision) : Except String Resolution :=
  if needsRescue inputs.stopGuidance.qualityGateStatus then
    let (rescue, retrieval) := chooseRescueDecision tables inputs retrieval
    match rescue.selectedLane with
    | .reserveBroaden => takeReserve tables inputs retrieval rescue
    | .candidateFeedback => takeFeedback tables inputs retrieval rescue decision
    | .anchorOnly => takeAnchorOnly tables inputs retrieval rescue
    | _ => takeController tables inputs retrieval (some rescue) decision
  else takeController tables inputs retrieval none decision

/-- The plan of a round that searches, from the state its decision left. -/
def planRound (frame : PlanFrame) (inputs : RoundInputs) (retrieval : RetrievalState)
    (decision : SearchControllerDecision) : Except String RoundRetrievalPlan :=
  buildRoundRetrievalPlan tables frame inputs.roundNo decision.proposedQueryTerms
    retrieval.queryTermPool decision.decisionRationale
    (reflectionBackedInactiveTerms tables inputs.previousReflection)
    (inputs.stopGuidance.qualityGateStatus = .broadenRequired ||
      retrieval.anchorOnlyBroadenAttempted)

end Decide

/-! ## What the steps leave alone -/

section Fields

variable {tables : Py.UnicodeTables} {retrieval : RetrievalState} {roundNo : Int}
variable {lane : RescueLane} {term : String} {accepted : QueryTermCandidate}

@[simp] theorem attemptAnchorOnly_queryTermPool :
    retrieval.attemptAnchorOnly.queryTermPool = retrieval.queryTermPool := rfl

@[simp] theorem noteLane_anchorOnlyBroadenAttempted :
    (retrieval.noteLane roundNo lane).anchorOnlyBroadenAttempted =
      retrieval.anchorOnlyBroadenAttempted := rfl

end Fields

/-! ## The order of the ladder -/

section Ladder

variable {guidance : StopGuidance}

theorem selectedLane_eq (reserve seeds enabled feedback anchor : Bool)
    (h : needsRescue guidance.qualityGateStatus = true) :
    (chooseRescueLane guidance reserve seeds enabled feedback anchor).selectedLane =
      if reserve then .reserveBroaden
      else if enabled ∧ ¬feedback ∧ seeds then .candidateFeedback
      else if ¬anchor then .anchorOnly
      else .allowStop := by
  unfold chooseRescueLane
  rw [if_neg (not_not.mpr h)]
  dsimp only
  split
  · rfl
  · split
    · rfl
    · split <;> rfl

end Ladder

end SeekTalent

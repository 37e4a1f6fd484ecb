import SeekTalent.Base.Loops
import SeekTalent.Base.Regex
import SeekTalent.Liepin.LaneEvidence

/-!
# The cards whose details are recommended

The card lane summarizes its candidates and has a policy go through the summaries, in the order
of their ranks at the provider: what passes is recommended as long as the budget lasts. A
summary's rank and the evidence that a recommendation refers to are both looked up by the id of
the resume, and such a dict keeps the last of what a search result repeats. The policy goes
through all summaries, so a repeated card is recommended twice, and both times in the last one's
place (`recommends_iff`).
-/

namespace SeekTalent

namespace Liepin

/-! ## 1. The policy -/

inductive CardDecisionAction where
  | recommendDetail
  | rejectObviousMismatch
  | holdInsufficientCardSignal
  deriving DecidableEq

structure LiepinCardSummary where
  candidateResumeId : String
  providerRank : Int
  displayTitle : Option String := none
  currentOrRecentCompany : Option String := none
  currentOrRecentTitle : Option String := none
  workYears : Option Int := none
  age : Option Int := none
  city : Option String := none
  expectedCity : Option String := none
  educationLevel : Option String := none
  schoolNames : List String := []
  majorNames : List String := []
  skillTags : List String := []
  jobIntention : Option String := none
  recentExperienceText : Option String := none
  normalizedCardText : String := ""
  maskedName : Bool := false

structure LiepinCardDecision where
  candidateResumeId : String
  providerRank : Int
  cardPolicyRank : Option Nat
  action : CardDecisionAction
  valueScore : Option Int
  hardFilterStatus : String
  budgetReasonCode : String
  reasonCodes : List String

/-- `_ENGINEERING_TOKENS` -/
def ENGINEERING_TOKENS : List String :=
  ["backend", "data", "developer", "engineer", "engineering", "fastapi", "frontend", "golang",
    "java", "python", "ranking", "search", "software", "systems"]

/-- `_NON_ENGINEERING_ROLE_TOKENS` -/
def NON_ENGINEERING_ROLE_TOKENS : List String := ["retail", "sales", "store"]

/-- `_WORD_PATTERN` -/
def WORD_PATTERN : Regex := .atLeast 1 (.char fun c => c.isLower || c.isDigit)

section Policy

variable (tables : Py.UnicodeTables)

/-- `_tokens`, each token once -/
def tokens (value : String) : List String :=
  (WORD_PATTERN.findAll (Py.casefold tables value)).dedup

def cardTokens (card : LiepinCardSummary) : List String :=
  let values := [card.displayTitle, card.currentOrRecentCompany, card.currentOrRecentTitle,
    card.city, card.expectedCity, card.educationLevel, card.jobIntention,
    card.recentExperienceText, some card.normalizedCardText].filterMap id ++
    card.schoolNames ++ card.majorNames ++ card.skillTags
  tokens tables (Py.join " " (values.filter (· ≠ "")))

def queryTokens (queryTerms : List String) : List String := (queryTerms.flatMap (tokens tables)).dedup

structure CardPolicyInput where
  queryTerms : List String
  roleTitle : String

variable (input : CardPolicyInput)

def hardRejectReason (card : LiepinCardSummary) : Option String :=
  let expectedTokens := tokens tables (Py.join " " (input.roleTitle :: input.queryTerms))
  let cardTokens := cardTokens tables card
  let titleTokens :=
    tokens tables (textOr card.currentOrRecentTitle (textOr card.displayTitle ""))
  if expectedTokens = [] ∨ cardTokens = [] ∨ titleTokens = [] then none
  else if expectedTokens.any (· ∈ ENGINEERING_TOKENS) ∧
      titleTokens.any (· ∈ NON_ENGINEERING_ROLE_TOKENS) ∧
      ¬cardTokens.any (· ∈ ENGINEERING_TOKENS) then
    some "obvious_role_mismatch"
  else none

def cardSignalScore (card : LiepinCardSummary) : Nat × List String :=
  let cardTokens := cardTokens tables card
  let roleTokens := tokens tables input.roleTitle
  let matchedQueryTokens := cardTokens.filter fun token =>
    token ∈ queryTokens tables input.queryTerms ∧ token ∉ roleTokens
  let fromQuery := if matchedQueryTokens = [] then 0 else if 2 ≤ matchedQueryTokens.length then 2 else 1
  let fromRole := if cardTokens.any (· ∈ roleTokens) then 1 else 0
  let fromSkills := if card.skillTags = [] then 0 else 1
  (fromQuery + fromRole + fromSkills,
    (if matchedQueryTokens = [] then [] else ["matched_card_terms"]) ++
      (if card.skillTags = [] then [] else ["high_value_card"]))

/-- The decision about one card, where `cardPolicyRank` of `remaining` were recommended before. -/
def decideCard (remaining cardPolicyRank : Nat) (card : LiepinCardSummary) : LiepinCardDecision :=
  match hardRejectReason tables input card with
  | some hardReject =>
    { candidateResumeId := card.candidateResumeId
      providerRank := card.providerRank
      cardPolicyRank := none
      action := .rejectObviousMismatch
      valueScore := some 0
      hardFilterStatus := hardReject
      budgetReasonCode := hardReject
      reasonCodes := [hardReject] }
  | none =>
    let (score, reasons) := cardSignalScore tables input card
    if score < 2 then
      { candidateResumeId := card.candidateResumeId
        providerRank := card.providerRank
        cardPolicyRank := none
        action := .holdInsufficientCardSignal
        valueScore := some ↑(score * 20)
        hardFilterStatus := "hard_filter_passed"
        budgetReasonCode := "insufficient_card_signal"
        reasonCodes := ["hard_filter_passed", "insufficient_card_signal"] }
    else if remaining ≤ cardPolicyRank then
      { candidateResumeId := card.candidateResumeId
        providerRank := card.providerRank
        cardPolicyRank := none
        action := .holdInsufficientCardSignal
        valueScore := some ↑(min 100 (40 + score * 15))
        hardFilterStatus := "hard_filter_passed"
        budgetReasonCode := "blocked_budget_exhausted"
        reasonCodes := ["hard_filter_passed", "blocked_budget_exhausted"] }
    else
      { candidateResumeId := card.candidateResumeId
        providerRank := card.providerRank
        cardPolicyRank := some (cardPolicyRank + 1)
        action := .recommendDetail
        valueScore := some ↑(min 100 (40 + score * 15))
        hardFilterStatus := "hard_filter_passed"
        budgetReasonCode := "within_run_detail_budget"
        reasonCodes := ["hard_filter_passed", "provider_rank_preserved", "card_rank_budget",
          "within_run_detail_budget"] ++ reasons }

/-- The loop of `build_liepin_card_decisions`. -/
def decideCards (remaining cardPolicyRank : Nat) : List LiepinCardSummary → List LiepinCardDecision
  | [] => []
  | card :: rest =>
    let decision := decideCard tables input remaining cardPolicyRank card
    decision :: decideCards remaining
      (if decision.action = .recommendDetail then cardPolicyRank + 1 else cardPolicyRank) rest

def buildLiepinCardDecisions (cards : List LiepinCardSummary) (maxDetailRecommendations : Int) :
    List LiepinCardDecision :=
  decideCards tables input maxDetailRecommendations.toNat 0 (Py.sortedBy (·.providerRank) cards)

end Policy

/-! ## 2. The recommendations of the lane -/

/-- What `raw["safe_card_summary"]` has; `none` where the value is of another type, and of a list
    only the texts. -/
structure SafeCardSummary where
  displayTitle : Option String := none
  currentOrRecentCompany : Option String := none
  currentOrRecentTitle : Option String := none
  workYears : Option Int := none
  age : Option Int := none
  city : Option String := none
  expectedCity : Option String := none
  educationLevel : Option String := none
  schoolNames : List String := []
  majorNames : List String := []
  skillTags : List String := []
  jobIntention : Option String := none
  recentExperienceText : Option String := none
  maskedName : Bool := false

structure CardCandidate extends ResumeCandidate where
  safeCardSummary : SafeCardSummary := {}
  searchText : String := ""

def summaryString (value : Option String) : Option String :=
  (value.map Py.strip).filter (· ≠ "")

def summaryInt (value : Option Int) : Option Int := value.filter (0 ≤ ·)

def summaryStringTuple (items : List String) : List String := (items.map Py.strip).filter (· ≠ "")

def cardSummaryForCandidate (candidate : CardCandidate) (providerRank : Int) : LiepinCardSummary :=
  let summary := candidate.safeCardSummary
  { candidateResumeId := candidate.resumeId
    providerRank
    displayTitle := summaryString summary.displayTitle
    currentOrRecentCompany := summaryString summary.currentOrRecentCompany
    currentOrRecentTitle := summaryString summary.currentOrRecentTitle
    workYears := summaryInt summary.workYears
    age := summaryInt summary.age
    city := summaryString summary.city
    expectedCity := summaryString summary.expectedCity
    educationLevel := summaryString summary.educationLevel
    schoolNames := summaryStringTuple summary.schoolNames
    majorNames := summaryStringTuple summary.majorNames
    skillTags := summaryStringTuple summary.skillTags
    jobIntention := summaryString summary.jobIntention
    recentExperienceText := summaryString summary.recentExperienceText
    normalizedCardText := candidate.searchText
    maskedName := summary.maskedName }

structure RuntimeDetailRecommendation where
  recommendationId : String
  sourceEvidenceId : String
  candidateResumeId : String
  providerCandidateKeyHash : String
  valueScore : Option Int
  providerRank : Option Int
  cardPolicyRank : Option Nat
  hardFilterStatus : String
  budgetReasonCode : String
  reasonCode : String
  safeReason : String
  safeReasonCodes : List String
  providerSnapshotRef : Option String
  safeSummaryRef : Option String
  budgetPolicyVersion : String

def primaryCardPolicyReason (reasonCodes : List String) : String :=
  (["matched_card_terms", "high_value_card", "card_rank_budget"].find? (· ∈ reasonCodes)).getD
    (reasonCodes.getLastD "matched_card_terms")

/-- `evidence_by_resume_id`: the last update of a resume id stays. -/
def evidenceByResumeId (evidenceUpdates : List RuntimeSourceEvidence) (resumeId : String) :
    Option RuntimeSourceEvidence :=
  evidenceUpdates.reverse.find? (·.candidateResumeId = resumeId)

def candidateByResumeId (candidates : List CardCandidate) (resumeId : String) :
    Option CardCandidate :=
  candidates.reverse.find? (·.resumeId = resumeId)

def laneCards (candidates : List CardCandidate) (evidenceUpdates : List RuntimeSourceEvidence) :
    List LiepinCardSummary :=
  (candidates.zipIdx 1).filterMap fun (candidate, index) =>
    (evidenceByResumeId evidenceUpdates candidate.resumeId).map fun evidence =>
      cardSummaryForCandidate candidate ((evidence.providerRank.filter (· ≠ 0)).getD index)

def detailRecommendation (sourcePlanId budgetPolicyVersion : String) (candidate : CardCandidate)
    (evidence : RuntimeSourceEvidence) (decision : LiepinCardDecision) :
    RuntimeDetailRecommendation :=
  { recommendationId := sourcePlanId ++ ":detail:" ++ candidate.resumeId
    sourceEvidenceId := evidence.evidenceId
    candidateResumeId := candidate.resumeId
    providerCandidateKeyHash := evidence.providerCandidateKeyHash
    valueScore := decision.valueScore
    providerRank := some decision.providerRank
    cardPolicyRank := decision.cardPolicyRank
    hardFilterStatus := decision.hardFilterStatus
    budgetReasonCode := decision.budgetReasonCode
    reasonCode := primaryCardPolicyReason decision.reasonCodes
    safeReason := "Agent recommends opening detail after matched card terms."
    safeReasonCodes := decision.reasonCodes
    providerSnapshotRef := evidence.providerSnapshotRef
    safeSummaryRef := evidence.safeSummaryRef
    budgetPolicyVersion }

/-- `_detail_recommendations_for_candidates`; `none` where a key is missing. -/
def detailRecommendationsForCandidates (tables : Py.UnicodeTables) (sourcePlanId : String)
    (candidates : List CardCandidate) (evidenceUpdates : List RuntimeSourceEvidence)
    (input : CardPolicyInput) (maxRecommendations : Int) (budgetPolicyVersion : String) :
    Option (List RuntimeDetailRecommendation) :=
  let decisions := buildLiepinCardDecisions tables input (laneCards candidates evidenceUpdates)
    maxRecommendations
  (decisions.filter (·.action = .recommendDetail)).mapM fun decision => do
    let candidate ← candidateByResumeId candidates decision.candidateResumeId
    let evidence ← evidenceByResumeId evidenceUpdates decision.candidateResumeId
    return detailRecommendation sourcePlanId budgetPolicyVersion candidate evidence decision

structure CardLane where
  sha256 : String → String
  tables : Py.UnicodeTables
  sourcePlan : RuntimeSourceLanePlan
  run : LaneRun
  input : CardPolicyInput
  liepinMaxCards : Int
  liepinMaxDetailRecommendations : Int
  policyVersion : String
  /-- `search_result.candidates` -/
  found : List CardCandidate

namespace CardLane

/-- The candidates that the budget lets through. -/
def candidates (lane : CardLane) : List CardCandidate := Py.sliceTo lane.liepinMaxCards lane.found

def sourceEvidenceUpdates (lane : CardLane) : List RuntimeSourceEvidence :=
  evidenceUpdates lane.sha256 lane.sourcePlan lane.run .card
    (lane.candidates.map (·.toResumeCandidate))

/-- The `detail_recommendations` of `_card_lane_result_from_search_result`. -/
def detailRecommendations (lane : CardLane) : Option (List RuntimeDetailRecommendation) :=
  detailRecommendationsForCandidates lane.tables lane.sourcePlan.sourcePlanId lane.candidates
    lane.sourceEvidenceUpdates lane.input lane.liepinMaxDetailRecommendations lane.policyVersion

/-! ## 3. What the recommendations should be -/

/-- The recommendation is about the candidate at this position and refers to its evidence. -/
def IsAt (lane : CardLane) (recommendation : RuntimeDetailRecommendation) (position : Nat) : Prop :=
  ∃ candidate evidence, lane.candidates[position]? = some candidate ∧
    lane.sourceEvidenceUpdates[position]? = some evidence ∧
    recommendation.candidateResumeId = candidate.resumeId ∧
    recommendation.sourceEvidenceId = evidence.evidenceId ∧
    recommendation.providerCandidateKeyHash = evidence.providerCandidateKeyHash ∧
    recommendation.providerRank = evidence.providerRank ∧
    recommendation.providerSnapshotRef = evidence.providerSnapshotRef ∧
    recommendation.safeSummaryRef = evidence.safeSummaryRef

/-- No resume is recommended twice and no more than the budget has, and the ranks count up along
    the positions of the candidates, whose evidence the recommendations refer to. -/
structure Recommends (lane : CardLane) (recommendations : List RuntimeDetailRecommendation) :
    Prop where
  distinct : (recommendations.map (·.candidateResumeId)).Nodup
  within : (recommendations.length : Int) ≤ lane.liepinMaxDetailRecommendations
  ranks : recommendations.map (·.cardPolicyRank) =
    (List.range' 1 recommendations.length).map some
  inOrder : ∃ positions : List Nat, positions.Pairwise (· < ·) ∧
    List.Forall₂ lane.IsAt recommendations positions

end CardLane

/-! ## 4. When they are -/

def lastPlace (candidates : List CardCandidate) (resumeId : String) : Nat :=
  candidates.length - candidates.reverse.findIdx (·.resumeId = resumeId)

/-- The policy neither rejects a card nor holds it for want of a signal. -/
def Passes (tables : Py.UnicodeTables) (input : CardPolicyInput) (card : LiepinCardSummary) : Prop :=
  hardRejectReason tables input card = none ∧ 2 ≤ (cardSignalScore tables input card).1

instance (tables : Py.UnicodeTables) (input : CardPolicyInput) (card : LiepinCardSummary) :
    Decidable (Passes tables input card) :=
  inferInstanceAs (Decidable (_ ∧ _))

namespace CardLane

/-- The summary of a candidate, ranked by the last one with its resume id. -/
def cardOf (lane : CardLane) (candidate : CardCandidate) : LiepinCardSummary :=
  cardSummaryForCandidate candidate (lastPlace lane.candidates candidate.resumeId)

/-- Of the candidates that pass, in the order of the last ones with their resume ids, the first,
    as many as the budget has. -/
def chosen (lane : CardLane) : List CardCandidate :=
  ((Py.sortedBy (fun candidate => lastPlace lane.candidates candidate.resumeId)
    lane.candidates).filter fun candidate =>
      Passes lane.tables lane.input (lane.cardOf candidate)).take
    lane.liepinMaxDetailRecommendations.toNat

end CardLane

section Decisions

variable {tables : Py.UnicodeTables} {input : CardPolicyInput}

theorem decideCard_cases (remaining cardPolicyRank : Nat) (card : LiepinCardSummary) :
    ¬Passes tables input card ∧
        (decideCard tables input remaining cardPolicyRank card).action ≠ .recommendDetail ∨
      Passes tables input card ∧ remaining ≤ cardPolicyRank ∧
        (decideCard tables input remaining cardPolicyRank card).action ≠ .recommendDetail ∨
      Passes tables input card ∧ cardPolicyRank < remaining ∧
        (decideCard tables input remaining cardPolicyRank card).action = .recommendDetail ∧
        (decideCard tables input remaining cardPolicyRank card).candidateResumeId =
          card.candidateResumeId ∧
        (decideCard tables input remaining cardPolicyRank card).providerRank = card.providerRank ∧
        (decideCard tables input remaining cardPolicyRank card).cardPolicyRank =
          some (cardPolicyRank + 1) := by
  unfold decideCard Passes
  cases hreject : hardRejectReason tables input card with
  | some hardReject => simp
  | none =>
    dsimp only
    split
    · rename_i hscore
      simp [hscore]
    · rename_i hscore
      split
      · rename_i hspent
        simp [hspent, not_lt.mp hscore]
      · rename_i hleft
        simp [not_le.mp hleft, not_lt.mp hscore]

theorem recommended_eq {remaining cardPolicyRank : Nat} {cards : List LiepinCardSummary} :
    ((decideCards tables input remaining cardPolicyRank cards).filter
        (·.action = .recommendDetail)).map
        (fun decision => (decision.candidateResumeId, decision.providerRank,
          decision.cardPolicyRank)) =
      (((cards.filter (Passes tables input ·)).take
        (remaining - cardPolicyRank)).zipIdx (cardPolicyRank + 1)).map
        fun (card, rank) => (card.candidateResumeId, card.providerRank, some rank) := by
  induction cards generalizing cardPolicyRank with
  | nil => simp [decideCards]
  | cons card rest ih =>
    unfold decideCards
    rcases @decideCard_cases tables input remaining cardPolicyRank card with
      ⟨hnot, haction⟩ | ⟨hpasses, hspent, haction⟩ |
      ⟨hpasses, hleft, haction, hid, hprovider, hrank⟩
    · simp [haction, hnot, ih]
    · have hnone : remaining - cardPolicyRank = 0 := by omega
      simp [haction, ih, hnone]
    · have hone : remaining - cardPolicyRank = remaining - (cardPolicyRank + 1) + 1 := by omega
      simp [haction, hpasses, hid, hprovider, hrank, ih, hone]

end Decisions

theorem map_eq_of_forall₂ {α β γ : Type} {f : α → γ} {g : β → γ} {xs : List α} {ys : List β}
    (h : List.Forall₂ (fun x y => g y = f x) xs ys) : ys.map g = xs.map f := by
  induction h with
  | nil => rfl
  | cons hxy _ ih => rw [List.map_cons, List.map_cons, hxy, ih]

namespace CardLane

variable {lane : CardLane}

variable {resumeId : String} {evidence : RuntimeSourceEvidence} {candidate : CardCandidate}

theorem lastPlace_snoc (candidates : List CardCandidate) (candidate : CardCandidate)
    (resumeId : String) :
    lastPlace (candidates ++ [candidate]) resumeId =
      if candidate.resumeId = resumeId then candidates.length + 1
      else lastPlace candidates resumeId := by
  unfold lastPlace
  rw [List.reverse_append, List.reverse_singleton, List.singleton_append, List.findIdx_cons,
    List.length_append, List.length_singleton]
  by_cases hid : candidate.resumeId = resumeId
  · simp [hid]
  · simp [hid]

theorem evidenceByResumeId_eq {sha256 : String → String} {sourcePlan : RuntimeSourceLanePlan}
    {run : LaneRun} {candidates : List CardCandidate} (h : ∃ other ∈ candidates,
      other.resumeId = resumeId) :
    ∃ position candidate, candidates[position]? = some candidate ∧ candidate.resumeId = resumeId ∧
      lastPlace candidates resumeId = position + 1 ∧
      evidenceByResumeId (evidenceUpdates sha256 sourcePlan run .card
        (candidates.map (·.toResumeCandidate))) resumeId =
        some (sourceEvidenceForCandidate sha256 sourcePlan run .card candidate.toResumeCandidate
          (position + 1)) := by
  induction candidates using List.reverseRecOn with
  | nil => simp at h
  | append_singleton candidates last ih =>
    have hupdates : evidenceUpdates sha256 sourcePlan run .card
        ((candidates ++ [last]).map (·.toResumeCandidate)) =
        evidenceUpdates sha256 sourcePlan run .card (candidates.map (·.toResumeCandidate)) ++
          [sourceEvidenceForCandidate sha256 sourcePlan run .card last.toResumeCandidate
            (candidates.length + 1)] := by
      unfold evidenceUpdates
      rw [List.map_append, List.zipIdx_append, List.map_append, List.length_map, Nat.add_comm 1]
      rfl
    rw [hupdates, lastPlace_snoc]
    unfold evidenceByResumeId
    rw [List.reverse_append, List.reverse_singleton, List.singleton_append]
    by_cases hid : last.resumeId = resumeId
    · refine ⟨candidates.length, last, by simp, hid, if_pos hid, ?_⟩
      exact List.find?_cons_of_pos (decide_eq_true hid)
    · obtain ⟨position, candidate, hat, hresume, hplace, hfind⟩ := ih (by
        obtain ⟨other, hother, hother'⟩ := h
        rcases List.mem_append.mp hother with hother | hother
        · exact ⟨other, hother, hother'⟩
        · exact absurd (List.mem_singleton.mp hother ▸ hother') hid)
      refine ⟨position, candidate, ?_, hresume, (if_neg hid).trans hplace, ?_⟩
      · rw [List.getElem?_append_left (List.getElem?_eq_some_iff.mp hat).1]
        exact hat
      · refine (List.find?_cons_of_neg ?_).trans hfind
        exact ne_true_of_eq_false (decide_eq_false hid)

theorem exists_position (h : candidate ∈ lane.candidates) :
    ∃ position last evidence, lane.candidates[position]? = some last ∧
      lane.sourceEvidenceUpdates[position]? = some evidence ∧
      last.resumeId = candidate.resumeId ∧
      lastPlace lane.candidates candidate.resumeId = position + 1 ∧
      evidenceByResumeId lane.sourceEvidenceUpdates candidate.resumeId = some evidence ∧
      evidence.providerRank = some ((position + 1 : Nat) : Int) := by
  obtain ⟨position, last, hlast, hid, hplace, hfind⟩ :=
    @evidenceByResumeId_eq candidate.resumeId lane.sha256 lane.sourcePlan lane.run lane.candidates
      ⟨candidate, h, rfl⟩
  refine ⟨position, last, _, hlast, ?_, hid, hplace, hfind, rfl⟩
  simp only [sourceEvidenceUpdates, evidenceUpdates, List.getElem?_map, List.getElem?_zipIdx, hlast,
    Option.map_some]
  rw [Nat.add_comm]

theorem laneCards_eq (lane : CardLane) :
    laneCards lane.candidates lane.sourceEvidenceUpdates = lane.candidates.map lane.cardOf := by
  have hone : ∀ pair ∈ lane.candidates.zipIdx 1,
      ((evidenceByResumeId lane.sourceEvidenceUpdates pair.1.resumeId).map fun evidence =>
        cardSummaryForCandidate pair.1 ((evidence.providerRank.filter (· ≠ 0)).getD pair.2)) =
      some (lane.cardOf pair.1) := by
    intro pair hpair
    obtain ⟨position, last, evidence, -, -, -, hplace, hfind, hrank⟩ :=
      exists_position (List.fst_mem_of_mem_zipIdx hpair)
    have hpositive : decide (((position + 1 : Nat) : Int) ≠ 0) = true := by
      simp only [decide_eq_true_eq]
      omega
    rw [hfind, Option.map_some, hrank, Option.filter_some, if_pos hpositive, cardOf, hplace]
    rfl
  unfold laneCards
  rw [List.filterMap_congr hone, List.filterMap_eq_map']
  conv_rhs => rw [← List.zipIdx_map_fst 1 lane.candidates, List.map_map]
  rfl

def recommended (lane : CardLane) : List LiepinCardDecision :=
  (buildLiepinCardDecisions lane.tables lane.input
    (laneCards lane.candidates lane.sourceEvidenceUpdates)
    lane.liepinMaxDetailRecommendations).filter (·.action = .recommendDetail)

theorem recommended_keys (lane : CardLane) :
    lane.recommended.map (fun decision =>
        (decision.candidateResumeId, decision.providerRank, decision.cardPolicyRank)) =
      (lane.chosen.zipIdx 1).map fun (candidate, rank) =>
        (candidate.resumeId, (lastPlace lane.candidates candidate.resumeId : Int), some rank) := by
  have hsorted : Py.sortedBy (·.providerRank) (lane.candidates.map lane.cardOf) =
      (Py.sortedBy (fun candidate => lastPlace lane.candidates candidate.resumeId)
        lane.candidates).map lane.cardOf := by
    refine (List.map_insertionSort _ _ lane.cardOf lane.candidates ?_).symm
    intro a _ b _
    exact Int.ofNat_le.symm
  have hpassing : ((lane.candidates.map lane.cardOf |> Py.sortedBy (·.providerRank)).filter
      fun card => Passes lane.tables lane.input card).take
        (lane.liepinMaxDetailRecommendations.toNat - 0) = lane.chosen.map lane.cardOf := by
    rw [hsorted, List.filter_map, ← List.map_take, Nat.sub_zero, chosen, Function.comp_def]
  unfold recommended buildLiepinCardDecisions
  rw [recommended_eq, laneCards_eq, hpassing, List.zipIdx_map, List.map_map]
  rfl

theorem recommended_ids (lane : CardLane) :
    lane.recommended.map (·.candidateResumeId) = lane.chosen.map (·.resumeId) := by
  have hids := congrArg (List.map Prod.fst) lane.recommended_keys
  simp only [List.map_map] at hids
  refine hids.trans ?_
  conv_rhs => rw [← List.zipIdx_map_fst 1 lane.chosen, List.map_map]
  rfl

theorem recommended_ranks (lane : CardLane) :
    lane.recommended.map (·.cardPolicyRank) =
      (List.range' 1 lane.recommended.length).map some := by
  have hranks := congrArg (List.map fun key => key.2.2) lane.recommended_keys
  have hlength := congrArg List.length lane.recommended_keys
  simp only [List.map_map, List.length_map, List.length_zipIdx] at hranks hlength
  refine hranks.trans ?_
  rw [hlength, ← List.zipIdx_map_snd 1 lane.chosen, List.map_map]
  rfl

theorem recommended_positions (lane : CardLane) :
    lane.recommended.map (fun decision => (decision.providerRank - 1).toNat) =
      lane.chosen.map fun candidate => lastPlace lane.candidates candidate.resumeId - 1 := by
  have hpositions := congrArg (List.map fun key => (key.2.1 - 1).toNat) lane.recommended_keys
  simp only [List.map_map] at hpositions
  refine hpositions.trans ?_
  conv_rhs => rw [← List.zipIdx_map_fst 1 lane.chosen, List.map_map]
  apply List.map_congr_left
  intro pair _
  show ((lastPlace lane.candidates pair.1.resumeId : Int) - 1).toNat =
    lastPlace lane.candidates pair.1.resumeId - 1
  omega

theorem mem_of_mem_chosen (h : candidate ∈ lane.chosen) : candidate ∈ lane.candidates :=
  Py.mem_sortedBy.mp (List.mem_of_mem_filter (List.mem_of_mem_take h))

theorem exists_candidate_of_recommended {decision : LiepinCardDecision}
    (h : decision ∈ lane.recommended) :
    ∃ candidate ∈ lane.candidates, decision.candidateResumeId = candidate.resumeId ∧
      decision.providerRank = lastPlace lane.candidates candidate.resumeId := by
  have hkey := List.mem_map_of_mem (f := fun decision : LiepinCardDecision =>
    (decision.candidateResumeId, decision.providerRank, decision.cardPolicyRank)) h
  rw [recommended_keys] at hkey
  obtain ⟨⟨candidate, rank⟩, hcandidate, hkey⟩ := List.mem_map.mp hkey
  obtain ⟨hid, hprovider, -⟩ := (Prod.ext_iff.trans (and_congr_right' Prod.ext_iff)).mp hkey
  exact ⟨candidate, mem_of_mem_chosen (List.fst_mem_of_mem_zipIdx hcandidate), hid.symm,
    hprovider.symm⟩

theorem exists_recommendation {decision : LiepinCardDecision} (h : decision ∈ lane.recommended) :
    ∃ recommendation,
      (do
        let candidate ← candidateByResumeId lane.candidates decision.candidateResumeId
        let evidence ← evidenceByResumeId lane.sourceEvidenceUpdates decision.candidateResumeId
        return detailRecommendation lane.sourcePlan.sourcePlanId lane.policyVersion candidate
          evidence decision) = some recommendation ∧
      (recommendation.candidateResumeId = decision.candidateResumeId ∧
        recommendation.cardPolicyRank = decision.cardPolicyRank) ∧
      lane.IsAt recommendation (decision.providerRank - 1).toNat := by
  obtain ⟨candidate, hcandidate, hid, hprovider⟩ := exists_candidate_of_recommended h
  obtain ⟨position, last, evidence, hlast, hupdate, hresume, hplace, hfind, hrank⟩ :=
    exists_position hcandidate
  obtain ⟨found, hfound⟩ : ∃ found, candidateByResumeId lane.candidates candidate.resumeId =
      some found := by
    apply Option.isSome_iff_exists.mp
    apply List.find?_isSome.mpr
    exact ⟨candidate, List.mem_reverse.mpr hcandidate, decide_eq_true rfl⟩
  have hfoundId : found.resumeId = candidate.resumeId := by
    simpa using List.find?_some hfound
  have hat : (decision.providerRank - 1).toNat = position := by
    omega
  refine ⟨detailRecommendation lane.sourcePlan.sourcePlanId lane.policyVersion found evidence
    decision, ?_, ⟨hfoundId.trans hid.symm, rfl⟩, ?_⟩
  · rw [hid, hfound, hfind]
    rfl
  · rw [hat]
    refine ⟨last, evidence, hlast, hupdate, hfoundId.trans hresume.symm, rfl, rfl, ?_, rfl, rfl⟩
    rw [hrank, ← hplace, ← hprovider]
    rfl

theorem exists_recommendations (lane : CardLane) :
    ∃ recommendations, lane.detailRecommendations = some recommendations ∧
      recommendations.map (·.candidateResumeId) = lane.chosen.map (·.resumeId) ∧
      recommendations.map (·.cardPolicyRank) =
        (List.range' 1 recommendations.length).map some ∧
      List.Forall₂ lane.IsAt recommendations
        (lane.chosen.map fun candidate => lastPlace lane.candidates candidate.resumeId - 1) := by
  obtain ⟨recommendations, hloop, hall⟩ :
      ∃ recommendations, lane.detailRecommendations = some recommendations ∧
        List.Forall₂ (fun decision recommendation =>
          (recommendation.candidateResumeId = decision.candidateResumeId ∧
          recommendation.cardPolicyRank = decision.cardPolicyRank) ∧
          lane.IsAt recommendation (decision.providerRank - 1).toNat)
          lane.recommended recommendations := by
    apply Loops.exists_some
    intro decision hdecision
    exact exists_recommendation hdecision
  refine ⟨recommendations, hloop, ?_, ?_, ?_⟩
  · rw [map_eq_of_forall₂ (hall.imp fun _ _ h => h.1.1), recommended_ids]
  · rw [map_eq_of_forall₂ (hall.imp fun _ _ h => h.1.2), recommended_ranks, hall.length_eq]
  · have hat : List.Forall₂ (flip lane.IsAt)
        (lane.recommended.map fun decision => (decision.providerRank - 1).toNat)
        recommendations :=
      List.forall₂_map_left_iff.mpr (hall.imp fun _ _ h => h.2)
    rw [recommended_positions] at hat
    exact hat.flip

theorem pairwise_positions (h : (lane.chosen.map (·.resumeId)).Nodup) :
    (lane.chosen.map fun candidate =>
      lastPlace lane.candidates candidate.resumeId - 1).Pairwise (· < ·) := by
  have hsorted : lane.chosen.Pairwise fun a b =>
      lastPlace lane.candidates a.resumeId ≤ lastPlace lane.candidates b.resumeId := by
    have hall : (Py.sortedBy (fun candidate => lastPlace lane.candidates candidate.resumeId)
        lane.candidates).Pairwise fun a b =>
          lastPlace lane.candidates a.resumeId ≤ lastPlace lane.candidates b.resumeId :=
      List.pairwise_insertionSort _ _
    exact (hall.filter _).sublist (List.take_sublist _ _)
  rw [List.pairwise_map]
  refine (hsorted.and (List.pairwise_map.mp h)).imp_of_mem ?_
  intro a b ha hb hab
  obtain ⟨hle, hne⟩ := hab
  obtain ⟨i, lastA, _, hlastA, -, hidA, hi, -⟩ := exists_position (mem_of_mem_chosen ha)
  obtain ⟨j, lastB, _, hlastB, -, hidB, hj, -⟩ := exists_position (mem_of_mem_chosen hb)
  have hij : i ≠ j := by
    rintro rfl
    obtain rfl := Option.some.inj (hlastA.symm.trans hlastB)
    exact hne (hidA.symm.trans hidB)
  omega

/-- **The lane.** For every search result: the recommendations are as they should be exactly if
    the budget is not negative and the chosen candidates are of different resumes. -/
theorem recommends_iff (lane : CardLane) :
    (∃ recommendations, lane.detailRecommendations = some recommendations ∧
        lane.Recommends recommendations) ↔
      0 ≤ lane.liepinMaxDetailRecommendations ∧ (lane.chosen.map (·.resumeId)).Nodup := by
  obtain ⟨recommendations, hsome, hids, hranks, hall⟩ := lane.exists_recommendations
  constructor
  · intro h
    obtain ⟨_, heq, hwell⟩ := h
    obtain rfl := Option.some.inj (hsome.symm.trans heq)
    refine ⟨(Int.natCast_nonneg _).trans hwell.within, ?_⟩
    rw [← hids]
    exact hwell.distinct
  · intro h
    obtain ⟨hbudget, hnodup⟩ := h
    refine ⟨recommendations, hsome, ?_, ?_, hranks, _, pairwise_positions hnodup, hall⟩
    · rw [hids]
      exact hnodup
    · have hlength := congrArg List.length hids
      simp only [chosen, List.length_map, List.length_take] at hlength
      omega

/-- One resume on two cards of a search for Python engineers. -/
def seenTwice : CardLane where
  sha256 := id
  tables := .ascii
  sourcePlan := ⟨"plan", "run"⟩
  run := ⟨"plan:lane:1", "2025-01-01"⟩
  input := ⟨["python", "backend"], "engineer"⟩
  liepinMaxCards := 30
  liepinMaxDetailRecommendations := 6
  policyVersion := "runtime_source_budget_v1"
  found :=
    [{ resumeId := "r1", dedupKey := "card-1", searchText := "python backend engineer" },
      { resumeId := "r1", dedupKey := "card-2", searchText := "python backend engineer" }]

/-- It is recommended twice, and with the evidence of the second card both times. -/
theorem not_recommends_seenTwice :
    seenTwice.detailRecommendations.map (·.map fun recommendation =>
      (recommendation.candidateResumeId, recommendation.cardPolicyRank,
        recommendation.providerRank)) = some [("r1", some 1, some 2), ("r1", some 2, some 2)] ∧
    ¬∃ recommendations, seenTwice.detailRecommendations = some recommendations ∧
      seenTwice.Recommends recommendations := by
  have hids : seenTwice.detailRecommendations.map (·.map (·.candidateResumeId)) =
      some ["r1", "r1"] := by
    decide
  refine ⟨by decide, ?_⟩
  intro h
  obtain ⟨recommendations, hsome, hwell⟩ := h
  rw [hsome] at hids
  have hdistinct := hwell.distinct
  have htwice : recommendations.map (·.candidateResumeId) = ["r1", "r1"] := Option.some.inj hids
  rw [htwice] at hdistinct
  simp at hdistinct

end CardLane

end Liepin

end SeekTalent

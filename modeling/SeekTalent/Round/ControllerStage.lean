import SeekTalent.Round.Ladder
import SeekTalent.Round.ReflectionTerms

/-!
# The controller's part of a round

Before each round the guidance is built that says whether the controller may stop: not before the
least number of rounds, always near the budget, and in between by the quality of the top pool. A
pool that is not good enough is let go only when no family is left and broadening was tried. The
rescue ladder comes in between: where a run does stop with such a pool, the ladder is used up, and
the anchor alone was searched in one of its rounds (`ladder_stop_spec`).

The language model is asked up to three times. What the controller returns is the first answer that
the round's own checks take (`decide_eq_ok_iff`).
-/

namespace SeekTalent

open Stateful (bind_eq_ok bind_eq_ok_iff)

/-! ## 1. The guidance -/

inductive TopPoolStrength where
  | empty
  | weak
  | usable
  | strong
  deriving DecidableEq

/-- The text of a strength. -/
def TopPoolStrength.value : TopPoolStrength → String
  | .empty => "empty"
  | .weak => "weak"
  | .usable => "usable"
  | .strong => "strong"

/-- `StopGuidance`, with what the controller's prompt shows of it. -/
structure ControllerStopGuidance extends StopGuidance where
  continueReasons : List String
  triedFamilies : List String
  untriedAdmittedFamilies : List String
  productiveRoundCount : Nat
  zeroGainRoundCount : Nat
  topPoolStrength : TopPoolStrength
  fitCount : Nat
  strongFitCount : Nat
  highRiskFitCount : Nat
  broadeningAttempted : Bool

/-- The settings of a run's length, within their bounds. -/
structure RoundBudget where
  minRounds : Nat
  maxRounds : Nat
  min_pos : 1 ≤ minRounds
  min_le_max : minRounds ≤ maxRounds
  max_le : maxRounds ≤ 10

/-- `ceil(max_rounds * 0.8)`; for no number of rounds up to ten does the product's rounding matter. -/
def RoundBudget.stopRound (budget : RoundBudget) : Nat := (4 * budget.maxRounds + 4) / 5

def STRONG_FIT_STOP_MIN : Nat := 3

def HIGH_RISK_FIT_THRESHOLD : Nat := 70

/-- What the guidance reads of a run. -/
structure StopInputs where
  topPool : List ScoredCandidate
  retrieval : RetrievalState
  /-- the rationale that is stored with a query that was sent -/
  rationale : SentQueryRecord → String
  /-- `unique_new_count` of the rounds that have an observation -/
  uniqueNewCounts : List Nat
  roundNo : Nat
  retrievalRoundsCompleted : Nat

def strongFitCandidates (topPool : List ScoredCandidate) : List ScoredCandidate :=
  topPool.filter fun item =>
    item.fitBucket = .fit ∧ 80 ≤ item.overallScore ∧ 70 ≤ item.mustHaveMatchScore ∧
      item.riskScore ≤ 30

def topPoolStrength (topPool : List ScoredCandidate) : TopPoolStrength :=
  if topPool = [] then .empty
  else if topPool.length < 5 ∨ ∀ item ∈ topPool, item.fitBucket ≠ .fit then .weak
  else if 10 ≤ topPool.length ∧ 5 ≤ (strongFitCandidates topPool).length then .strong
  else .usable

namespace StopInputs

variable (tables : Py.UnicodeTables) (inputs : StopInputs)

/-- The term of the pool that a term of a query stands for. -/
def candidate (term : String) : Option QueryTermCandidate :=
  inputs.retrieval.queryTermPool.reverse.find? fun item =>
    Reflection.termKey tables item.term = Reflection.termKey tables term

def triedFamilies : List String :=
  uniqueStrings tables (inputs.retrieval.sentQueryHistory.flatMap fun record =>
    record.queryTerms.filterMap fun term => (inputs.candidate tables term).map (·.family))

/-- `family_candidates`: of each family the first of its terms. -/
def familyCandidates : List QueryTermCandidate :=
  inputs.retrieval.queryTermPool.foldl (fun kept item =>
    if ¬item.active ∨ item.queryability ≠ .admitted ∨ isTitleAnchorRole item.retrievalRole ∨
        item.family ∈ inputs.triedFamilies tables ∨ item.family ∈ kept.map (·.family) then kept
    else kept ++ [item]) []

def untriedAdmittedFamilies : List String :=
  (Py.sortedBy Reflection.collectKey (inputs.familyCandidates tables)).map (·.family)

def broadeningAttempted : Bool :=
  inputs.retrieval.sentQueryHistory.any fun record =>
    Py.startsWith (inputs.rationale record) "Runtime broaden" ||
      match record.queryTerms.filterMap (inputs.candidate tables) with
      | [item] => item.queryability = .admitted && item.retrievalRole = .roleAnchor
      | _ => false

def productiveRoundCount : Nat := inputs.uniqueNewCounts.countP (0 < ·)

/-- What is made of a pool that is not good enough: the status, whether the run may stop, and why. -/
def lowQuality (untried exhausted broaden : String) : StopQualityGateStatus × Bool × String :=
  if inputs.untriedAdmittedFamilies tables ≠ [] then (.continueLowQuality, false, untried)
  else if inputs.broadeningAttempted tables then (.lowQualityExhausted, true, exhausted)
  else (.broadenRequired, false, broaden)

/-- The status, whether the run may stop, and the reason. -/
def verdict (budget : RoundBudget) : StopQualityGateStatus × Bool × String :=
  let strength := topPoolStrength inputs.topPool
  let strongFits := (strongFitCandidates inputs.topPool).length
  let round := toString inputs.roundNo
  let completed := toString inputs.retrievalRoundsCompleted
  if inputs.retrievalRoundsCompleted < budget.minRounds then
    (.pass, false,
      completed ++ " retrieval rounds completed; min_rounds is " ++ toString budget.minRounds ++ ".")
  else if budget.stopRound ≤ inputs.roundNo then
    (.budgetStopAllowed, true,
      "round " ++ round ++ " reached the " ++ toString budget.stopRound ++ "/" ++
        toString budget.maxRounds ++ " near-budget stop threshold.")
  else if strength = .empty ∨ strength = .weak then
    inputs.lowQuality tables "top pool is weak and admitted families remain untried."
      ("top pool is " ++ strength.value ++ ", but no admitted families remain untried.")
      ("top pool is " ++ strength.value ++ " and no active admitted families remain untried; " ++
        "one broaden round is required before stopping.")
  else if strength = .usable ∧ strongFits < STRONG_FIT_STOP_MIN then
    inputs.lowQuality tables
      ("top pool is usable but has only " ++ toString strongFits ++
        " strong-fit candidates; admitted families remain untried.")
      ("top pool is usable with only " ++ toString strongFits ++ " strong-fit candidates, " ++
        "but no admitted families remain untried.")
      ("top pool is usable but has only " ++ toString strongFits ++ " strong-fit candidates, " ++
        "and no active admitted families remain untried; " ++
        "one broaden round is required before stopping.")
  else if strength ≠ .strong ∧ inputs.productiveRoundCount < 2 ∧
      inputs.untriedAdmittedFamilies tables ≠ [] then
    (.continueLowQuality, false,
      "top pool is not strong, fewer than two rounds were productive, " ++
        "and admitted families remain untried.")
  else (.pass, true, "stop allowed by budget, coverage, and quality guidance.")

def buildStopGuidance (budget : RoundBudget) : ControllerStopGuidance :=
  let (qualityGateStatus, canStop, reason) := inputs.verdict tables budget
  let fits := inputs.topPool.filter (·.fitBucket = .fit)
  { canStop
    reason
    qualityGateStatus
    continueReasons := if canStop then [] else [reason]
    triedFamilies := inputs.triedFamilies tables
    untriedAdmittedFamilies := inputs.untriedAdmittedFamilies tables
    productiveRoundCount := inputs.productiveRoundCount
    zeroGainRoundCount := inputs.uniqueNewCounts.countP (· = 0)
    topPoolStrength := topPoolStrength inputs.topPool
    fitCount := fits.length
    strongFitCount := (strongFitCandidates inputs.topPool).length
    highRiskFitCount := fits.countP (HIGH_RISK_FIT_THRESHOLD ≤ ·.riskScore)
    broadeningAttempted := inputs.broadeningAttempted tables }

/-! ## 2. What it takes to stop -/

/-- The pool is good enough: enough strong fits, and rounds that found someone while families are
    left. -/
structure GoodEnough : Prop where
  strength : topPoolStrength inputs.topPool = .usable ∨ topPoolStrength inputs.topPool = .strong
  strongFits : topPoolStrength inputs.topPool = .usable →
    STRONG_FIT_STOP_MIN ≤ (strongFitCandidates inputs.topPool).length
  productive : topPoolStrength inputs.topPool = .strong ∨ 2 ≤ inputs.productiveRoundCount ∨
    inputs.untriedAdmittedFamilies tables = []

/-- No family is left, and broadening was tried. -/
structure Exhausted : Prop where
  untried : inputs.untriedAdmittedFamilies tables = []
  broadened : inputs.broadeningAttempted tables = true

/-- What lets a run stop. The status is the one of the rescue ladder only where nothing else does. -/
theorem verdict_spec (budget : RoundBudget) (h : (inputs.verdict tables budget).2.1 = true) :
    budget.minRounds ≤ inputs.retrievalRoundsCompleted ∧
      (budget.stopRound ≤ inputs.roundNo ∨ inputs.GoodEnough tables ∨
        inputs.Exhausted tables ∧
          needsRescue (inputs.verdict tables budget).1 = true) := by
  have hlow : ∀ untried exhausted broaden,
      (inputs.lowQuality tables untried exhausted broaden).2.1 = true →
        inputs.Exhausted tables ∧
          needsRescue (inputs.lowQuality tables untried exhausted broaden).1 = true := by
    intro untried exhausted broaden hstop
    unfold lowQuality at hstop ⊢
    split at hstop
    · cases hstop
    rename_i huntried
    split at hstop
    · rename_i hbroadened
      rw [if_neg huntried, if_pos hbroadened]
      exact ⟨⟨not_not.mp huntried, hbroadened⟩, rfl⟩
    · cases hstop
  unfold verdict at h ⊢
  dsimp only at h ⊢
  split at h
  · cases h
  rename_i hmin
  refine ⟨Nat.not_lt.mp hmin, ?_⟩
  rw [if_neg hmin]
  split at h
  · rename_i hbudget
    exact .inl hbudget
  rename_i hbudget
  rw [if_neg hbudget]
  split at h
  · rename_i hweak
    rw [if_pos hweak]
    exact .inr (.inr (hlow _ _ _ h))
  rename_i hweak
  rw [if_neg hweak]
  split at h
  · rename_i hfew
    rw [if_pos hfew]
    exact .inr (.inr (hlow _ _ _ h))
  rename_i hfew
  split at h
  · cases h
  rename_i hpass
  refine .inr (.inl ⟨?_, ?_, ?_⟩)
  · cases hstrength : topPoolStrength inputs.topPool <;> simp_all
  · intro husable
    by_contra hless
    exact hfew ⟨husable, Nat.not_le.mp hless⟩
  · by_contra hno
    simp only [not_or, Nat.not_le] at hno
    exact hpass hno

end StopInputs

/-! ## 3. Where a run stops -/

section Stops

variable {tables : Py.UnicodeTables} {r : LadderRound} {resolution : Resolution}
variable {stop : StopControllerDecision}

/-- Nothing of the rescue ladder is left. -/
structure LadderRound.UsedUp (tables : Py.UnicodeTables) (r : LadderRound) : Prop where
  reserve : untriedAdmittedNonAnchorReserve tables r.before = none
  anchorOnly : r.before.anchorOnlyBroadenAttempted = true
  feedback : r.inputs.candidateFeedbackEnabled = true →
    r.before.candidateFeedbackAttempted = true ∨ (feedbackSeeds r.inputs).length < 2 ∨
      (feedbackDecision tables r.inputs r.before).acceptedTerm = none

/-- **The ladder comes first**: a round that calls for it stops only when it is used up. -/
theorem LadderRound.usedUp_of_stop
    (hrescue : needsRescue r.inputs.stopGuidance.qualityGateStatus = true)
    (h : r.resolution tables = .ok resolution) (hstop : resolution.decision = .stop stop) :
    r.UsedUp tables := by
  unfold LadderRound.resolution resolveRoundDecision at h
  rw [if_pos hrescue] at h
  have hchosen := chosenLane_eq tables r.inputs r.before hrescue
  dsimp only at h
  split at hchosen
  · rw [hchosen] at h
    obtain ⟨⟨search, after⟩, -, hreturn⟩ := bind_eq_ok h
    obtain rfl := Except.ok.inj hreturn
    cases hstop
  rename_i hreserve
  have hreserve : untriedAdmittedNonAnchorReserve tables r.before = none := by simpa using hreserve
  split at hchosen
  · rename_i hopen
    rw [hchosen] at h
    dsimp only at h
    generalize hnoted : (chooseRescueDecision tables r.inputs r.before).2 = noted at h
    obtain ⟨lane, rfl⟩ : ∃ lane, noted = r.before.noteLane r.inputs.roundNo lane := ⟨_, hnoted.symm⟩
    cases haccepted : (feedbackDecision tables r.inputs r.before).acceptedTerm with
    | some accepted =>
      rw [← feedbackDecision_noteLane r.inputs.roundNo lane] at haccepted
      obtain ⟨-, -, search, hsearch⟩ := takeFeedback_ok haccepted h
      rw [hsearch] at hstop
      cases hstop
    | none =>
      rw [← feedbackDecision_noteLane r.inputs.roundNo lane] at haccepted
      obtain ⟨after, rescue, -, -, htake⟩ := takeFeedback_of_none
        (chooseRescueDecision tables r.inputs r.before).1 r.controller haccepted
      rw [htake] at h
      split at h
      · rename_i hattempted
        exact ⟨hreserve, hattempted, fun _ => .inr (.inr haccepted)⟩
      · obtain ⟨-, -, search, hsearch⟩ := takeAnchorOnly_ok h
        rw [hsearch] at hstop
        cases hstop
  rename_i hclosed
  split at hchosen
  · rw [hchosen] at h
    obtain ⟨-, -, search, hsearch⟩ := takeAnchorOnly_ok h
    rw [hsearch] at hstop
    cases hstop
  · rename_i hattempted
    refine ⟨hreserve, by simpa using hattempted, fun henabled => ?_⟩
    by_contra hno
    simp only [not_or, Nat.not_lt] at hno
    exact hclosed ⟨henabled, hno.1, decide_eq_true hno.2.1⟩

end Stops

/-! ## 4. Every run -/

/-- What the guidance reads after so many rounds. -/
def LadderRound.stopInputs (r : LadderRound) (rationale : SentQueryRecord → String)
    (uniqueNewCounts : List Nat) (completed : Nat) : StopInputs :=
  { topPool := r.inputs.runState.topCandidates
    retrieval := r.before
    rationale
    uniqueNewCounts
    roundNo := completed + 1
    retrievalRoundsCompleted := completed }

/-- One more round is left, and its guidance is the one that is built before it. -/
structure LadderRound.Guided (tables : Py.UnicodeTables) (budget : RoundBudget) (r : LadderRound)
    (stopInputs : StopInputs) : Prop where
  roundNo : r.inputs.roundNo = stopInputs.roundNo
  maxRounds : r.inputs.maxRounds = budget.maxRounds
  roundNo_le : stopInputs.roundNo ≤ budget.maxRounds
  guidance : r.inputs.stopGuidance = (stopInputs.buildStopGuidance tables budget).toStopGuidance

/-- **Why a run stops.** A stop is decided only after the least number of rounds. Then the budget is
    nearly used, or the top pool is good enough; or else no family is left, active or in reserve,
    the rescue ladder is used up, and exactly one of the rounds has searched the anchor alone. -/
theorem ladder_stop_spec (F : Type) [PyFloat F] (tables : Py.UnicodeTables) (budget : RoundBudget)
    (rounds : List LadderRound) (r : LadderRound) (rationale : SentQueryRecord → String)
    (uniqueNewCounts : List Nat) (h : RoundsRun F tables rounds r.before)
    (hguided : r.Guided tables budget (r.stopInputs rationale uniqueNewCounts rounds.length)) :
    let stopInputs := r.stopInputs rationale uniqueNewCounts rounds.length
    ∀ resolution stop, r.resolution tables = .ok resolution → resolution.decision = .stop stop →
      budget.minRounds ≤ rounds.length ∧
        (budget.stopRound ≤ rounds.length + 1 ∨ stopInputs.GoodEnough tables ∨
          stopInputs.Exhausted tables ∧ r.UsedUp tables ∧
            (rounds.flatMap (·.lanes tables)).count .anchorOnly = 1) := by
  intro stopInputs resolution stop hresolved hstop
  have hcanStop := (LadderRound.effect hresolved).stop stop hstop
  rw [hguided.guidance] at hcanStop
  obtain ⟨hmin, hwhy⟩ := stopInputs.verdict_spec tables budget hcanStop
  refine ⟨hmin, hwhy.imp id (Or.imp id ?_)⟩
  rintro ⟨hexhausted, hrescue⟩
  have hused := LadderRound.usedUp_of_stop (by rw [hguided.guidance]; exact hrescue) hresolved hstop
  refine ⟨hexhausted, hused, ?_⟩
  rw [h.invariant.anchorOnly, hused.anchorOnly]
  rfl

def twoRounds : RoundBudget := ⟨1, 2, by decide, by decide, by decide⟩

/-- The last of two rounds, after one that was broadened. -/
def lastRound : LadderRound :=
  let r : LadderRound :=
    { inputs := { firstRound with roundNo := 2, maxRounds := 2 }
      controller := stopDecision
      before := afterTokio }
  let guidance := (r.stopInputs (fun _ => "") [0] 1).buildStopGuidance .ascii twoRounds
  { r with inputs := { r.inputs with stopGuidance := guidance.toStopGuidance } }

theorem ladder_stop_spec_lastRound :
    (lastRound.resolution .ascii).map (·.decision) = .ok stopDecision ∧
    ∀ resolution stop, lastRound.resolution .ascii = .ok resolution →
      resolution.decision = .stop stop → twoRounds.minRounds ≤ 1 ∧
        (twoRounds.stopRound ≤ 2 ∨ (lastRound.stopInputs (fun _ => "") [0] 1).GoodEnough .ascii ∨
          (lastRound.stopInputs (fun _ => "") [0] 1).Exhausted .ascii ∧ lastRound.UsedUp .ascii ∧
            ([broadenRound twoReserves].flatMap (·.lanes .ascii)).count .anchorOnly = 1) :=
  ⟨by decide +kernel,
    ladder_stop_spec Rat .ascii twoRounds [broadenRound twoReserves] lastRound (fun _ => "") [0]
      roundsRun_afterTokio ⟨rfl, rfl, by decide, rfl⟩⟩

/-! ## 5. The answers of the model -/

/-- What the calls of the language model answer, or raise. -/
structure ControllerModel where
  first : Except String ControllerDecision
  repair : ControllerDecision → String → Except String ControllerDecision
  again : Except String ControllerDecision

section Answers

variable (tables : Py.UnicodeTables) (inputs : RoundInputs) (retrieval : RetrievalState)

def validateResponse (decision : ControllerDecision) : Option String :=
  if inputs.previousReflection.isSome ∧ Py.strip (decision.responseToReflection.getD "") = "" then
    some "response_to_reflection is required when previous_reflection exists."
  else none

def validateControllerDecision (decision : ControllerDecision) : Option String :=
  match decision with
  | .stop _ => validateResponse inputs decision
  | .search search =>
    if search.proposedQueryTerms = [] then
      some "proposed_query_terms must contain at least one term."
    else match canonicalizeControllerQueryTerms tables
        { allowedInactiveNonAnchorTerms :=
            reflectionBackedInactiveTerms tables inputs.previousReflection }
        search.proposedQueryTerms inputs.roundNo retrieval.queryTermPool with
      | .error reason => some reason
      | .ok _ => validateResponse inputs decision

/-- The answer, unless the check finds something. -/
def acceptOr (answer : ControllerDecision)
    (refused : String → Except String ControllerDecision) : Except String ControllerDecision :=
  match validateControllerDecision tables inputs retrieval answer with
  | none => .ok answer
  | some reason => refused reason

/-- One repair, then one full retry. -/
def ReActController.decide (model : ControllerModel) : Except String ControllerDecision := do
  let decision ← model.first
  acceptOr tables inputs retrieval decision fun reason => do
    let repaired ← model.repair decision reason
    acceptOr tables inputs retrieval repaired fun _ => do
      let retried ← model.again
      acceptOr tables inputs retrieval retried .error

/-- The checks of the round take the decision. -/
def TakenByRound (decision : ControllerDecision) : Prop :=
  ∃ sanitized, sanitizeControllerDecision tables inputs retrieval decision = .ok sanitized

variable {tables inputs retrieval}

/-- **The two checks agree.** -/
theorem validate_eq_none_iff {decision : ControllerDecision} :
    validateControllerDecision tables inputs retrieval decision = none ↔
      TakenByRound tables inputs retrieval decision := by
  unfold TakenByRound sanitizeControllerDecision validateControllerDecision validateResponse
  cases decision with
  | stop decision =>
    dsimp only
    split <;> simp
  | search search =>
    dsimp only
    split
    · rename_i hempty
      -- the round's check has no case of its own for a query without terms
      rw [hempty]
      split <;> simp [canonicalizeControllerQueryTerms, uniqueStrings, uniqueStringsFrom]
    · generalize canonicalizeControllerQueryTerms tables _ search.proposedQueryTerms
        inputs.roundNo retrieval.queryTermPool = canonical
      cases canonical with
      | error reason =>
        constructor
        · intro h
          cases h
        · intro h
          obtain ⟨sanitized, h⟩ := h
          split at h <;> cases h
      | ok terms =>
        dsimp only
        split <;> simp [pure, Except.pure, bind, Except.bind]

theorem acceptOr_eq_ok_iff {answer decision : ControllerDecision}
    {refused : String → Except String ControllerDecision} :
    acceptOr tables inputs retrieval answer refused = .ok decision ↔
      TakenByRound tables inputs retrieval answer ∧ answer = decision ∨
      ¬TakenByRound tables inputs retrieval answer ∧
        ∃ reason, validateControllerDecision tables inputs retrieval answer = some reason ∧
          refused reason = .ok decision := by
  unfold acceptOr
  rw [← validate_eq_none_iff]
  cases validateControllerDecision tables inputs retrieval answer <;> simp

end Answers

/-- **What the controller returns** is the first answer that the round takes: the model's own, its
    repair for the reason that was found, or that of a second call. -/
theorem decide_eq_ok_iff (tables : Py.UnicodeTables) (inputs : RoundInputs)
    (retrieval : RetrievalState) (model : ControllerModel) (decision : ControllerDecision) :
    ReActController.decide tables inputs retrieval model = .ok decision ↔
      TakenByRound tables inputs retrieval decision ∧
        (model.first = .ok decision ∨
          ∃ first reason, model.first = .ok first ∧
            validateControllerDecision tables inputs retrieval first = some reason ∧
            (model.repair first reason = .ok decision ∨
              ∃ repaired, model.repair first reason = .ok repaired ∧
                ¬TakenByRound tables inputs retrieval repaired ∧ model.again = .ok decision)) := by
  unfold ReActController.decide
  simp only [bind_eq_ok_iff, acceptOr_eq_ok_iff]
  constructor
  · rintro ⟨first, hfirst, ⟨htaken, rfl⟩ | ⟨-, reason, hreason, repaired, hrepaired,
      ⟨htaken, rfl⟩ | ⟨hrefused, -, -, retried, hretried, ⟨htaken, rfl⟩ | ⟨-, _, -, h⟩⟩⟩⟩
    · exact ⟨htaken, .inl hfirst⟩
    · exact ⟨htaken, .inr ⟨first, reason, hfirst, hreason, .inl hrepaired⟩⟩
    · exact ⟨htaken, .inr ⟨first, reason, hfirst, hreason,
        .inr ⟨repaired, hrepaired, hrefused, hretried⟩⟩⟩
    · cases h
  · have hrefused : ∀ {answer reason},
        validateControllerDecision tables inputs retrieval answer = some reason →
          ¬TakenByRound tables inputs retrieval answer := by
      intro answer reason h
      rw [← validate_eq_none_iff, h]
      nofun
    rintro ⟨htaken, hfirst | ⟨first, reason, hfirst, hreason, hrepaired | ⟨repaired, hrepaired,
      hnot, hretried⟩⟩⟩
    · exact ⟨decision, hfirst, .inl ⟨htaken, rfl⟩⟩
    · exact ⟨first, hfirst, .inr ⟨hrefused hreason, reason, hreason, decision, hrepaired,
        .inl ⟨htaken, rfl⟩⟩⟩
    · obtain ⟨reason', hreason'⟩ : ∃ reason',
          validateControllerDecision tables inputs retrieval repaired = some reason' := by
        rw [← Option.ne_none_iff_exists']
        exact fun h => hnot (validate_eq_none_iff.mp h)
      exact ⟨first, hfirst, .inr ⟨hrefused hreason, reason, hreason, repaired, hrepaired,
        .inr ⟨hnot, reason', hreason', decision, hretried, .inl ⟨htaken, rfl⟩⟩⟩⟩

end SeekTalent

import Mathlib.Data.Rat.Defs
import Mathlib.Algebra.Order.Ring.Rat

/-!
# The plan of detail openings

`build_detail_open_plan` goes through the card candidates once and spends what the day's
budget has left. Scores are rationals.
-/

namespace SeekTalent

inductive DetailPlanAction where
  | openDetail
  | cardOnly
  deriving DecidableEq

structure LiepinCardCandidate where
  candidateId : String
  stableProviderId : Option String := none
  weakFingerprint : Option String := none
  cardValueScore : Rat
  detailUrl : Option String := none

structure LiepinDetailPlanDecision where
  candidateId : String
  action : DetailPlanAction
  reason : String

/-- What the plan is made from, apart from the candidates. -/
structure DetailPlanInput where
  alreadyOpenedProviderIds : List String := []
  dailyDetailBudget : Int
  consumedDetailBudget : Int
  minCardValueScore : Rat := 0

/-- Whether a candidate's details are opened, and why; `usedBudget` is what the day and the
    decisions before have used. A weak fingerprint that was seen changes neither. -/
def decideDetail (input : DetailPlanInput) (usedBudget : Int) (candidate : LiepinCardCandidate) :
    DetailPlanAction × String :=
  if (candidate.stableProviderId.filter (· ≠ "")).any (· ∈ input.alreadyOpenedProviderIds) then
    (.cardOnly, "stable_provider_id_already_opened")
  else if candidate.cardValueScore < input.minCardValueScore then (.cardOnly, "low_card_value")
  else if input.dailyDetailBudget ≤ usedBudget then (.cardOnly, "detail_budget_exhausted")
  else (.openDetail, "detail_budget_available")

def detailDecisions (input : DetailPlanInput) (usedBudget : Int) :
    List LiepinCardCandidate → List LiepinDetailPlanDecision
  | [] => []
  | candidate :: rest =>
    let decision := decideDetail input usedBudget candidate
    ⟨candidate.candidateId, decision.1, decision.2⟩ ::
      detailDecisions input
        (if decision.1 = .openDetail then usedBudget + 1 else usedBudget) rest

def buildDetailOpenPlan (input : DetailPlanInput) (candidates : List LiepinCardCandidate) :
    Except String (List LiepinDetailPlanDecision) :=
  if input.dailyDetailBudget < 0 then .error "daily_detail_budget must be >= 0"
  else if input.consumedDetailBudget < 0 then .error "consumed_detail_budget must be >= 0"
  else .ok (detailDecisions input input.consumedDetailBudget candidates)

def openings (decisions : List LiepinDetailPlanDecision) : List LiepinDetailPlanDecision :=
  decisions.filter (·.action = .openDetail)

variable {input : DetailPlanInput} {candidates : List LiepinCardCandidate}

theorem decideDetail_openDetail {usedBudget : Int} {candidate : LiepinCardCandidate}
    (h : (decideDetail input usedBudget candidate).1 = .openDetail) :
    usedBudget < input.dailyDetailBudget := by
  unfold decideDetail at h
  split at h
  · cases h
  · split at h
    · cases h
    · split at h
      · cases h
      · rename_i hbudget
        exact not_le.mp hbudget

theorem openings_detailDecisions_le {usedBudget : Int} (h : usedBudget ≤ input.dailyDetailBudget) :
    ((openings (detailDecisions input usedBudget candidates)).length : Int) ≤
      input.dailyDetailBudget - usedBudget := by
  induction candidates generalizing usedBudget with
  | nil =>
    show (0 : Int) ≤ _
    omega
  | cons candidate rest ih =>
    unfold detailDecisions openings
    by_cases hopen : (decideDetail input usedBudget candidate).1 = .openDetail
    · have hlt := decideDetail_openDetail hopen
      have hrest := @ih (usedBudget + 1) (by omega)
      simp only [hopen, if_true, List.filter_cons, decide_true, List.length_cons]
      unfold openings at hrest
      push_cast
      omega
    · have hrest := ih h
      simp only [hopen, if_false, List.filter_cons, decide_false, Bool.false_eq_true]
      unfold openings at hrest
      exact hrest

/-- **A plan opens no more than the day has left.** -/
theorem openings_buildDetailOpenPlan_le {decisions : List LiepinDetailPlanDecision}
    (h : buildDetailOpenPlan input candidates = .ok decisions) :
    ((openings decisions).length : Int) ≤
      max 0 (input.dailyDetailBudget - input.consumedDetailBudget) := by
  unfold buildDetailOpenPlan at h
  split at h
  · cases h
  · split at h
    · cases h
    · obtain rfl := Except.ok.inj h
      by_cases hle : input.consumedDetailBudget ≤ input.dailyDetailBudget
      · exact (openings_detailDecisions_le hle).trans (le_max_right _ _)
      · -- nothing is left, so nothing is opened
        have hnone : ∀ {usedBudget : Int} {candidates : List LiepinCardCandidate},
            ¬usedBudget ≤ input.dailyDetailBudget →
              openings (detailDecisions input usedBudget candidates) = [] := by
          intro usedBudget candidates
          induction candidates with
          | nil => exact fun _ => rfl
          | cons candidate rest ih =>
            intro hover
            unfold detailDecisions openings
            by_cases hopen : (decideDetail input usedBudget candidate).1 = .openDetail
            · exact absurd (decideDetail_openDetail hopen).le hover
            · simp only [hopen, if_false, List.filter_cons, decide_false, Bool.false_eq_true]
              exact ih hover
        rw [hnone hle]
        exact le_max_left _ _

/-! ## What a plan opens -/

def LiepinCardCandidate.providerId (candidate : LiepinCardCandidate) : Option String :=
  candidate.stableProviderId.filter (· ≠ "")

/-- A candidate that is worth opening and was not opened before the plan. -/
def Eligible (input : DetailPlanInput) (candidate : LiepinCardCandidate) : Prop :=
  candidate.providerId.any (· ∈ input.alreadyOpenedProviderIds) = false ∧
    input.minCardValueScore ≤ candidate.cardValueScore

instance (input : DetailPlanInput) (candidate : LiepinCardCandidate) :
    Decidable (Eligible input candidate) :=
  inferInstanceAs (Decidable (_ ∧ _))

def openedCandidates (candidates : List LiepinCardCandidate)
    (decisions : List LiepinDetailPlanDecision) : List LiepinCardCandidate :=
  ((candidates.zip decisions).filter (·.2.action = .openDetail)).map (·.1)

def DetailPlanInput.remaining (input : DetailPlanInput) : Nat :=
  (input.dailyDetailBudget - input.consumedDetailBudget).toNat

/-- A plan stays within the budget, opens no provider id twice and none that was opened, and
    refuses for the budget only where its openings have used what was left. -/
structure SpendsWell (input : DetailPlanInput) (candidates : List LiepinCardCandidate)
    (decisions : List LiepinDetailPlanDecision) : Prop where
  within : (openings decisions).length ≤ input.remaining
  once : ((openedCandidates candidates decisions).filterMap (·.providerId)).Nodup
  notOpened : ∀ candidate ∈ openedCandidates candidates decisions, ∀ id,
    candidate.providerId = some id → id ∉ input.alreadyOpenedProviderIds
  refused : ∀ before decision after, decisions = before ++ decision :: after →
    decision.reason = "detail_budget_exhausted" → (openings before).length = input.remaining

section Plan

variable {usedBudget : Int} {candidate : LiepinCardCandidate}
variable {decisions : List LiepinDetailPlanDecision}

theorem decideDetail_cases (input : DetailPlanInput) (usedBudget : Int)
    (candidate : LiepinCardCandidate) :
    ¬Eligible input candidate ∧ (decideDetail input usedBudget candidate).1 = .cardOnly ∧
        (decideDetail input usedBudget candidate).2 ≠ "detail_budget_exhausted" ∨
      Eligible input candidate ∧ input.dailyDetailBudget ≤ usedBudget ∧
        decideDetail input usedBudget candidate = (.cardOnly, "detail_budget_exhausted") ∨
      Eligible input candidate ∧ usedBudget < input.dailyDetailBudget ∧
        decideDetail input usedBudget candidate = (.openDetail, "detail_budget_available") := by
  unfold decideDetail
  split
  · rename_i hopened
    refine .inl ⟨fun h => ?_, rfl, by simp⟩
    exact absurd (h.1.symm.trans hopened) (by simp)
  · rename_i hopened
    have hnew : candidate.providerId.any (· ∈ input.alreadyOpenedProviderIds) = false :=
      Bool.eq_false_iff.mpr hopened
    split
    · rename_i hlow
      exact .inl ⟨fun h => absurd h.2 (not_le.mpr hlow), rfl, by simp⟩
    · rename_i hvalue
      have heligible : Eligible input candidate := ⟨hnew, not_lt.mp hvalue⟩
      split
      · rename_i hbudget
        exact .inr (.inl ⟨heligible, hbudget, rfl⟩)
      · rename_i hbudget
        exact .inr (.inr ⟨heligible, not_le.mp hbudget, rfl⟩)

theorem openedCandidates_eq :
    openedCandidates candidates (detailDecisions input usedBudget candidates) =
      (candidates.filter (Eligible input ·)).take (input.dailyDetailBudget - usedBudget).toNat := by
  induction candidates generalizing usedBudget with
  | nil => simp [openedCandidates]
  | cons candidate rest ih =>
    have hrest : ∀ usedBudget,
        ((rest.zip (detailDecisions input usedBudget rest)).filter
          (·.2.action = .openDetail)).map (·.1) =
        (rest.filter (Eligible input ·)).take (input.dailyDetailBudget - usedBudget).toNat :=
      fun usedBudget => ih
    unfold detailDecisions openedCandidates
    rcases decideDetail_cases input usedBudget candidate with
      ⟨hnot, haction, -⟩ | ⟨heligible, hover, hdecide⟩ | ⟨heligible, hleft, hdecide⟩
    · simp [haction, hnot, hrest]
    · have hnone : (input.dailyDetailBudget - usedBudget).toNat = 0 := by omega
      simp [hdecide, hrest, hnone]
    · have hone : (input.dailyDetailBudget - usedBudget).toNat =
          (input.dailyDetailBudget - (usedBudget + 1)).toNat + 1 := by omega
      simp [hdecide, heligible, hrest, hone]

theorem openings_of_exhausted {before after : List LiepinDetailPlanDecision}
    {decision : LiepinDetailPlanDecision}
    (h : detailDecisions input usedBudget candidates = before ++ decision :: after)
    (hreason : decision.reason = "detail_budget_exhausted") :
    (openings before).length = (input.dailyDetailBudget - usedBudget).toNat := by
  induction candidates generalizing usedBudget before with
  | nil => simp [detailDecisions] at h
  | cons candidate rest ih =>
    unfold detailDecisions at h
    cases before with
    | nil =>
      obtain ⟨rfl, -⟩ := List.cons.inj h
      rcases decideDetail_cases input usedBudget candidate with
        ⟨-, -, hother⟩ | ⟨-, hover, -⟩ | ⟨-, -, hdecide⟩
      · exact absurd hreason hother
      · show 0 = _
        omega
      · rw [hdecide] at hreason
        simp at hreason
    | cons first before =>
      obtain ⟨rfl, hrest⟩ := List.cons.inj h
      have hbefore := ih hrest
      unfold openings at hbefore ⊢
      rcases decideDetail_cases input usedBudget candidate with
        ⟨-, haction, -⟩ | ⟨-, -, hdecide⟩ | ⟨-, hleft, hdecide⟩
      · simpa [haction] using hbefore
      · simpa [hdecide] using hbefore
      · simp only [hdecide, if_true] at hbefore
        simp only [hdecide, List.filter_cons, decide_true, if_true, List.length_cons, hbefore]
        omega

theorem spendsWell_iff_nodup (h : buildDetailOpenPlan input candidates = .ok decisions) :
    SpendsWell input candidates decisions ↔
      (((candidates.filter (Eligible input ·)).take input.remaining).filterMap
        (·.providerId)).Nodup := by
  have hwithin := openings_buildDetailOpenPlan_le h
  unfold buildDetailOpenPlan at h
  split at h
  · cases h
  · split at h
    · cases h
    · obtain rfl := Except.ok.inj h
      have hopened := @openedCandidates_eq input candidates input.consumedDetailBudget
      constructor
      · intro hwell
        have honce := hwell.once
        rw [hopened] at honce
        exact honce
      · intro hnodup
        refine ⟨?_, ?_, ?_, ?_⟩
        · unfold DetailPlanInput.remaining
          omega
        · rw [hopened]
          exact hnodup
        · intro candidate hcandidate id hid hmem
          rw [hopened] at hcandidate
          have heligible := List.mem_filter.mp (List.mem_of_mem_take hcandidate)
          have hnew := (of_decide_eq_true heligible.2).1
          rw [hid] at hnew
          simp [hmem] at hnew
        · intro before decision after hsplit hreason
          exact openings_of_exhausted hsplit hreason

end Plan

/-- **The plan.** For all candidates and budgets that are not refused: the plan spends well exactly
    if, of the candidates that are worth opening and were not opened before, the first ones, as
    many as the day has left, have provider ids of their own. -/
theorem spendsWell_iff (input : DetailPlanInput) (candidates : List LiepinCardCandidate) :
    (∀ decisions, buildDetailOpenPlan input candidates = .ok decisions →
        SpendsWell input candidates decisions) ↔
      input.dailyDetailBudget < 0 ∨ input.consumedDetailBudget < 0 ∨
        (((candidates.filter (Eligible input ·)).take input.remaining).filterMap
          (·.providerId)).Nodup := by
  by_cases hdaily : input.dailyDetailBudget < 0
  · simp [buildDetailOpenPlan, hdaily]
  · by_cases hconsumed : input.consumedDetailBudget < 0
    · simp [buildDetailOpenPlan, hdaily, hconsumed]
    · have hplan : buildDetailOpenPlan input candidates =
          .ok (detailDecisions input input.consumedDetailBudget candidates) := by
        simp [buildDetailOpenPlan, hdaily, hconsumed]
      simp only [hdaily, hconsumed, false_or]
      constructor
      · intro h
        exact (spendsWell_iff_nodup hplan).mp (h _ hplan)
      · intro hnodup decisions hdecisions
        exact (spendsWell_iff_nodup hdecisions).mpr hnodup

def shownTwice : List LiepinCardCandidate :=
  [{ candidateId := "card-1", stableProviderId := some "p1", cardValueScore := 1 },
    { candidateId := "card-2", stableProviderId := some "p1", cardValueScore := 1 },
    { candidateId := "card-3", stableProviderId := some "p2", cardValueScore := 1 }]

/-- The person is opened twice, and nothing is left for the other one. -/
theorem not_spendsWell_shownTwice :
    ∃ decisions, buildDetailOpenPlan { dailyDetailBudget := 2, consumedDetailBudget := 0 }
        shownTwice = .ok decisions ∧
      (openedCandidates shownTwice decisions).map (·.stableProviderId) = [some "p1", some "p1"] ∧
      ¬SpendsWell { dailyDetailBudget := 2, consumedDetailBudget := 0 } shownTwice decisions := by
  refine ⟨_, rfl, by decide, ?_⟩
  rw [spendsWell_iff_nodup rfl]
  decide

end SeekTalent

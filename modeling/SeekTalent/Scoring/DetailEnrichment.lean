import SeekTalent.Base.Run
import SeekTalent.Identity.Stores
import SeekTalent.Liepin.LaneEvidence
import SeekTalent.Scoring.ScoreRound

/-!
# Approved details of a finished run

`apply_approved_detail_lane_to_run_async` applies a detail lane's result to a finalized run,
scores what has no scorecard yet and makes a new finalization revision. A resume that has a
scorecard is not scored and not normalized again. So when the details replace the candidate
of a scored card, scorecard and normalized resume remain those of the card
(`scoredCard_stale`); `basedOnCurrentData_iff` says when the revision is based on current
data.
-/

namespace SeekTalent

inductive RuntimeSourceLaneMode where
  | card
  | detail
  deriving DecidableEq

structure RuntimeSourceLaneRequest where
  source : RuntimeSourceKind
  laneMode : RuntimeSourceLaneMode
  runtimeRunId : Option String := none

/-- What a run leaves behind. Its candidate store and normalized store are those of the run
    state. -/
structure RunArtifacts where
  runId : String
  runState : Option RunState := none
  finalizationRevision : Option RuntimeFinalizationRevision := none

structure RuntimeDetailEnrichmentResult where
  runtimeRunId : String
  baseFinalizationRevision : Int
  laneResult : RuntimeSourceLaneResult
  finalizationRevision : RuntimeFinalizationRevision
  deriving DecidableEq

/-- A `RunStageError`, or what the lane raises. -/
inductive EnrichmentError where
  | stage (stage message : String)
  | lane (message : String)
  deriving DecidableEq

theorem perm_contexts (contexts : List (String × NormalizedResume)) :
    (id contexts).Perm contexts := .refl contexts

structure ResumeScorer where
  /-- `_score_one`: the scorecard of a resume, unless its scoring fails -/
  scoreOne : String × NormalizedResume → Option ScoredCandidate
  resumeId_scoreOne : ∀ context card, scoreOne context = some card → card.resumeId = context.1
  /-- the order in which the workers get done -/
  completionOrder : List (String × NormalizedResume) → List (String × NormalizedResume) := id
  perm_completionOrder : ∀ contexts, (completionOrder contexts).Perm contexts := by
    exact perm_contexts

/-- `score_candidates_parallel`, with the message that the failures lead to. -/
def ResumeScorer.scoreCandidatesParallel (scorer : ResumeScorer)
    (contexts : List (String × NormalizedResume)) : Except String (List ScoredCandidate) :=
  let finished := scorer.completionOrder contexts
  let failures := finished.filter fun context => (scorer.scoreOne context).isNone
  if failures = [] then .ok (finished.filterMap scorer.scoreOne)
  else .error ("Scoring failed for " ++ toString failures.length ++ " resume(s): " ++
    Py.join ", " (failures.map Prod.fst) ++ ".")

/-- The arguments of a call, and what the coroutines that it awaits do. -/
structure DetailEnrichmentCall where
  sha256 : String → String
  tables : Py.UnicodeTables
  maxRounds : Int
  baseFinalizationRevision : Int
  detailLaneRequest : RuntimeSourceLaneRequest
  /-- `run_source_lane_async` -/
  runSourceLane : RuntimeSourceLaneRequest → Except String RuntimeSourceLaneResult
  normalizeResume : ResumeCandidate → NormalizedResume
  resumeScorer : ResumeScorer
  createdAt : String

/-! ## 1. The call -/

/-- `{source: index for index, source in enumerate(sources)}` -/
def sourceOrderOf (sources : List RuntimeSourceKind) : SourceOrder := fun source =>
  (sources.zipIdx.reverse.find? (·.1 = source)).map fun entry => (entry.2 : Int)

/-- `revision.selected_source_kinds or ("cts", "liepin")` -/
def selectedSources (revision : RuntimeFinalizationRevision) : List RuntimeSourceKind :=
  if revision.selectedSourceKinds = [] then [.cts, .liepin] else revision.selectedSourceKinds

def RunState.unscoredCandidates (state : RunState) : List ResumeCandidate :=
  (state.seenResumeIds.filter (· ∉ state.scorecardsByResumeId.map (·.resumeId))).filterMap
    state.candidateStore

namespace DetailEnrichmentCall

variable (call : DetailEnrichmentCall)

/-- The checks at the start: the run state and the revision to build on. -/
def checkBase (base : RunArtifacts) :
    Except EnrichmentError (RunState × RuntimeFinalizationRevision) :=
  match base.runState, base.finalizationRevision with
  | none, _ => .error (.stage "source_lanes" "Approved detail enrichment requires base run state.")
  | some _, none =>
    .error (.stage "source_lanes" "Approved detail enrichment requires base finalization revision.")
  | some state, some revision =>
    if revision.revision ≠ call.baseFinalizationRevision then
      .error (.stage "source_lanes"
        "Approved detail enrichment received stale base finalization revision.")
    else if call.detailLaneRequest.source ≠ .liepin ∨ call.detailLaneRequest.laneMode ≠ .detail then
      .error (.stage "source_lanes"
        "Approved detail enrichment requires a Liepin detail lane request.")
    else if call.detailLaneRequest.runtimeRunId.any (· ≠ base.runId) then
      .error (.stage "source_lanes" "Approved detail lease is bound to a different runtime run.")
    else .ok (state, revision)

def scoreCall (newCandidates : List ResumeCandidate) : ScoreCall :=
  { roundNo := max 1 (call.maxRounds + call.baseFinalizationRevision + 1)
    newCandidates
    normalizeResume := call.normalizeResume
    scoreCandidatesParallel := call.resumeScorer.scoreCandidatesParallel }

/-- `_score_round`, if there is anything to score. -/
def scoreUnscored (state : RunState) : Except String Unit × RunState :=
  if state.unscoredCandidates = [] then (.ok (), state)
  else
    let (scores, scored) := scoreRound (call.scoreCall state.unscoredCandidates) state
    (scores.map fun _ => (), scored)

def newRevision (base : RunArtifacts) (revision : RuntimeFinalizationRevision) (state : RunState)
    (pool : List ScoredCandidate) : RuntimeFinalizationRevision :=
  { revision := call.baseFinalizationRevision + 1
    runtimeRunId := base.runId
    reasonCode := "detail_enrichment_applied"
    selectedSourceKinds := selectedSources revision
    candidateIdentityIds := pool.map fun candidate =>
      (state.identityOf candidate.resumeId).getD candidate.resumeId
    createdAt := some call.createdAt }

/-- What is done with the lane's result: the state it leaves, and the new revision unless the
    scoring fails. -/
def enrich (base : RunArtifacts) (state : RunState) (revision : RuntimeFinalizationRevision)
    (laneResult : RuntimeSourceLaneResult) :
    Except EnrichmentError RuntimeDetailEnrichmentResult × RunArtifacts :=
  let applied := state.applySourceLaneResult call.sha256 call.tables
    (sourceOrderOf (selectedSources revision)) laneResult
  match call.scoreUnscored applied with
  | (.error message, scored) =>
    (.error (.stage "scoring" message), { base with runState := some scored })
  | (.ok (), scored) =>
    let (pooled, pool) := scored.applyIdentityTopPool
    let finalizationRevision := call.newRevision base revision pooled pool
    (.ok
      { runtimeRunId := base.runId
        baseFinalizationRevision := call.baseFinalizationRevision
        laneResult
        finalizationRevision },
      { base with
        runState := some
          { pooled with
            finalizationRevisions := pooled.finalizationRevisions ++ [finalizationRevision] }
        finalizationRevision := some finalizationRevision })

/-- `apply_approved_detail_lane_to_run_async`, with the artifacts it leaves. -/
def applyApprovedDetailLaneToRun (base : RunArtifacts) :
    Except EnrichmentError RuntimeDetailEnrichmentResult × RunArtifacts :=
  match call.checkBase base with
  | .error e => (.error e, base)
  | .ok (state, revision) =>
    match call.runSourceLane call.detailLaneRequest with
    | .error message => (.error (.lane message), base)
    | .ok laneResult => call.enrich base state revision laneResult

end DetailEnrichmentCall

/-! ## 2. What the scoring leaves -/

section Scoring

variable {state : RunState} {resumeId : String} {candidate : ResumeCandidate}
variable {candidates : List ResumeCandidate} {scored seenIds : List String}
variable {card : ScoredCandidate} {cards : List ScoredCandidate}

theorem mem_buildScoringPoolFrom (h : candidate ∈ buildScoringPoolFrom scored seenIds candidates) :
    candidate ∈ candidates ∧ candidate.resumeId ∉ scored ∧ candidate.resumeId ∉ seenIds := by
  induction candidates generalizing seenIds with
  | nil => simp [buildScoringPoolFrom] at h
  | cons first rest ih =>
    unfold buildScoringPoolFrom at h
    split at h
    · obtain ⟨hmem, hnew⟩ := ih h
      exact ⟨List.mem_cons_of_mem _ hmem, hnew⟩
    · rename_i hfirst
      rcases List.mem_cons.mp h with rfl | h
      · exact ⟨List.mem_cons_self, fun hs => hfirst (.inr hs), fun hs => hfirst (.inl hs)⟩
      · obtain ⟨hmem, hscored, hseen⟩ := ih h
        exact ⟨List.mem_cons_of_mem _ hmem, hscored, fun hs => hseen (List.mem_cons_of_mem _ hs)⟩

theorem resumeId_mem_buildScoringPoolFrom (hmem : resumeId ∈ candidates.map (·.resumeId))
    (hscored : resumeId ∉ scored) (hseen : resumeId ∉ seenIds) :
    resumeId ∈ (buildScoringPoolFrom scored seenIds candidates).map (·.resumeId) := by
  induction candidates generalizing seenIds with
  | nil => simp at hmem
  | cons first rest ih =>
    rw [List.map_cons, List.mem_cons] at hmem
    unfold buildScoringPoolFrom
    split
    · rename_i hfirst
      apply ih _ hseen
      refine hmem.resolve_left ?_
      rintro rfl
      exact hfirst.elim hseen hscored
    · rw [List.map_cons, List.mem_cons]
      by_cases heq : resumeId = first.resumeId
      · exact .inl heq
      · exact .inr (ih (hmem.resolve_left heq) (by simp [heq, hseen]))

theorem foldl_storeNormalized_at (state : RunState) {entries : List (String × NormalizedResume)}
    {normalized : NormalizedResume} (h : ∀ entry ∈ entries, entry.1 = resumeId →
      entry.2 = normalized) :
    (entries.foldl RunState.storeNormalized state).normalizedStore resumeId =
      if resumeId ∈ entries.map Prod.fst then some normalized
      else state.normalizedStore resumeId := by
  induction entries generalizing state with
  | nil => rfl
  | cons entry entries ih =>
    obtain ⟨hentry, hentries⟩ := List.forall_mem_cons.mp h
    have hstep : (state.storeNormalized entry).normalizedStore resumeId =
        if resumeId = entry.1 then some entry.2 else state.normalizedStore resumeId :=
      Function.update_apply _ _ _ _
    show (entries.foldl RunState.storeNormalized (state.storeNormalized entry)).normalizedStore
      resumeId = _
    rw [ih _ hentries, hstep, List.map_cons]
    by_cases hin : resumeId ∈ entries.map Prod.fst
    · rw [if_pos hin, if_pos (List.mem_cons_of_mem _ hin)]
    · rw [if_neg hin]
      by_cases heq : resumeId = entry.1
      · rw [if_pos heq, if_pos (heq ▸ List.mem_cons_self), hentry heq.symm]
      · rw [if_neg heq, if_neg (by simp [heq, hin])]

theorem scorecard_eq_none_iff : state.scorecard resumeId = none ↔
    resumeId ∉ state.scorecardsByResumeId.map (·.resumeId) := by
  simp [RunState.scorecard, Table.lookup]

theorem scorecard_addScorecard : (state.addScorecard card).scorecard resumeId =
    (state.scorecard resumeId).or (if card.resumeId = resumeId then some card else none) := by
  unfold RunState.addScorecard
  split
  · rename_i hold
    by_cases heq : card.resumeId = resumeId
    · -- the resume has a scorecard, and it stays
      obtain ⟨old, hmem, hid⟩ := List.mem_map.mp hold
      rw [scorecard_eq_some_iff.mpr ⟨hmem, hid.trans heq⟩]
      rfl
    · simp [heq]
  · show Table.lookup _ (state.scorecardsByResumeId ++ [card]) resumeId = _
    unfold Table.lookup RunState.scorecard Table.lookup
    rw [List.find?_append]
    by_cases heq : card.resumeId = resumeId <;> simp [heq]

theorem scorecard_addScorecards : (cards.foldl RunState.addScorecard state).scorecard resumeId =
    (state.scorecard resumeId).or (cards.find? (·.resumeId = resumeId)) := by
  induction cards generalizing state with
  | nil => simp
  | cons card cards ih =>
    show (cards.foldl RunState.addScorecard (state.addScorecard card)).scorecard resumeId = _
    rw [ih, scorecard_addScorecard, Option.or_assoc, List.find?_cons]
    by_cases heq : card.resumeId = resumeId <;> simp [heq]

theorem addScorecards_normalizedStore :
    (cards.foldl RunState.addScorecard state).normalizedStore = state.normalizedStore := by
  induction cards generalizing state with
  | nil => rfl
  | cons card cards ih =>
    refine ih.trans ?_
    unfold RunState.addScorecard
    split <;> rfl

theorem scoreCandidatesParallel_spec {scorer : ResumeScorer}
    {contexts : List (String × NormalizedResume)}
    (h : scorer.scoreCandidatesParallel contexts = .ok cards) :
    (∀ context ∈ contexts, ∃ card ∈ cards, scorer.scoreOne context = some card) ∧
    ∀ card ∈ cards, ∃ context ∈ contexts, scorer.scoreOne context = some card := by
  unfold ResumeScorer.scoreCandidatesParallel at h
  dsimp only at h
  have hmem : ∀ context, context ∈ scorer.completionOrder contexts ↔ context ∈ contexts :=
    fun context => (scorer.perm_completionOrder contexts).mem_iff
  split at h
  · rename_i hnone
    obtain rfl := Except.ok.inj h
    constructor
    · intro context hcontext
      have hfinished := (hmem context).mpr hcontext
      have hsome := List.filter_eq_nil_iff.mp hnone context hfinished
      obtain ⟨card, hcard⟩ := Option.ne_none_iff_exists'.mp (by simpa using hsome)
      exact ⟨card, List.mem_filterMap.mpr ⟨context, hfinished, hcard⟩, hcard⟩
    · intro card hcard
      obtain ⟨context, hcontext, hscore⟩ := List.mem_filterMap.mp hcard
      exact ⟨context, (hmem context).mp hcontext, hscore⟩
  · cases h

def ScoreCall.contexts (call : ScoreCall) (state : RunState) : List (String × NormalizedResume) :=
  (buildScoringPool call.newCandidates state.scorecardsByResumeId).map fun candidate =>
    (candidate.resumeId, call.normalizeResume candidate)

theorem scoreRound_stores {call : ScoreCall} {scores : RoundScores} {final : RunState}
    (h : scoreRound call state = (.ok scores, final)) :
    ∃ cards, (if call.contexts state = [] then .ok []
        else call.scoreCandidatesParallel (call.contexts state)) = .ok cards ∧
      final.normalizedStore =
        ((call.contexts state).foldl RunState.storeNormalized state).normalizedStore ∧
      ∀ resumeId, final.scorecard resumeId =
        (state.scorecard resumeId).or (cards.find? (·.resumeId = resumeId)) := by
  cases hcards : (if call.contexts state = [] then .ok []
      else call.scoreCandidatesParallel (call.contexts state) : Except String _) with
  | error message =>
    unfold ScoreCall.contexts at hcards
    unfold scoreRound at h
    dsimp only at h
    rw [hcards] at h
    cases h
  | ok cards =>
    have hscored := hcards
    unfold ScoreCall.contexts at hscored
    unfold scoreRound at h
    dsimp only at h
    rw [hscored] at h
    obtain ⟨-, rfl⟩ := Prod.mk.inj h
    have hkept : ∀ resumeId, ((call.contexts state).foldl RunState.storeNormalized state).scorecard
        resumeId = state.scorecard resumeId := by
      intro resumeId
      unfold RunState.scorecard
      rw [(storeNormalized_keeps state (call.contexts state)).1]
    refine ⟨cards, rfl, addScorecards_normalizedStore, fun resumeId => ?_⟩
    rw [← hkept]
    exact scorecard_addScorecards

end Scoring

/-! ## 3. Current data -/

/-- The store has every candidate under its own resume id. -/
def KeyedByResumeId (candidateStore : String → Option ResumeCandidate) : Prop :=
  ∀ resumeId candidate, candidateStore resumeId = some candidate → candidate.resumeId = resumeId

/-- The lane's result replaces the candidate of the resume id by this one. -/
def ReplacedBy (state : RunState) (result : RuntimeSourceLaneResult) (resumeId : String)
    (candidate : ResumeCandidate) : Prop :=
  result.status ≠ .blocked ∧ state.candidateStore resumeId ≠ none ∧
    lastUpdate result.candidateStoreUpdates resumeId = some candidate

namespace DetailEnrichmentCall

variable (call : DetailEnrichmentCall)

/-- The normalized resume and the scorecard are the ones that this candidate gets. -/
def ComputedFrom (candidate : ResumeCandidate) (resumeId : String)
    (normalized : Option NormalizedResume) (scorecard : Option ScoredCandidate) : Prop :=
  normalized = some (call.normalizeResume candidate) ∧
  scorecard ≠ none ∧
  scorecard = call.resumeScorer.scoreOne (resumeId, call.normalizeResume candidate)

instance (candidate : ResumeCandidate) (resumeId : String) (normalized : Option NormalizedResume)
    (scorecard : Option ScoredCandidate) :
    Decidable (call.ComputedFrom candidate resumeId normalized scorecard) :=
  inferInstanceAs (Decidable (_ ∧ _ ∧ _))

/-- For every resume whose candidate was replaced, scorecard and normalized resume are those
    of the new candidate. -/
def BasedOnCurrentData (base after : RunArtifacts) (result : RuntimeSourceLaneResult) : Prop :=
  ∀ state final, base.runState = some state → after.runState = some final →
    ∀ resumeId candidate, ReplacedBy state result resumeId candidate →
      call.ComputedFrom candidate resumeId (final.normalizedStore resumeId)
        (final.scorecard resumeId)

/-- A resume whose candidate is replaced has no scorecard, or the scorecard it has and the
    normalized resume that is stored or comes with the result are those of the new candidate. -/
def NothingStale (base : RunArtifacts) (result : RuntimeSourceLaneResult) : Prop :=
  ∀ state, base.runState = some state →
    ∀ resumeId candidate, ReplacedBy state result resumeId candidate →
      state.scorecard resumeId = none ∨
      call.ComputedFrom candidate resumeId
        ((lastUpdate result.normalizedStoreUpdates resumeId).or (state.normalizedStore resumeId))
        (state.scorecard resumeId)

section Current

variable {call} {state final : RunState} {base after : RunArtifacts} {resumeId : String}
variable {candidate : ResumeCandidate} {enrichment : RuntimeDetailEnrichmentResult}
variable {sha256 : String → String} {tables : Py.UnicodeTables} {sourceOrder : SourceOrder}
variable {result : RuntimeSourceLaneResult}

theorem mem_unscoredCandidates : candidate ∈ state.unscoredCandidates ↔
    ∃ resumeId ∈ state.seenResumeIds, state.scorecard resumeId = none ∧
      state.candidateStore resumeId = some candidate := by
  unfold RunState.unscoredCandidates
  rw [List.mem_filterMap]
  constructor
  · intro h
    obtain ⟨resumeId, hid, hcandidate⟩ := h
    obtain ⟨hseen, hnew⟩ := List.mem_filter.mp hid
    exact ⟨resumeId, hseen, scorecard_eq_none_iff.mpr (by simpa using hnew), hcandidate⟩
  · intro h
    obtain ⟨resumeId, hseen, hnew, hcandidate⟩ := h
    refine ⟨resumeId, List.mem_filter.mpr ⟨hseen, ?_⟩, hcandidate⟩
    exact decide_eq_true (scorecard_eq_none_iff.mp hnew)

/-- **A round over what has no scorecard**: a seen resume without one gets everything that
    its candidate leads to, and one with a scorecard keeps what it has. -/
theorem scoreRound_unscored_at {scores : RoundScores}
    (hkeyed : KeyedByResumeId state.candidateStore)
    (hround : scoreRound (call.scoreCall state.unscoredCandidates) state = (.ok scores, final))
    (hseen : resumeId ∈ state.seenResumeIds)
    (hcandidate : state.candidateStore resumeId = some candidate) :
    (state.scorecard resumeId = none → call.ComputedFrom candidate resumeId
      (final.normalizedStore resumeId) (final.scorecard resumeId)) ∧
    (state.scorecard resumeId ≠ none →
      final.normalizedStore resumeId = state.normalizedStore resumeId ∧
      final.scorecard resumeId = state.scorecard resumeId) := by
  obtain ⟨cards, hcards, hnormalized, hscorecard⟩ := scoreRound_stores hround
  have hunscored : state.scorecard resumeId = none → candidate ∈ state.unscoredCandidates :=
    fun hnone => mem_unscoredCandidates.mpr ⟨resumeId, hseen, hnone, hcandidate⟩
  have hid := hkeyed _ _ hcandidate
  -- the only context of the resume is that of its candidate
  have hcontext : ∀ context ∈ (call.scoreCall state.unscoredCandidates).contexts state,
      context.1 = resumeId → context = (resumeId, call.normalizeResume candidate) := by
    intro context hmem hfirst
    obtain ⟨pooled, hpooled, rfl⟩ := List.mem_map.mp hmem
    obtain ⟨id, -, -, hstored⟩ :=
      mem_unscoredCandidates.mp (mem_buildScoringPoolFrom hpooled).1
    obtain rfl : id = resumeId := (hkeyed _ _ hstored).symm.trans hfirst
    obtain rfl := Option.some.inj (hstored.symm.trans hcandidate)
    exact Prod.ext hfirst rfl
  have hat := foldl_storeNormalized_at state fun context hmem hfirst =>
    congrArg Prod.snd (hcontext context hmem hfirst)
  rw [hnormalized, hscorecard, hat]
  constructor
  · intro hnone
    have hin : resumeId ∈ ((call.scoreCall state.unscoredCandidates).contexts state).map
        Prod.fst := by
      unfold ScoreCall.contexts
      rw [List.map_map]
      exact resumeId_mem_buildScoringPoolFrom
        (List.mem_map.mpr ⟨candidate, hunscored hnone, hid⟩) (scorecard_eq_none_iff.mp hnone)
        List.not_mem_nil
    have hsome : (call.scoreCall state.unscoredCandidates).contexts state ≠ [] := by
      intro hnil
      simp [hnil] at hin
    rw [if_neg hsome] at hcards
    obtain ⟨hall, honly⟩ := scoreCandidatesParallel_spec hcards
    obtain ⟨context, hmem, hfirst⟩ := List.mem_map.mp hin
    obtain rfl := hcontext context hmem hfirst
    obtain ⟨card, hcard, hscore⟩ := hall _ hmem
    rw [if_pos hin, hnone, Option.none_or]
    have hfound : cards.find? (·.resumeId = resumeId) = some card := by
      cases hfind : cards.find? (·.resumeId = resumeId) with
      | none =>
        have hother := List.find?_eq_none.mp hfind card hcard
        exact absurd (call.resumeScorer.resumeId_scoreOne _ _ hscore) (by simpa using hother)
      | some found =>
        have hresume : found.resumeId = resumeId := by simpa using List.find?_some hfind
        obtain ⟨context, hmem, hscore'⟩ := honly found (List.mem_of_find?_eq_some hfind)
        obtain rfl := hcontext context hmem
          ((call.resumeScorer.resumeId_scoreOne _ _ hscore').symm.trans hresume)
        rw [← hscore, hscore']
    rw [hfound]
    exact ⟨rfl, by simp, hscore.symm⟩
  · intro hsome
    have hout : resumeId ∉ ((call.scoreCall state.unscoredCandidates).contexts state).map
        Prod.fst := by
      intro hin
      obtain ⟨context, hmem, hfirst⟩ := List.mem_map.mp hin
      obtain ⟨pooled, hpooled, rfl⟩ := List.mem_map.mp hmem
      have hnew := (mem_buildScoringPoolFrom hpooled).2.1
      have hfirst : pooled.resumeId = resumeId := hfirst
      rw [hfirst] at hnew
      exact hsome (scorecard_eq_none_iff.mpr hnew)
    rw [if_neg hout]
    exact ⟨rfl, Option.or_of_isSome (Option.isSome_iff_ne_none.mpr hsome)⟩

/-- **The scoring of a state**, with or without anything to score. -/
theorem scoreUnscored_at (hkeyed : KeyedByResumeId state.candidateStore)
    (h : call.scoreUnscored state = (.ok (), final)) (hseen : resumeId ∈ state.seenResumeIds)
    (hcandidate : state.candidateStore resumeId = some candidate) :
    (state.scorecard resumeId = none → call.ComputedFrom candidate resumeId
      (final.normalizedStore resumeId) (final.scorecard resumeId)) ∧
    (state.scorecard resumeId ≠ none →
      final.normalizedStore resumeId = state.normalizedStore resumeId ∧
      final.scorecard resumeId = state.scorecard resumeId) := by
  unfold scoreUnscored at h
  split at h
  · rename_i hnothing
    obtain ⟨-, rfl⟩ := Prod.mk.inj h
    refine ⟨fun hnone => ?_, fun _ => ⟨rfl, rfl⟩⟩
    have hunscored : candidate ∈ state.unscoredCandidates :=
      mem_unscoredCandidates.mpr ⟨resumeId, hseen, hnone, hcandidate⟩
    rw [hnothing] at hunscored
    exact absurd hunscored List.not_mem_nil
  · cases hround : scoreRound (call.scoreCall state.unscoredCandidates) state with
    | mk scores scored =>
      rw [hround] at h
      obtain ⟨hscores, rfl⟩ := Prod.mk.inj h
      obtain ⟨scores, rfl, -⟩ := Stateful.map_eq_ok hscores
      exact scoreRound_unscored_at hkeyed hround hseen hcandidate

theorem applySourceLaneResult_scorecard :
    (state.applySourceLaneResult sha256 tables sourceOrder result).scorecard resumeId =
      state.scorecard resumeId := by
  have hcards : (state.applySourceLaneResult sha256 tables sourceOrder
      result).scorecardsByResumeId = state.scorecardsByResumeId := by
    unfold RunState.applySourceLaneResult
    split
    · rfl
    · exact store_scorecards
  unfold RunState.scorecard
  rw [hcards]

theorem checkBase_eq_ok {revision : RuntimeFinalizationRevision}
    (h : call.checkBase base = .ok (state, revision)) : base.runState = some state := by
  unfold checkBase at h
  split at h
  · cases h
  · cases h
  · rename_i hstate hrevision
    split at h
    · cases h
    · split at h
      · cases h
      · split at h
        · cases h
        · obtain ⟨rfl, rfl⟩ := Prod.mk.inj (Except.ok.inj h)
          exact hstate

theorem applyIdentityTopPool_stores :
    state.applyIdentityTopPool.1.normalizedStore = state.normalizedStore ∧
    state.applyIdentityTopPool.1.scorecardsByResumeId = state.scorecardsByResumeId := by
  unfold RunState.applyIdentityTopPool
  split <;> exact ⟨rfl, rfl⟩

/-- **A call that returns**: the lane's result is applied, what is unscored is scored, and the
    stores stay as the scoring left them. -/
theorem applyApprovedDetailLaneToRun_eq_ok
    (h : call.applyApprovedDetailLaneToRun base = (.ok enrichment, after)) :
    ∃ state scored final sourceOrder, base.runState = some state ∧
      call.scoreUnscored (state.applySourceLaneResult call.sha256 call.tables sourceOrder
        enrichment.laneResult) = (.ok (), scored) ∧
      after.runState = some final ∧ final.normalizedStore = scored.normalizedStore ∧
      final.scorecardsByResumeId = scored.scorecardsByResumeId := by
  unfold applyApprovedDetailLaneToRun at h
  split at h
  · cases (Prod.mk.inj h).1
  · rename_i state revision hbase
    split at h
    · cases (Prod.mk.inj h).1
    · rename_i laneResult hlane
      unfold enrich at h
      dsimp only at h
      split at h
      · cases (Prod.mk.inj h).1
      · rename_i scored hscored
        obtain ⟨henrichment, rfl⟩ := Prod.mk.inj h
        obtain rfl := Except.ok.inj henrichment
        obtain ⟨hnormalized, hcards⟩ := @applyIdentityTopPool_stores scored
        exact ⟨state, scored, _, _, checkBase_eq_ok hbase, hscored, rfl, hnormalized, hcards⟩

/-- **The revision is based on current data** if and only if nothing that the details replace
    has been scored before from other data. -/
theorem basedOnCurrentData_iff (call : DetailEnrichmentCall) (base after : RunArtifacts)
    (enrichment : RuntimeDetailEnrichmentResult)
    (happly : call.applyApprovedDetailLaneToRun base = (.ok enrichment, after))
    (hkeyed : ∀ state, base.runState = some state → KeyedByResumeId state.candidateStore)
    (hupdates : ∀ update ∈ enrichment.laneResult.candidateStoreUpdates,
      update.2.resumeId = update.1) :
    call.BasedOnCurrentData base after enrichment.laneResult ↔
      call.NothingStale base enrichment.laneResult := by
  obtain ⟨state, scored, final, sourceOrder, hbase, hscored, hfinal, hnormalized, hcards⟩ :=
    applyApprovedDetailLaneToRun_eq_ok happly
  have hone : ∀ resumeId candidate, ReplacedBy state enrichment.laneResult resumeId candidate →
      (call.ComputedFrom candidate resumeId (final.normalizedStore resumeId)
          (final.scorecard resumeId) ↔
        state.scorecard resumeId = none ∨ call.ComputedFrom candidate resumeId
          ((lastUpdate enrichment.laneResult.normalizedStoreUpdates resumeId).or
            (state.normalizedStore resumeId)) (state.scorecard resumeId)) := by
    intro resumeId candidate hreplaced
    obtain ⟨hstatus, -, hupdate⟩ := hreplaced
    have happlied : state.applySourceLaneResult call.sha256 call.tables sourceOrder
        enrichment.laneResult = (state.store sourceOrder enrichment.laneResult).rebuildIdentityState
          call.sha256 call.tables sourceOrder := if_neg hstatus
    rw [happlied] at hscored
    have hkeyed' : KeyedByResumeId
        (state.store sourceOrder enrichment.laneResult).candidateStore := by
      intro id stored hstored
      rw [store_at.1] at hstored
      rcases Option.or_eq_some_iff.mp hstored with hlast | ⟨-, hold⟩
      · obtain ⟨update, hfound, rfl⟩ := Option.map_eq_some_iff.mp hlast
        have hid : update.1 = id := by simpa using List.find?_some hfound
        exact (hupdates update (List.mem_reverse.mp (List.mem_of_find?_eq_some hfound))).trans hid
      · exact hkeyed state hbase id stored hold
    have hseen : resumeId ∈ (state.store sourceOrder enrichment.laneResult).seenResumeIds := by
      rw [store_at.2.1]
      right
      by_contra hout
      rw [lastUpdate_eq_none hout] at hupdate
      cases hupdate
    have hcandidate : (state.store sourceOrder enrichment.laneResult).candidateStore resumeId =
        some candidate := by
      rw [store_at.1, hupdate, Option.some_or]
    have hat := @scoreUnscored_at call ((state.store sourceOrder
      enrichment.laneResult).rebuildIdentityState call.sha256 call.tables sourceOrder) scored resumeId
      candidate hkeyed' hscored hseen hcandidate
    have hscorecard : ((state.store sourceOrder enrichment.laneResult).rebuildIdentityState
        call.sha256 call.tables sourceOrder).scorecard resumeId = state.scorecard resumeId := by
      rw [← happlied]
      exact applySourceLaneResult_scorecard
    have hstored : ((state.store sourceOrder enrichment.laneResult).rebuildIdentityState
        call.sha256 call.tables sourceOrder).normalizedStore resumeId =
          (lastUpdate enrichment.laneResult.normalizedStoreUpdates resumeId).or
            (state.normalizedStore resumeId) := store_at.2.2.1
    have hfinalCard : final.scorecard resumeId = scored.scorecard resumeId := by
      unfold RunState.scorecard
      rw [hcards]
    rw [hscorecard, hstored] at hat
    rw [hnormalized, hfinalCard]
    by_cases hnone : state.scorecard resumeId = none
    · simp only [hnone, true_or, iff_true]
      exact hat.1 hnone
    · obtain ⟨hsame, hcard⟩ := hat.2 hnone
      rw [hsame, hcard]
      simp [hnone]
  constructor
  · intro h state' hstate' resumeId candidate hreplaced
    obtain rfl := Option.some.inj (hbase.symm.trans hstate')
    exact (hone resumeId candidate hreplaced).mp
      (h state final hbase hfinal resumeId candidate hreplaced)
  · intro h state' final' hstate' hfinal' resumeId candidate hreplaced
    obtain rfl := Option.some.inj (hbase.symm.trans hstate')
    obtain rfl := Option.some.inj (hfinal.symm.trans hfinal')
    exact (hone resumeId candidate hreplaced).mpr (h state hbase resumeId candidate hreplaced)

end Current

end DetailEnrichmentCall

/-! ## 4. A scored card -/

/-- Details are more complete than cards, and the score says how complete a resume is. -/
def sampleEnrichment (laneResult : RuntimeSourceLaneResult) : DetailEnrichmentCall :=
  { sha256 := sampleKeySha256
    tables := .ascii
    maxRounds := 3
    baseFinalizationRevision := 1
    detailLaneRequest := { source := .liepin, laneMode := .detail }
    runSourceLane := fun _ => .ok laneResult
    normalizeResume := fun candidate =>
      { completenessScore := if candidate.raw.scoreEvidenceSource = some "card_only" then 40 else 95 }
    resumeScorer :=
      { scoreOne := fun context => some
          { resumeId := context.1, fitBucket := .fit, overallScore := context.2.completenessScore
            mustHaveMatchScore := 80, riskScore := 10 }
        resumeId_scoreOne := by
          intro context card h
          rw [← Option.some.inj h] }
    createdAt := "2025-01-03" }

def scoredCards (lanes : CardThenDetail) : RunArtifacts :=
  { runId := "run"
    runState := some
      ((sampleEnrichment lanes.detailResult).scoreUnscored lanes.afterCards).2
    finalizationRevision := some
      { revision := 1, runtimeRunId := "run", reasonCode := "source_lanes_completed" } }

/-- The details of a scored card replace its candidate, and nothing else. -/
theorem scoredCard_stale :
    ((sampleEnrichment (cardThenDetail {}).detailResult).applyApprovedDetailLaneToRun
      (scoredCards (cardThenDetail {}))).1.isOk = true ∧
    ¬(sampleEnrichment (cardThenDetail {}).detailResult).BasedOnCurrentData
      (scoredCards (cardThenDetail {}))
      ((sampleEnrichment (cardThenDetail {}).detailResult).applyApprovedDetailLaneToRun
        (scoredCards (cardThenDetail {}))).2 (cardThenDetail {}).detailResult := by
  refine ⟨by decide, fun h => ?_⟩
  have hstale := h _ _ rfl rfl "s1" _ ⟨by decide, by decide, rfl⟩
  revert hstale
  decide

/-- A run that has seen a card and not scored it. -/
def unscoredCard : RunArtifacts :=
  { runId := "run"
    runState := some
      { seenResumeIds := ["s1"]
        candidateStore := fun id =>
          if id = "s1" then (cardThenDetail {}).cards.candidates.head? else none }
    finalizationRevision := some
      { revision := 1, runtimeRunId := "run", reasonCode := "source_lanes_completed" } }

def unscoredEnrichment : RuntimeDetailEnrichmentResult :=
  { runtimeRunId := "run"
    baseFinalizationRevision := 1
    laneResult := (cardThenDetail {}).detailResult
    finalizationRevision :=
      { revision := 2
        runtimeRunId := "run"
        reasonCode := "detail_enrichment_applied"
        selectedSourceKinds := [.cts, .liepin]
        candidateIdentityIds := ["identity-3a36fe260f7ccff1"]
        createdAt := some "2025-01-03" } }

theorem basedOnCurrentData_iff_unscoredCard :
    (sampleEnrichment (cardThenDetail {}).detailResult).BasedOnCurrentData unscoredCard
        ((sampleEnrichment (cardThenDetail {}).detailResult).applyApprovedDetailLaneToRun
          unscoredCard).2 (cardThenDetail {}).detailResult ↔
      (sampleEnrichment (cardThenDetail {}).detailResult).NothingStale unscoredCard
        (cardThenDetail {}).detailResult := by
  have hok : ((sampleEnrichment (cardThenDetail {}).detailResult).applyApprovedDetailLaneToRun
      unscoredCard).1 = .ok unscoredEnrichment := by
    decide
  refine DetailEnrichmentCall.basedOnCurrentData_iff _ _ _ unscoredEnrichment (Prod.ext hok rfl) ?_
    (by decide)
  intro state hstate id candidate hcandidate
  obtain rfl := Option.some.inj hstate
  by_cases hid : id = "s1"
  · subst hid
    obtain rfl := Option.some.inj hcandidate
    rfl
  · simp [hid] at hcandidate

end SeekTalent

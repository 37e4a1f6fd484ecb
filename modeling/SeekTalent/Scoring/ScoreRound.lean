import SeekTalent.Base.Best
import SeekTalent.Identity.TopPool

/-!
# Scoring a round

`score_round` scores the candidates that have no scorecard yet, ranks all scorecards and
keeps the first `TOP_K` as the pool. A scorecard is written once and never again, and no two
scorecards rank alike, so the pool is always the best of a list that only grows.
-/

namespace SeekTalent

inductive PoolDecisionType where
  | retained
  | selected
  | dropped

structure PoolDecision where
  resumeId : String
  roundNo : Int
  decision : PoolDecisionType
  rankInRound : Nat
  reasonsForSelection : List String := []
  reasonsForRejection : List String := []
  comparedAgainstPoolSummary : String

theorem perm_id (ids : List String) : (id ids).Perm ids := .refl ids

/-- The arguments of a `score_round` call that scoring depends on. -/
structure ScoreCall where
  roundNo : Int
  newCandidates : List ResumeCandidate
  normalizeResume : ResumeCandidate → NormalizedResume
  /-- what `score_candidates_parallel` returns: the scored candidates in the order they came
      in, or the message of the failures -/
  scoreCandidatesParallel :
    List (String × NormalizedResume) → Except String (List ScoredCandidate)
  /-- the order in which a set of resume ids is iterated -/
  idOrder : List String → List String := id
  perm_idOrder : ∀ ids, (idOrder ids).Perm ids := by exact perm_id

/-! ## 1. The pool that is scored -/

/-- The loop of `build_scoring_pool`. -/
def buildScoringPoolFrom (scored seenIds : List String) :
    List ResumeCandidate → List ResumeCandidate
  | [] => []
  | candidate :: rest =>
    if candidate.resumeId ∈ seenIds ∨ candidate.resumeId ∈ scored then
      buildScoringPoolFrom scored seenIds rest
    else candidate :: buildScoringPoolFrom scored (candidate.resumeId :: seenIds) rest

def buildScoringPool (newCandidates : List ResumeCandidate)
    (scorecardsByResumeId : List ScoredCandidate) : List ResumeCandidate :=
  buildScoringPoolFrom (scorecardsByResumeId.map (·.resumeId)) [] newCandidates

namespace RunState

/-- `normalized_store[resume_id] = normalized` -/
def storeNormalized (state : RunState) (entry : String × NormalizedResume) : RunState :=
  { state with normalizedStore := Function.update state.normalizedStore entry.1 (some entry.2) }

def addScorecard (state : RunState) (card : ScoredCandidate) : RunState :=
  if h : card.resumeId ∈ state.scorecardsByResumeId.map (·.resumeId) then state
  else
    { state with
      scorecardsByResumeId := state.scorecardsByResumeId ++ [card]
      nodup_scorecards := by
        rw [List.map_append, List.map_singleton]
        exact state.nodup_scorecards.append (List.nodup_singleton _) (by simpa using h) }

/-- `sorted(scorecards_by_resume_id.values(), key=scored_candidate_sort_key)[:TOP_K]` -/
def currentTopCandidates (state : RunState) : List ScoredCandidate :=
  Py.best scoredCandidateSortKey topK state.scorecardsByResumeId

end RunState

/-! ## 2. The decisions on the pool -/

def keepDecision (roundNo : Int) (previousTopIds : List String) (rank : Nat)
    (candidate : ScoredCandidate) : PoolDecision :=
  { resumeId := candidate.resumeId
    roundNo
    decision := if candidate.resumeId ∈ previousTopIds then .retained else .selected
    rankInRound := rank
    reasonsForSelection :=
      if candidate.strengths.take 3 = [] then
        ["Ranked into current global top pool with score " ++ toString candidate.overallScore ++ "."]
      else candidate.strengths.take 3
    reasonsForRejection := candidate.weaknesses.take 2
    comparedAgainstPoolSummary :=
      "Deterministically ranked #" ++ toString rank ++ " in the global scored set." }

def dropDecision (roundNo : Int) (rank : Nat) (resumeId : String) : PoolDecision :=
  { resumeId
    roundNo
    decision := .dropped
    rankInRound := rank
    reasonsForRejection := ["Replaced by higher-ranked resumes in the global scored set."]
    comparedAgainstPoolSummary :=
      "Dropped from the global top pool after this round's new scores landed." }

/-- `sorted(previous_top_ids - top_ids)` -/
def droppedIds (previousTopIds topIds : List String) : List String :=
  Py.sortedBy id (previousTopIds.dedup.filter (· ∉ topIds))

def buildPoolDecisions (roundNo : Int) (topCandidates : List ScoredCandidate)
    (previousTopIds : List String) : List PoolDecision :=
  (topCandidates.zipIdx 1).map (fun (candidate, rank) =>
      keepDecision roundNo previousTopIds rank candidate) ++
    ((droppedIds previousTopIds (topCandidates.map (·.resumeId))).zipIdx
      (topCandidates.length + 1)).map fun (resumeId, rank) => dropDecision roundNo rank resumeId

/-! ## 3. The round -/

/-- What `score_round` returns. -/
structure RoundScores where
  currentTopCandidates : List ScoredCandidate
  poolDecisions : List PoolDecision
  droppedCandidates : List ScoredCandidate

/-- The state with new scorecards and the pool they make. -/
def RunState.rank (state : RunState) (scored : List ScoredCandidate) : RunState :=
  let state := scored.foldl RunState.addScorecard state
  { state with topPoolIds := state.currentTopCandidates.map (·.resumeId) }

/-- `score_round`, with the state it leaves. When the scoring fails, the candidates have been
    normalized already. -/
def scoreRound (call : ScoreCall) (state : RunState) : Except String RoundScores × RunState :=
  let scoringPool := buildScoringPool call.newCandidates state.scorecardsByResumeId
  let contexts := scoringPool.map fun candidate =>
    (candidate.resumeId, call.normalizeResume candidate)
  let normalized := contexts.foldl RunState.storeNormalized state
  match if contexts = [] then .ok [] else call.scoreCandidatesParallel contexts with
  | .error message => (.error message, normalized)
  | .ok scored =>
    let ranked := normalized.rank scored
    (.ok
      { currentTopCandidates := ranked.currentTopCandidates
        poolDecisions :=
          buildPoolDecisions call.roundNo ranked.currentTopCandidates state.topPoolIds
        droppedCandidates :=
          ((call.idOrder state.topPoolIds.dedup).filter (· ∉ ranked.topPoolIds)).filterMap
            ranked.scorecard },
      ranked)

/-- Several rounds, each from the state that the one before left. -/
def scoreRounds (calls : List ScoreCall) (state : RunState) : RunState :=
  calls.foldl (fun state call => (scoreRound call state).2) state

/-! ## 4. Scorecards only grow -/

section Grow

variable {state : RunState} {cards : List ScoredCandidate} {card : ScoredCandidate}
variable {call : ScoreCall} {calls : List ScoreCall}

theorem nodup_sortKeys (state : RunState) :
    (state.scorecardsByResumeId.map scoredCandidateSortKey).Nodup := by
  have hids : (state.scorecardsByResumeId.map scoredCandidateSortKey).map
      (fun key => (ofLex (ofLex (ofLex (ofLex key).2).2).2).2) =
        state.scorecardsByResumeId.map (·.resumeId) := by
    rw [List.map_map]
    rfl
  exact List.Nodup.of_map _ (hids ▸ state.nodup_scorecards)

theorem addScorecard_extends :
    state.scorecardsByResumeId <+: (state.addScorecard card).scorecardsByResumeId := by
  unfold RunState.addScorecard
  split
  · exact List.prefix_rfl
  · exact List.prefix_append _ _

theorem addScorecards_extends : state.scorecardsByResumeId <+:
    (cards.foldl RunState.addScorecard state).scorecardsByResumeId := by
  induction cards generalizing state with
  | nil => exact List.prefix_rfl
  | cons card cards ih => exact addScorecard_extends.trans ih

theorem storeNormalized_keeps (state : RunState) (entries : List (String × NormalizedResume)) :
    (entries.foldl RunState.storeNormalized state).scorecardsByResumeId =
      state.scorecardsByResumeId ∧
    (entries.foldl RunState.storeNormalized state).topPoolIds = state.topPoolIds := by
  induction entries generalizing state with
  | nil => exact ⟨rfl, rfl⟩
  | cons entry entries ih => exact ih _

/-- **How a round ends**: it fails and leaves scorecards and pool alone, or it ranks the
    scorecards it had and new ones, and returns the decisions that lead to the new pool. -/
theorem scoreRound_cases (call : ScoreCall) (state : RunState) :
    ((∃ message, (scoreRound call state).1 = .error message) ∧
      (scoreRound call state).2.scorecardsByResumeId = state.scorecardsByResumeId ∧
      (scoreRound call state).2.topPoolIds = state.topPoolIds) ∨
    ∃ scores, (scoreRound call state).1 = .ok scores ∧
      scores.currentTopCandidates = (scoreRound call state).2.currentTopCandidates ∧
      scores.poolDecisions =
        buildPoolDecisions call.roundNo scores.currentTopCandidates state.topPoolIds ∧
      state.scorecardsByResumeId <+: (scoreRound call state).2.scorecardsByResumeId ∧
      (scoreRound call state).2.topPoolIds = scores.currentTopCandidates.map (·.resumeId) := by
  unfold scoreRound
  dsimp only
  generalize (buildScoringPool call.newCandidates state.scorecardsByResumeId).map (fun candidate =>
    (candidate.resumeId, call.normalizeResume candidate)) = contexts
  obtain ⟨hcards, hpool⟩ := storeNormalized_keeps state contexts
  cases (if contexts = [] then .ok [] else call.scoreCandidatesParallel contexts) with
  | error message => exact .inl ⟨⟨message, rfl⟩, hcards, hpool⟩
  | ok scored =>
    refine .inr ⟨_, rfl, rfl, rfl, ?_, rfl⟩
    rw [← hcards]
    exact addScorecards_extends

/-- **Scorecards are frozen**: a round adds to them, and changes none. -/
theorem scoreRound_extends : state.scorecardsByResumeId <+:
    (scoreRound call state).2.scorecardsByResumeId := by
  rcases scoreRound_cases call state with ⟨-, hcards, -⟩ | ⟨scores, -, -, -, hgrows, -⟩
  · rw [hcards]
  · exact hgrows

theorem scoreRounds_append (first second : List ScoreCall) :
    scoreRounds (first ++ second) state = scoreRounds second (scoreRounds first state) :=
  List.foldl_append

theorem scoreRounds_extends (calls : List ScoreCall) (state : RunState) : state.scorecardsByResumeId <+:
    (scoreRounds calls state).scorecardsByResumeId := by
  induction calls generalizing state with
  | nil => exact List.prefix_rfl
  | cons call calls ih => exact scoreRound_extends.trans (ih _)

/-! ## 5. The pool is the best of the scorecards -/

/-- The stored pool is the first `TOP_K` of all scorecards. -/
def PoolIsBest (state : RunState) : Prop :=
  state.topPoolIds = state.currentTopCandidates.map (·.resumeId)

theorem PoolIsBest.scoreRound (h : PoolIsBest state) : PoolIsBest (scoreRound call state).2 := by
  unfold PoolIsBest at h ⊢
  rcases scoreRound_cases call state with ⟨-, hcards, hpool⟩ | ⟨scores, -, htop, -, -, hpool⟩
  · rw [hpool, h, RunState.currentTopCandidates, RunState.currentTopCandidates, hcards]
  · rw [hpool, htop]

theorem PoolIsBest.scoreRounds (h : PoolIsBest state) : PoolIsBest (scoreRounds calls state) := by
  induction calls generalizing state with
  | nil => exact h
  | cons call calls ih => exact ih h.scoreRound

theorem currentTopCandidates_mem (h : card ∈ state.currentTopCandidates) :
    card ∈ state.scorecardsByResumeId := Py.mem_of_mem_best h

theorem PoolIsBest.nodup (h : PoolIsBest state) : state.topPoolIds.Nodup := by
  rw [h]
  have hsub : (state.currentTopCandidates.map (·.resumeId)).Sublist
      ((Py.sortedBy scoredCandidateSortKey state.scorecardsByResumeId).map (·.resumeId)) :=
    (List.take_sublist _ _).map _
  exact hsub.nodup ((Py.perm_sortedBy.map _).nodup_iff.mpr state.nodup_scorecards)

/-- **What has left the pool stays out.** -/
theorem PoolIsBest.stays_out (h : PoolIsBest state) {resumeId : String}
    (hscored : resumeId ∈ state.scorecardsByResumeId.map (·.resumeId))
    (hout : resumeId ∉ state.topPoolIds) :
    resumeId ∉ (SeekTalent.scoreRounds calls state).topPoolIds := by
  obtain ⟨card, hcard, rfl⟩ := List.mem_map.mp hscored
  have hgrows := scoreRounds_extends calls state
  generalize hlater : SeekTalent.scoreRounds calls state = later at hgrows ⊢
  have hbest : PoolIsBest later := hlater ▸ h.scoreRounds
  have hbehind : card ∉ state.currentTopCandidates := by
    intro hin
    exact hout (h ▸ List.mem_map_of_mem hin)
  have hstill := Py.not_mem_best_of_sublist (nodup_sortKeys later) hgrows.sublist hcard hbehind
  rw [hbest]
  intro hin
  obtain ⟨other, hother, hsame⟩ := List.mem_map.mp hin
  -- the resume has one scorecard
  have heq := List.inj_on_of_nodup_map later.nodup_scorecards (currentTopCandidates_mem hother)
    (hgrows.subset hcard) hsame
  exact hstill (heq ▸ hother)

end Grow

/-! ## 6. The decisions cover what was and what is in the pool -/

section Decisions

variable {previousTopIds topIds : List String} {resumeId : String} {roundNo : Int}
variable {topCandidates : List ScoredCandidate}

/-- The decisions that lead from one pool to the next: first the new pool, in its order, then
    what is no longer in it. -/
structure DecisionsOk (previousTopIds topIds : List String) (decisions : List PoolDecision) :
    Prop where
  order : decisions.map (·.resumeId) = topIds ++ droppedIds previousTopIds topIds
  nodup : (decisions.map (·.resumeId)).Nodup
  covers : ∀ resumeId, resumeId ∈ decisions.map (·.resumeId) ↔
    resumeId ∈ previousTopIds ∨ resumeId ∈ topIds
  ranks : decisions.map (·.rankInRound) = List.range' 1 decisions.length
  retained : ∀ d ∈ decisions, d.decision = .retained ↔
    d.resumeId ∈ previousTopIds ∧ d.resumeId ∈ topIds
  selected : ∀ d ∈ decisions, d.decision = .selected ↔
    d.resumeId ∉ previousTopIds ∧ d.resumeId ∈ topIds
  dropped : ∀ d ∈ decisions, d.decision = .dropped ↔
    d.resumeId ∈ previousTopIds ∧ d.resumeId ∉ topIds

theorem mem_droppedIds : resumeId ∈ droppedIds previousTopIds topIds ↔
    resumeId ∈ previousTopIds ∧ resumeId ∉ topIds := by
  simp [droppedIds]

theorem nodup_droppedIds : (droppedIds previousTopIds topIds).Nodup :=
  Py.perm_sortedBy.nodup_iff.mpr ((List.nodup_dedup _).filter _)

theorem buildPoolDecisions_resumeIds (roundNo : Int) (topCandidates : List ScoredCandidate)
    (previousTopIds : List String) :
    (buildPoolDecisions roundNo topCandidates previousTopIds).map (·.resumeId) =
      topCandidates.map (·.resumeId) ++
        droppedIds previousTopIds (topCandidates.map (·.resumeId)) := by
  unfold buildPoolDecisions
  rw [List.map_append, List.map_map, List.map_map]
  congr 1
  · conv_rhs => rw [← List.zipIdx_map_fst 1 topCandidates, List.map_map]
    rfl
  · exact List.zipIdx_map_fst _ _

theorem buildPoolDecisions_ranks :
    (buildPoolDecisions roundNo topCandidates previousTopIds).map (·.rankInRound) =
      List.range' 1 (buildPoolDecisions roundNo topCandidates previousTopIds).length := by
  unfold buildPoolDecisions
  generalize droppedIds previousTopIds (topCandidates.map (·.resumeId)) = dropped
  rw [List.map_append, List.map_map, List.map_map, List.length_append, List.length_map,
    List.length_map, List.length_zipIdx, List.length_zipIdx, ← List.range'_append_1,
    Nat.add_comm 1 topCandidates.length]
  congr 1
  · exact List.zipIdx_map_snd _ _
  · exact List.zipIdx_map_snd _ _

theorem buildPoolDecisions_decision :
    ∀ d ∈ buildPoolDecisions roundNo topCandidates previousTopIds, d.decision =
      if d.resumeId ∈ topCandidates.map (·.resumeId) then
        if d.resumeId ∈ previousTopIds then .retained else .selected
      else .dropped := by
  intro d hd
  unfold buildPoolDecisions at hd
  rcases List.mem_append.mp hd with hd | hd
  · obtain ⟨⟨candidate, rank⟩, hmem, rfl⟩ := List.mem_map.mp hd
    have hin : candidate.resumeId ∈ topCandidates.map (·.resumeId) :=
      List.mem_map_of_mem (List.fst_mem_of_mem_zipIdx hmem)
    exact (if_pos hin).symm
  · obtain ⟨⟨dropped, rank⟩, hmem, rfl⟩ := List.mem_map.mp hd
    have hout := (mem_droppedIds.mp (List.fst_mem_of_mem_zipIdx hmem)).2
    exact (if_neg hout).symm

theorem decisionsOk_buildPoolDecisions
    (hnodup : (topCandidates.map (·.resumeId)).Nodup) :
    DecisionsOk previousTopIds (topCandidates.map (·.resumeId))
      (buildPoolDecisions roundNo topCandidates previousTopIds) := by
  have horder := buildPoolDecisions_resumeIds roundNo topCandidates previousTopIds
  have hcovers : ∀ resumeId, resumeId ∈
      (buildPoolDecisions roundNo topCandidates previousTopIds).map (·.resumeId) ↔
        resumeId ∈ previousTopIds ∨ resumeId ∈ topCandidates.map (·.resumeId) := by
    intro resumeId
    rw [horder, List.mem_append, mem_droppedIds]
    tauto
  refine ⟨horder, ?_, hcovers, buildPoolDecisions_ranks, ?_, ?_, ?_⟩
  · rw [horder]
    refine hnodup.append nodup_droppedIds ?_
    intro resumeId hin hdropped
    exact (mem_droppedIds.mp hdropped).2 hin
  all_goals
    intro d hd
    have hkind := buildPoolDecisions_decision d hd
    have hmem := (hcovers d.resumeId).mp (List.mem_map_of_mem hd)
    rw [hkind]
    generalize topCandidates.map (·.resumeId) = topIds at hmem ⊢
    by_cases hin : d.resumeId ∈ topIds
    · by_cases hold : d.resumeId ∈ previousTopIds <;> simp [hin, hold]
    · simp [hin, hmem.resolve_right hin]

end Decisions

/-! ## 7. Every run -/

structure RoundRanks (state : RunState) (call : ScoreCall) : Prop where
  best : PoolIsBest (scoreRound call state).2
  frozen : state.scorecardsByResumeId <+: (scoreRound call state).2.scorecardsByResumeId
  decided : ∀ scores, (scoreRound call state).1 = .ok scores →
    scores.currentTopCandidates = (scoreRound call state).2.currentTopCandidates ∧
    DecisionsOk state.topPoolIds (scoreRound call state).2.topPoolIds scores.poolDecisions

theorem PoolIsBest.roundRanks {state : RunState} (h : PoolIsBest state) (call : ScoreCall) :
    RoundRanks state call := by
  refine ⟨h.scoreRound, scoreRound_extends, fun scores hscores => ?_⟩
  rcases scoreRound_cases call state with ⟨⟨message, hfailed⟩, -, -⟩ |
    ⟨scores', hscores', htop, hdecisions, -, hpool⟩
  · rw [hfailed] at hscores
    cases hscores
  · obtain rfl := Except.ok.inj (hscores'.symm.trans hscores)
    refine ⟨htop, ?_⟩
    rw [hpool, hdecisions]
    apply decisionsOk_buildPoolDecisions
    rw [← hpool]
    exact h.scoreRound.nodup

/-- **Every run of rounds** from a state without scorecards: after each round the pool is the
    first `TOP_K` of all scorecards, no scorecard has changed, and the decisions cover the
    pools before and after the round. What has once left the pool never comes back. -/
theorem scoreRounds_spec (calls : List ScoreCall) (state : RunState)
    (hcards : state.scorecardsByResumeId = []) (hpool : state.topPoolIds = []) :
    (∀ before call after, calls = before ++ call :: after →
      RoundRanks (scoreRounds before state) call) ∧
    ∀ first second third resumeId, calls = first ++ second ++ third →
      resumeId ∈ (scoreRounds first state).topPoolIds →
      resumeId ∉ (scoreRounds (first ++ second) state).topPoolIds →
      resumeId ∉ (scoreRounds calls state).topPoolIds := by
  have hempty : PoolIsBest state := by
    unfold PoolIsBest RunState.currentTopCandidates
    rw [hcards, hpool]
    rfl
  constructor
  · intro before call after _
    exact hempty.scoreRounds.roundRanks call
  · rintro first second third resumeId rfl hin hout
    have hfirst : PoolIsBest (scoreRounds first state) := hempty.scoreRounds
    -- it was in the pool, so it has a scorecard, and it keeps it
    have hscored : resumeId ∈ (scoreRounds (first ++ second) state).scorecardsByResumeId.map
        (·.resumeId) := by
      rw [hfirst] at hin
      obtain ⟨card, hcard, rfl⟩ := List.mem_map.mp hin
      rw [scoreRounds_append]
      exact List.mem_map_of_mem ((scoreRounds_extends second _).subset (currentTopCandidates_mem hcard))
    rw [scoreRounds_append (first ++ second) third]
    have hlater : PoolIsBest (scoreRounds (first ++ second) state) := hempty.scoreRounds
    exact hlater.stays_out hscored hout

def sampleScoreCall (resumeIds : List String) : ScoreCall :=
  { roundNo := 1
    newCandidates := resumeIds.map fun resumeId => { resumeId, dedupKey := resumeId }
    normalizeResume := fun _ => { completenessScore := 100 }
    scoreCandidatesParallel := fun contexts => .ok (contexts.map fun context =>
      { resumeId := context.1, fitBucket := .fit, overallScore := 80, mustHaveMatchScore := 80
        riskScore := 10 }) }

theorem scoreRounds_spec_repeated :
    RoundRanks (scoreRounds [sampleScoreCall ["r1", "r2", "r1"]] {})
      (sampleScoreCall ["r2", "r3"]) :=
  (scoreRounds_spec [sampleScoreCall ["r1", "r2", "r1"], sampleScoreCall ["r2", "r3"]] {} rfl
    rfl).1 [sampleScoreCall ["r1", "r2", "r1"]] (sampleScoreCall ["r2", "r3"]) [] rfl

end SeekTalent

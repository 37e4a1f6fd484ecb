import SeekTalent.Scoring.DetailEnrichment

/-!
# The pool a run ends with

Where the score of a resume does not depend on the round it is scored in, the rounds make no
difference: the pool is the best of all resumes that any of them brought, each scored once, however
they were spread over the rounds and in whatever order the scores came in.
-/

namespace SeekTalent

variable {state : RunState} {card : ScoredCandidate} {cards : List ScoredCandidate}
variable {score : String → ScoredCandidate} {call : ScoreCall} {calls : List ScoreCall}
variable {ids : List String}

/-- The scoring answers with the score of every context, in some order. -/
def ScoreCall.ScoresBy (score : String → ScoredCandidate) (call : ScoreCall) : Prop :=
  ∀ contexts, ∃ cards, call.scoreCandidatesParallel contexts = .ok cards ∧
    ∀ card, card ∈ cards ↔ ∃ context ∈ contexts, card = score context.1

def ScoreCall.resumeIds (call : ScoreCall) : List String := call.newCandidates.map (·.resumeId)

/-- The scorecards are those of the resumes. -/
def RunState.ScoredBy (score : String → ScoredCandidate) (ids : List String) (state : RunState) :
    Prop :=
  ∀ card, card ∈ state.scorecardsByResumeId ↔ ∃ id ∈ ids, card = score id

theorem mem_addScorecards (hstate : ∀ card ∈ state.scorecardsByResumeId, card = score card.resumeId)
    (hcards : ∀ card ∈ cards, card = score card.resumeId) :
    card ∈ (cards.foldl RunState.addScorecard state).scorecardsByResumeId ↔
      card ∈ state.scorecardsByResumeId ∨ card ∈ cards := by
  induction cards generalizing state with
  | nil => simp
  | cons first rest ih =>
    obtain ⟨hfirst, hrest⟩ := List.forall_mem_cons.mp hcards
    have hadd : ∀ card, card ∈ (state.addScorecard first).scorecardsByResumeId ↔
        card ∈ state.scorecardsByResumeId ∨ card = first := by
      intro card
      unfold RunState.addScorecard
      split
      · rename_i hold
        obtain ⟨other, hother, hsame⟩ := List.mem_map.mp hold
        obtain rfl : other = first := by rw [hstate other hother, hsame, ← hfirst]
        exact ⟨.inl, fun h => h.elim id fun heq => heq ▸ hother⟩
      · simp
    rw [List.foldl_cons, ih _ hrest, hadd, List.mem_cons, or_assoc]
    intro card hcard
    rcases (hadd card).mp hcard with hcard | rfl
    · exact hstate card hcard
    · exact hfirst

theorem RunState.ScoredBy.round (hids : ∀ id, (score id).resumeId = id)
    (hcall : call.ScoresBy score) (h : state.ScoredBy score ids) :
    (scoreRound call state).2.ScoredBy score (ids ++ call.resumeIds) := by
  have hown : ∀ card ∈ state.scorecardsByResumeId, card = score card.resumeId := by
    intro card hcard
    obtain ⟨id, -, rfl⟩ := (h card).mp hcard
    rw [hids]
  unfold scoreRound
  dsimp only
  generalize hcontexts : (buildScoringPool call.newCandidates state.scorecardsByResumeId).map
    (fun candidate => (candidate.resumeId, call.normalizeResume candidate)) = contexts
  obtain ⟨cards, hcards, hmem⟩ : ∃ cards,
      (if contexts = [] then .ok [] else call.scoreCandidatesParallel contexts) = .ok cards ∧
        ∀ card, card ∈ cards ↔ ∃ context ∈ contexts, card = score context.1 := by
    split
    · rename_i hnone
      exact ⟨[], rfl, by simp [hnone]⟩
    · exact hcall contexts
  have hkept := (storeNormalized_keeps state contexts).1
  rw [hcards]
  intro card
  show card ∈ (cards.foldl RunState.addScorecard _).scorecardsByResumeId ↔ _
  rw [mem_addScorecards (by rwa [hkept]), hkept]
  · constructor
    · rintro (hcard | hcard)
      · obtain ⟨id, hid, rfl⟩ := (h card).mp hcard
        exact ⟨id, List.mem_append_left _ hid, rfl⟩
      · obtain ⟨context, hcontext, rfl⟩ := (hmem card).mp hcard
        rw [← hcontexts] at hcontext
        obtain ⟨candidate, hcandidate, rfl⟩ := List.mem_map.mp hcontext
        exact ⟨_, List.mem_append_right _ (List.mem_map_of_mem
          (mem_buildScoringPoolFrom hcandidate).1), rfl⟩
    · rintro ⟨id, hid, rfl⟩
      by_cases hscored : id ∈ state.scorecardsByResumeId.map (·.resumeId)
      · obtain ⟨card, hcard, rfl⟩ := List.mem_map.mp hscored
        rw [← hown card hcard]
        exact .inl hcard
      · -- it has no scorecard, so it is not among the resumes of before
        have hnew : id ∈ call.resumeIds := (List.mem_append.mp hid).resolve_left fun hold =>
          hscored (List.mem_map.mpr ⟨score id, (h _).mpr ⟨id, hold, rfl⟩, hids id⟩)
        obtain ⟨candidate, hcandidate, rfl⟩ := List.mem_map.mp
          (resumeId_mem_buildScoringPoolFrom hnew hscored List.not_mem_nil)
        refine .inr ((hmem _).mpr ⟨(candidate.resumeId, call.normalizeResume candidate), ?_, rfl⟩)
        rw [← hcontexts]
        exact List.mem_map_of_mem hcandidate
  · intro card hcard
    obtain ⟨context, -, rfl⟩ := (hmem card).mp hcard
    rw [hids]

theorem RunState.ScoredBy.rounds (hids : ∀ id, (score id).resumeId = id)
    (hcalls : ∀ call ∈ calls, call.ScoresBy score) (h : state.ScoredBy score ids) :
    (scoreRounds calls state).ScoredBy score (ids ++ calls.flatMap (·.resumeIds)) := by
  induction calls generalizing state ids with
  | nil =>
    rw [List.flatMap_nil, List.append_nil]
    exact h
  | cons call calls ih =>
    obtain ⟨hcall, hcalls⟩ := List.forall_mem_cons.mp hcalls
    rw [List.flatMap_cons, ← List.append_assoc]
    exact ih hcalls (h.round hids hcall)

/-- **The pool of a run** is the best of all resumes that it brought: neither the rounds nor the
    order of the scores make a difference. -/
theorem topPoolIds_scoreRounds (score : String → ScoredCandidate) (calls : List ScoreCall)
    (state : RunState) (hids : ∀ id, (score id).resumeId = id)
    (hcalls : ∀ call ∈ calls, call.ScoresBy score) (hcards : state.scorecardsByResumeId = [])
    (hpool : state.topPoolIds = []) :
    (scoreRounds calls state).topPoolIds =
      (Py.best scoredCandidateSortKey topK
        ((calls.flatMap (·.resumeIds)).dedup.map score)).map (·.resumeId) := by
  have hscored : (scoreRounds calls state).ScoredBy score ([] ++ calls.flatMap (·.resumeIds)) :=
    RunState.ScoredBy.rounds hids hcalls (by simp [RunState.ScoredBy, hcards])
  have hbest : PoolIsBest (scoreRounds calls state) := by
    apply PoolIsBest.scoreRounds
    simp [PoolIsBest, RunState.currentTopCandidates, Py.best, Py.sortedBy, hcards, hpool]
  have hinjective : Function.Injective score := by
    intro id id' heq
    rw [← hids id, heq, hids]
  have hperm : (scoreRounds calls state).scorecardsByResumeId.Perm
      ((calls.flatMap (·.resumeIds)).dedup.map score) := by
    rw [List.perm_ext_iff_of_nodup (scoreRounds calls state).nodup_scorecards.of_map
      ((List.nodup_dedup _).map hinjective)]
    intro card
    rw [hscored card]
    simp [eq_comm]
  rw [hbest, RunState.currentTopCandidates, Py.best_of_perm (nodup_sortKeys _) hperm]

theorem topPoolIds_scoreRounds_repeated :
    (scoreRounds [sampleScoreCall ["r1", "r2", "r1"], sampleScoreCall ["r2", "r3"]] {}).topPoolIds =
      (Py.best scoredCandidateSortKey topK (["r1", "r2", "r1", "r2", "r3"].dedup.map fun id =>
        { resumeId := id, fitBucket := .fit, overallScore := 80, mustHaveMatchScore := 80
          riskScore := 10 })).map (·.resumeId) := by
  refine topPoolIds_scoreRounds _
    [sampleScoreCall ["r1", "r2", "r1"], sampleScoreCall ["r2", "r3"]] {} (fun _ => rfl) ?_ rfl rfl
  intro call hcall contexts
  simp only [List.mem_cons, List.not_mem_nil, or_false] at hcall
  rcases hcall with rfl | rfl
  all_goals
    refine ⟨_, rfl, fun card => ?_⟩
    simp [eq_comm]

end SeekTalent

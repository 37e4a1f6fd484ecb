import Mathlib.Data.List.Sort
import SeekTalent.Base.Table
import SeekTalent.Retrieval.Dedup

/-!
# The hit store

After a round the runtime annotates the round's hits with their scorecards, writes them to
`query_resume_hits`, reads the round back and counts an outcome row for each query
instance (`flywheel/store.py`, `flywheel/outcomes.py`, and
`WorkflowRuntime._record_flywheel_retrieval_rows`).

A row's key is `(run_id, query_instance_id, hit_sequence_no)`, and the sequence number
starts again at 1 with every search. A query instance that is answered with candidates in
two searches of a round — two cities, two batches, a refill — therefore overwrites its own
rows. `recordsEachHit_iff` says that nothing else loses a hit.
-/

namespace SeekTalent

variable {F : Type}

/-! ## 1. Writing and reading hits -/

/-- `_write_query_resume_hits`: a hit takes over its resume's scorecard. -/
def annotateHit (scorecards : String → Option ScoredCandidate) (hit : QueryResumeHit) :
    QueryResumeHit :=
  match scorecards hit.resumeId with
  | none => { hit with finalCandidateStatus := some "not_scored" }
  | some scorecard =>
    { hit with
      scoredFitBucket := some scorecard.fitBucket
      overallScore := some scorecard.overallScore
      mustHaveMatchScore := some scorecard.mustHaveMatchScore
      riskScore := some scorecard.riskScore
      offIntentReasonCount := scorecard.negativeSignals.length
      finalCandidateStatus := some (if scorecard.fitBucket = .fit then "fit" else "not_fit")
      scoreEvidenceSource := scorecard.scoreEvidenceSource.or hit.scoreEvidenceSource }

def writeQueryResumeHits (scorecards : String → Option ScoredCandidate)
    (hits : List QueryResumeHit) : List QueryResumeHit :=
  hits.map (annotateHit scorecards)

/-- The primary key of `query_resume_hits`. -/
def hitKey (hit : QueryResumeHit) : String × String × Nat :=
  (hit.runId, hit.queryInstanceId, hit.hitSequenceNo)

def recordQueryResumeHits (table hits : List QueryResumeHit) : List QueryResumeHit :=
  Table.upsertAll hitKey table hits

/-- `ORDER BY query_instance_id, hit_sequence_no` -/
def hitOrder (a b : QueryResumeHit) : Prop :=
  a.queryInstanceId < b.queryInstanceId ∨
    (a.queryInstanceId = b.queryInstanceId ∧ a.hitSequenceNo ≤ b.hitSequenceNo)

instance : DecidableRel hitOrder := fun _ _ => inferInstanceAs (Decidable (_ ∨ _))

def inRunRound (runId : String) (roundNo : Nat) (hit : QueryResumeHit) : Bool :=
  decide (hit.runId = runId ∧ hit.roundNo = roundNo)

def queryHitsForRunRound (table : List QueryResumeHit) (runId : String) (roundNo : Nat) :
    List QueryResumeHit :=
  (table.filter (inRunRound runId roundNo)).insertionSort hitOrder

/-! ## 2. Outcome rows -/

structure QueryOutcomeRow where
  runId : String
  queryInstanceId : String
  queryFingerprint : String
  roundNo : Nat
  laneType : LaneType
  providerReturnedCount : Nat
  newUniqueResumeCount : Nat
  duplicateCount : Nat
  scoredResumeCount : Nat
  newFitCount : Nat
  offIntentReasonCount : Nat

def isScoredNewHit (hit : QueryResumeHit) : Bool :=
  hit.wasNewToPool && hit.scoredFitBucket.isSome &&
    (decide (hit.providerName ≠ "liepin") ||
      decide (hit.scoreEvidenceSource.getD "" ≠ ""))

def hitsOfQuery (hits : List QueryResumeHit) (queryInstanceId : String) :
    List QueryResumeHit :=
  hits.filter fun hit => hit.queryInstanceId = queryInstanceId

def outcomeRow (runId : String) (first : QueryResumeHit) (queryHits : List QueryResumeHit) :
    QueryOutcomeRow :=
  let scored := queryHits.filter isScoredNewHit
  { runId := runId
    queryInstanceId := first.queryInstanceId
    queryFingerprint := first.queryFingerprint
    roundNo := first.roundNo
    laneType := first.laneType
    providerReturnedCount := queryHits.length
    newUniqueResumeCount := queryHits.countP (·.wasNewToPool)
    duplicateCount := queryHits.countP (·.wasDuplicate)
    scoredResumeCount := scored.length
    newFitCount := scored.countP fun hit => hit.scoredFitBucket = some .fit
    offIntentReasonCount := (scored.map (·.offIntentReasonCount)).sum }

/-- `build_runtime_query_outcome_rows_from_hits`: a row for each query instance that has a
    hit, in order of the ids. -/
def buildRuntimeQueryOutcomeRowsFromHits (runId : String) (hits : List QueryResumeHit) :
    List QueryOutcomeRow :=
  ((hits.map (·.queryInstanceId)).dedup.insertionSort (· ≤ ·)).filterMap fun id =>
    match hitsOfQuery hits id with
    | [] => none
    | first :: rest => some (outcomeRow runId first (first :: rest))

/-! ## 3. What is read back -/

/-- What may be in the table before a round. Query instance ids digest the run and the
    round, so what other rounds of the run wrote has other ids. -/
structure RoundCall.StoreBefore (c : RoundCall F) (table : List QueryResumeHit) : Prop where
  keys : (table.map hitKey).Nodup
  fresh : ∀ hit ∈ table, hit.runId = c.runId →
    hit.roundNo ≠ c.roundNo ∧ ∀ lane ∈ c.queryStates, hit.queryInstanceId ≠ lane.queryInstanceId

/-- The round's hits are all read back, each once, and every outcome row counts over all
    hits its query instance emitted in the round. -/
structure RoundCall.RecordsEachHit (c : RoundCall F) (table : List QueryResumeHit)
    (scorecards : String → Option ScoredCandidate) (result : RetrievalExecutionResult) :
    Prop where
  rows : (queryHitsForRunRound
    (recordQueryResumeHits table (writeQueryResumeHits scorecards result.queryResumeHits))
    c.runId c.roundNo).Perm (writeQueryResumeHits scorecards result.queryResumeHits)
  counts : ∀ row ∈ buildRuntimeQueryOutcomeRowsFromHits c.runId (queryHitsForRunRound
      (recordQueryResumeHits table (writeQueryResumeHits scorecards result.queryResumeHits))
      c.runId c.roundNo),
    row.providerReturnedCount = (hitsOfQuery result.queryResumeHits row.queryInstanceId).length ∧
    row.newUniqueResumeCount =
      (hitsOfQuery result.queryResumeHits row.queryInstanceId).countP (·.wasNewToPool) ∧
    row.duplicateCount =
      (hitsOfQuery result.queryResumeHits row.queryInstanceId).countP (·.wasDuplicate)

/-- Every query instance is answered with candidates in at most one search of the round. -/
def AnsweredOnce (searches : List Dispatch) : Prop :=
  searches.Pairwise fun d₁ d₂ =>
    d₁.call.query.queryInstanceId = d₂.call.query.queryInstanceId →
      d₁.run.returned = [] ∨ d₂.run.returned = []

section Annotate

variable (scorecards : String → Option ScoredCandidate)

theorem annotateHit_kept (hit : QueryResumeHit) :
    hitKey (annotateHit scorecards hit) = hitKey hit ∧
    (annotateHit scorecards hit).queryInstanceId = hit.queryInstanceId ∧
    (annotateHit scorecards hit).roundNo = hit.roundNo ∧
    (annotateHit scorecards hit).runId = hit.runId ∧
    (annotateHit scorecards hit).wasNewToPool = hit.wasNewToPool ∧
    (annotateHit scorecards hit).wasDuplicate = hit.wasDuplicate := by
  unfold annotateHit
  cases scorecards hit.resumeId <;> exact ⟨rfl, rfl, rfl, rfl, rfl, rfl⟩

theorem map_hitKey_writeQueryResumeHits (hits : List QueryResumeHit) :
    (writeQueryResumeHits scorecards hits).map hitKey = hits.map hitKey := by
  unfold writeQueryResumeHits
  rw [List.map_map]
  exact List.map_congr_left fun hit _ => (annotateHit_kept scorecards hit).1

theorem hitsOfQuery_writeQueryResumeHits (hits : List QueryResumeHit) (id : String) :
    hitsOfQuery (writeQueryResumeHits scorecards hits) id =
      (hitsOfQuery hits id).map (annotateHit scorecards) := by
  unfold hitsOfQuery writeQueryResumeHits
  rw [List.filter_map]
  congr 1
  refine List.filter_congr fun hit _ => ?_
  simp [(annotateHit_kept scorecards hit).2.1]

end Annotate

theorem mem_outcomeRows {runId : String} {hits : List QueryResumeHit} {row : QueryOutcomeRow}
    (h : row ∈ buildRuntimeQueryOutcomeRowsFromHits runId hits) :
    row.providerReturnedCount = (hitsOfQuery hits row.queryInstanceId).length ∧
    row.newUniqueResumeCount =
      (hitsOfQuery hits row.queryInstanceId).countP (·.wasNewToPool) ∧
    row.duplicateCount = (hitsOfQuery hits row.queryInstanceId).countP (·.wasDuplicate) := by
  unfold buildRuntimeQueryOutcomeRowsFromHits at h
  obtain ⟨id, -, hrow⟩ := List.mem_filterMap.mp h
  cases hq : hitsOfQuery hits id with
  | nil => rw [hq] at hrow; cases hrow
  | cons first rest =>
    rw [hq] at hrow
    cases hrow
    have hfirst : first ∈ hitsOfQuery hits id := by rw [hq]; exact List.mem_cons_self
    have hid : first.queryInstanceId = id := by
      simpa [hitsOfQuery] using (List.mem_filter.mp hfirst).2
    have hrow : (outcomeRow runId first (first :: rest)).queryInstanceId = id := hid
    rw [hrow, hq]
    exact ⟨rfl, rfl, rfl⟩

theorem outcomeRows_count (scorecards : String → Option ScoredCandidate) {runId : String}
    {read hits : List QueryResumeHit} (h : read.Perm (writeQueryResumeHits scorecards hits))
    {row : QueryOutcomeRow} (hrow : row ∈ buildRuntimeQueryOutcomeRowsFromHits runId read) :
    row.providerReturnedCount = (hitsOfQuery hits row.queryInstanceId).length ∧
    row.newUniqueResumeCount =
      (hitsOfQuery hits row.queryInstanceId).countP (·.wasNewToPool) ∧
    row.duplicateCount = (hitsOfQuery hits row.queryInstanceId).countP (·.wasDuplicate) := by
  obtain ⟨h₁, h₂, h₃⟩ := mem_outcomeRows hrow
  have hof : (hitsOfQuery read row.queryInstanceId).Perm
      ((hitsOfQuery hits row.queryInstanceId).map (annotateHit scorecards)) :=
    (h.filter _).trans
      (.of_eq (hitsOfQuery_writeQueryResumeHits scorecards hits row.queryInstanceId))
  refine ⟨?_, ?_, ?_⟩
  · rw [h₁, hof.length_eq, List.length_map]
  · rw [h₂, hof.countP_eq, List.countP_map]
    exact List.countP_congr fun hit _ => by
      simp [(annotateHit_kept scorecards hit).2.2.2.2.1]
  · rw [h₃, hof.countP_eq, List.countP_map]
    exact List.countP_congr fun hit _ => by
      simp [(annotateHit_kept scorecards hit).2.2.2.2.2]

/-! ## 4. When no hit is lost -/

theorem HitsOf.keys {call : ToolCall} {hits : List QueryResumeHit}
    {returned : List ResumeCandidate} (h : HitsOf call hits returned) :
    hits.map hitKey = (List.range' 1 returned.length).map fun k =>
      (call.runId, call.query.queryInstanceId, k) := by
  rw [← h.length_eq, ← h.numbered, List.map_map]
  refine List.map_congr_left fun hit hmem => ?_
  simp [hitKey, h.runId_eq hit hmem, h.queryInstanceId_eq hit hmem]

theorem RoundCall.Made.hits {c : RoundCall F} {d : Dispatch} (h : c.Made d)
    (hok : ∃ reason, d.run.outcome = .ok reason) :
    HitsOf d.call d.run.final.resumeHits d.run.returned := by
  obtain ⟨reason, hreason⟩ := hok
  rw [h.run_eq] at hreason ⊢
  exact executeSearchTool_hits c.runtime d.call hreason

theorem nodup_hitKeys_iff {c : RoundCall F} {searches : List Dispatch}
    (hmade : ∀ d ∈ searches, c.Made d)
    (hok : ∀ d ∈ searches, ∃ reason, d.run.outcome = .ok reason) :
    ((searches.flatMap fun d => d.run.final.resumeHits).map hitKey).Nodup ↔
      AnsweredOnce searches := by
  have hkeys : ∀ d ∈ searches, d.run.final.resumeHits.map hitKey =
      (List.range' 1 d.run.returned.length).map fun k =>
        (c.runId, d.call.query.queryInstanceId, k) := by
    intro d hd
    rw [((hmade d hd).hits (hok d hd)).keys, (hmade d hd).runId_eq]
  rw [List.map_flatMap, List.nodup_flatMap]
  have heach : ∀ d ∈ searches, (d.run.final.resumeHits.map hitKey).Nodup := by
    intro d hd
    rw [hkeys d hd]
    exact (List.nodup_range' ..).map fun a b hab => by simpa using hab
  rw [and_iff_right heach]
  refine List.Pairwise.iff_of_mem fun {d₁ d₂} h₁ h₂ => ?_
  rw [Function.onFun_apply, hkeys d₁ h₁, hkeys d₂ h₂]
  constructor
  · -- two answered searches of one instance share the sequence number 1
    intro hdis hid
    by_contra hne
    rw [not_or] at hne
    have hmem : ∀ returned : List ResumeCandidate, returned ≠ [] →
        1 ∈ List.range' 1 returned.length := fun returned hr => by
      simpa using List.length_pos_iff.mpr hr
    refine hdis (List.mem_map_of_mem (hmem _ hne.1)) ?_
    rw [hid]
    exact List.mem_map_of_mem (hmem _ hne.2)
  · intro honce key hkey₁ hkey₂
    obtain ⟨k₁, hk₁, rfl⟩ := List.mem_map.mp hkey₁
    obtain ⟨k₂, hk₂, heq⟩ := List.mem_map.mp hkey₂
    simp only [Prod.mk.injEq, true_and] at heq
    rcases honce heq.1.symm with hnil | hnil
    · rw [hnil] at hk₁
      simp at hk₁
    · rw [hnil] at hk₂
      simp at hk₂

theorem mem_writeQueryResumeHits {c : RoundCall F} {searches : List Dispatch}
    (hmade : ∀ d ∈ searches, c.Made d)
    (hok : ∀ d ∈ searches, ∃ reason, d.run.outcome = .ok reason)
    {scorecards : String → Option ScoredCandidate} {hit : QueryResumeHit}
    (h : hit ∈ writeQueryResumeHits scorecards
      (searches.flatMap fun d => d.run.final.resumeHits)) :
    hit.runId = c.runId ∧ hit.roundNo = c.roundNo ∧
      ∃ lane ∈ c.queryStates, hit.queryInstanceId = lane.queryInstanceId := by
  obtain ⟨hit₀, hmem, rfl⟩ := List.mem_map.mp h
  obtain ⟨d, hd, hhit⟩ := List.mem_flatMap.mp hmem
  have hof := (hmade d hd).hits (hok d hd)
  obtain ⟨-, hid, hround, hrun, -⟩ := annotateHit_kept scorecards hit₀
  refine ⟨?_, ?_, d.call.query.toLogicalQuery, List.mem_of_getElem? (hmade d hd).lane_eq, ?_⟩
  · rw [hrun, hof.runId_eq hit₀ hhit, (hmade d hd).runId_eq]
  · rw [hround, hof.roundNo_eq hit₀ hhit, (hmade d hd).roundNo_eq]
  · rw [hid, hof.queryInstanceId_eq hit₀ hhit]

/-- **Every hit of a round is recorded and counted exactly when no query instance is
    answered with candidates in two searches of the round.** -/
theorem recordsEachHit_iff [PyFloat F] (c : RoundCall F) {table : List QueryResumeHit}
    (htable : c.StoreBefore table) (scorecards : String → Option ScoredCandidate)
    {result : RetrievalExecutionResult} (h : c.outcome.1 = .ok result) :
    c.RecordsEachHit table scorecards result ↔ AnsweredOnce c.searches := by
  obtain ⟨hidle, rfl⟩ := c.outcome_ok h
  have hmem : ∀ {hit}, hit ∈ writeQueryResumeHits scorecards
      (c.searches.flatMap fun d => d.run.final.resumeHits) → _ :=
    mem_writeQueryResumeHits c.made hidle.returned
  have hround : ∀ hit ∈ writeQueryResumeHits scorecards
      (c.searches.flatMap fun d => d.run.final.resumeHits),
      inRunRound c.runId c.roundNo hit = true := fun hit hhit =>
    decide_eq_true ⟨(hmem hhit).1, (hmem hhit).2.1⟩
  have hother : ∀ hit ∈ table, inRunRound c.runId c.roundNo hit = false := fun hit hhit =>
    decide_eq_false fun hin => (htable.fresh hit hhit hin.1).1 hin.2
  have hfresh : ∀ hit ∈ writeQueryResumeHits scorecards
      (c.searches.flatMap fun d => d.run.final.resumeHits),
      hitKey hit ∉ table.map hitKey := by
    intro hit hhit hold
    obtain ⟨hrun, -, lane, hlane, hid⟩ := hmem hhit
    obtain ⟨old, hold, hkey⟩ := List.mem_map.mp hold
    simp only [hitKey, Prod.mk.injEq] at hkey
    exact (htable.fresh old hold (hkey.1.trans hrun)).2 lane hlane (hkey.2.1.trans hid)
  have hread := Table.perm_filter_upsertAll_iff htable.keys hother hround hfresh
  rw [map_hitKey_writeQueryResumeHits, nodup_hitKeys_iff c.made hidle.returned] at hread
  constructor
  · intro hrec
    exact hread.mp ((List.perm_insertionSort _ _).symm.trans hrec.rows)
  · intro honce
    have hrows := (List.perm_insertionSort hitOrder _).trans (hread.mpr honce)
    exact ⟨hrows, fun row hrow => outcomeRows_count scorecards hrows hrow⟩

/-! ## 5. A hit that overwrites another -/

/-- One lane, two cities, each with a candidate of its own. -/
def oneInEachCity : RoundCall Rat :=
  { runtime :=
      { search := fun _ query => .ok
          { candidates := [sampleCandidate (query.city.getD "")], rawCandidateCount := 1 } }
    plan := buildLocationExecutionPlan ["Beijing", "Shanghai"] [] 1 2
    queryStates := [sampleLane .exploit "go"]
    targetNew := 2
    thresholds := .default }

theorem oneInEachCity_storeBefore : oneInEachCity.StoreBefore [] := ⟨List.nodup_nil, by simp⟩

/-- Both searches number their hit 1, so the table keeps one row for the two hits. -/
theorem oneInEachCity_overwritten :
    ¬∀ (c : RoundCall Rat) (table : List QueryResumeHit)
      (scorecards : String → Option ScoredCandidate) (result : RetrievalExecutionResult),
      c.StoreBefore table → c.outcome.1 = .ok result →
      c.RecordsEachHit table scorecards result := by
  intro h
  have hrows := (h oneInEachCity [] (fun _ => none) _ oneInEachCity_storeBefore rfl).rows
  have hlength := hrows.length_eq
  revert hlength
  decide

theorem recordsEachHit_iff_oneInEachCity :
    ∃ result, oneInEachCity.outcome.1 = .ok result ∧
      (oneInEachCity.RecordsEachHit [] (fun _ => none) result ↔
        AnsweredOnce oneInEachCity.searches) :=
  ⟨_, rfl, recordsEachHit_iff oneInEachCity oneInEachCity_storeBefore (fun _ => none) rfl⟩

end SeekTalent

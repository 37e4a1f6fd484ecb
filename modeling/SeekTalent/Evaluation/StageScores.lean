import SeekTalent.Models
import SeekTalent.Base.Loops
import SeekTalent.Base.Table

/-!
# The scores of an evaluated run

The candidates at the top of the first round and of the final list are merged by resume, the last
one in place of the earlier ones. What is left is judged and cached by snapshot, and the answers are
kept by resume; the rows of both stages look their scores up by resume, and name the files by
snapshot.

The keys agree when a resume has one snapshot (`everyFaithful_iff`). With two of them the row of the
earlier one has the score of the later one, and names a file that is not there.
-/

namespace SeekTalent

namespace Evaluation

/-! ## 1. The data -/

/-- A candidate, with what only the evaluation reads of it. -/
structure Candidate extends ResumeCandidate where
  expectedJobCategory : Option String := none
  nowLocation : Option String := none
  workYear : Option Int := none

def topK : Nat := 10

/-- `candidate.snapshot_sha256 or snapshot_sha256(candidate.raw)` -/
def Candidate.snapshotHash (candidate : Candidate) : String :=
  if candidate.snapshotSha256 = "" then candidate.raw.sha256 else candidate.snapshotSha256

structure ResumeJudgeResult where
  score : Fin 4
  rationale : String
  rationale_ne : rationale ≠ ""

structure EvaluatedCandidate where
  rank : Nat
  resumeId : String
  sourceResumeId : Option String
  snapshotSha256 : String
  rawResumePath : String
  expectedJobCategory : Option String
  nowLocation : Option String
  workYear : Option Int
  judgeScore : Fin 4
  judgeRationale : String
  cacheHit : Bool

structure Judged where
  resumeId : String
  result : ResumeJudgeResult
  cacheHit : Bool

structure JudgeLabelWrite where
  snapshotSha256 : String
  result : ResumeJudgeResult

/-- The candidates that wait for one judge call: it is made for the first of them. -/
structure PendingGroup where
  snapshotHash : String
  first : Candidate
  others : List Candidate

/-- `raw_resumes/….json` -/
structure RawResumeFile where
  path : String
  resumeId : String
  sourceResumeId : Option String
  snapshotSha256 : String
  candidate : RawPayload

abbrev Results := Keyed Judged.resumeId

/-- The store and the judge, as the evaluation of one task meets them. -/
structure Judging where
  /-- the label of a snapshot that is stored already -/
  cachedLabel : String → Option ResumeJudgeResult
  /-- the answer for a candidate and its snapshot; `none` when the call fails -/
  judge : Candidate → String → Option ResumeJudgeResult
  /-- the order in which calls end -/
  ended : List PendingGroup → List PendingGroup
  ended_perm : ∀ groups, (ended groups).Perm groups

structure EvaluatedRun where
  round01 : List EvaluatedCandidate
  final : List EvaluatedCandidate
  labelWrites : List JudgeLabelWrite
  rawFiles : Keyed RawResumeFile.path

/-! ## 2. The evaluation -/

/-- `[*round_01_candidates[:TOP_K], *final_candidates[:TOP_K]]` -/
def topCandidates (round01 final : List Candidate) : List Candidate :=
  round01.take topK ++ final.take topK

def uniqueCandidates (round01 final : List Candidate) :
    Keyed (fun candidate : Candidate => candidate.resumeId) :=
  (topCandidates round01 final).foldl Keyed.put {}

/-- `pending_candidates_by_snapshot.setdefault(snapshot_hash, []).append(candidate)` -/
def addPending (pending : Keyed PendingGroup.snapshotHash) (candidate : Candidate) :
    Keyed PendingGroup.snapshotHash :=
  match pending.lookup candidate.snapshotHash with
  | none => pending.put ⟨candidate.snapshotHash, candidate, []⟩
  | some group => pending.put { group with others := group.others ++ [candidate] }

section Judging

variable (judging : Judging)

/-- One candidate of `judge_many`: its label is there, or it has to wait. -/
def lookUp (state : Results × Keyed PendingGroup.snapshotHash) (candidate : Candidate) :
    Results × Keyed PendingGroup.snapshotHash :=
  match judging.cachedLabel candidate.snapshotHash with
  | some cached => (state.1.put ⟨candidate.resumeId, cached, true⟩, state.2)
  | none => (state.1, addPending state.2 candidate)

def worker (state : Results × List JudgeLabelWrite) (group : PendingGroup) :
    Option (Results × List JudgeLabelWrite) :=
  (judging.judge group.first group.snapshotHash).map fun result =>
    ((group.first :: group.others).foldl
        (fun results candidate => results.put ⟨candidate.resumeId, result, false⟩) state.1,
      state.2 ++ [⟨group.snapshotHash, result⟩])

def judgeMany (candidates : List Candidate) : Option (Results × List JudgeLabelWrite) :=
  let (results, pending) := candidates.foldl (lookUp judging) ({}, {})
  (judging.ended pending.rows).foldlM (worker judging) (results, [])

end Judging

def rawResumePath (snapshotHash : String) : String := "raw_resumes/" ++ snapshotHash ++ ".json"

/-- One row of `_stage_result`; a resume without an answer is an error. -/
def evaluatedCandidate (judged : Results) (rank : Nat) (candidate : Candidate) :
    Option EvaluatedCandidate :=
  (judged.lookup candidate.resumeId).map fun answer =>
    { rank
      resumeId := candidate.resumeId
      sourceResumeId := candidate.sourceResumeId
      snapshotSha256 := candidate.snapshotHash
      rawResumePath := rawResumePath candidate.snapshotHash
      expectedJobCategory := candidate.expectedJobCategory
      nowLocation := candidate.nowLocation
      workYear := candidate.workYear
      judgeScore := answer.result.score
      judgeRationale := answer.result.rationale
      cacheHit := answer.cacheHit }

/-- The rows of `_stage_result` -/
def stageResult (candidates : List Candidate) (judged : Results) : Option (List EvaluatedCandidate) :=
  ((candidates.take topK).zipIdx 1).mapM fun ranked => evaluatedCandidate judged ranked.2 ranked.1

/-- `persist_raw_resume_snapshot` -/
def rawResumeFile (candidate : Candidate) : RawResumeFile :=
  { path := rawResumePath candidate.snapshotHash
    resumeId := candidate.resumeId
    sourceResumeId := candidate.sourceResumeId
    snapshotSha256 := candidate.snapshotHash
    candidate := candidate.raw }

/-- `evaluate_run`: the scores and the files, with `none` for what it raises. -/
def evaluateRun (judging : Judging) (round01 final : List Candidate) : Option EvaluatedRun := do
  let unique := (uniqueCandidates round01 final).rows
  let (judged, labelWrites) ← judgeMany judging unique
  let round01Rows ← stageResult round01 judged
  let finalRows ← stageResult final judged
  return { round01 := round01Rows
           final := finalRows
           labelWrites
           rawFiles := (unique.map rawResumeFile).foldl Keyed.put {} }

/-! ## 3. What a row should say -/

/-- The label of a snapshot, when the run has ended: the stored one, or the one the judge gave. -/
def labelOf (judging : Judging) (labelWrites : List JudgeLabelWrite) (snapshotHash : String) :
    Option ResumeJudgeResult :=
  (judging.cachedLabel snapshotHash).or
    ((labelWrites.find? (·.snapshotSha256 = snapshotHash)).map (·.result))

structure FaithfulRow (judging : Judging) (run : EvaluatedRun) (row : EvaluatedCandidate) : Prop where
  score : (labelOf judging run.labelWrites row.snapshotSha256).map (·.score) = some row.judgeScore
  file : ∃ file ∈ run.rawFiles.rows,
    file.path = row.rawResumePath ∧ file.snapshotSha256 = row.snapshotSha256

def Faithful (judging : Judging) (run : EvaluatedRun) : Prop :=
  ∀ row ∈ run.round01 ++ run.final, FaithfulRow judging run row

def SingleSnapshots (round01 final : List Candidate) : Prop :=
  ∀ candidate ∈ topCandidates round01 final, ∀ other ∈ topCandidates round01 final,
    candidate.resumeId = other.resumeId → candidate.snapshotHash = other.snapshotHash

instance (round01 final : List Candidate) : Decidable (SingleSnapshots round01 final) :=
  inferInstanceAs (Decidable (∀ candidate ∈ topCandidates round01 final,
    ∀ other ∈ topCandidates round01 final,
      candidate.resumeId = other.resumeId → candidate.snapshotHash = other.snapshotHash))

/-! ## 4. The merged candidates -/

section Unique

variable {round01 final : List Candidate} {candidate unique : Candidate}

theorem rows_foldl_put {α κ : Type} [DecidableEq κ] {key : α → κ} (rows : List α) (t : Keyed key) :
    (rows.foldl Keyed.put t).rows = Table.upsertAll key t.rows rows := by
  induction rows generalizing t with
  | nil => rfl
  | cons row rows ih => exact ih (t.put row)

theorem mem_topCandidates_of_unique (h : unique ∈ (uniqueCandidates round01 final).rows) :
    unique ∈ topCandidates round01 final := by
  unfold uniqueCandidates at h
  rw [rows_foldl_put] at h
  exact (Table.mem_of_mem_upsertAll h).resolve_left (by simp)

theorem exists_unique_of_mem (h : candidate ∈ topCandidates round01 final) :
    ∃ unique ∈ (uniqueCandidates round01 final).rows, unique.resumeId = candidate.resumeId := by
  have hkey : candidate.resumeId ∈
      (uniqueCandidates round01 final).rows.map fun unique => unique.resumeId := by
    unfold uniqueCandidates
    rw [rows_foldl_put, Table.mem_map_key_upsertAll]
    exact .inr (List.mem_map_of_mem h)
  exact List.mem_map.mp hkey

theorem unique_eq {other : Candidate} (h : unique ∈ (uniqueCandidates round01 final).rows)
    (hother : other ∈ (uniqueCandidates round01 final).rows)
    (hid : unique.resumeId = other.resumeId) : unique = other :=
  List.inj_on_of_nodup_map (uniqueCandidates round01 final).nodup h hother hid

end Unique

/-! ## 5. The answers -/

section Answers

variable {judging : Judging} {all : List Candidate} {results : Results}
variable {labelWrites : List JudgeLabelWrite} {pending : Keyed PendingGroup.snapshotHash}
variable {group : PendingGroup} {candidate : Candidate} {snapshotHash : String}

variable (judging all labelWrites) in
/-- Each answer is the label of the snapshot of a candidate with this resume. -/
def Sound (results : Results) : Prop :=
  ∀ answer ∈ results.rows, ∃ candidate ∈ all, candidate.resumeId = answer.resumeId ∧
    labelOf judging labelWrites candidate.snapshotHash = some answer.result

variable (judging all) in
structure Waits (group : PendingGroup) : Prop where
  uncached : judging.cachedLabel group.snapshotHash = none
  members : ∀ candidate ∈ group.first :: group.others,
    candidate ∈ all ∧ candidate.snapshotHash = group.snapshotHash

theorem sound_put {result : ResumeJudgeResult} {cacheHit : Bool}
    (h : Sound judging all labelWrites results) (hmem : candidate ∈ all)
    (hlabel : labelOf judging labelWrites candidate.snapshotHash = some result) :
    Sound judging all labelWrites (results.put ⟨candidate.resumeId, result, cacheHit⟩) := by
  intro answer hanswer
  rcases Table.mem_upsert_iff.mp hanswer with rfl | ⟨hold, -⟩
  · exact ⟨candidate, hmem, rfl, hlabel⟩
  · exact h answer hold

theorem waits_addPending (h : ∀ group ∈ pending.rows, Waits judging all group)
    (hmem : candidate ∈ all) (hnone : judging.cachedLabel candidate.snapshotHash = none) :
    ∀ group ∈ (addPending pending candidate).rows, Waits judging all group := by
  intro group hgroup
  unfold addPending at hgroup
  cases hlookup : pending.lookup candidate.snapshotHash with
  | none =>
    rw [hlookup] at hgroup
    rcases Table.mem_upsert_iff.mp hgroup with rfl | ⟨hold, -⟩
    · refine ⟨hnone, fun member hmember => ?_⟩
      obtain rfl := List.mem_singleton.mp hmember
      exact ⟨hmem, rfl⟩
    · exact h group hold
  | some old =>
    rw [hlookup] at hgroup
    obtain ⟨hold, hhash⟩ := Keyed.lookup_eq_some_iff.mp hlookup
    rcases Table.mem_upsert_iff.mp hgroup with rfl | ⟨hother, -⟩
    · obtain ⟨huncached, hmembers⟩ := h old hold
      refine ⟨huncached, fun member hmember => ?_⟩
      rw [← List.cons_append, List.mem_append, List.mem_singleton] at hmember
      rcases hmember with hmember | rfl
      · exact hmembers member hmember
      · exact ⟨hmem, hhash.symm⟩
    · exact h group hother

theorem sound_lookUp {candidates : List Candidate} (hsub : ∀ candidate ∈ candidates, candidate ∈ all)
    (state : Results × Keyed PendingGroup.snapshotHash) (hsound : Sound judging all [] state.1)
    (hwaits : ∀ group ∈ state.2.rows, Waits judging all group) :
    Sound judging all [] (candidates.foldl (lookUp judging) state).1 ∧
      ∀ group ∈ (candidates.foldl (lookUp judging) state).2.rows, Waits judging all group := by
  induction candidates generalizing state with
  | nil => exact ⟨hsound, hwaits⟩
  | cons candidate candidates ih =>
    obtain ⟨hmem, hsub⟩ := List.forall_mem_cons.mp hsub
    rw [List.foldl_cons]
    apply ih hsub
    · unfold lookUp
      cases hcached : judging.cachedLabel candidate.snapshotHash with
      | some cached =>
        refine sound_put hsound hmem ?_
        simp [labelOf, hcached]
      | none => exact hsound
    · unfold lookUp
      cases hcached : judging.cachedLabel candidate.snapshotHash with
      | some cached => exact hwaits
      | none => exact waits_addPending hwaits hmem hcached

theorem labelOf_append {write : JudgeLabelWrite} {label : ResumeJudgeResult}
    (h : labelOf judging labelWrites snapshotHash = some label) :
    labelOf judging (labelWrites ++ [write]) snapshotHash = some label := by
  unfold labelOf at h ⊢
  cases hcached : judging.cachedLabel snapshotHash with
  | some cached =>
    rw [hcached] at h
    exact h
  | none =>
    rw [hcached, Option.none_or] at h
    obtain ⟨found, hfound, rfl⟩ := Option.map_eq_some_iff.mp h
    rw [List.find?_append, hfound]
    rfl

theorem labelOf_write {result : ResumeJudgeResult} (hcached : judging.cachedLabel snapshotHash = none)
    (hnew : ∀ write ∈ labelWrites, write.snapshotSha256 ≠ snapshotHash) :
    labelOf judging (labelWrites ++ [⟨snapshotHash, result⟩]) snapshotHash = some result := by
  have hnone : labelWrites.find? (·.snapshotSha256 = snapshotHash) = none := by
    rw [List.find?_eq_none]
    intro write hwrite
    simpa using hnew write hwrite
  unfold labelOf
  rw [hcached, List.find?_append, hnone]
  simp

/-- **One judge call**: the candidates that have waited for it get its answer. -/
theorem sound_worker {state state' : Results × List JudgeLabelWrite}
    (h : worker judging state group = some state') (hsound : Sound judging all state.2 state.1)
    (hwaits : Waits judging all group)
    (hnew : ∀ write ∈ state.2, write.snapshotSha256 ≠ group.snapshotHash) :
    Sound judging all state'.2 state'.1 ∧
      state'.2.map (·.snapshotSha256) = state.2.map (·.snapshotSha256) ++ [group.snapshotHash] := by
  unfold worker at h
  obtain ⟨result, -, rfl⟩ := Option.map_eq_some_iff.mp h
  refine ⟨?_, by simp⟩
  have hlabel := @labelOf_write judging state.2 group.snapshotHash result hwaits.uncached hnew
  have hstart : Sound judging all (state.2 ++ [⟨group.snapshotHash, result⟩]) state.1 := by
    intro answer hanswer
    obtain ⟨candidate, hmem, hid, hold⟩ := hsound answer hanswer
    exact ⟨candidate, hmem, hid, labelOf_append hold⟩
  have hfold : ∀ (candidates : List Candidate) (results : Results),
      (∀ candidate ∈ candidates, candidate ∈ all ∧ candidate.snapshotHash = group.snapshotHash) →
      Sound judging all (state.2 ++ [⟨group.snapshotHash, result⟩]) results →
      Sound judging all (state.2 ++ [⟨group.snapshotHash, result⟩])
        (candidates.foldl
          (fun results candidate => results.put ⟨candidate.resumeId, result, false⟩) results) := by
    intro candidates
    induction candidates with
    | nil => exact fun _ _ hresults => hresults
    | cons candidate candidates ih =>
      intro results hmembers hresults
      obtain ⟨⟨hmem, hhash⟩, hmembers⟩ := List.forall_mem_cons.mp hmembers
      rw [List.foldl_cons]
      exact ih _ hmembers (sound_put hresults hmem (hhash ▸ hlabel))
  exact hfold _ _ hwaits.members hstart

/-- **All judge calls**, in whatever order they end. -/
theorem sound_workers {groups : List PendingGroup} {state state' : Results × List JudgeLabelWrite}
    (h : groups.foldlM (worker judging) state = some state')
    (hsound : Sound judging all state.2 state.1) (hwaits : ∀ group ∈ groups, Waits judging all group)
    (hnew : (state.2.map (·.snapshotSha256) ++ groups.map (·.snapshotHash)).Nodup) :
    Sound judging all state'.2 state'.1 := by
  induction groups generalizing state with
  | nil =>
    obtain rfl := Option.some.inj h
    exact hsound
  | cons group groups ih =>
    obtain ⟨hgroup, hgroups⟩ := List.forall_mem_cons.mp hwaits
    rw [List.foldlM_cons] at h
    obtain ⟨next, hnext, h⟩ := Option.bind_eq_some_iff.mp h
    have hfresh : ∀ write ∈ state.2, write.snapshotSha256 ≠ group.snapshotHash := by
      intro write hwrite
      rw [List.map_cons] at hnew
      exact (List.nodup_append.mp hnew).2.2 _ (List.mem_map_of_mem hwrite) _ List.mem_cons_self
    obtain ⟨hnextSound, hhashes⟩ := sound_worker hnext hsound hgroup hfresh
    apply ih h hnextSound hgroups
    rw [hhashes, List.append_assoc, List.singleton_append]
    exact hnew

theorem sound_judgeMany (h : judgeMany judging all = some (results, labelWrites)) :
    Sound judging all labelWrites results := by
  unfold judgeMany at h
  obtain ⟨hsound, hwaits⟩ := sound_lookUp (fun _ hmem => hmem) ({}, {})
    (show Sound judging all [] _ from fun _ hanswer => by cases hanswer) (fun _ hgroup => by cases hgroup)
  generalize all.foldl (lookUp judging) ({}, {}) = looked at h hsound hwaits
  have hperm := judging.ended_perm looked.2.rows
  refine sound_workers h hsound (fun group hgroup => hwaits group (hperm.mem_iff.mp hgroup)) ?_
  exact (hperm.map _).nodup_iff.mpr looked.2.nodup

end Answers

/-! ## 6. The rows -/

section Rows

variable {judging : Judging} {round01 final candidates : List Candidate} {candidate : Candidate}
variable {run : EvaluatedRun} {row : EvaluatedCandidate} {judged : Results}
variable {rows : List EvaluatedCandidate}

theorem candidate_of_row (h : stageResult candidates judged = some rows) (hrow : row ∈ rows) :
    ∃ candidate ∈ candidates.take topK, ∃ rank,
      evaluatedCandidate judged rank candidate = some row := by
  obtain ⟨ranked, hranked, heq⟩ := Loops.exists_left (Loops.forall₂_of_some h) hrow
  exact ⟨ranked.1, List.fst_mem_of_mem_zipIdx hranked, ranked.2, heq⟩

theorem row_of_candidate (h : stageResult candidates judged = some rows)
    (hmem : candidate ∈ candidates.take topK) :
    ∃ row ∈ rows, ∃ rank, evaluatedCandidate judged rank candidate = some row := by
  rw [← List.zipIdx_map_fst 1 (candidates.take topK)] at hmem
  obtain ⟨ranked, hranked, rfl⟩ := List.mem_map.mp hmem
  obtain ⟨row, hrow, heq⟩ := Loops.exists_right (Loops.forall₂_of_some h) hranked
  exact ⟨row, hrow, ranked.2, heq⟩

theorem evaluateRun_cases (h : evaluateRun judging round01 final = some run) :
    ∃ judged, judgeMany judging (uniqueCandidates round01 final).rows = some (judged, run.labelWrites) ∧
      stageResult round01 judged = some run.round01 ∧ stageResult final judged = some run.final ∧
        run.rawFiles = ((uniqueCandidates round01 final).rows.map rawResumeFile).foldl Keyed.put {} := by
  unfold evaluateRun at h
  obtain ⟨⟨judged, labelWrites⟩, hjudged, h⟩ := Option.bind_eq_some_iff.mp h
  obtain ⟨round01Rows, hround01, h⟩ := Option.bind_eq_some_iff.mp h
  obtain ⟨finalRows, hfinal, h⟩ := Option.bind_eq_some_iff.mp h
  obtain rfl := Option.some.inj h
  exact ⟨judged, hjudged, hround01, hfinal, rfl⟩

theorem rawResumePath_inj {a b : String} (h : rawResumePath a = rawResumePath b) : a = b := by
  unfold rawResumePath at h
  rw [String.append_left_inj, String.append_right_inj] at h
  exact h

theorem exists_rawFile (hmem : candidate ∈ candidates) :
    ∃ file ∈ ((candidates.map rawResumeFile).foldl Keyed.put
        ({} : Keyed RawResumeFile.path)).rows,
      file.path = rawResumePath candidate.snapshotHash ∧
        file.snapshotSha256 = candidate.snapshotHash := by
  have hpath : rawResumePath candidate.snapshotHash ∈ ((candidates.map rawResumeFile).foldl Keyed.put
      ({} : Keyed RawResumeFile.path)).rows.map RawResumeFile.path := by
    rw [rows_foldl_put, Table.mem_map_key_upsertAll]
    exact .inr (List.mem_map_of_mem (List.mem_map_of_mem hmem))
  obtain ⟨file, hfile, hpath⟩ := List.mem_map.mp hpath
  refine ⟨file, hfile, hpath, ?_⟩
  rw [rows_foldl_put] at hfile
  obtain ⟨written, -, rfl⟩ :=
    List.mem_map.mp ((Table.mem_of_mem_upsertAll hfile).resolve_left (by simp))
  exact rawResumePath_inj hpath

/-- **A row is faithful**, where its candidate and the merged one have the same snapshot. -/
theorem faithfulRow_of_single (h : evaluateRun judging round01 final = some run)
    (hsingle : SingleSnapshots round01 final) (hrow : row ∈ run.round01 ++ run.final) :
    FaithfulRow judging run row := by
  obtain ⟨judged, hjudged, hround01, hfinal, hfiles⟩ := evaluateRun_cases h
  obtain ⟨candidate, hmem, rank, hcandidate⟩ : ∃ candidate ∈ topCandidates round01 final,
      ∃ rank, evaluatedCandidate judged rank candidate = some row := by
    unfold topCandidates
    rcases List.mem_append.mp hrow with hrow | hrow
    · obtain ⟨candidate, hmem, hfound⟩ := candidate_of_row hround01 hrow
      exact ⟨candidate, List.mem_append_left _ hmem, hfound⟩
    · obtain ⟨candidate, hmem, hfound⟩ := candidate_of_row hfinal hrow
      exact ⟨candidate, List.mem_append_right _ hmem, hfound⟩
  unfold evaluatedCandidate at hcandidate
  obtain ⟨answer, hlookup, rfl⟩ := Option.map_eq_some_iff.mp hcandidate
  obtain ⟨hanswer, hid⟩ := Keyed.lookup_eq_some_iff.mp hlookup
  obtain ⟨unique, hunique, huniqueId, hlabel⟩ := sound_judgeMany hjudged answer hanswer
  have hhash : unique.snapshotHash = candidate.snapshotHash :=
    hsingle unique (mem_topCandidates_of_unique hunique) candidate hmem (huniqueId.trans hid)
  rw [hhash] at hlabel
  constructor
  · dsimp only
    rw [hlabel]
    rfl
  · rw [hfiles]
    obtain ⟨file, hfile, hpath, hsnapshot⟩ := exists_rawFile hunique
    rw [hhash] at hpath hsnapshot
    exact ⟨file, hfile, hpath, hsnapshot⟩

/-! ## 7. Two snapshots of a resume -/

/-- All labels are stored: one for this snapshot, another one for every other. -/
def twoLabels (snapshotHash : String) : Judging where
  cachedLabel other :=
    if other = snapshotHash then some ⟨0, "no match", by decide⟩ else some ⟨3, "match", by decide⟩
  judge _ _ := none
  ended groups := groups
  ended_perm _ := List.Perm.refl _

theorem judgeMany_twoLabels (snapshotHash : String) (candidates : List Candidate) :
    ∃ judged, judgeMany (twoLabels snapshotHash) candidates = some (judged, []) ∧
      ∀ candidate ∈ candidates, ∃ answer, judged.lookup candidate.resumeId = some answer := by
  have hlook : ∀ (candidates : List Candidate) (results : Results),
      ∃ judged, candidates.foldl (lookUp (twoLabels snapshotHash)) (results, {}) = (judged, {}) ∧
        ∀ id, id ∈ results.rows.map Judged.resumeId ∨ id ∈ candidates.map (·.resumeId) →
          id ∈ judged.rows.map Judged.resumeId := by
    intro candidates
    induction candidates with
    | nil => exact fun results => ⟨results, rfl, fun id hid => hid.resolve_right (by simp)⟩
    | cons candidate candidates ih =>
      intro results
      obtain ⟨label, hlabel⟩ : ∃ label,
          (twoLabels snapshotHash).cachedLabel candidate.snapshotHash = some label := by
        unfold twoLabels
        dsimp only
        split
        · exact ⟨_, rfl⟩
        · exact ⟨_, rfl⟩
      obtain ⟨judged, hfold, hkeys⟩ := ih (results.put ⟨candidate.resumeId, label, true⟩)
      refine ⟨judged, ?_, fun id hid => hkeys id ?_⟩
      · rw [List.foldl_cons, ← hfold]
        simp only [lookUp, hlabel]
      · have hput : id ∈ (results.put ⟨candidate.resumeId, label, true⟩).rows.map Judged.resumeId ↔
            id ∈ results.rows.map Judged.resumeId ∨ id = candidate.resumeId := by
          have hall := @Table.mem_map_key_upsertAll _ _ _ Judged.resumeId results.rows
            [⟨candidate.resumeId, label, true⟩] id
          rw [List.map_singleton, List.mem_singleton] at hall
          exact hall
        rw [hput]
        rw [List.map_cons, List.mem_cons] at hid
        tauto
  obtain ⟨judged, hfold, hkeys⟩ := hlook candidates {}
  refine ⟨judged, ?_, fun candidate hmem => ?_⟩
  · unfold judgeMany
    rw [hfold]
    rfl
  · exact Keyed.mem_keys_iff.mp (hkeys _ (.inr (List.mem_map_of_mem hmem)))

theorem exists_stageResult
    (h : ∀ candidate ∈ candidates.take topK, ∃ answer, judged.lookup candidate.resumeId = some answer) :
    ∃ rows, stageResult candidates judged = some rows := by
  obtain ⟨rows, hrows, -⟩ := @Loops.exists_some _ _
    (fun ranked : Candidate × Nat => evaluatedCandidate judged ranked.2 ranked.1)
    (fun _ _ => True) ((candidates.take topK).zipIdx 1) fun ranked hranked => by
      obtain ⟨answer, hanswer⟩ := h ranked.1 (List.fst_mem_of_mem_zipIdx hranked)
      exact ⟨_, by rw [evaluatedCandidate, hanswer, Option.map_some], trivial⟩
  exact ⟨rows, hrows⟩

/-- **Two labels tell two snapshots apart**: each candidate has the snapshot of the merged one. -/
theorem snapshotHash_eq_unique {unique : Candidate}
    (h : ∀ judging run, evaluateRun judging round01 final = some run → Faithful judging run)
    (hmem : candidate ∈ topCandidates round01 final)
    (hunique : unique ∈ (uniqueCandidates round01 final).rows)
    (hid : unique.resumeId = candidate.resumeId) : candidate.snapshotHash = unique.snapshotHash := by
  by_contra hne
  obtain ⟨judged, hjudged, hanswers⟩ :=
    judgeMany_twoLabels unique.snapshotHash (uniqueCandidates round01 final).rows
  have hall : ∀ candidate ∈ topCandidates round01 final,
      ∃ answer, judged.lookup candidate.resumeId = some answer := by
    intro candidate hmem
    obtain ⟨unique, hunique, hid⟩ := exists_unique_of_mem hmem
    rw [← hid]
    exact hanswers unique hunique
  obtain ⟨round01Rows, hround01⟩ := @exists_stageResult round01 judged
    fun candidate hmem => hall candidate (List.mem_append_left _ hmem)
  obtain ⟨finalRows, hfinal⟩ := @exists_stageResult final judged
    fun candidate hmem => hall candidate (List.mem_append_right _ hmem)
  have hrun : evaluateRun (twoLabels unique.snapshotHash) round01 final =
      some ⟨round01Rows, finalRows, [],
        ((uniqueCandidates round01 final).rows.map rawResumeFile).foldl Keyed.put {}⟩ := by
    unfold evaluateRun
    simp only [hjudged, hround01, hfinal, Option.bind_eq_bind, Option.bind_some]
    rfl
  obtain ⟨row, hrow, rank, hcandidate⟩ : ∃ row ∈ round01Rows ++ finalRows, ∃ rank,
      evaluatedCandidate judged rank candidate = some row := by
    rcases List.mem_append.mp hmem with hmem | hmem
    · obtain ⟨row, hrow, hfound⟩ := row_of_candidate hround01 hmem
      exact ⟨row, List.mem_append_left _ hrow, hfound⟩
    · obtain ⟨row, hrow, hfound⟩ := row_of_candidate hfinal hmem
      exact ⟨row, List.mem_append_right _ hrow, hfound⟩
  have hscore := (h _ _ hrun row hrow).score
  unfold evaluatedCandidate at hcandidate
  obtain ⟨answer, hlookup, rfl⟩ := Option.map_eq_some_iff.mp hcandidate
  obtain ⟨hanswer, hanswerId⟩ := Keyed.lookup_eq_some_iff.mp hlookup
  obtain ⟨other, hother, hotherId, hlabel⟩ := sound_judgeMany hjudged answer hanswer
  obtain rfl := unique_eq hother hunique (hotherId.trans (hanswerId.trans hid.symm))
  have hlow : answer.result = ⟨0, "no match", by decide⟩ := by
    simp only [labelOf, twoLabels, if_pos, Option.some_or, Option.some.injEq] at hlabel
    exact hlabel.symm
  simp [labelOf, twoLabels, hne, hlow] at hscore

/-- **Rows are faithful, whatever is stored and judged, if and only if a resume has one snapshot.** -/
theorem everyFaithful_iff (round01 final : List Candidate) :
    (∀ judging run, evaluateRun judging round01 final = some run → Faithful judging run) ↔
      SingleSnapshots round01 final := by
  constructor
  · intro h candidate hmem other hother hid
    obtain ⟨unique, hunique, huniqueId⟩ := exists_unique_of_mem hmem
    rw [snapshotHash_eq_unique h hmem hunique huniqueId,
      snapshotHash_eq_unique h hother hunique (huniqueId.trans hid)]
  · intro hsingle judging run hrun row hrow
    exact faithfulRow_of_single hrun hsingle hrow

end Rows

/-! ## 8. A resume that has changed -/

def seen (snapshotSha256 : String) : Candidate :=
  { resumeId := "resume-1", dedupKey := "resume-1", snapshotSha256 }

/-- Nothing is stored, and the judge looks at the snapshot. -/
def judgedAnew : Judging where
  cachedLabel _ := none
  judge _ snapshotHash :=
    if snapshotHash = "later" then some ⟨3, "match", by decide⟩ else some ⟨0, "no match", by decide⟩
  ended groups := groups
  ended_perm _ := List.Perm.refl _

/-- The row of the first round has the score of the later snapshot, and its file is missing. -/
theorem changed_resume_row : ∃ run,
    evaluateRun judgedAnew [seen "earlier"] [seen "later"] = some run ∧
      run.round01.map (fun row => (row.snapshotSha256, row.judgeScore)) = [("earlier", 3)] ∧
        run.rawFiles.rows.map (fun file => (file.path, file.snapshotSha256)) =
            [("raw_resumes/later.json", "later")] ∧
          ¬Faithful judgedAnew run := by
  obtain ⟨run, hrun, hrows, hfiles⟩ : ∃ run,
      evaluateRun judgedAnew [seen "earlier"] [seen "later"] = some run ∧
        run.round01.map (fun row => (row.snapshotSha256, row.judgeScore)) = [("earlier", 3)] ∧
          run.rawFiles.rows.map (fun file => (file.path, file.snapshotSha256)) =
            [("raw_resumes/later.json", "later")] := ⟨_, rfl, by decide, by decide⟩
  refine ⟨run, hrun, hrows, hfiles, fun hfaithful => ?_⟩
  have hcolumns : ("earlier", (3 : Fin 4)) ∈
      run.round01.map fun row => (row.snapshotSha256, row.judgeScore) := by
    rw [hrows]
    exact List.mem_singleton_self _
  obtain ⟨row, hrow, hcolumns⟩ := List.mem_map.mp hcolumns
  obtain ⟨file, hfile, -, hsnapshot⟩ := (hfaithful row (List.mem_append_left _ hrow)).file
  have hwritten : (file.path, file.snapshotSha256) ∈
      run.rawFiles.rows.map fun file => (file.path, file.snapshotSha256) :=
    List.mem_map.mpr ⟨file, hfile, rfl⟩
  rw [hfiles, List.mem_singleton] at hwritten
  have hlater : file.snapshotSha256 = "later" := (Prod.mk.inj hwritten).2
  have hearlier : row.snapshotSha256 = "earlier" := (Prod.mk.inj hcolumns).1
  rw [hlater, hearlier] at hsnapshot
  exact absurd hsnapshot (by decide)

end Evaluation

end SeekTalent

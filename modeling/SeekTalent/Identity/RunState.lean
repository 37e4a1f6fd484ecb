import SeekTalent.Identity.Partition
import Mathlib.Data.List.MinMax
import Mathlib.Data.Prod.Lex

/-!
# The identity tables of a run

`apply_source_lane_result` stores what a source lane has found and rebuilds the identity
tables from scratch: it runs the index over the seen resumes, with the evidence of each, and
writes down for each resume the identity that its own upserts ended in.

That entry is final only if no later upsert of the rebuild merges the identity away.
`MergesOnlyOwn` says that no upsert merges away an identity with a resume other than its
own. Under it every rebuild leaves tables that agree with each other, and so does every run
(`tablesAgree_of_run`). Without it they need not: contact evidence of a second resume can
leave the first one under an id that is gone (`contactAfterProvider_stale`).
-/

namespace SeekTalent

open RuntimeCandidateIdentityIndex

inductive RuntimeSourceLaneStatus where
  | completed
  | blocked
  | partialResult
  | failed
  | cancelled
  deriving DecidableEq

structure RuntimeSourceLaneResult where
  status : RuntimeSourceLaneStatus
  candidateStoreUpdates : List (String × ResumeCandidate) := []
  normalizedStoreUpdates : List (String × NormalizedResume) := []
  sourceEvidenceUpdates : List RuntimeSourceEvidence := []
  deriving DecidableEq

/-- `source_order`: the position of a source, if it has one. -/
abbrev SourceOrder := RuntimeSourceKind → Option Int

structure RuntimeCanonicalResumeSelection where
  identityId : String
  canonicalResumeId : String
  selectedEvidenceId : Option String
  selectedAt : Option String
  safeReasonCodes : List String

theorem nodup_noScorecards : (([] : List ScoredCandidate).map (·.resumeId)).Nodup :=
  List.nodup_nil

/-- The part of the run state that has to do with candidates and identities. Dicts that are
    iterated over are lists of rows with distinct keys, the others functions. -/
structure RunState where
  seenResumeIds : List String := []
  candidateStore : String → Option ResumeCandidate := fun _ => none
  normalizedStore : String → Option NormalizedResume := fun _ => none
  sourceEvidenceByResumeId : String → List RuntimeSourceEvidence := fun _ => []
  sourceEvidenceByIdentityId : String → Option (List RuntimeSourceEvidence) := fun _ => none
  candidateIdentityByResumeId : List (String × String) := []
  candidateIdentities : List RuntimeCandidateIdentity := []
  identityAliasesByCanonicalId : String → Option (List String) := fun _ => none
  canonicalResumeByIdentityId : String → Option RuntimeCanonicalResumeSelection := fun _ => none
  scorecardsByResumeId : List ScoredCandidate := []
  topPoolIds : List String := []
  finalizationRevisions : List RuntimeFinalizationRevision := []
  nodup_identityIds : (candidateIdentities.map (·.identityId)).Nodup := by
    exact nodup_noIdentities
  nodup_scorecards : (scorecardsByResumeId.map (·.resumeId)).Nodup := by
    exact nodup_noScorecards

/-- `candidate_identity_by_resume_id.get(resume_id)` -/
def RunState.identityOf (state : RunState) (resumeId : String) : Option String :=
  (Table.lookup Prod.fst state.candidateIdentityByResumeId resumeId).map Prod.snd

/-! ## The canonical resume of an identity -/

def levelOrder : RuntimeEvidenceLevel → Nat
  | .card => 0
  | .detail => 1
  | .final => 2

def evidenceSortKey (sourceOrder : SourceOrder) (evidence : RuntimeSourceEvidence) :
    Int ×ₗ Nat ×ₗ String ×ₗ String :=
  toLex ((sourceOrder evidence.source).getD 999,
    toLex (levelOrder evidence.evidenceLevel, toLex (evidence.collectedAt, evidence.evidenceId)))

def sourceTrust : RuntimeSourceKind → Nat
  | .liepin => 2
  | .cts => 1

def isDetail (evidence : RuntimeSourceEvidence) : Nat :=
  if evidence.evidenceLevel = .detail then 1 else 0

/-- How good a resume is for its identity: detail evidence first, then what is newest, most
    complete, most trusted and best ranked, then the id. -/
def canonicalSortKey (normalizedStore : String → Option NormalizedResume)
    (evidence : List RuntimeSourceEvidence) (resumeId : String) :
    Nat ×ₗ String ×ₗ Nat ×ₗ Nat ×ₗ Int ×ₗ String :=
  let resumeEvidence := evidence.filter (·.candidateResumeId = resumeId)
  let bestLevel := if resumeEvidence.any (·.evidenceLevel = .detail) then 1 else 0
  let newestCollectedAt := (resumeEvidence.map (·.collectedAt)).foldl max ""
  let completeness := ((normalizedStore resumeId).map (·.completenessScore)).getD 0
  let trust := (resumeEvidence.map (sourceTrust ·.source)).foldl max 0
  let providerRank := (resumeEvidence.filterMap (·.providerRank)).min?.getD 9999
  toLex (bestLevel, toLex (newestCollectedAt, toLex (completeness, toLex (trust,
    toLex (-providerRank, resumeId)))))

/-- `choose_canonical_resume_for_identity`; there is none without a resume. -/
def chooseCanonicalResumeForIdentity (identityId : String) (resumeIds : List String)
    (normalizedStore : String → Option NormalizedResume)
    (evidence : List RuntimeSourceEvidence) : Option RuntimeCanonicalResumeSelection :=
  (Py.maxBy (canonicalSortKey normalizedStore evidence) resumeIds).map fun selectedResumeId =>
    -- the first one of the sort in reverse order
    let selectedEvidence := Py.maxBy
      (fun item => (toLex (isDetail item, toLex (item.collectedAt, item.evidenceId)) :
        Nat ×ₗ String ×ₗ String))
      (evidence.filter (·.candidateResumeId = selectedResumeId))
    { identityId
      canonicalResumeId := selectedResumeId
      selectedEvidenceId := selectedEvidence.map (·.evidenceId)
      selectedAt := selectedEvidence.map (·.collectedAt)
      safeReasonCodes :=
        if (selectedEvidence.map isDetail) = some 1 then ["detail_evidence"]
        else ["provider_rank_preserved"] }

theorem canonicalResumeId_mem {identityId : String} {resumeIds : List String}
    {normalizedStore : String → Option NormalizedResume} {evidence : List RuntimeSourceEvidence}
    {selection : RuntimeCanonicalResumeSelection}
    (h : chooseCanonicalResumeForIdentity identityId resumeIds normalizedStore evidence =
      some selection) : selection.canonicalResumeId ∈ resumeIds := by
  obtain ⟨selected, hselected, rfl⟩ := Option.map_eq_some_iff.mp h
  exact Py.mem_of_maxBy hselected

/-! ## Rebuilding the tables -/

section Rebuild

variable (sha256 : String → String) (tables : Py.UnicodeTables)

/-- The upserts a rebuild makes for one resume: one for each piece of evidence, and one
    without evidence when there is none. -/
def RunState.upsertsFor (state : RunState) (resumeId : String) : List Upsert :=
  match state.candidateStore resumeId with
  | none => []
  | some candidate =>
    let normalized := state.normalizedStore resumeId
    match state.sourceEvidenceByResumeId resumeId with
    | [] =>
      [⟨resumeId, "candidate:" ++ resumeId,
        identitySignalsForCandidate tables candidate normalized none⟩]
    | evidenceItems => evidenceItems.map fun evidence =>
      ⟨resumeId, evidence.evidenceId,
        identitySignalsForCandidate tables candidate normalized (some evidence)⟩

def RunState.upserts (state : RunState) : List Upsert :=
  state.seenResumeIds.flatMap (state.upsertsFor tables)

/-- Several upserts in a row, with the id of the identity that the last one returned. -/
def upsertEach (index : RuntimeCandidateIdentityIndex) (identityId : Option String) :
    List Upsert → RuntimeCandidateIdentityIndex × Option String
  | [] => (index, identityId)
  | call :: calls =>
    upsertEach (index.upsertCandidate sha256 call) (some (index.targetIdentityId sha256 call)) calls

/-- What a rebuild carries from resume to resume. -/
structure Rebuild where
  index : RuntimeCandidateIdentityIndex := {}
  candidateIdentityByResumeId : List (String × String) := []

def RunState.rebuildResume (state : RunState) (rebuild : Rebuild) (resumeId : String) : Rebuild :=
  match upsertEach sha256 rebuild.index none (state.upsertsFor tables resumeId) with
  | (index, some identityId) =>
    ⟨index, Table.upsert Prod.fst rebuild.candidateIdentityByResumeId (resumeId, identityId)⟩
  | (index, none) => ⟨index, rebuild.candidateIdentityByResumeId⟩

def RunState.rebuild (state : RunState) : Rebuild :=
  state.seenResumeIds.foldl (state.rebuildResume sha256 tables) {}

def evidenceOfIdentity (sourceOrder : SourceOrder)
    (sourceEvidenceByResumeId : String → List RuntimeSourceEvidence)
    (candidateIdentityByResumeId : List (String × String)) (identityId : String) :
    Option (List RuntimeSourceEvidence) :=
  if identityId ∈ candidateIdentityByResumeId.map Prod.snd then
    some (Py.sortedBy (evidenceSortKey sourceOrder) (Table.upsertAll (·.evidenceId) []
      ((candidateIdentityByResumeId.filter (·.2 = identityId)).flatMap
        (sourceEvidenceByResumeId ·.1))))
  else none

def RunState.rebuildIdentityState (state : RunState) (sourceOrder : SourceOrder) : RunState :=
  let rebuild := state.rebuild sha256 tables
  let sourceEvidenceByIdentityId := evidenceOfIdentity sourceOrder state.sourceEvidenceByResumeId
    rebuild.candidateIdentityByResumeId
  { state with
    candidateIdentities := rebuild.index.identities
    nodup_identityIds := rebuild.index.nodup_ids
    identityAliasesByCanonicalId := fun id =>
      (rebuild.index.aliasesByCanonicalId id).map fun aliases => Py.sortedSet (aliases ++ [id])
    candidateIdentityByResumeId := rebuild.candidateIdentityByResumeId
    sourceEvidenceByIdentityId := sourceEvidenceByIdentityId
    canonicalResumeByIdentityId := fun id =>
      (rebuild.index.lookup id).bind fun identity =>
        chooseCanonicalResumeForIdentity id identity.resumeIds state.normalizedStore
          ((sourceEvidenceByIdentityId id).getD []) }

/-- One turn of the loop of `append_source_evidence_once`. -/
def RunState.appendEvidence (sourceOrder : SourceOrder) (state : RunState)
    (evidence : RuntimeSourceEvidence) : RunState :=
  let entries := state.sourceEvidenceByResumeId evidence.candidateResumeId
  if entries.any (·.evidenceId = evidence.evidenceId) then state
  else
    { state with
      sourceEvidenceByResumeId := fun resumeId =>
        if resumeId = evidence.candidateResumeId then
          Py.sortedBy (evidenceSortKey sourceOrder) (entries ++ [evidence])
        else state.sourceEvidenceByResumeId resumeId }

def RunState.appendSourceEvidenceOnce (state : RunState) (sourceOrder : SourceOrder)
    (evidenceUpdates : List RuntimeSourceEvidence) : RunState :=
  evidenceUpdates.foldl (appendEvidence sourceOrder) state

def RunState.storeCandidate (state : RunState) (update : String × ResumeCandidate) : RunState :=
  { state with
    candidateStore := fun id => if id = update.1 then some update.2 else state.candidateStore id
    seenResumeIds :=
      if update.1 ∈ state.seenResumeIds then state.seenResumeIds
      else state.seenResumeIds ++ [update.1] }

def RunState.updateStores (state : RunState) (result : RuntimeSourceLaneResult) : RunState :=
  let state := result.candidateStoreUpdates.foldl storeCandidate state
  { state with
    normalizedStore := fun id =>
      ((result.normalizedStoreUpdates.reverse.find? (·.1 = id)).map (·.2)).or
        (state.normalizedStore id) }

/-- The run state a rebuild starts from: everything stored, the tables still the old ones. -/
def RunState.store (state : RunState) (sourceOrder : SourceOrder)
    (result : RuntimeSourceLaneResult) : RunState :=
  (state.updateStores result).appendSourceEvidenceOnce sourceOrder result.sourceEvidenceUpdates

def RunState.applySourceLaneResult (state : RunState) (sourceOrder : SourceOrder)
    (result : RuntimeSourceLaneResult) : RunState :=
  if result.status = .blocked then state
  else (state.store sourceOrder result).rebuildIdentityState sha256 tables sourceOrder

/-- Any number of lane results, each with the source order of its call. -/
def RunState.applyAll (state : RunState) (results : List (SourceOrder × RuntimeSourceLaneResult)) :
    RunState :=
  results.foldl (fun state step => state.applySourceLaneResult sha256 tables step.1 step.2) state

end Rebuild

/-! ## Tables that agree -/

structure TablesAgree (state : RunState) : Prop where
  recorded : ∀ resumeId id, state.identityOf resumeId = some id →
    ∃ identity ∈ state.candidateIdentities, identity.identityId = id ∧
      resumeId ∈ identity.resumeIds
  mapped : ∀ identity ∈ state.candidateIdentities, ∀ resumeId ∈ identity.resumeIds,
    state.identityOf resumeId = some identity.identityId
  evidence : ∀ identity ∈ state.candidateIdentities,
    ∃ items, state.sourceEvidenceByIdentityId identity.identityId = some items ∧
      (items.map (·.evidenceId)).Nodup ∧
      (∀ item ∈ items, ∃ resumeId ∈ identity.resumeIds,
        item ∈ state.sourceEvidenceByResumeId resumeId) ∧
      ∀ resumeId ∈ identity.resumeIds, ∀ item ∈ state.sourceEvidenceByResumeId resumeId,
        item.evidenceId ∈ items.map (·.evidenceId)

def MergesOnlyOwn (sha256 : String → String) (index : RuntimeCandidateIdentityIndex) :
    List Upsert → Prop
  | [] => True
  | call :: calls =>
    (∀ identity ∈ index.identities,
      identity.identityId ∈ index.existingIdentityIds sha256 call →
      identity.identityId ≠ index.targetIdentityId sha256 call →
      ∀ resumeId ∈ identity.resumeIds, resumeId = call.resumeId) ∧
    MergesOnlyOwn sha256 (index.upsertCandidate sha256 call) calls

instance (sha256 : String → String) : (index : RuntimeCandidateIdentityIndex) →
    (calls : List Upsert) → Decidable (MergesOnlyOwn sha256 index calls)
  | _, [] => inferInstanceAs (Decidable True)
  | index, call :: calls =>
    have := instDecidableMergesOnlyOwn sha256 (index.upsertCandidate sha256 call) calls
    inferInstanceAs (Decidable (_ ∧ _))

/-- The rebuild that a step makes merges away no identity with another resume. -/
def StepKeepsRecorded (sha256 : String → String) (tables : Py.UnicodeTables) (state : RunState)
    (step : SourceOrder × RuntimeSourceLaneResult) : Prop :=
  step.2.status = .blocked ∨ MergesOnlyOwn sha256 {} ((state.store step.1 step.2).upserts tables)

/-- The canonical resume of an identity is one of its resumes. -/
def CanonicalAgree (state : RunState) : Prop :=
  ∀ id selection, state.canonicalResumeByIdentityId id = some selection →
    ∃ identity ∈ state.candidateIdentities, identity.identityId = id ∧
      selection.canonicalResumeId ∈ identity.resumeIds

section Loop

variable {sha256 : String → String} {tables : Py.UnicodeTables} {state : RunState}
variable {index : RuntimeCandidateIdentityIndex} {call : Upsert} {calls calls' : List Upsert}
variable {resumeId id : String} {rebuild : Rebuild}

/-- Tokens have one live identity each, and every identity has a resume. -/
structure Sound (index : RuntimeCandidateIdentityIndex) : Prop where
  functional : index.Functional
  live : index.LiveLabels
  populated : ∀ id ∈ index.ids, ∃ resumeId, index.Holds (.resume resumeId) id

theorem sound_empty : Sound {} := by
  have hinv : Consistent id [] {} := consistent_empty
  exact ⟨hinv.functional, hinv.live, by simp [ids]⟩

theorem Sound.upsertCandidate (h : Sound index) : Sound (index.upsertCandidate sha256 call) := by
  obtain ⟨hHolds, hIds⟩ := upsertCandidate_spec sha256 call h.live
  refine ⟨h.functional.upsertCandidate h.live, h.live.upsertCandidate h.functional, ?_⟩
  intro id hid
  rcases (hIds id).mp hid with rfl | ⟨hid, hne⟩
  · exact ⟨call.resumeId, (hHolds ..).mpr (.inl ⟨Upsert.resumeId_mem_tokens, rfl⟩)⟩
  · obtain ⟨r, hr⟩ := h.populated id hid
    exact ⟨r, (hHolds ..).mpr (.inr ⟨id, hr, by simp [hne]⟩)⟩

theorem holds_resume_of_mergesOnlyOwn (h : Sound index)
    (hown : MergesOnlyOwn sha256 index (call :: calls)) (hne : resumeId ≠ call.resumeId) :
    (index.upsertCandidate sha256 call).Holds (.resume resumeId) id ↔
      index.Holds (.resume resumeId) id := by
  rw [(upsertCandidate_spec sha256 call h.live).1]
  -- an identity with this resume that exists for the call can only be the target
  have htarget : ∀ id₀, index.Holds (.resume resumeId) id₀ →
      id₀ ∈ index.existingIdentityIds sha256 call → id₀ = index.targetIdentityId sha256 call := by
    intro id₀ hid₀ hex
    by_contra hno
    obtain ⟨identity, hmem, rfl, hr⟩ := hid₀
    exact hne (hown.1 identity hmem hex hno resumeId hr)
  constructor
  · intro hid
    rcases hid with ⟨htok, -⟩ | ⟨id₀, hid₀, rfl⟩
    · exact absurd htok hne
    · split
      · rename_i hex
        exact htarget id₀ hid₀ hex ▸ hid₀
      · exact hid₀
  · intro hid
    refine .inr ⟨id, hid, ?_⟩
    split
    · rename_i hex
      exact htarget id hid hex
    · rfl

theorem mergesOnlyOwn_append :
    MergesOnlyOwn sha256 index (calls ++ calls') ↔ MergesOnlyOwn sha256 index calls ∧
      MergesOnlyOwn sha256 (calls.foldl (upsertCandidate sha256) index) calls' := by
  induction calls generalizing index with
  | nil => simp [MergesOnlyOwn]
  | cons call calls ih => simp [MergesOnlyOwn, ih, and_assoc]

theorem upsertEach_fst (identityId : Option String) :
    (upsertEach sha256 index identityId calls).1 =
      calls.foldl (upsertCandidate sha256) index := by
  induction calls generalizing index identityId with
  | nil => rfl
  | cons call calls ih => exact ih _

theorem upsertEach_spec (identityId : Option String)
    (hcalls : ∀ call ∈ calls, call.resumeId = resumeId) (h : Sound index)
    (hown : MergesOnlyOwn sha256 index calls)
    (hlast : ∀ id, identityId = some id → ∀ id', index.Holds (.resume resumeId) id' ↔ id' = id) :
    Sound (upsertEach sha256 index identityId calls).1 ∧
    (∀ r, r ≠ resumeId → ∀ id,
      (upsertEach sha256 index identityId calls).1.Holds (.resume r) id ↔
        index.Holds (.resume r) id) ∧
    (∀ id, (upsertEach sha256 index identityId calls).2 = some id → ∀ id',
      (upsertEach sha256 index identityId calls).1.Holds (.resume resumeId) id' ↔ id' = id) ∧
    ((upsertEach sha256 index identityId calls).2 = none → calls = []) := by
  induction calls generalizing index identityId with
  | nil => exact ⟨h, fun _ _ _ => Iff.rfl, hlast, fun _ => rfl⟩
  | cons call calls ih =>
    obtain ⟨hcall, hcalls⟩ := List.forall_mem_cons.mp hcalls
    have hnext : ∀ id, some (index.targetIdentityId sha256 call) = some id → ∀ id',
        (index.upsertCandidate sha256 call).Holds (.resume resumeId) id' ↔ id' = id := by
      intro id hid id'
      obtain rfl := Option.some.inj hid
      exact holds_of_touched h.functional h.live (.inl (hcall ▸ Upsert.resumeId_mem_tokens))
    obtain ⟨ihSound, ihOther, ihLast, ihNone⟩ := ih _ hcalls h.upsertCandidate hown.2 hnext
    refine ⟨ihSound, fun r hr id => ?_, ihLast, fun hnone => ?_⟩
    · exact (ihOther r hr id).trans (holds_resume_of_mergesOnlyOwn h hown (hcall ▸ hr))
    · -- after one upsert there is an identity to return
      have hsome : ∀ {index : RuntimeCandidateIdentityIndex} {id : String} {calls : List Upsert},
          (upsertEach sha256 index (some id) calls).2 ≠ none := by
        intro index id calls
        induction calls generalizing index id with
        | nil => simp [upsertEach]
        | cons call calls ih => exact ih
      exact absurd hnone hsome

/-! ## A rebuild -/

/-- The recorded identity of a resume is the one it is with. -/
structure Recorded (rebuild : Rebuild) : Prop where
  sound : Sound rebuild.index
  nodup : (rebuild.candidateIdentityByResumeId.map Prod.fst).Nodup
  mem_iff : ∀ resumeId id, (resumeId, id) ∈ rebuild.candidateIdentityByResumeId ↔
    rebuild.index.Holds (.resume resumeId) id

theorem resumeId_of_mem_upsertsFor (h : call ∈ state.upsertsFor tables resumeId) :
    call.resumeId = resumeId := by
  unfold RunState.upsertsFor at h
  split at h
  · simp at h
  · split at h
    · rw [List.mem_singleton.mp h]
    · obtain ⟨evidence, -, rfl⟩ := List.mem_map.mp h
      rfl

/-- **One resume.** Its entry is written, and the others stay true. -/
theorem Recorded.rebuildResume (h : Recorded rebuild)
    (hown : MergesOnlyOwn sha256 rebuild.index (state.upsertsFor tables resumeId)) :
    Recorded (state.rebuildResume sha256 tables rebuild resumeId) := by
  obtain ⟨hsound, hother, hlast, hnone⟩ := upsertEach_spec none
    (fun call hcall => resumeId_of_mem_upsertsFor hcall) h.sound hown (by simp)
  unfold RunState.rebuildResume
  split
  · rename_i index id heq
    rw [heq] at hsound hother hlast
    refine ⟨hsound, Table.nodup_keys_upsert h.nodup, fun r id' => ?_⟩
    rw [Table.mem_upsert_iff]
    by_cases hr : r = resumeId
    · subst hr
      simpa using (hlast id rfl id').symm
    · simpa [hr] using (h.mem_iff r id').trans (hother r hr id').symm
  · rename_i index heq
    have hcalls := hnone (by rw [heq])
    rw [hcalls] at heq
    obtain rfl : rebuild.index = index := congrArg Prod.fst heq
    exact h

theorem rebuildResume_index :
    (state.rebuildResume sha256 tables rebuild resumeId).index =
      (state.upsertsFor tables resumeId).foldl (upsertCandidate sha256) rebuild.index := by
  rw [← upsertEach_fst none]
  unfold RunState.rebuildResume
  split <;> simp [*]

/-- **The loop of a rebuild**: every resume ends with the identity recorded for it. -/
theorem Recorded.rebuildAll {resumeIds : List String} (h : Recorded rebuild)
    (hown : MergesOnlyOwn sha256 rebuild.index
      (resumeIds.flatMap (state.upsertsFor tables))) :
    Recorded (resumeIds.foldl (state.rebuildResume sha256 tables) rebuild) := by
  induction resumeIds generalizing rebuild with
  | nil => exact h
  | cons resumeId resumeIds ih =>
    rw [List.flatMap_cons, mergesOnlyOwn_append] at hown
    exact ih (h.rebuildResume hown.1) (rebuildResume_index ▸ hown.2)

theorem recorded_empty : Recorded {} := by
  refine ⟨sound_empty, by simp, fun resumeId id => ?_⟩
  simp [Holds, RowHolds]

variable {sourceOrder : SourceOrder}

/-- **A rebuild leaves tables that agree** when none of its upserts merges away an identity
    with another resume. -/
theorem tablesAgree_rebuild (hown : MergesOnlyOwn sha256 {} (state.upserts tables)) :
    TablesAgree (state.rebuildIdentityState sha256 tables sourceOrder) := by
  have h : Recorded (state.rebuild sha256 tables) :=
    recorded_empty.rebuildAll hown
  have hid : ∀ resumeId id,
      (state.rebuildIdentityState sha256 tables sourceOrder).identityOf resumeId = some id ↔
        (state.rebuild sha256 tables).index.Holds (.resume resumeId) id := by
    intro resumeId id
    rw [← h.mem_iff, RunState.identityOf, Option.map_eq_some_iff]
    constructor
    · intro hx
      obtain ⟨⟨r, i⟩, hx, rfl⟩ := hx
      obtain ⟨hmem, rfl⟩ := (Table.lookup_eq_some_iff h.nodup).mp hx
      exact hmem
    · intro hmem
      exact ⟨(resumeId, id), (Table.lookup_eq_some_iff h.nodup).mpr ⟨hmem, rfl⟩, rfl⟩
  refine ⟨fun resumeId id hx => (hid resumeId id).mp hx, ?_, ?_⟩
  · intro identity hmem resumeId hr
    exact (hid resumeId identity.identityId).mpr ⟨identity, hmem, rfl, hr⟩
  · intro identity hmem
    have hrow : ∀ resumeId, resumeId ∈ identity.resumeIds ↔ (resumeId, identity.identityId) ∈
        (state.rebuild sha256 tables).candidateIdentityByResumeId := by
      intro resumeId
      rw [h.mem_iff]
      exact (rowHolds_iff_of_mem (state.rebuild sha256 tables).index.nodup_ids hmem).symm
    obtain ⟨first, hfirst⟩ := h.sound.populated identity.identityId
      (mem_ids_iff.mpr ⟨identity, hmem, rfl⟩)
    have hlisted : identity.identityId ∈
        (state.rebuild sha256 tables).candidateIdentityByResumeId.map Prod.snd :=
      List.mem_map.mpr ⟨_, (h.mem_iff first identity.identityId).mpr hfirst, rfl⟩
    refine ⟨_, if_pos hlisted, ?_, ?_, ?_⟩
    · exact (Py.perm_sortedBy.map _).nodup_iff.mpr (Table.nodup_keys_upsertAll (by simp))
    · intro item hitem
      have hitem := (Table.mem_of_mem_upsertAll (Py.mem_sortedBy.mp hitem)).resolve_left (by simp)
      obtain ⟨⟨resumeId, id⟩, hpair, hitem⟩ := List.mem_flatMap.mp hitem
      obtain ⟨hpair, hpid⟩ := List.mem_filter.mp hpair
      obtain rfl : id = identity.identityId := by simpa using hpid
      exact ⟨resumeId, (hrow resumeId).mpr hpair, hitem⟩
    · intro resumeId hr item hitem
      rw [(Py.perm_sortedBy.map _).mem_iff, Table.mem_map_key_upsertAll]
      right
      refine List.mem_map_of_mem (List.mem_flatMap.mpr
        ⟨(resumeId, identity.identityId), List.mem_filter.mpr ⟨(hrow resumeId).mp hr, ?_⟩, hitem⟩)
      simp

theorem canonicalAgree_rebuild :
    CanonicalAgree (state.rebuildIdentityState sha256 tables sourceOrder) := by
  intro id selection hx
  obtain ⟨identity, hlookup, hchoose⟩ := Option.bind_eq_some_iff.mp hx
  obtain ⟨hmem, hid⟩ := lookup_eq_some_iff.mp hlookup
  exact ⟨identity, hmem, hid, canonicalResumeId_mem hchoose⟩

/-! ## A run -/

variable {results : List (SourceOrder × RuntimeSourceLaneResult)}
variable {step : SourceOrder × RuntimeSourceLaneResult}

theorem applyAll_concat :
    state.applyAll sha256 tables (results ++ [step]) =
      (state.applyAll sha256 tables results).applySourceLaneResult sha256 tables step.1 step.2 := by
  simp [RunState.applyAll, List.foldl_append]

theorem TablesAgree.applySourceLaneResult (h : TablesAgree state)
    (hstep : StepKeepsRecorded sha256 tables state step) :
    TablesAgree (state.applySourceLaneResult sha256 tables step.1 step.2) := by
  unfold RunState.applySourceLaneResult
  split
  · exact h
  · rename_i hstatus
    exact tablesAgree_rebuild (hstep.resolve_left hstatus)

theorem CanonicalAgree.applyAll (h : CanonicalAgree state) (sha256 : String → String)
    (tables : Py.UnicodeTables) (results : List (SourceOrder × RuntimeSourceLaneResult)) :
    CanonicalAgree (state.applyAll sha256 tables results) := by
  induction results using List.reverseRecOn with
  | nil => exact h
  | append_singleton results step ih =>
    rw [applyAll_concat]
    unfold RunState.applySourceLaneResult
    split
    · exact ih
    · exact canonicalAgree_rebuild

/-- **Every run.** From tables that agree, a run in which no rebuild merges away an
    identity with another resume reaches only states whose tables agree. -/
theorem tablesAgree_of_run (sha256 : String → String) (tables : Py.UnicodeTables)
    (state : RunState) (results : List (SourceOrder × RuntimeSourceLaneResult))
    (hstate : TablesAgree state)
    (hsteps : ∀ before step after, results = before ++ step :: after →
      StepKeepsRecorded sha256 tables (state.applyAll sha256 tables before) step) :
    ∀ before after, results = before ++ after →
      TablesAgree (state.applyAll sha256 tables before) := by
  intro before
  induction before using List.reverseRecOn with
  | nil => exact fun _ _ => hstate
  | append_singleton before step ih =>
    intro after hresults
    rw [applyAll_concat]
    rw [List.append_assoc, List.singleton_append] at hresults
    exact (ih (step :: after) hresults).applySourceLaneResult (hsteps before step after hresults)

end Loop

/-! ## Two resumes of one person -/

def sampleOrder : SourceOrder
  | .cts => some 0
  | .liepin => some 1

def seenCandidate (resumeId : String) : String × ResumeCandidate :=
  (resumeId, { resumeId, dedupKey := resumeId })

def cardEvidence : RuntimeSourceEvidence :=
  { evidenceId := "e1", source := .liepin, evidenceLevel := .card, candidateResumeId := "r1",
    providerCandidateKeyHash := "p1", collectedAt := "2025-01-01" }

def detailEvidence : RuntimeSourceEvidence :=
  { evidenceId := "e2", source := .liepin, evidenceLevel := .detail, candidateResumeId := "r2",
    providerCandidateKeyHash := "p1", protectedContactHashes := ["c1"], collectedAt := "2025-01-02" }

def contactAfterProvider : RuntimeSourceLaneResult :=
  { status := .completed
    candidateStoreUpdates := [seenCandidate "r1", seenCandidate "r2"]
    sourceEvidenceUpdates := [cardEvidence, detailEvidence] }

def contactBeforeProvider : RuntimeSourceLaneResult :=
  { contactAfterProvider with
    candidateStoreUpdates := [seenCandidate "r2", seenCandidate "r1"] }

/-- The contact of the second resume makes an identity of its own kind of id and merges the
    first one's away: the first resume stays recorded under the id that is gone. -/
theorem contactAfterProvider_stale :
    ¬TablesAgree (({} : RunState).applyAll sampleSha256 .ascii
      [(sampleOrder, contactAfterProvider)]) := by
  intro h
  obtain ⟨identity, hmem, hid, -⟩ := h.recorded "r1" "identity-a431ef23697bd8b6" (by decide)
  revert identity
  decide

theorem tablesAgree_empty : TablesAgree {} := by
  refine ⟨?_, by simp, by simp⟩
  intro resumeId id h
  simp [RunState.identityOf, Table.lookup] at h

theorem contactBeforeProvider_keepsRecorded (before after : List _) (step : _)
    (h : [(sampleOrder, contactBeforeProvider)] = before ++ step :: after) :
    StepKeepsRecorded sampleSha256 .ascii (({} : RunState).applyAll sampleSha256 .ascii before)
      step := by
  cases before with
  | nil =>
    obtain ⟨rfl, -⟩ := List.cons.inj h
    exact .inr (by decide)
  | cons first before => simp at h

/-- In the other order the second resume joins the first one's identity. -/
theorem tablesAgree_of_run_contactBeforeProvider :
    TablesAgree (({} : RunState).applyAll sampleSha256 .ascii
      [(sampleOrder, contactBeforeProvider)]) :=
  tablesAgree_of_run sampleSha256 .ascii {} [(sampleOrder, contactBeforeProvider)]
    tablesAgree_empty
    (fun before step after h => contactBeforeProvider_keepsRecorded before after step h)
    [(sampleOrder, contactBeforeProvider)] [] rfl

end SeekTalent

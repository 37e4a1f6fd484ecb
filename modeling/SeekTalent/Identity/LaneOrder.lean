import SeekTalent.Base.Firsts
import SeekTalent.Identity.Stores
import Mathlib.Data.List.Perm.Basic

/-!
# Two lane results in either order

A rebuild reads nothing but the stores. Two lane results without a resume in common leave the
same stores in either order, except for the order of the seen resumes, so that the identities
are the same groups of resumes (`partition_eq_components`), under ids that may differ.

The evidence of an identity is that of the resumes recorded under its id, and a resume is
recorded under the identity it has right after its own upserts. A resume counts where that
identity is not merged away later (`settled`), which does depend on the order. Two rebuilds
from the same stores agree on the canonical resumes and on the evidence of the groups exactly
where the resumes that count give the same item for each evidence id
(`sameClasses_rebuild_iff`).
-/

namespace SeekTalent

open RuntimeCandidateIdentityIndex Components

def RuntimeSourceLaneResult.resumeIds (result : RuntimeSourceLaneResult) : List String :=
  result.candidateStoreUpdates.map Prod.fst ++ result.normalizedStoreUpdates.map Prod.fst ++
    result.sourceEvidenceUpdates.map (·.candidateResumeId)

def upTo (resumeId : String) (resumeIds : List String) : List String :=
  (resumeIds.reverse.dropWhile (· ≠ resumeId)).reverse

/-- Every identity of one state is one of the other: it has the same resumes, the same
    canonical resume and the same evidence there, if under another id. -/
def ClassesIn (state other : RunState) : Prop :=
  ∀ identity ∈ state.candidateIdentities, ∃ same ∈ other.candidateIdentities,
    (∀ resumeId, resumeId ∈ identity.resumeIds ↔ resumeId ∈ same.resumeIds) ∧
    (state.canonicalResumeByIdentityId identity.identityId).map (·.canonicalResumeId) =
      (other.canonicalResumeByIdentityId same.identityId).map (·.canonicalResumeId) ∧
    ∀ item, item ∈ (state.sourceEvidenceByIdentityId identity.identityId).getD [] ↔
      item ∈ (other.sourceEvidenceByIdentityId same.identityId).getD []

/-- The same identities, but for their ids. -/
def SameClasses (state other : RunState) : Prop := ClassesIn state other ∧ ClassesIn other state

structure SameStores (state other : RunState) : Prop where
  seen : ∀ resumeId, resumeId ∈ state.seenResumeIds ↔ resumeId ∈ other.seenResumeIds
  candidates : state.candidateStore = other.candidateStore
  normalized : state.normalizedStore = other.normalizedStore
  evidence : state.sourceEvidenceByResumeId = other.sourceEvidenceByResumeId

section Settled

variable (sha256 : String → String) (tables : Py.UnicodeTables)

def RunState.indexAfter (state : RunState) (resumeIds : List String) :
    RuntimeCandidateIdentityIndex :=
  upsertAll sha256 (resumeIds.flatMap (state.upsertsFor tables))

def RunState.identityAfterOwn (state : RunState) (resumeIds : List String) (resumeId : String) :
    Option String :=
  (state.indexAfter sha256 tables (upTo resumeId resumeIds)).label (.resume resumeId)

def RunState.identityAtEnd (state : RunState) (resumeId : String) : Option String :=
  (state.indexAfter sha256 tables state.seenResumeIds).label (.resume resumeId)

/-- The resume has an identity right after its own upserts, and the same one in the end. -/
def RunState.settled (state : RunState) (resumeId : String) : Bool :=
  (state.identityAtEnd sha256 tables resumeId).isSome &&
    state.identityAfterOwn sha256 tables state.seenResumeIds resumeId =
      state.identityAtEnd sha256 tables resumeId

def RunState.settledEvidence (state : RunState) : List RuntimeSourceEvidence :=
  (Table.firsts state.seenResumeIds).flatMap fun resumeId =>
    if state.settled sha256 tables resumeId then state.sourceEvidenceByResumeId resumeId else []

def RunState.settledItem (state : RunState) (evidenceId : String) : Option RuntimeSourceEvidence :=
  ((state.settledEvidence sha256 tables).filter (·.evidenceId = evidenceId)).getLast?

end Settled

section Order

variable {sha256 : String → String} {tables : Py.UnicodeTables} {state other : RunState}
variable {calls calls' : List Upsert} {call : Upsert} {resumeIds : List String}
variable {resumeId resumeId' id : String} {item item' : RuntimeSourceEvidence}

/-! ## The resumes up to one -/

theorem mem_of_mem_upTo (h : resumeId' ∈ upTo resumeId resumeIds) : resumeId' ∈ resumeIds :=
  List.mem_reverse.mp ((List.dropWhile_suffix _).subset (List.mem_reverse.mp h))

theorem upTo_concat_self : upTo resumeId (resumeIds ++ [resumeId]) = resumeIds ++ [resumeId] := by
  simp [upTo]

theorem upTo_concat_of_ne (h : resumeId' ≠ resumeId) :
    upTo resumeId (resumeIds ++ [resumeId']) = upTo resumeId resumeIds := by
  simp [upTo, h]

theorem mem_upTo_self : resumeId ∈ upTo resumeId resumeIds ↔ resumeId ∈ resumeIds := by
  induction resumeIds using List.reverseRecOn with
  | nil => rfl
  | append_singleton resumeIds last ih =>
    by_cases h : last = resumeId
    · rw [h, upTo_concat_self]
    · rw [upTo_concat_of_ne h, ih]
      simp [Ne.symm h]

/-! ## What is recorded for a resume -/

theorem upsertAll_append :
    upsertAll sha256 (calls ++ calls') = calls'.foldl (upsertCandidate sha256)
      (upsertAll sha256 calls) :=
  List.foldl_append ..

theorem sound_upsertAll : Sound (upsertAll sha256 calls) := by
  induction calls using List.reverseRecOn with
  | nil => exact sound_empty
  | append_singleton calls call ih =>
    rw [upsertAll_concat]
    exact ih.upsertCandidate

theorem upsertEach_concat {index : RuntimeCandidateIdentityIndex} (identityId : Option String) :
    upsertEach sha256 index identityId (calls ++ [call]) =
      ((calls.foldl (upsertCandidate sha256) index).upsertCandidate sha256 call,
        some ((calls.foldl (upsertCandidate sha256) index).targetIdentityId sha256 call)) := by
  induction calls generalizing index identityId with
  | nil => rfl
  | cons first calls ih => exact ih _

theorem exists_label_iff (hfree : PrefixesCollisionFree sha256 calls) :
    (∃ id, (upsertAll sha256 calls).label (.resume resumeId) = some id) ↔
      ∃ call ∈ calls, call.resumeId = resumeId := by
  rw [(consistent_upsertAll hfree).labels.occurs]
  constructor
  · intro h
    obtain ⟨_, ⟨call, hcall, rfl⟩, hr⟩ := h
    exact ⟨call, hcall, Eq.symm hr⟩
  · intro h
    obtain ⟨call, hcall, rfl⟩ := h
    exact ⟨_, ⟨call, hcall, rfl⟩, Upsert.resumeId_mem_tokens⟩

/-- The calls for some resumes, where no digests of theirs collide. -/
def RunState.CollisionFree (sha256 : String → String) (tables : Py.UnicodeTables)
    (state : RunState) (resumeIds : List String) : Prop :=
  PrefixesCollisionFree sha256 (resumeIds.flatMap (state.upsertsFor tables))

theorem RunState.CollisionFree.mono {resumeIds' : List String}
    (hfree : state.CollisionFree sha256 tables resumeIds)
    (hsub : ∀ resumeId ∈ resumeIds', resumeId ∈ resumeIds) :
    state.CollisionFree sha256 tables resumeIds' := by
  refine PrefixesCollisionFree.mono hfree ?_
  intro call hcall
  obtain ⟨resumeId, hr, hcall⟩ := List.mem_flatMap.mp hcall
  exact List.mem_flatMap.mpr ⟨resumeId, hsub resumeId hr, hcall⟩

theorem exists_call_iff : (∃ call ∈ resumeIds.flatMap (state.upsertsFor tables),
    call.resumeId = resumeId) ↔ resumeId ∈ resumeIds ∧ state.upsertsFor tables resumeId ≠ [] := by
  constructor
  · intro h
    obtain ⟨call, hcall, rfl⟩ := h
    obtain ⟨resumeId, hr, hcall⟩ := List.mem_flatMap.mp hcall
    rw [resumeId_of_mem_upsertsFor hcall]
    exact ⟨hr, List.ne_nil_of_mem hcall⟩
  · intro h
    obtain ⟨hr, hne⟩ := h
    obtain ⟨call, hcall⟩ := List.exists_mem_of_ne_nil _ hne
    exact ⟨call, List.mem_flatMap.mpr ⟨resumeId, hr, hcall⟩, resumeId_of_mem_upsertsFor hcall⟩

theorem exists_identityAfterOwn_iff (hfree : state.CollisionFree sha256 tables resumeIds) :
    (∃ id, state.identityAfterOwn sha256 tables resumeIds resumeId = some id) ↔
      resumeId ∈ resumeIds ∧ state.upsertsFor tables resumeId ≠ [] := by
  have hpart : state.CollisionFree sha256 tables (upTo resumeId resumeIds) :=
    hfree.mono fun _ h => mem_of_mem_upTo h
  unfold RunState.identityAfterOwn RunState.indexAfter
  rw [exists_label_iff hpart, exists_call_iff, mem_upTo_self]

theorem exists_identityAtEnd_iff
    (hfree : state.CollisionFree sha256 tables state.seenResumeIds) :
    (∃ id, state.identityAtEnd sha256 tables resumeId = some id) ↔
      resumeId ∈ state.seenResumeIds ∧ state.upsertsFor tables resumeId ≠ [] := by
  unfold RunState.identityAtEnd RunState.indexAfter
  rw [exists_label_iff hfree, exists_call_iff]

theorem rebuildResume_cases {rebuild : Rebuild} (h : Sound rebuild.index) :
    state.upsertsFor tables resumeId = [] ∧
        state.rebuildResume sha256 tables rebuild resumeId = rebuild ∨
      ∃ id, ((state.upsertsFor tables resumeId).foldl (upsertCandidate sha256)
          rebuild.index).label (.resume resumeId) = some id ∧
        (state.rebuildResume sha256 tables rebuild resumeId).candidateIdentityByResumeId =
          Table.upsert Prod.fst rebuild.candidateIdentityByResumeId (resumeId, id) := by
  rcases List.eq_nil_or_concat (state.upsertsFor tables resumeId) with hnil | ⟨calls, last, hcalls⟩
  · refine .inl ⟨hnil, ?_⟩
    unfold RunState.rebuildResume
    rw [hnil]
    rfl
  · rw [List.concat_eq_append] at hcalls
    have hmem : last ∈ state.upsertsFor tables resumeId := by simp [hcalls]
    have hlast : last.resumeId = resumeId := resumeId_of_mem_upsertsFor hmem
    have hsound : ∀ (calls : List Upsert) {index : RuntimeCandidateIdentityIndex}, Sound index →
        Sound (calls.foldl (upsertCandidate sha256) index) := by
      intro calls
      induction calls with
      | nil => exact fun h => h
      | cons call calls ih => exact fun h => ih h.upsertCandidate
    have hbefore := hsound calls h
    refine .inr ⟨(calls.foldl (upsertCandidate sha256) rebuild.index).targetIdentityId sha256 last,
      ?_, ?_⟩
    · rw [hcalls, List.foldl_append, List.foldl_cons, List.foldl_nil,
        label_eq_some_iff hbefore.upsertCandidate.functional,
        holds_of_touched hbefore.functional hbefore.live
          (.inl (hlast ▸ Upsert.resumeId_mem_tokens))]
    · unfold RunState.rebuildResume
      rw [hcalls, upsertEach_concat]

/-- **What a rebuild records**: for each seen resume with upserts, the identity it has right
    after them. -/
theorem rebuild_spec (hfree : state.CollisionFree sha256 tables resumeIds) :
    (resumeIds.foldl (state.rebuildResume sha256 tables) {}).index =
      state.indexAfter sha256 tables resumeIds ∧
    (resumeIds.foldl (state.rebuildResume sha256 tables) {}).candidateIdentityByResumeId =
      (Table.firsts resumeIds).filterMap fun resumeId =>
        (state.identityAfterOwn sha256 tables resumeIds resumeId).map (resumeId, ·) := by
  induction resumeIds using List.reverseRecOn with
  | nil => exact ⟨rfl, rfl⟩
  | append_singleton resumeIds last ih =>
    obtain ⟨ihIndex, ihPairs⟩ := ih (hfree.mono fun _ h => List.mem_append_left _ h)
    have hindex : ((state.upsertsFor tables last).foldl (upsertCandidate sha256)
        (state.indexAfter sha256 tables resumeIds)) =
          state.indexAfter sha256 tables (resumeIds ++ [last]) := by
      unfold RunState.indexAfter
      rw [List.flatMap_append, List.flatMap_singleton, upsertAll_append]
    have hother : ∀ resumeId, resumeId ≠ last →
        state.identityAfterOwn sha256 tables (resumeIds ++ [last]) resumeId =
          state.identityAfterOwn sha256 tables resumeIds resumeId := by
      intro resumeId hne
      unfold RunState.identityAfterOwn
      rw [upTo_concat_of_ne (Ne.symm hne)]
    rw [List.foldl_append, List.foldl_cons, List.foldl_nil]
    constructor
    · rw [rebuildResume_index, ihIndex, hindex]
    · rw [Table.firsts_concat]
      rcases @rebuildResume_cases sha256 tables state last
          (resumeIds.foldl (state.rebuildResume sha256 tables) {})
          (ihIndex ▸ sound_upsertAll) with ⟨hnil, hsame⟩ | ⟨id, hlabel, hpairs⟩
      · -- without upserts the resume has no identity, now or before
        have hnone : ∀ resumeIds, state.CollisionFree sha256 tables resumeIds →
            state.identityAfterOwn sha256 tables resumeIds last = none := by
          intro resumeIds hfree
          rw [Option.eq_none_iff_forall_ne_some]
          intro id hid
          exact ((exists_identityAfterOwn_iff hfree).mp ⟨id, hid⟩).2 hnil
        have hagree : ∀ resumeId,
            state.identityAfterOwn sha256 tables (resumeIds ++ [last]) resumeId =
              state.identityAfterOwn sha256 tables resumeIds resumeId := by
          intro resumeId
          by_cases hne : resumeId = last
          · rw [hne, hnone _ hfree,
              hnone _ (hfree.mono fun _ h => List.mem_append_left _ h)]
          · exact hother resumeId hne
        rw [hsame, ihPairs]
        simp only [hagree]
        unfold Table.addFirst
        split
        · rfl
        · rw [List.filterMap_append, List.filterMap_cons_none, List.filterMap_nil,
            List.append_nil]
          rw [hnone _ (hfree.mono fun _ h => List.mem_append_left _ h)]
          rfl
      · rw [hpairs, ihPairs]
        rw [ihIndex, hindex] at hlabel
        apply Table.upsert_filterMap
        · unfold RunState.identityAfterOwn
          rw [upTo_concat_self]
          exact hlabel
        · exact hother
        · intro hmem
          have hcalls := (exists_label_iff hfree).mp ⟨id, hlabel⟩
          exact (exists_identityAfterOwn_iff
            (hfree.mono fun _ h => List.mem_append_left _ h)).mpr
              ⟨Table.mem_firsts.mp hmem, (exists_call_iff.mp hcalls).2⟩

/-! ## Which resumes count -/

theorem settled_iff : state.settled sha256 tables resumeId = true ↔
    ∃ id, state.identityAfterOwn sha256 tables state.seenResumeIds resumeId = some id ∧
      state.identityAtEnd sha256 tables resumeId = some id := by
  unfold RunState.settled
  rw [Bool.and_eq_true, Option.isSome_iff_exists, decide_eq_true_eq]
  constructor
  · intro h
    obtain ⟨⟨id, hend⟩, hown⟩ := h
    exact ⟨id, hown.trans hend, hend⟩
  · intro h
    obtain ⟨id, hown, hend⟩ := h
    exact ⟨⟨id, hend⟩, hown.trans hend.symm⟩

variable (hfree : state.CollisionFree sha256 tables state.seenResumeIds)

include hfree

/-- **A recorded id that is live is still the resume's.** The identity owned the key its id is a
    digest of, and a live identity owns it again. -/
theorem identityAtEnd_of_live
    (hown : state.identityAfterOwn sha256 tables state.seenResumeIds resumeId = some id)
    (hlive : id ∈ (state.indexAfter sha256 tables state.seenResumeIds).ids) :
    state.identityAtEnd sha256 tables resumeId = some id := by
  have hpart : state.CollisionFree sha256 tables (upTo resumeId state.seenResumeIds) :=
    hfree.mono fun _ h => mem_of_mem_upTo h
  have hthen := consistent_upsertAll hpart
  have hnow := consistent_upsertAll hfree
  have hsub : ∀ call ∈ (upTo resumeId state.seenResumeIds).flatMap (state.upsertsFor tables),
      call ∈ state.seenResumeIds.flatMap (state.upsertsFor tables) := by
    intro call hcall
    obtain ⟨resumeId', hr, hcall⟩ := List.mem_flatMap.mp hcall
    exact List.mem_flatMap.mpr ⟨resumeId', mem_of_mem_upTo hr, hcall⟩
  obtain ⟨call, hcall, hid, hkey⟩ := hthen.rooted id
    (hthen.live _ _ ((label_eq_some_iff hthen.functional).mp hown))
  obtain ⟨call', hcall', hid', hkey'⟩ := hnow.rooted id hlive
  have hsame : call.primaryKey sha256 = call'.primaryKey sha256 :=
    hfree ⟨call, hsub call hcall, rfl⟩ ⟨call', hcall', rfl⟩ (hid.symm.trans hid')
  rw [← hsame] at hkey'
  have hjoined := (hthen.labels.same _ _ id hown).mp ((label_eq_some_iff hthen.functional).mpr hkey)
  have hjoined := hjoined.mono (Set.image_mono hsub)
  exact (hnow.labels.same _ _ id ((label_eq_some_iff hnow.functional).mpr hkey')).mpr hjoined.symm

theorem identityAtEnd_of_sameEvidence (hitem : item ∈ state.sourceEvidenceByResumeId resumeId)
    (hid : state.identityAtEnd sha256 tables resumeId = some id)
    (hitem' : item' ∈ state.sourceEvidenceByResumeId resumeId')
    (hsame : item'.evidenceId = item.evidenceId) (hseen : resumeId' ∈ state.seenResumeIds)
    (hcalls : state.upsertsFor tables resumeId' ≠ []) :
    state.identityAtEnd sha256 tables resumeId' = some id := by
  have hcall : ∀ {resumeId item}, item ∈ state.sourceEvidenceByResumeId resumeId →
      resumeId ∈ state.seenResumeIds → state.upsertsFor tables resumeId ≠ [] →
      Joined (tokenGroups sha256 (state.seenResumeIds.flatMap (state.upsertsFor tables)))
        (.resume resumeId) (.evidence item.evidenceId) := by
    intro resumeId item hitem hseen hne
    obtain ⟨call, hcall, hr, he⟩ : ∃ call ∈ state.upsertsFor tables resumeId,
        call.resumeId = resumeId ∧ call.evidenceId = item.evidenceId := by
      unfold RunState.upsertsFor at hne ⊢
      split at hne
      · exact absurd rfl hne
      · split at hne
        · rename_i hnil
          rw [hnil] at hitem
          cases hitem
        · exact ⟨_, List.mem_map_of_mem hitem, rfl, rfl⟩
    refine Joined.of_mem ⟨call, List.mem_flatMap.mpr ⟨resumeId, hseen, hcall⟩, rfl⟩ ?_ ?_
    · exact hr.symm
    · exact he.symm
  have hmade := (exists_identityAtEnd_iff hfree).mp ⟨id, hid⟩
  have hjoined := hcall hitem hmade.1 hmade.2
  have hjoined' := hcall hitem' hseen hcalls
  rw [hsame] at hjoined'
  exact ((consistent_upsertAll hfree).labels.same _ _ id hid).mpr
    (.trans _ _ _ hjoined (.symm _ _ hjoined'))

def RunState.recordedEvidence (sha256 : String → String) (tables : Py.UnicodeTables)
    (state : RunState) (id : String) : List RuntimeSourceEvidence :=
  (Table.firsts state.seenResumeIds).flatMap fun resumeId =>
    if state.identityAfterOwn sha256 tables state.seenResumeIds resumeId = some id then
      state.sourceEvidenceByResumeId resumeId
    else []

theorem filter_recordedEvidence
    (hlive : id ∈ (state.indexAfter sha256 tables state.seenResumeIds).ids)
    (hitem : item ∈ state.sourceEvidenceByResumeId resumeId)
    (hid : state.identityAtEnd sha256 tables resumeId = some id) :
    (state.recordedEvidence sha256 tables id).filter (·.evidenceId = item.evidenceId) =
      (state.settledEvidence sha256 tables).filter (·.evidenceId = item.evidenceId) := by
  unfold RunState.recordedEvidence RunState.settledEvidence
  rw [List.filter_flatMap, List.filter_flatMap]
  apply List.flatMap_congr
  intro resumeId' _
  by_cases hcarries : ∃ item' ∈ state.sourceEvidenceByResumeId resumeId',
      item'.evidenceId = item.evidenceId
  · obtain ⟨item', hitem', hsame⟩ := hcarries
    have hiff : state.identityAfterOwn sha256 tables state.seenResumeIds resumeId' = some id ↔
        state.settled sha256 tables resumeId' = true := by
      rw [settled_iff]
      constructor
      · intro hown
        exact ⟨id, hown, identityAtEnd_of_live hfree hown hlive⟩
      · intro h
        obtain ⟨id', hown, hend⟩ := h
        have hmade := (exists_identityAtEnd_iff hfree).mp ⟨id', hend⟩
        have hend' := identityAtEnd_of_sameEvidence hfree hitem hid hitem' hsame hmade.1 hmade.2
        rw [hown, ← hend, hend']
    simp only [hiff]
  · have hnil : (state.sourceEvidenceByResumeId resumeId').filter
        (·.evidenceId = item.evidenceId) = [] := by
      rw [List.filter_eq_nil_iff]
      intro item' hitem'
      have := not_exists.mp hcarries item'
      simpa [hitem'] using this
    split <;> split <;> simp [hnil]

omit hfree in
theorem flatMap_recorded {keys : List String} {recorded : String → Option String}
    {evidence : String → List RuntimeSourceEvidence} :
    ((keys.filterMap fun key => (recorded key).map (key, ·)).filter (·.2 = id)).flatMap
        (evidence ·.1) =
      keys.flatMap fun key => if recorded key = some id then evidence key else [] := by
  induction keys with
  | nil => rfl
  | cons key keys ih =>
    rw [List.flatMap_cons, ← ih]
    cases hkey : recorded key with
    | none => simp [hkey]
    | some id' =>
      by_cases hid : id' = id <;> simp [hkey, hid]

theorem mem_evidenceOfIdentity {sourceOrder : SourceOrder} :
    item ∈ ((state.rebuildIdentityState sha256 tables sourceOrder).sourceEvidenceByIdentityId
        id).getD [] ↔
      ((state.recordedEvidence sha256 tables id).filter
        (·.evidenceId = item.evidenceId)).getLast? = some item := by
  have hpairs := (rebuild_spec hfree).2
  have hrows := @flatMap_recorded id (Table.firsts state.seenResumeIds)
    (state.identityAfterOwn sha256 tables state.seenResumeIds) state.sourceEvidenceByResumeId
  rw [← hpairs] at hrows
  show item ∈ (evidenceOfIdentity sourceOrder state.sourceEvidenceByResumeId
    (state.rebuild sha256 tables).candidateIdentityByResumeId id).getD [] ↔ _
  unfold evidenceOfIdentity RunState.recordedEvidence
  rw [← hrows, ← Table.mem_upsertAll_nil]
  split
  · exact Py.mem_sortedBy
  · rename_i hnot
    -- no resume is recorded under the id
    have hnil : (state.rebuild sha256 tables).candidateIdentityByResumeId.filter (·.2 = id) = [] := by
      rw [List.filter_eq_nil_iff]
      intro pair hpair
      simp only [decide_eq_true_eq]
      rintro rfl
      exact hnot (List.mem_map_of_mem hpair)
    unfold RunState.rebuild at hnil
    rw [hnil]
    simp [Table.upsertAll]

/-- **The evidence of an identity**: what its resumes carry, as far as it is the item that the
    resumes that count give for its evidence id. -/
theorem mem_evidence_iff {sourceOrder : SourceOrder} {identity : RuntimeCandidateIdentity}
    (hidentity : identity ∈ (state.indexAfter sha256 tables state.seenResumeIds).identities) :
    item ∈ ((state.rebuildIdentityState sha256 tables sourceOrder).sourceEvidenceByIdentityId
        identity.identityId).getD [] ↔
      state.settledItem sha256 tables item.evidenceId = some item ∧
        ∃ resumeId ∈ identity.resumeIds, item ∈ state.sourceEvidenceByResumeId resumeId := by
  have hnow := consistent_upsertAll hfree
  have hlive : identity.identityId ∈
      (state.indexAfter sha256 tables state.seenResumeIds).ids :=
    mem_ids_iff.mpr ⟨identity, hidentity, rfl⟩
  have hlisted : ∀ resumeId, resumeId ∈ identity.resumeIds ↔
      state.identityAtEnd sha256 tables resumeId = some identity.identityId := by
    intro resumeId
    rw [RunState.identityAtEnd, RunState.indexAfter, label_eq_some_iff hnow.functional]
    exact (rowHolds_iff_of_mem (RuntimeCandidateIdentityIndex.nodup_ids _) hidentity).symm
  rw [mem_evidenceOfIdentity hfree]
  constructor
  · intro h
    obtain ⟨hrecorded, -⟩ := List.mem_filter.mp (List.mem_of_getLast? h)
    obtain ⟨resumeId, -, hitem⟩ := List.mem_flatMap.mp hrecorded
    split at hitem
    · rename_i hown
      have hend := identityAtEnd_of_live hfree hown hlive
      refine ⟨?_, resumeId, (hlisted resumeId).mpr hend, hitem⟩
      rw [RunState.settledItem, ← filter_recordedEvidence hfree hlive hitem hend]
      exact h
    · cases hitem
  · intro h
    obtain ⟨hsettled, resumeId, hr, hitem⟩ := h
    rw [filter_recordedEvidence hfree hlive hitem ((hlisted resumeId).mp hr)]
    exact hsettled

end Order

/-! ## The canonical resume -/

section Canonical

variable {normalizedStore : String → Option NormalizedResume}
variable {evidence evidence' : List RuntimeSourceEvidence} {resumeIds resumeIds' : List String}

theorem canonicalSortKey_perm (h : evidence.Perm evidence') :
    canonicalSortKey normalizedStore evidence = canonicalSortKey normalizedStore evidence' := by
  funext resumeId
  have hown := h.filter (·.candidateResumeId = resumeId)
  have hlevel := @List.Perm.any_eq _ _ _ (fun item => decide (item.evidenceLevel = .detail)) hown
  have hnewest := (hown.map (·.collectedAt)).foldl_eq (f := max) ""
  have htrust := (hown.map (sourceTrust ·.source)).foldl_eq (f := max) 0
  have hrank : ((evidence.filter (·.candidateResumeId = resumeId)).filterMap
      (·.providerRank)).min? = ((evidence'.filter (·.candidateResumeId = resumeId)).filterMap
        (·.providerRank)).min? := by
    have hperm := hown.filterMap (·.providerRank)
    apply Option.ext
    intro rank
    rw [List.min?_eq_some_iff, List.min?_eq_some_iff, hperm.mem_iff]
    simp only [hperm.mem_iff]
  unfold canonicalSortKey
  dsimp only
  rw [hlevel, hnewest, htrust, hrank]

theorem canonicalSortKey_injective :
    (canonicalSortKey normalizedStore evidence).Injective := by
  intro resumeId resumeId' h
  unfold canonicalSortKey at h
  simp only [EmbeddingLike.apply_eq_iff_eq, Prod.mk.injEq] at h
  exact h.2.2.2.2.2

theorem canonicalResumeId_congr {identityId identityId' : String}
    (hresumes : ∀ resumeId, resumeId ∈ resumeIds ↔ resumeId ∈ resumeIds')
    (hevidence : evidence.Perm evidence') :
    (chooseCanonicalResumeForIdentity identityId resumeIds normalizedStore evidence).map
        (·.canonicalResumeId) =
      (chooseCanonicalResumeForIdentity identityId' resumeIds' normalizedStore evidence').map
        (·.canonicalResumeId) := by
  have hmax : Py.maxBy (canonicalSortKey normalizedStore evidence) resumeIds =
      Py.maxBy (canonicalSortKey normalizedStore evidence') resumeIds' := by
    rw [canonicalSortKey_perm hevidence]
    unfold Py.maxBy
    cases hbest : resumeIds.argmax (canonicalSortKey normalizedStore evidence') with
    | none =>
      rw [List.argmax_eq_none] at hbest
      have hnil : resumeIds' = [] := by
        apply List.eq_nil_iff_forall_not_mem.mpr
        intro resumeId hmem
        rw [← hresumes, hbest] at hmem
        cases hmem
      rw [hnil]
      rfl
    | some best =>
      cases hbest' : resumeIds'.argmax (canonicalSortKey normalizedStore evidence') with
      | none =>
        rw [List.argmax_eq_none] at hbest'
        have hmem := (hresumes best).mp (List.argmax_mem hbest)
        rw [hbest'] at hmem
        cases hmem
      | some best' =>
        have hle := List.le_of_mem_argmax ((hresumes best').mpr (List.argmax_mem hbest')) hbest
        have hge := List.le_of_mem_argmax ((hresumes best).mp (List.argmax_mem hbest)) hbest'
        rw [canonicalSortKey_injective (le_antisymm hge hle)]
  unfold chooseCanonicalResumeForIdentity
  rw [Option.map_map, Option.map_map, hmax]
  rfl

end Canonical

/-! ## Two rebuilds from the same stores -/

section SameStores

variable {sha256 : String → String} {tables : Py.UnicodeTables} {state other : RunState}
variable {sourceOrder sourceOrder' : SourceOrder}

theorem SameStores.symm (h : SameStores state other) : SameStores other state :=
  ⟨fun resumeId => (h.seen resumeId).symm, h.candidates.symm, h.normalized.symm, h.evidence.symm⟩

theorem SameStores.upsertsFor (h : SameStores state other) :
    state.upsertsFor tables = other.upsertsFor tables := by
  funext resumeId
  unfold RunState.upsertsFor
  rw [h.candidates, h.normalized, h.evidence]

theorem SameStores.mem_upserts (h : SameStores state other) {call : Upsert} :
    call ∈ state.upserts tables ↔ call ∈ other.upserts tables := by
  unfold RunState.upserts
  rw [List.mem_flatMap, List.mem_flatMap, h.upsertsFor]
  simp only [h.seen]

theorem identities_rebuild (hfree : state.CollisionFree sha256 tables state.seenResumeIds) :
    (state.rebuildIdentityState sha256 tables sourceOrder).candidateIdentities =
      (state.indexAfter sha256 tables state.seenResumeIds).identities :=
  congrArg (·.identities) (rebuild_spec hfree).1

theorem nodup_evidenceOfIdentity {id : String} :
    ((((state.rebuildIdentityState sha256 tables sourceOrder).sourceEvidenceByIdentityId
      id).getD []).map (·.evidenceId)).Nodup := by
  show (((evidenceOfIdentity sourceOrder state.sourceEvidenceByResumeId
    (state.rebuild sha256 tables).candidateIdentityByResumeId id).getD []).map _).Nodup
  unfold evidenceOfIdentity
  split
  · exact (Py.perm_sortedBy.map _).nodup_iff.mpr (Table.nodup_keys_upsertAll List.nodup_nil)
  · exact List.nodup_nil

theorem canonicalResume_rebuild {identity : RuntimeCandidateIdentity}
    (hmem : identity ∈ (state.rebuildIdentityState sha256 tables sourceOrder).candidateIdentities) :
    (state.rebuildIdentityState sha256 tables sourceOrder).canonicalResumeByIdentityId
        identity.identityId =
      chooseCanonicalResumeForIdentity identity.identityId identity.resumeIds
        state.normalizedStore
        (((state.rebuildIdentityState sha256 tables sourceOrder).sourceEvidenceByIdentityId
          identity.identityId).getD []) := by
  have hlookup : (state.rebuild sha256 tables).index.lookup identity.identityId = some identity :=
    lookup_eq_some_iff.mpr ⟨hmem, rfl⟩
  show ((state.rebuild sha256 tables).index.lookup identity.identityId).bind _ = _
  rw [hlookup]
  rfl

theorem SameStores.exists_same (h : SameStores state other)
    (hfree : state.CollisionFree sha256 tables state.seenResumeIds)
    (hfree' : other.CollisionFree sha256 tables other.seenResumeIds)
    {identity : RuntimeCandidateIdentity}
    (hmem : identity ∈ (state.rebuildIdentityState sha256 tables sourceOrder).candidateIdentities) :
    ∃ same ∈ (other.rebuildIdentityState sha256 tables sourceOrder').candidateIdentities,
      ∀ resumeId, resumeId ∈ identity.resumeIds ↔ resumeId ∈ same.resumeIds := by
  rw [identities_rebuild hfree] at hmem
  have hpartition := (partition_eq_components sha256 _ hfree').2.2
    (state.seenResumeIds.flatMap (state.upsertsFor tables)) fun _ => h.mem_upserts
  have hclass : {r | r ∈ identity.resumeIds} ∈ (upsertAll sha256
      (other.seenResumeIds.flatMap (other.upsertsFor tables))).partition := by
    rw [← hpartition]
    exact ⟨identity, hmem, rfl⟩
  obtain ⟨same, hsame, heq⟩ := hclass
  refine ⟨same, ?_, fun resumeId => Set.ext_iff.mp heq resumeId⟩
  rw [identities_rebuild hfree']
  exact hsame

theorem SameStores.collisionFree (h : SameStores state other)
    (hfree : state.CollisionFree sha256 tables state.seenResumeIds) :
    other.CollisionFree sha256 tables other.seenResumeIds :=
  PrefixesCollisionFree.mono hfree fun _ hcall => h.mem_upserts.mpr hcall

theorem SameStores.classesIn (h : SameStores state other)
    (hfree : state.CollisionFree sha256 tables state.seenResumeIds)
    (hitems : ∀ evidenceId, state.settledItem sha256 tables evidenceId =
      other.settledItem sha256 tables evidenceId) :
    ClassesIn (state.rebuildIdentityState sha256 tables sourceOrder)
      (other.rebuildIdentityState sha256 tables sourceOrder') := by
  intro identity hmem
  have hfree' := h.collisionFree hfree
  obtain ⟨same, hsame, hresumes⟩ := @SameStores.exists_same sha256 tables state other sourceOrder
    sourceOrder' h hfree hfree' identity hmem
  have hevidence : ∀ item,
      item ∈ ((state.rebuildIdentityState sha256 tables sourceOrder).sourceEvidenceByIdentityId
        identity.identityId).getD [] ↔
      item ∈ ((other.rebuildIdentityState sha256 tables sourceOrder').sourceEvidenceByIdentityId
        same.identityId).getD [] := by
    intro item
    rw [mem_evidence_iff hfree (identities_rebuild hfree ▸ hmem),
      mem_evidence_iff hfree' (identities_rebuild hfree' ▸ hsame), hitems, h.evidence]
    simp only [hresumes]
  refine ⟨same, hsame, hresumes, ?_, hevidence⟩
  rw [canonicalResume_rebuild hmem, canonicalResume_rebuild hsame, h.normalized]
  apply canonicalResumeId_congr hresumes
  exact (List.perm_ext_iff_of_nodup nodup_evidenceOfIdentity.of_map
    nodup_evidenceOfIdentity.of_map).mpr hevidence

theorem settledItem_of_classesIn (h : SameStores state other)
    (hfree : state.CollisionFree sha256 tables state.seenResumeIds)
    (hclasses : ClassesIn (state.rebuildIdentityState sha256 tables sourceOrder)
      (other.rebuildIdentityState sha256 tables sourceOrder'))
    {evidenceId : String} {item : RuntimeSourceEvidence}
    (hitem : state.settledItem sha256 tables evidenceId = some item) :
    other.settledItem sha256 tables evidenceId = some item := by
  have hfree' := h.collisionFree hfree
  obtain ⟨hsettled, hid⟩ := List.mem_filter.mp (List.mem_of_getLast? hitem)
  obtain rfl : item.evidenceId = evidenceId := by simpa using hid
  obtain ⟨resumeId, -, hcarried⟩ := List.mem_flatMap.mp hsettled
  split at hcarried
  · rename_i hcounts
    obtain ⟨id, -, hend⟩ := settled_iff.mp hcounts
    have hnow := consistent_upsertAll hfree
    obtain ⟨identity, hidentity, -, hr⟩ := (label_eq_some_iff hnow.functional).mp hend
    obtain ⟨same, hsame, -, -, hevidence⟩ :=
      hclasses identity (identities_rebuild hfree ▸ hidentity)
    have hlisted := (hevidence item).mp
      ((mem_evidence_iff hfree hidentity).mpr ⟨hitem, resumeId, hr, hcarried⟩)
    exact ((mem_evidence_iff hfree' (identities_rebuild hfree' ▸ hsame)).mp hlisted).1
  · cases hcarried

/-- **Two rebuilds from the same stores.** -/
theorem sameClasses_rebuild_iff (h : SameStores state other)
    (hfree : state.CollisionFree sha256 tables state.seenResumeIds) :
    SameClasses (state.rebuildIdentityState sha256 tables sourceOrder)
        (other.rebuildIdentityState sha256 tables sourceOrder') ↔
      ∀ evidenceId, state.settledItem sha256 tables evidenceId =
        other.settledItem sha256 tables evidenceId := by
  have hfree' := h.collisionFree hfree
  constructor
  · intro hsame evidenceId
    apply Option.ext
    intro item
    exact ⟨settledItem_of_classesIn h hfree hsame.1, settledItem_of_classesIn h.symm hfree' hsame.2⟩
  · intro hitems
    exact ⟨h.classesIn hfree hitems, h.symm.classesIn hfree' fun evidenceId =>
      (hitems evidenceId).symm⟩

end SameStores

/-! ## Two lane results -/

section Lanes

variable {sha256 : String → String} {tables : Py.UnicodeTables} {state : RunState}
variable {first second : RuntimeSourceLaneResult} {sourceOrder sourceOrder' : SourceOrder}

/-- **The stores**: lane results about different resumes leave the same in either order. -/
theorem sameStores_of_disjoint (hdisjoint : ∀ resumeId ∈ first.resumeIds, resumeId ∉ second.resumeIds)
    (hfirst : first.status ≠ .blocked) (hsecond : second.status ≠ .blocked) :
    SameStores
      ((state.applySourceLaneResult sha256 tables sourceOrder first).store sourceOrder' second)
      ((state.applySourceLaneResult sha256 tables sourceOrder' second).store sourceOrder
        first) := by
  have hblank : ∀ (resumeId : String) {result : RuntimeSourceLaneResult},
      resumeId ∉ result.resumeIds →
        lastUpdate result.candidateStoreUpdates resumeId = none ∧
        lastUpdate result.normalizedStoreUpdates resumeId = none ∧
        result.sourceEvidenceUpdates.filter (·.candidateResumeId = resumeId) = [] := by
    intro resumeId result hnot
    unfold RuntimeSourceLaneResult.resumeIds at hnot
    rw [List.mem_append, List.mem_append, not_or, not_or] at hnot
    obtain ⟨⟨hcandidates, hnormalized⟩, hevidence⟩ := hnot
    refine ⟨lastUpdate_eq_none hcandidates, lastUpdate_eq_none hnormalized, ?_⟩
    rw [List.filter_eq_nil_iff]
    intro item hitem
    simp only [decide_eq_true_eq]
    rintro rfl
    exact hevidence (List.mem_map_of_mem hitem)
  have hone : ∀ resumeId, resumeId ∉ first.resumeIds ∨ resumeId ∉ second.resumeIds := by
    intro resumeId
    by_contra h
    obtain ⟨hin, hin'⟩ := not_or.mp h
    exact hdisjoint resumeId (not_not.mp hin) (not_not.mp hin')
  unfold RunState.applySourceLaneResult
  rw [if_neg hfirst, if_neg hsecond]
  refine ⟨fun resumeId => ?_, ?_, ?_, ?_⟩
  · rw [store_at.2.1, store_at.2.1]
    show resumeId ∈ (state.store sourceOrder first).seenResumeIds ∨ _ ↔
      resumeId ∈ (state.store sourceOrder' second).seenResumeIds ∨ _
    rw [store_at.2.1, store_at.2.1, or_right_comm]
  · funext resumeId
    rw [store_at.1, store_at.1]
    show (lastUpdate second.candidateStoreUpdates resumeId).or
        ((state.store sourceOrder first).candidateStore resumeId) =
      (lastUpdate first.candidateStoreUpdates resumeId).or
        ((state.store sourceOrder' second).candidateStore resumeId)
    rw [store_at.1, store_at.1]
    rcases hone resumeId with h | h <;> simp [(hblank resumeId h).1]
  · funext resumeId
    rw [store_at.2.2.1, store_at.2.2.1]
    show (lastUpdate second.normalizedStoreUpdates resumeId).or
        ((state.store sourceOrder first).normalizedStore resumeId) =
      (lastUpdate first.normalizedStoreUpdates resumeId).or
        ((state.store sourceOrder' second).normalizedStore resumeId)
    rw [store_at.2.2.1, store_at.2.2.1]
    rcases hone resumeId with h | h <;> simp [(hblank resumeId h).2.1]
  · funext resumeId
    rw [store_at.2.2.2, store_at.2.2.2]
    show (second.sourceEvidenceUpdates.filter (·.candidateResumeId = resumeId)).foldl
        (appendOnce sourceOrder')
        ((state.store sourceOrder first).sourceEvidenceByResumeId resumeId) =
      (first.sourceEvidenceUpdates.filter (·.candidateResumeId = resumeId)).foldl
        (appendOnce sourceOrder)
        ((state.store sourceOrder' second).sourceEvidenceByResumeId resumeId)
    rw [store_at.2.2.2, store_at.2.2.2]
    rcases hone resumeId with h | h <;> simp [(hblank resumeId h).2.2]

theorem SameClasses.refl (state : RunState) : SameClasses state state := by
  have h : ClassesIn state state := fun identity hmem =>
    ⟨identity, hmem, fun _ => Iff.rfl, rfl, fun _ => Iff.rfl⟩
  exact ⟨h, h⟩

/-- **Either order.** Two lane results without a resume in common lead to the same identities in
    either order exactly where one of them is blocked or, for each evidence id, the resumes that
    keep the identity they have right after their own upserts give the same item. -/
theorem sameClasses_either_order_iff (sha256 : String → String) (tables : Py.UnicodeTables)
    (state : RunState) (sourceOrder sourceOrder' : SourceOrder)
    (first second : RuntimeSourceLaneResult)
    (hdisjoint : ∀ resumeId ∈ first.resumeIds, resumeId ∉ second.resumeIds)
    (hfree : PrefixesCollisionFree sha256
      (((state.applySourceLaneResult sha256 tables sourceOrder first).store sourceOrder'
        second).upserts tables)) :
    SameClasses
        ((state.applySourceLaneResult sha256 tables sourceOrder first).applySourceLaneResult
          sha256 tables sourceOrder' second)
        ((state.applySourceLaneResult sha256 tables sourceOrder' second).applySourceLaneResult
          sha256 tables sourceOrder first) ↔
      first.status = .blocked ∨ second.status = .blocked ∨
        ∀ evidenceId,
          ((state.applySourceLaneResult sha256 tables sourceOrder first).store sourceOrder'
            second).settledItem sha256 tables evidenceId =
          ((state.applySourceLaneResult sha256 tables sourceOrder' second).store sourceOrder
            first).settledItem sha256 tables evidenceId := by
  have hblocked : ∀ (state : RunState) (sourceOrder : SourceOrder)
      {result : RuntimeSourceLaneResult}, result.status = .blocked →
        state.applySourceLaneResult sha256 tables sourceOrder result = state :=
    fun _ _ _ h => if_pos h
  have happlied : ∀ (state : RunState) (sourceOrder : SourceOrder)
      {result : RuntimeSourceLaneResult}, result.status ≠ .blocked →
        state.applySourceLaneResult sha256 tables sourceOrder result =
          (state.store sourceOrder result).rebuildIdentityState sha256 tables sourceOrder :=
    fun _ _ _ h => if_neg h
  by_cases hfirst : first.status = .blocked
  · rw [hblocked state sourceOrder hfirst, hblocked _ sourceOrder hfirst]
    exact ⟨fun _ => .inl hfirst, fun _ => SameClasses.refl _⟩
  · by_cases hsecond : second.status = .blocked
    · rw [hblocked state sourceOrder' hsecond, hblocked _ sourceOrder' hsecond]
      exact ⟨fun _ => .inr (.inl hsecond), fun _ => SameClasses.refl _⟩
    · rw [happlied (state.applySourceLaneResult sha256 tables sourceOrder first) sourceOrder'
          hsecond,
        happlied (state.applySourceLaneResult sha256 tables sourceOrder' second) sourceOrder
          hfirst,
        sameClasses_rebuild_iff (sameStores_of_disjoint hdisjoint hfirst hsecond) hfree]
      constructor
      · intro h
        exact .inr (.inr h)
      · intro h
        exact (h.resolve_left hfirst).resolve_left hsecond

end Lanes

/-! ## Two lanes that find one person -/

def cardLane : RuntimeSourceLaneResult :=
  { status := .completed
    candidateStoreUpdates := [seenCandidate "r1"]
    sourceEvidenceUpdates := [cardEvidence] }

def detailLane : RuntimeSourceLaneResult :=
  { status := .completed
    candidateStoreUpdates := [seenCandidate "r2"]
    sourceEvidenceUpdates := [detailEvidence] }

/-- Where the contact comes second, the first resume stays recorded under an id that is gone, and
    its evidence is lost to the person. Where it comes first, nothing is lost. -/
theorem cardLane_detailLane_order :
    (∀ resumeId ∈ cardLane.resumeIds, resumeId ∉ detailLane.resumeIds) ∧
    ¬SameClasses
      ((({} : RunState).applySourceLaneResult sampleSha256 .ascii sampleOrder
        cardLane).applySourceLaneResult sampleSha256 .ascii sampleOrder detailLane)
      ((({} : RunState).applySourceLaneResult sampleSha256 .ascii sampleOrder
        detailLane).applySourceLaneResult sampleSha256 .ascii sampleOrder cardLane) := by
  refine ⟨by decide, fun h => ?_⟩
  obtain ⟨identity, hmem, hcard⟩ : ∃ identity ∈ ((({} : RunState).applySourceLaneResult
        sampleSha256 .ascii sampleOrder detailLane).applySourceLaneResult sampleSha256 .ascii
        sampleOrder cardLane).candidateIdentities,
      cardEvidence ∈ (((({} : RunState).applySourceLaneResult sampleSha256 .ascii sampleOrder
        detailLane).applySourceLaneResult sampleSha256 .ascii sampleOrder
        cardLane).sourceEvidenceByIdentityId identity.identityId).getD [] := by
    decide
  have hlost : ∀ same ∈ ((({} : RunState).applySourceLaneResult sampleSha256 .ascii sampleOrder
        cardLane).applySourceLaneResult sampleSha256 .ascii sampleOrder
        detailLane).candidateIdentities,
      cardEvidence ∉ (((({} : RunState).applySourceLaneResult sampleSha256 .ascii sampleOrder
        cardLane).applySourceLaneResult sampleSha256 .ascii sampleOrder
        detailLane).sourceEvidenceByIdentityId same.identityId).getD [] := by
    decide
  obtain ⟨same, hsame, -, -, hevidence⟩ := h.2 identity hmem
  exact hlost same hsame ((hevidence cardEvidence).mp hcard)

def plainLane : RuntimeSourceLaneResult :=
  { detailLane with
    sourceEvidenceUpdates := [{ detailEvidence with protectedContactHashes := [] }] }

theorem sameClasses_either_order_plainLane :
    SameClasses
      ((({} : RunState).applySourceLaneResult sampleSha256 .ascii sampleOrder
        cardLane).applySourceLaneResult sampleSha256 .ascii sampleOrder plainLane)
      ((({} : RunState).applySourceLaneResult sampleSha256 .ascii sampleOrder
        plainLane).applySourceLaneResult sampleSha256 .ascii sampleOrder cardLane) := by
  refine (sameClasses_either_order_iff sampleSha256 .ascii {} sampleOrder sampleOrder cardLane
    plainLane (by decide) ?_).mpr (.inr (.inr ?_))
  · -- both calls have the provider key first
    intro key hkey key' hkey' _
    have hprovider : ∀ key, (∃ call ∈ ((({} : RunState).applySourceLaneResult sampleSha256 .ascii
          sampleOrder cardLane).store sampleOrder plainLane).upserts .ascii,
        call.primaryKey sampleSha256 = key) → key = "provider:p1" := by
      intro key h
      obtain ⟨call, hcall, rfl⟩ := h
      revert call
      decide
    exact (hprovider key hkey).trans (hprovider key' hkey').symm
  · intro evidenceId
    have hfirst : ((({} : RunState).applySourceLaneResult sampleSha256 .ascii sampleOrder
        cardLane).store sampleOrder plainLane).settledEvidence sampleSha256 .ascii =
          [cardEvidence, { detailEvidence with protectedContactHashes := [] }] := by
      decide
    have hsecond : ((({} : RunState).applySourceLaneResult sampleSha256 .ascii sampleOrder
        plainLane).store sampleOrder cardLane).settledEvidence sampleSha256 .ascii =
          [{ detailEvidence with protectedContactHashes := [] }, cardEvidence] := by
      decide
    unfold RunState.settledItem
    rw [hfirst, hsecond]
    by_cases hcard : cardEvidence.evidenceId = evidenceId
    · subst hcard
      decide
    · simp [hcard]

end SeekTalent

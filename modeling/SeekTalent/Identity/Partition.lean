import SeekTalent.Base.Components
import SeekTalent.Identity.Index
import Mathlib.Data.Set.Function

/-!
# The partition an identity index computes

Running upserts on an empty index groups the resumes into identities. Two calls are linked
when they have a resume id, an evidence id or an identity key in common, and the identities
are exactly the connected components of that relation (`partition_eq_components`): neither
the order of the calls nor a call made twice matters.

The argument is an invariant of the index (`Consistent`): the identity ids label the
components of the tokens met so far, and every live identity still owns the key that its id
is a digest of. The second half is what keeps a new id from hitting a live one by accident,
as long as the digests do not collide.
-/

namespace SeekTalent

open Components

variable {sha256 : String → String} {call : Upsert} {calls : List Upsert} {t : Token}
variable {id id' : String}

def Upsert.primaryKey (sha256 : String → String) (call : Upsert) : String :=
  primaryIdentityKey sha256 call.signals call.evidenceId

theorem Upsert.primaryKey_mem_tokens : .key (call.primaryKey sha256) ∈ call.tokens sha256 :=
  primaryIdentityKey_mem sha256 call.signals call.evidenceId

theorem Upsert.resumeId_mem_tokens : .resume call.resumeId ∈ call.tokens sha256 := rfl

/-- The digest prefixes of the calls' primary keys are all different. -/
def PrefixesCollisionFree (sha256 : String → String) (calls : List Upsert) : Prop :=
  Set.InjOn (stableIdentityId sha256) {key | ∃ call ∈ calls, call.primaryKey sha256 = key}

/-- Any number of upserts on an empty index. -/
def upsertAll (sha256 : String → String) (calls : List Upsert) : RuntimeCandidateIdentityIndex :=
  calls.foldl (fun index call => index.upsertCandidate sha256 call) {}

theorem upsertAll_concat :
    upsertAll sha256 (calls ++ [call]) =
      (upsertAll sha256 calls).upsertCandidate sha256 call := by
  simp [upsertAll, List.foldl_append]

def tokenGroups (sha256 : String → String) (calls : List Upsert) : Set (Set Token) :=
  (Upsert.tokens sha256) '' {call | call ∈ calls}

theorem tokenGroups_concat :
    tokenGroups sha256 (calls ++ [call]) =
      insert (call.tokens sha256) (tokenGroups sha256 calls) := by
  have hset : {u | u ∈ calls ++ [call]} = insert call {u | u ∈ calls} := by
    ext u
    simp [or_comm]
  rw [tokenGroups, hset, Set.image_insert_eq]
  rfl

namespace RuntimeCandidateIdentityIndex

variable {index : RuntimeCandidateIdentityIndex}

def rowLabel (rows : List RuntimeCandidateIdentity)
    (field : RuntimeCandidateIdentity → List String) (v : String) : Option String :=
  (rows.find? (v ∈ field ·)).map (·.identityId)

def label (index : RuntimeCandidateIdentityIndex) : Token → Option String
  | .resume r => rowLabel index.identities (·.resumeIds) r
  | .evidence e => rowLabel index.identities (·.evidenceIds) e
  | .key k => index.keyToIdentityId k

def Functional (index : RuntimeCandidateIdentityIndex) : Prop :=
  ∀ t id id', index.Holds t id → index.Holds t id' → id = id'

theorem rowLabel_eq_some_iff {rows : List RuntimeCandidateIdentity}
    {field : RuntimeCandidateIdentity → List String} {v : String}
    (hfun : ∀ id id', RowHolds rows field v id → RowHolds rows field v id' → id = id') :
    rowLabel rows field v = some id ↔ RowHolds rows field v id := by
  constructor
  · intro h
    obtain ⟨row, hrow, rfl⟩ := Option.map_eq_some_iff.mp h
    exact ⟨row, List.mem_of_find?_eq_some hrow, rfl, by simpa using List.find?_some hrow⟩
  · intro h
    cases hfind : rows.find? (v ∈ field ·) with
    | none =>
      obtain ⟨row, hrow, -, hv⟩ := h
      exact absurd hv (by simpa using List.find?_eq_none.mp hfind row hrow)
    | some row =>
      have hrow : RowHolds rows field v row.identityId :=
        ⟨row, List.mem_of_find?_eq_some hfind, rfl, by simpa using List.find?_some hfind⟩
      simp [rowLabel, hfind, hfun id row.identityId h hrow]

theorem label_eq_some_iff (hfun : index.Functional) :
    index.label t = some id ↔ index.Holds t id := by
  cases t with
  | resume r => exact rowLabel_eq_some_iff (hfun (.resume r))
  | evidence e => exact rowLabel_eq_some_iff (hfun (.evidence e))
  | key k => rfl

def Rooted (sha256 : String → String) (calls : List Upsert)
    (index : RuntimeCandidateIdentityIndex) : Prop :=
  ∀ id ∈ index.ids, ∃ call ∈ calls,
    id = stableIdentityId sha256 (call.primaryKey sha256) ∧
      index.Holds (.key (call.primaryKey sha256)) id

structure Consistent (sha256 : String → String) (calls : List Upsert)
    (index : RuntimeCandidateIdentityIndex) : Prop where
  functional : index.Functional
  live : index.LiveLabels
  rooted : Rooted sha256 calls index
  labels : Labels (tokenGroups sha256 calls) index.label

theorem consistent_empty : Consistent sha256 [] {} := by
  have hlabel : ({} : RuntimeCandidateIdentityIndex).label = fun _ => none := by
    funext t
    cases t <;> rfl
  have hHolds : ∀ t id, ¬({} : RuntimeCandidateIdentityIndex).Holds t id := by
    intro t id
    cases t <;> simp [Holds, RowHolds]
  refine ⟨?_, ?_, ?_, ?_⟩
  · intro t id id' h
    exact absurd h (hHolds t id)
  · intro t id h
    exact absurd h (hHolds t id)
  · intro id h
    simp [ids] at h
  · rw [hlabel]
    simpa [tokenGroups] using Labels.empty

/-! ## One upsert keeps the invariant -/

section Step

theorem touched_iff (hfun : index.Functional) :
    Touched index.label (call.tokens sha256) t ↔
      t ∈ call.tokens sha256 ∨ ∃ id ∈ index.existingIdentityIds sha256 call, index.Holds t id := by
  simp only [Touched, label_eq_some_iff hfun, mem_existingIdentityIds]
  constructor
  · intro h
    rcases h with h | ⟨x, hx, id, hxid, htid⟩
    · exact .inl h
    · exact .inr ⟨id, ⟨x, hx, hxid⟩, htid⟩
  · intro h
    rcases h with h | ⟨id, ⟨x, hx, hxid⟩, htid⟩
    · exact .inl h
    · exact .inr ⟨x, hx, id, hxid, htid⟩

theorem holds_of_touched (hfun : index.Functional) (hlive : index.LiveLabels)
    (ht : Touched index.label (call.tokens sha256) t) :
    (index.upsertCandidate sha256 call).Holds t id ↔
      id = index.targetIdentityId sha256 call := by
  rw [(upsertCandidate_spec sha256 call hlive).1]
  rcases (touched_iff hfun).mp ht with ht | ⟨e, he, hte⟩
  · constructor
    · intro h
      rcases h with h | ⟨id₀, h, rfl⟩
      · exact h.2
      · simp [mem_existingIdentityIds.mpr ⟨t, ht, h⟩]
    · intro h
      exact .inl ⟨ht, h⟩
  · constructor
    · intro h
      rcases h with h | ⟨id₀, h, rfl⟩
      · exact h.2
      · simp [hfun t id₀ e h hte, he]
    · intro h
      exact .inr ⟨e, hte, by simpa [he] using h⟩

theorem holds_of_not_touched (hfun : index.Functional) (hlive : index.LiveLabels)
    (ht : ¬Touched index.label (call.tokens sha256) t) :
    (index.upsertCandidate sha256 call).Holds t id ↔ index.Holds t id := by
  rw [touched_iff hfun] at ht
  obtain ⟨htok, hex⟩ := not_or.mp ht
  rw [(upsertCandidate_spec sha256 call hlive).1]
  constructor
  · intro h
    rcases h with h | ⟨id₀, h, rfl⟩
    · exact absurd h.1 htok
    · simpa [show id₀ ∉ index.existingIdentityIds sha256 call from
        fun he => hex ⟨id₀, he, h⟩] using h
  · intro h
    have hnot : id ∉ index.existingIdentityIds sha256 call := fun he => hex ⟨id, he, h⟩
    exact .inr ⟨id, h, by simp [hnot]⟩

theorem targetIdentityId_cases (sha256 : String → String) (index : RuntimeCandidateIdentityIndex)
    (call : Upsert) :
    index.targetIdentityId sha256 call ∈ index.existingIdentityIds sha256 call ∨
      index.targetIdentityId sha256 call =
        stableIdentityId sha256 (call.primaryKey sha256) := by
  unfold targetIdentityId
  split
  · rename_i first rest hcontacts hex
    rw [hex]
    exact .inl (List.mem_cons_self ..)
  · exact .inr rfl

/-- **No accidental hit.** A target that is live exists for the call. -/
theorem target_mem_existing (hroot : Rooted sha256 calls index)
    (hfree : PrefixesCollisionFree sha256 (calls ++ [call]))
    (hlive : index.targetIdentityId sha256 call ∈ index.ids) :
    index.targetIdentityId sha256 call ∈ index.existingIdentityIds sha256 call := by
  rcases targetIdentityId_cases sha256 index call with h | h
  · exact h
  · obtain ⟨u, hu, hid, hkey⟩ := hroot _ hlive
    have hsame : u.primaryKey sha256 = call.primaryKey sha256 := by
      apply hfree ⟨u, by simp [hu], rfl⟩ ⟨call, by simp, rfl⟩
      rw [← hid, h]
    rw [hsame] at hkey
    exact mem_existingIdentityIds.mpr ⟨_, Upsert.primaryKey_mem_tokens, hkey⟩

theorem Functional.upsertCandidate (hfun : index.Functional) (hlive : index.LiveLabels) :
    (index.upsertCandidate sha256 call).Functional := by
  intro t id id' hid hid'
  by_cases ht : Touched index.label (call.tokens sha256) t
  · rw [holds_of_touched hfun hlive ht] at hid hid'
    exact hid.trans hid'.symm
  · rw [holds_of_not_touched hfun hlive ht] at hid hid'
    exact hfun t id id' hid hid'

theorem LiveLabels.upsertCandidate (hlive : index.LiveLabels) (hfun : index.Functional) :
    (index.upsertCandidate sha256 call).LiveLabels := by
  intro t id hid
  rw [(upsertCandidate_spec sha256 call hlive).2]
  by_cases ht : Touched index.label (call.tokens sha256) t
  · exact .inl ((holds_of_touched hfun hlive ht).mp hid)
  · have hid := (holds_of_not_touched hfun hlive ht).mp hid
    refine .inr ⟨hlive t id hid, fun he => ht ?_⟩
    exact (touched_iff hfun).mpr (.inr ⟨id, he, hid⟩)

theorem Consistent.upsertCandidate (h : Consistent sha256 calls index)
    (hfree : PrefixesCollisionFree sha256 (calls ++ [call])) :
    Consistent sha256 (calls ++ [call]) (index.upsertCandidate sha256 call) := by
  have htouched : ∀ {t id}, Touched index.label (call.tokens sha256) t →
      ((index.upsertCandidate sha256 call).Holds t id ↔
        id = index.targetIdentityId sha256 call) :=
    fun ht => holds_of_touched h.functional h.live ht
  have hnot : ∀ {t id}, ¬Touched index.label (call.tokens sha256) t →
      ((index.upsertCandidate sha256 call).Holds t id ↔ index.Holds t id) :=
    fun ht => holds_of_not_touched h.functional h.live ht
  have hids := (upsertCandidate_spec sha256 call h.live).2
  have hfunctional : (index.upsertCandidate sha256 call).Functional :=
    h.functional.upsertCandidate h.live
  refine ⟨hfunctional, h.live.upsertCandidate h.functional, ?_, ?_⟩
  · -- an identity that is left alone keeps its key; a target keeps or gets one
    have hkeep : ∀ id ∈ index.ids, (id = index.targetIdentityId sha256 call →
          id ∈ index.existingIdentityIds sha256 call) →
        (id ∈ index.existingIdentityIds sha256 call →
          id = index.targetIdentityId sha256 call) →
        ∃ u ∈ calls ++ [call], id = stableIdentityId sha256 (u.primaryKey sha256) ∧
          (index.upsertCandidate sha256 call).Holds (.key (u.primaryKey sha256)) id := by
      intro id hid hback hex
      obtain ⟨u, hu, hstable, hkey⟩ := h.rooted id hid
      refine ⟨u, by simp [hu], hstable, ?_⟩
      by_cases ht : Touched index.label (call.tokens sha256) (.key (u.primaryKey sha256))
      · refine (htouched ht).mpr (hex ?_)
        rcases (touched_iff h.functional).mp ht with ht | ⟨e, he, hte⟩
        · exact mem_existingIdentityIds.mpr ⟨_, ht, hkey⟩
        · exact h.functional _ _ _ hkey hte ▸ he
      · exact (hnot ht).mpr hkey
    intro id hid
    rcases (hids id).mp hid with rfl | ⟨hid, hne⟩
    · rcases targetIdentityId_cases sha256 index call
        with hex | hstable
      · obtain ⟨x, -, hx⟩ := mem_existingIdentityIds.mp hex
        exact hkeep _ (h.live x _ hx) (fun _ => hex) (fun _ => rfl)
      · exact ⟨call, by simp, hstable,
          (htouched (.inl Upsert.primaryKey_mem_tokens)).mpr rfl⟩
    · refine hkeep id hid (fun htarget => ?_) (fun he => absurd he hne)
      exact htarget ▸ target_mem_existing h.rooted hfree (htarget ▸ hid)
  · rw [tokenGroups_concat]
    refine h.labels.add (index.targetIdentityId sha256 call) ?_ ?_ ?_
    · intro t ht
      exact (label_eq_some_iff hfunctional).mpr ((htouched ht).mpr rfl)
    · intro t ht
      apply Option.ext
      intro id
      rw [label_eq_some_iff hfunctional, label_eq_some_iff h.functional]
      exact hnot ht
    · by_cases hlive : index.targetIdentityId sha256 call ∈ index.ids
      · left
        obtain ⟨x, hx, hxid⟩ :=
          mem_existingIdentityIds.mp (target_mem_existing h.rooted hfree hlive)
        exact ⟨x, hx, (label_eq_some_iff h.functional).mpr hxid⟩
      · right
        intro t ht
        exact hlive (h.live t _ ((label_eq_some_iff h.functional).mp ht))

end Step

end RuntimeCandidateIdentityIndex

open RuntimeCandidateIdentityIndex

theorem PrefixesCollisionFree.mono {calls' : List Upsert}
    (h : PrefixesCollisionFree sha256 calls') (hsub : ∀ u ∈ calls, u ∈ calls') :
    PrefixesCollisionFree sha256 calls := by
  refine Set.InjOn.mono ?_ h
  intro key hkey
  obtain ⟨u, hu, rfl⟩ := hkey
  exact ⟨u, hsub u hu, rfl⟩

theorem consistent_upsertAll (hfree : PrefixesCollisionFree sha256 calls) :
    Consistent sha256 calls (upsertAll sha256 calls) := by
  induction calls using List.reverseRecOn with
  | nil => exact consistent_empty
  | append_singleton calls call ih =>
    rw [upsertAll_concat]
    exact (ih (hfree.mono (by simp +contextual))).upsertCandidate hfree

/-! ## Identities and connected components -/

def RuntimeCandidateIdentityIndex.partition (index : RuntimeCandidateIdentityIndex) :
    Set (Set String) :=
  {resumes | ∃ identity ∈ index.identities, resumes = {r | r ∈ identity.resumeIds}}

/-- A chain of calls, each with a resume id, an evidence id or a key in common with the
    next, leads from one call to the other. -/
def Linked (sha256 : String → String) (calls : List Upsert) : Upsert → Upsert → Prop :=
  Connected {call | call ∈ calls} (Upsert.tokens sha256)

/-- The connected components of the calls, as sets of resume ids. -/
def components (sha256 : String → String) (calls : List Upsert) : Set (Set String) :=
  {resumes | ∃ u ∈ calls, resumes = {r | ∃ v ∈ calls, v.resumeId = r ∧ Linked sha256 calls u v}}

theorem tokens_nonempty (call : Upsert) : (call.tokens sha256).Nonempty :=
  ⟨_, Upsert.resumeId_mem_tokens⟩

theorem label_eq_iff_linked (hfree : PrefixesCollisionFree sha256 calls) {u v : Upsert}
    (hu : u ∈ calls) (hv : v ∈ calls) {x y : Token} (hx : x ∈ u.tokens sha256)
    (hy : y ∈ v.tokens sha256) (hid : (upsertAll sha256 calls).Holds x id) :
    (upsertAll sha256 calls).Holds y id ↔ Linked sha256 calls u v := by
  have hinv := consistent_upsertAll hfree
  rw [← label_eq_some_iff hinv.functional] at hid ⊢
  rw [hinv.labels.same x y id hid]
  exact joined_iff_connected (fun w _ => tokens_nonempty w) hu hv hx hy

theorem exists_holds (hfree : PrefixesCollisionFree sha256 calls) {u : Upsert} (hu : u ∈ calls)
    {x : Token} (hx : x ∈ u.tokens sha256) :
    ∃ identity ∈ (upsertAll sha256 calls).identities,
      (upsertAll sha256 calls).Holds x identity.identityId := by
  have hinv := consistent_upsertAll hfree
  obtain ⟨id, hid⟩ := (hinv.labels.occurs x).mpr ⟨_, ⟨u, hu, rfl⟩, hx⟩
  rw [label_eq_some_iff hinv.functional] at hid
  obtain ⟨identity, hmem, rfl⟩ := mem_ids_iff.mp (hinv.live x id hid)
  exact ⟨identity, hmem, hid⟩

theorem exists_call_of_holds (hfree : PrefixesCollisionFree sha256 calls) {r : String}
    (hid : (upsertAll sha256 calls).Holds (.resume r) id) : ∃ v ∈ calls, v.resumeId = r := by
  have hinv := consistent_upsertAll hfree
  rw [← label_eq_some_iff hinv.functional] at hid
  obtain ⟨g, ⟨v, hv, rfl⟩, hr⟩ := (hinv.labels.occurs (.resume r)).mp ⟨id, hid⟩
  exact ⟨v, hv, Eq.symm hr⟩

theorem resumeIds_eq_component (hfree : PrefixesCollisionFree sha256 calls) {u : Upsert}
    (hu : u ∈ calls) {x : Token} (hx : x ∈ u.tokens sha256) {identity : RuntimeCandidateIdentity}
    (hmem : identity ∈ (upsertAll sha256 calls).identities)
    (hid : (upsertAll sha256 calls).Holds x identity.identityId) :
    {r | r ∈ identity.resumeIds} =
      {r | ∃ v ∈ calls, v.resumeId = r ∧ Linked sha256 calls u v} := by
  ext r
  have hrow : r ∈ identity.resumeIds ↔
      (upsertAll sha256 calls).Holds (.resume r) identity.identityId :=
    (rowHolds_iff_of_mem (upsertAll sha256 calls).nodup_ids hmem).symm
  simp only [Set.mem_ofPred_eq, hrow]
  constructor
  · intro hr
    obtain ⟨v, hv, rfl⟩ := exists_call_of_holds hfree hr
    exact ⟨v, hv, rfl, (label_eq_iff_linked hfree hu hv hx Upsert.resumeId_mem_tokens hid).mp hr⟩
  · intro hr
    obtain ⟨v, hv, rfl, hlink⟩ := hr
    exact (label_eq_iff_linked hfree hu hv hx Upsert.resumeId_mem_tokens hid).mpr hlink

theorem partition_upsertAll (hfree : PrefixesCollisionFree sha256 calls) :
    (upsertAll sha256 calls).partition = components sha256 calls := by
  ext resumes
  constructor
  · intro h
    obtain ⟨identity, hmem, rfl⟩ := h
    -- a live identity owns a key, which some call has brought
    obtain ⟨u, hu, -, hkey⟩ := (consistent_upsertAll hfree).rooted _
      (mem_ids_iff.mpr ⟨identity, hmem, rfl⟩)
    exact ⟨u, hu, resumeIds_eq_component hfree hu Upsert.primaryKey_mem_tokens hmem hkey⟩
  · intro h
    obtain ⟨u, hu, rfl⟩ := h
    obtain ⟨identity, hmem, hid⟩ := exists_holds hfree hu Upsert.resumeId_mem_tokens
    exact ⟨identity, hmem,
      (resumeIds_eq_component hfree hu Upsert.resumeId_mem_tokens hmem hid).symm⟩

theorem components_congr {calls' : List Upsert} (h : ∀ u, u ∈ calls' ↔ u ∈ calls) :
    components sha256 calls' = components sha256 calls := by
  simp only [components, Linked, h]

theorem existsUnique_identity (hfree : PrefixesCollisionFree sha256 calls) {u : Upsert}
    (hu : u ∈ calls) :
    ∃! identity, identity ∈ (upsertAll sha256 calls).identities ∧
      u.resumeId ∈ identity.resumeIds := by
  obtain ⟨identity, hmem, hid⟩ := exists_holds hfree hu Upsert.resumeId_mem_tokens
  refine ⟨identity,
    ⟨hmem, (rowHolds_iff_of_mem (upsertAll sha256 calls).nodup_ids hmem).mp hid⟩, ?_⟩
  intro other hother
  obtain ⟨hmem', hin⟩ := hother
  apply List.inj_on_of_nodup_map (upsertAll sha256 calls).nodup_ids hmem' hmem
  exact (consistent_upsertAll hfree).functional (.resume u.resumeId) _ _
    ⟨other, hmem', rfl, hin⟩ hid

/-- **The partition.** The identities are the connected components of the calls, every
    resume is in one of them, and the partition is the same for every list of the same
    calls, in any order and with any repetitions. -/
theorem partition_eq_components (sha256 : String → String) (calls : List Upsert)
    (hfree : PrefixesCollisionFree sha256 calls) :
    (upsertAll sha256 calls).partition = components sha256 calls ∧
    (∀ u ∈ calls, ∃! identity, identity ∈ (upsertAll sha256 calls).identities ∧
      u.resumeId ∈ identity.resumeIds) ∧
    ∀ calls', (∀ u, u ∈ calls' ↔ u ∈ calls) →
      (upsertAll sha256 calls').partition = (upsertAll sha256 calls).partition := by
  refine ⟨partition_upsertAll hfree, fun u hu => existsUnique_identity hfree hu, ?_⟩
  intro calls' hsame
  have hfree' : PrefixesCollisionFree sha256 calls' :=
    hfree.mono fun u hu => (hsame u).mp hu
  rw [partition_upsertAll hfree', partition_upsertAll hfree, components_congr hsame]

def sampleSha256 : String → String
  | "provider:p1" => "a431ef23697bd8b6a8f59f7ca2e712418598ee7e3b25adfed48e1b854d0a3d7f"
  | "contact:c1" => "c2b42e7109be3de65fc7291ef72edf06e75cb2f7d7e6ba97debc81c883d2b2e4"
  | key => key

/-- Two resumes, and then evidence that they are one person. -/
def sampleCalls : List Upsert :=
  [⟨"r1", "e1", { providerCandidateKeyHash := some "p1" }⟩,
    ⟨"r2", "e2", { protectedContactHashes := ["c1"] }⟩,
    ⟨"r1", "e3", { providerCandidateKeyHash := some "p1", protectedContactHashes := ["c1"] }⟩]

theorem partition_eq_components_sample :
    (upsertAll sampleSha256 sampleCalls).identities.map (·.resumeIds) = [["r1", "r2"]] ∧
      (upsertAll sampleSha256 sampleCalls).partition = components sampleSha256 sampleCalls := by
  have hfree : PrefixesCollisionFree sampleSha256 sampleCalls := by
    intro k hk k' hk' h
    have hkeys : ∀ key, (∃ call ∈ sampleCalls, call.primaryKey sampleSha256 = key) →
        key = "provider:p1" ∨ key = "contact:c1" := by
      intro key hkey
      obtain ⟨call, hcall, rfl⟩ := hkey
      revert call
      decide
    rcases hkeys k hk with rfl | rfl <;> rcases hkeys k' hk' with rfl | rfl
    · rfl
    · exact absurd h (by decide)
    · exact absurd h (by decide)
    · rfl
  exact ⟨by decide, (partition_eq_components sampleSha256 sampleCalls hfree).1⟩

end SeekTalent

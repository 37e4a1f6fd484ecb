import SeekTalent.Identity.Partition

/-!
# The aliases of an identity

An identity that is merged away is not forgotten: its id becomes an alias of the one it went into,
and what an upsert has returned can be resolved later. An id that was merged away can come back as
the target of an upsert. It is then made again from a key that the identity with the alias still
has, so that this identity exists for the upsert and goes into the new one, alias and all.

`Alias x id` says that `x` is in the set kept for `id`. An upsert moves the aliases of everything
it has met to its target (`alias_upsertCandidate`), as it does with resumes and keys, so that an
alias stays with the key that it was made from (`AliasesOwned`).
-/

namespace SeekTalent

namespace RuntimeCandidateIdentityIndex

variable {sha256 : String → String} {index : RuntimeCandidateIdentityIndex} {call : Upsert}
variable {calls : List Upsert} {x id old target : String} {row : RuntimeCandidateIdentity}

def Alias (index : RuntimeCandidateIdentityIndex) (x id : String) : Prop :=
  ∃ aliases, index.aliasesByCanonicalId id = some aliases ∧ x ∈ aliases

structure Aliased (index : RuntimeCandidateIdentityIndex) : Prop where
  own : ∀ id ∈ index.ids, index.Alias id id
  live : ∀ id, (index.aliasesByCanonicalId id).isSome → id ∈ index.ids

/-! ## 1. What the steps of an upsert do -/

theorem alias_ensureIdentity {signal : StrongestSignal} (h : index.Aliased) :
    (index.ensureIdentity target signal).Alias x id ↔
      x = target ∧ id = target ∨ index.Alias x id := by
  unfold ensureIdentity
  split
  · rename_i hlive
    constructor
    · exact .inr
    · intro hx
      rcases hx with ⟨rfl, rfl⟩ | hx
      · exact h.own _ hlive
      · exact hx
  · rename_i hnew
    have hnone : index.aliasesByCanonicalId target = none :=
      Option.eq_none_iff_forall_ne_some.mpr fun aliases hsome =>
        hnew (h.live target (by simp [hsome]))
    by_cases hid : id = target
    · subst hid
      simp [Alias, hnone]
    · simp [Alias, hid]

theorem Aliased.ensureIdentity {signal : StrongestSignal} (h : index.Aliased) :
    (index.ensureIdentity target signal).Aliased := by
  refine ⟨?_, ?_⟩
  · intro id hid
    rw [alias_ensureIdentity h]
    rcases mem_ids_ensureIdentity.mp hid with rfl | hid
    · exact .inl ⟨rfl, rfl⟩
    · exact .inr (h.own id hid)
  · intro id hid
    rw [mem_ids_ensureIdentity]
    by_cases htarget : id = target
    · exact .inl htarget
    · unfold RuntimeCandidateIdentityIndex.ensureIdentity at hid
      split at hid
      · exact .inr (h.live id hid)
      · exact .inr (h.live id (by simpa [htarget] using hid))

theorem alias_mergeIdentity (h : index.Aliased) (hold : old ∈ index.ids)
    (htarget : target ∈ index.ids) :
    (index.mergeIdentity target old).Alias x id ↔
      ∃ id₀, index.Alias x id₀ ∧ id = if id₀ = old then target else id₀ := by
  obtain ⟨o, ho⟩ := exists_lookup hold
  obtain ⟨g, hg⟩ := exists_lookup htarget
  obtain ⟨oldAliases, hoAliases, hoOwn⟩ := h.own old hold
  obtain ⟨aliases, hgAliases, hgOwn⟩ := h.own target htarget
  unfold mergeIdentity
  rw [ho, hg]
  unfold Alias
  by_cases hid : id = target
  · subst hid
    simp only [hgAliases, hoAliases, Option.getD_some, if_true, Option.some.injEq,
      exists_eq_left', Py.mem_sortedSet, List.mem_append, List.mem_singleton]
    constructor
    · intro hx
      rcases hx with (hx | hx) | rfl
      · exact ⟨id, ⟨aliases, hgAliases, hx⟩, by simp⟩
      · exact ⟨old, ⟨oldAliases, hoAliases, hx⟩, by simp⟩
      · exact ⟨x, ⟨oldAliases, hoAliases, hoOwn⟩, by simp⟩
    · intro hx
      obtain ⟨id₀, ⟨aliases₀, haliases₀, hx⟩, hid⟩ := hx
      by_cases ho : id₀ = old
      · subst ho
        rw [hoAliases] at haliases₀
        exact .inl (.inr (Option.some.inj haliases₀ ▸ hx))
      · rw [if_neg ho] at hid
        rw [← hid, hgAliases] at haliases₀
        exact .inl (.inl (Option.some.inj haliases₀ ▸ hx))
  · by_cases ho : id = old
    · subst ho
      simp only [hid, if_false, if_true, reduceCtorEq, false_and, exists_false, false_iff]
      intro hx
      obtain ⟨id₀, -, heq⟩ := hx
      split at heq
      · exact hid heq
      · rename_i hne
        exact hne heq.symm
    · simp only [hid, ho, if_false]
      constructor
      · intro hx
        exact ⟨id, hx, by simp [ho]⟩
      · intro hx
        obtain ⟨id₀, hx, heq⟩ := hx
        split at heq
        · exact absurd heq hid
        · exact heq ▸ hx

theorem Aliased.mergeIdentity (h : index.Aliased) (hold : old ∈ index.ids)
    (htarget : target ∈ index.ids) (hne : old ≠ target) :
    (index.mergeIdentity target old).Aliased := by
  refine ⟨?_, ?_⟩
  · intro id hid
    obtain ⟨hid, hno⟩ := (mem_ids_mergeIdentity hold htarget hne).mp hid
    exact (alias_mergeIdentity h hold htarget).mpr ⟨id, h.own id hid, by simp [hno]⟩
  · intro id hid
    rw [mem_ids_mergeIdentity hold htarget hne]
    obtain ⟨o, ho⟩ := exists_lookup hold
    obtain ⟨g, hg⟩ := exists_lookup htarget
    unfold RuntimeCandidateIdentityIndex.mergeIdentity at hid
    rw [ho, hg] at hid
    by_cases hit : id = target
    · exact ⟨hit ▸ htarget, hit ▸ hne.symm⟩
    · by_cases hio : id = old
      · simp [hio ▸ hit, hio] at hid
      · exact ⟨h.live id (by simpa [hit, hio] using hid), hio⟩

theorem mem_identities_mergeIdentity (hrow : row ∈ (index.mergeIdentity target old).identities)
    (hne : row.identityId ≠ target) : row ∈ index.identities := by
  unfold mergeIdentity at hrow
  split at hrow
  · rename_i o g ho hg
    rcases Table.mem_upsert_iff.mp hrow with rfl | ⟨hrow, -⟩
    · exact absurd (lookup_eq_some_iff.mp hg).2 hne
    · exact List.mem_of_mem_filter hrow
  · exact hrow

theorem aliasesByCanonicalId_recordCandidate :
    (index.recordCandidate sha256 target call).aliasesByCanonicalId =
      index.aliasesByCanonicalId := by
  unfold recordCandidate
  split
  · rfl
  · rfl

theorem Aliased.recordCandidate (h : index.Aliased) (htarget : target ∈ index.ids) :
    (index.recordCandidate sha256 target call).Aliased := by
  refine ⟨?_, ?_⟩
  · intro id hid
    obtain ⟨aliases, haliases, hmem⟩ := h.own id ((ids_recordCandidate htarget).mp hid)
    exact ⟨aliases, by rw [aliasesByCanonicalId_recordCandidate, haliases], hmem⟩
  · intro id hid
    rw [aliasesByCanonicalId_recordCandidate] at hid
    exact (ids_recordCandidate htarget).mpr (h.live id hid)

theorem mem_identities_recordCandidate (htarget : target ∈ index.ids)
    (hrow : row ∈ (index.recordCandidate sha256 target call).identities) :
    row.identityId ≠ target ∧ row ∈ index.identities ∨
    row.identityId = target ∧ row.strongestSignal = some (strongestSignalCode call.signals) ∧
      ∀ x, x ∈ row.aliasIdentityIds ↔ index.Alias x target := by
  obtain ⟨g, hg⟩ := exists_lookup htarget
  obtain ⟨-, hid⟩ := lookup_eq_some_iff.mp hg
  unfold RuntimeCandidateIdentityIndex.recordCandidate at hrow
  rw [hg] at hrow
  rcases Table.mem_upsert_iff.mp hrow with rfl | ⟨hrow, hne⟩
  · refine .inr ⟨hid, rfl, fun x => ?_⟩
    rw [Py.mem_sortedSet]
    unfold Alias
    cases index.aliasesByCanonicalId target with
    | none => simp
    | some aliases => simp
  · exact .inl ⟨hid ▸ hne, hrow⟩

theorem aliases_mergeAll (index : RuntimeCandidateIdentityIndex) (target : String)
    (olds : List String) (h : index.Aliased) (hnd : olds.Nodup) (holds : ∀ o ∈ olds, o ∈ index.ids)
    (htarget : target ∈ index.ids) (hne : target ∉ olds) :
    (olds.foldl (mergeIdentity · target ·) index).Aliased ∧
    (∀ x id, (olds.foldl (mergeIdentity · target ·) index).Alias x id ↔
      ∃ id₀, index.Alias x id₀ ∧ id = if id₀ ∈ olds then target else id₀) ∧
    ∀ row ∈ (olds.foldl (mergeIdentity · target ·) index).identities,
      row.identityId ≠ target → row ∈ index.identities := by
  induction olds generalizing index with
  | nil => exact ⟨h, by simp, fun row hrow _ => hrow⟩
  | cons old olds ih =>
    obtain ⟨hold, holds⟩ := List.forall_mem_cons.mp holds
    obtain ⟨hnot, hnd⟩ := List.nodup_cons.mp hnd
    obtain ⟨hto, htos⟩ := not_or.mp (mt List.mem_cons.mpr hne)
    have hids : ∀ id, id ∈ (index.mergeIdentity target old).ids ↔ id ∈ index.ids ∧ id ≠ old :=
      fun _ => mem_ids_mergeIdentity hold htarget (Ne.symm hto)
    obtain ⟨ihAliased, ihAlias, ihRows⟩ := ih (index.mergeIdentity target old)
      (h.mergeIdentity hold htarget (Ne.symm hto)) hnd
      (fun o ho => (hids o).mpr ⟨holds o ho, fun heq => hnot (heq ▸ ho)⟩)
      ((hids target).mpr ⟨htarget, hto⟩) htos
    refine ⟨ihAliased, fun x id => ?_, fun row hrow hrt => ?_⟩
    · rw [List.foldl_cons, ihAlias]
      exact exists_relabel htos fun _ => alias_mergeIdentity h hold htarget
    · exact mem_identities_mergeIdentity (ihRows row hrow hrt) hrt

/-! ## 2. What an upsert does -/

theorem alias_upsertCandidate (sha256 : String → String) (call : Upsert) (hlive : index.LiveLabels)
    (h : index.Aliased) :
    (index.upsertCandidate sha256 call).Aliased ∧
    (∀ x id, (index.upsertCandidate sha256 call).Alias x id ↔
      ∃ id₀, (x = index.targetIdentityId sha256 call ∧
          id₀ = index.targetIdentityId sha256 call ∨ index.Alias x id₀) ∧
        id = if id₀ ∈ index.existingIdentityIds sha256 call then
          index.targetIdentityId sha256 call else id₀) ∧
    ∀ row ∈ (index.upsertCandidate sha256 call).identities,
      row.identityId ≠ index.targetIdentityId sha256 call ∧ row ∈ index.identities ∨
      row.identityId = index.targetIdentityId sha256 call ∧
        row.strongestSignal = some (strongestSignalCode call.signals) ∧
        ∀ x, x ∈ row.aliasIdentityIds ↔
          (index.upsertCandidate sha256 call).Alias x row.identityId := by
  unfold upsertCandidate
  generalize hT : index.targetIdentityId sha256 call = target
  generalize hE : index.existingIdentityIds sha256 call = existing
  dsimp only
  have hensured : (index.ensureIdentity target (strongestSignalCode call.signals)).Aliased :=
    h.ensureIdentity
  have hnd : existing.Nodup := hE ▸ Py.nodup_sortedSet
  have hlives : ∀ o ∈ existing.filter (· ≠ target),
      o ∈ (index.ensureIdentity target (strongestSignalCode call.signals)).ids := by
    intro o ho
    obtain ⟨t, -, ht⟩ := mem_existingIdentityIds.mp (hE ▸ (List.mem_filter.mp ho).1)
    exact mem_ids_ensureIdentity.mpr (.inr (hlive t o ht))
  have htarget : target ∈ (index.ensureIdentity target (strongestSignalCode call.signals)).ids :=
    mem_ids_ensureIdentity.mpr (.inl rfl)
  obtain ⟨hAliased, hAlias, hRows⟩ := aliases_mergeAll _ target (existing.filter (· ≠ target))
    hensured (hnd.filter _) hlives htarget (by simp)
  obtain ⟨-, hIds⟩ := mergeAll _ target (existing.filter (· ≠ target)) (hnd.filter _) hlives
    htarget (by simp)
  have hif : ∀ id₀, (if id₀ ∈ existing.filter (· ≠ target) then target else id₀) =
      if id₀ ∈ existing then target else id₀ := by
    intro id₀
    by_cases hid : id₀ = target
    · simp [hid]
    · simp [hid]
  simp only [alias_ensureIdentity h, hif] at hAlias
  have hthere := (hIds target).mpr ⟨htarget, by simp⟩
  generalize (existing.filter (· ≠ target)).foldl (mergeIdentity · target ·)
    (index.ensureIdentity target (strongestSignalCode call.signals)) = merged
    at hAliased hAlias hRows hthere
  have hsame : ∀ x id, (merged.recordCandidate sha256 target call).Alias x id ↔
      merged.Alias x id := by
    intro x id
    unfold Alias
    rw [aliasesByCanonicalId_recordCandidate]
  refine ⟨hAliased.recordCandidate hthere, fun x id => ?_, fun row hrow => ?_⟩
  · rw [hsame, hAlias]
  · rcases mem_identities_recordCandidate hthere hrow with ⟨hne, hrow⟩ | ⟨hid, hsignal, haliases⟩
    · refine .inl ⟨hne, ?_⟩
      have hrow := hRows row hrow hne
      unfold RuntimeCandidateIdentityIndex.ensureIdentity at hrow
      split at hrow
      · exact hrow
      · rcases Table.mem_upsert_iff.mp hrow with rfl | ⟨hrow, -⟩
        · exact absurd rfl hne
        · exact hrow
    · refine .inr ⟨hid, hsignal, fun x => ?_⟩
      rw [haliases, hid, hsame]

/-! ## 3. Runs -/

def AliasesOwned (sha256 : String → String) (calls : List Upsert)
    (index : RuntimeCandidateIdentityIndex) : Prop :=
  ∀ x id, index.Alias x id → ∃ u ∈ calls, x = stableIdentityId sha256 (u.primaryKey sha256) ∧
    index.Holds (.key (u.primaryKey sha256)) id

structure AliasesKept (sha256 : String → String) (calls : List Upsert)
    (index : RuntimeCandidateIdentityIndex) : Prop where
  aliased : index.Aliased
  owned : AliasesOwned sha256 calls index
  rows : ∀ row ∈ index.identities, ∀ x,
    x ∈ row.aliasIdentityIds ↔ index.Alias x row.identityId

def Resolves (index : RuntimeCandidateIdentityIndex) (returned resumeId : String) : Prop :=
  ∃ id, index.Alias returned id ∧ index.Holds (.resume resumeId) id

theorem aliasesKept_empty : AliasesKept sha256 [] {} := by
  refine ⟨⟨?_, ?_⟩, ?_, ?_⟩
  · intro id hid
    simp [ids] at hid
  · intro id hid
    simp at hid
  · intro x id hx
    obtain ⟨aliases, haliases, -⟩ := hx
    simp at haliases
  · intro row hrow
    simp at hrow

theorem exists_key_target (hroot : Rooted sha256 calls index) (hlive : index.LiveLabels) :
    ∃ u ∈ calls ++ [call], index.targetIdentityId sha256 call =
        stableIdentityId sha256 (u.primaryKey sha256) ∧
      (index.upsertCandidate sha256 call).Holds (.key (u.primaryKey sha256))
        (index.targetIdentityId sha256 call) := by
  have hspec := (upsertCandidate_spec sha256 call hlive).1
  rcases targetIdentityId_cases sha256 index call with hex | hstable
  · obtain ⟨t, -, ht⟩ := mem_existingIdentityIds.mp hex
    obtain ⟨u, hu, hid, hkey⟩ := hroot _ (hlive t _ ht)
    exact ⟨u, by simp [hu], hid, (hspec _ _).mpr (.inr ⟨_, hkey, by simp⟩)⟩
  · exact ⟨call, by simp, hstable, (hspec _ _).mpr (.inl ⟨Upsert.primaryKey_mem_tokens, rfl⟩)⟩

theorem AliasesKept.upsertCandidate (h : AliasesKept sha256 calls index)
    (hroot : Rooted sha256 calls index) (hlive : index.LiveLabels) :
    AliasesKept sha256 (calls ++ [call]) (index.upsertCandidate sha256 call) := by
  obtain ⟨hHolds, hIds⟩ := upsertCandidate_spec sha256 call hlive
  obtain ⟨hAliased, hAlias, hRows⟩ := alias_upsertCandidate sha256 call hlive h.aliased
  refine ⟨hAliased, ?_, ?_⟩
  · intro x id hx
    obtain ⟨id₀, hmoved, rfl⟩ := (hAlias x id).mp hx
    rcases hmoved with ⟨rfl, rfl⟩ | hold
    · -- the target is its own alias
      rw [ite_self]
      exact exists_key_target hroot hlive
    · -- an alias goes where its key goes
      obtain ⟨u, hu, hid, hkey⟩ := h.owned x id₀ hold
      exact ⟨u, by simp [hu], hid, (hHolds _ _).mpr (.inr ⟨id₀, hkey, rfl⟩)⟩
  · intro row hrow x
    rcases hRows row hrow with ⟨hne, hold⟩ | ⟨-, -, haliases⟩
    · have hthere := (hIds row.identityId).mp (mem_ids_iff.mpr ⟨row, hrow, rfl⟩)
      have hnot := (hthere.resolve_left hne).2
      rw [h.rows row hold, hAlias]
      constructor
      · intro hx
        exact ⟨row.identityId, .inr hx, by simp [hnot]⟩
      · intro hx
        obtain ⟨id₀, hx, hid⟩ := hx
        split at hid
        · exact absurd hid hne
        · rcases hx with ⟨rfl, rfl⟩ | hx
          · exact absurd hid hne
          · exact hid ▸ hx
    · exact haliases x

theorem Resolves.upsertCandidate {returned resumeId : String} (h : index.Resolves returned resumeId)
    (hlive : index.LiveLabels) (haliased : index.Aliased) :
    (index.upsertCandidate sha256 call).Resolves returned resumeId := by
  obtain ⟨id, hx, hr⟩ := h
  exact ⟨_, ((alias_upsertCandidate sha256 call hlive haliased).2.1 _ _).mpr ⟨id, .inr hx, rfl⟩,
    ((upsertCandidate_spec sha256 call hlive).1 _ _).mpr (.inr ⟨id, hr, rfl⟩)⟩

theorem resolves_upsertCandidate (hlive : index.LiveLabels) (haliased : index.Aliased) :
    (index.upsertCandidate sha256 call).Resolves (index.targetIdentityId sha256 call)
      call.resumeId :=
  ⟨index.targetIdentityId sha256 call,
    ((alias_upsertCandidate sha256 call hlive haliased).2.1 _ _).mpr
      ⟨_, .inl ⟨rfl, rfl⟩, by simp⟩,
    ((upsertCandidate_spec sha256 call hlive).1 _ _).mpr
      (.inl ⟨Upsert.resumeId_mem_tokens, rfl⟩)⟩

theorem AliasesKept.unique {id' : String} (h : AliasesKept sha256 calls index)
    (hfree : PrefixesCollisionFree sha256 calls) (hfun : index.Functional)
    (hx : index.Alias x id) (hx' : index.Alias x id') : id = id' := by
  obtain ⟨u, hu, rfl, hkey⟩ := h.owned x id hx
  obtain ⟨v, hv, hstable, hkey'⟩ := h.owned _ id' hx'
  rw [← hfree ⟨u, hu, rfl⟩ ⟨v, hv, rfl⟩ hstable] at hkey'
  exact hfun _ _ _ hkey hkey'

end RuntimeCandidateIdentityIndex

open RuntimeCandidateIdentityIndex

variable {sha256 : String → String} {calls : List Upsert}

theorem aliasesKept_upsertAll (hfree : PrefixesCollisionFree sha256 calls) :
    AliasesKept sha256 calls (upsertAll sha256 calls) := by
  induction calls using List.reverseRecOn with
  | nil => exact aliasesKept_empty
  | append_singleton calls call ih =>
    have hbefore : PrefixesCollisionFree sha256 calls := hfree.mono (by simp +contextual)
    have hinv := consistent_upsertAll hbefore
    rw [upsertAll_concat]
    exact (ih hbefore).upsertCandidate hinv.rooted hinv.live

theorem resolves_upsertAll {earlier later : List Upsert} {call : Upsert}
    (hfree : PrefixesCollisionFree sha256 (earlier ++ call :: later)) :
    (upsertAll sha256 (earlier ++ call :: later)).Resolves
      ((upsertAll sha256 earlier).targetIdentityId sha256 call) call.resumeId := by
  induction later using List.reverseRecOn with
  | nil =>
    have hbefore : PrefixesCollisionFree sha256 earlier := hfree.mono (by simp +contextual)
    rw [upsertAll_concat]
    exact resolves_upsertCandidate (consistent_upsertAll hbefore).live
      (aliasesKept_upsertAll hbefore).aliased
  | append_singleton later last ih =>
    have hbefore : PrefixesCollisionFree sha256 (earlier ++ call :: later) :=
      hfree.mono fun u hu => by
        rw [← List.cons_append, ← List.append_assoc]
        exact List.mem_append_left _ hu
    rw [← List.cons_append, ← List.append_assoc, upsertAll_concat]
    exact (ih hbefore).upsertCandidate (consistent_upsertAll hbefore).live
      (aliasesKept_upsertAll hbefore).aliased

/-- **Aliases.** After any upserts the alias sets of the identities are disjoint, each has the id
of its own identity, and an id that an upsert has returned is in exactly one of them, that of the
identity with the resume it was returned for. -/
theorem aliases_spec (sha256 : String → String) (calls : List Upsert)
    (hfree : PrefixesCollisionFree sha256 calls) :
    (∀ identity ∈ (upsertAll sha256 calls).identities,
      identity.identityId ∈ identity.aliasIdentityIds ∧
      ∀ x, x ∈ (upsertAll sha256 calls).aliasesFor identity.identityId ↔
        x ∈ identity.aliasIdentityIds) ∧
    (upsertAll sha256 calls).identities.Pairwise
      (fun a b => a.aliasIdentityIds.Disjoint b.aliasIdentityIds) ∧
    ∀ earlier call later, calls = earlier ++ call :: later →
      (∃! identity, identity ∈ (upsertAll sha256 calls).identities ∧
        (upsertAll sha256 earlier).targetIdentityId sha256 call ∈ identity.aliasIdentityIds) ∧
      ∀ identity ∈ (upsertAll sha256 calls).identities,
        (upsertAll sha256 earlier).targetIdentityId sha256 call ∈ identity.aliasIdentityIds →
          call.resumeId ∈ identity.resumeIds := by
  have hkept := aliasesKept_upsertAll hfree
  have hinv := consistent_upsertAll hfree
  have hunique : ∀ a ∈ (upsertAll sha256 calls).identities,
      ∀ b ∈ (upsertAll sha256 calls).identities, ∀ x, x ∈ a.aliasIdentityIds →
        x ∈ b.aliasIdentityIds → a = b := by
    intro a ha b hb x hxa hxb
    apply List.inj_on_of_nodup_map (upsertAll sha256 calls).nodup_ids ha hb
    exact hkept.unique hfree hinv.functional ((hkept.rows a ha x).mp hxa)
      ((hkept.rows b hb x).mp hxb)
  refine ⟨?_, ?_, ?_⟩
  · intro a ha
    have hown := hkept.aliased.own a.identityId (mem_ids_iff.mpr ⟨a, ha, rfl⟩)
    refine ⟨(hkept.rows a ha _).mpr hown, fun x => ?_⟩
    rw [hkept.rows a ha x, aliasesFor, Py.mem_sortedSet]
    obtain ⟨aliases, haliases, hmem⟩ := hown
    simp only [Alias, haliases, Option.getD_some, List.mem_append, List.mem_singleton,
      Option.some.injEq, exists_eq_left']
    constructor
    · intro hx
      rcases hx with hx | rfl
      · exact hx
      · exact hmem
    · exact .inl
  · have hnodup : (upsertAll sha256 calls).identities.Nodup :=
      (upsertAll sha256 calls).nodup_ids.of_map _
    apply hnodup.imp_of_mem
    intro a b ha hb hne x hxa hxb
    exact hne (hunique a ha b hb x hxa hxb)
  · rintro earlier call later rfl
    obtain ⟨id, hx, hr⟩ := resolves_upsertAll hfree
    obtain ⟨a, ha, rfl⟩ := mem_ids_iff.mp (hinv.live _ _ hr)
    have hxa := (hkept.rows a ha _).mpr hx
    refine ⟨⟨a, ⟨ha, hxa⟩, ?_⟩, ?_⟩
    · intro b hb
      exact hunique b hb.1 a ha _ hb.2 hxa
    · intro b hb hxb
      rw [hunique b hb a ha _ hxb hxa]
      exact (rowHolds_iff_of_mem (upsertAll sha256 _).nodup_ids ha).mp hr

def contactSha256 : String → String
  | "contact:c1" => "c2b42e7109be3de65fc7291ef72edf06e75cb2f7d7e6ba97debc81c883d2b2e4"
  | "contact:c2" => "28ff9e64d081d8da1db0db09c1e24ee101e3cee51bcaf7e24aacb7cf70b84486"
  | key => key

/-- An identity that goes into another one, and comes back as the target of the last call. -/
def comingBack : List Upsert :=
  [⟨"r1", "e1", { protectedContactHashes := ["c2"] }⟩,
    ⟨"r1", "e2", { protectedContactHashes := ["c1", "c2"] }⟩,
    ⟨"r2", "e3", { protectedContactHashes := ["c2"] }⟩]

theorem aliases_spec_comingBack :
    (upsertAll contactSha256 comingBack).identities.map (fun a => (a.identityId, a.aliasIdentityIds)) =
        [("identity-28ff9e64d081d8da",
          ["identity-28ff9e64d081d8da", "identity-c2b42e7109be3de6"])] ∧
      (upsertAll contactSha256 comingBack).identities.Pairwise
        (fun a b => a.aliasIdentityIds.Disjoint b.aliasIdentityIds) := by
  have hfree : PrefixesCollisionFree contactSha256 comingBack := by
    intro k hk k' hk' h
    have hkeys : ∀ key, (∃ call ∈ comingBack, call.primaryKey contactSha256 = key) →
        key = "contact:c1" ∨ key = "contact:c2" := by
      intro key hkey
      obtain ⟨call, hcall, rfl⟩ := hkey
      revert call
      decide
    rcases hkeys k hk with rfl | rfl <;> rcases hkeys k' hk' with rfl | rfl
    · rfl
    · exact absurd h (by decide)
    · exact absurd h (by decide)
    · rfl
  exact ⟨by decide, (aliases_spec contactSha256 comingBack hfree).2.1⟩

end SeekTalent

import SeekTalent.Base.Table
import SeekTalent.Identity.Signals

/-!
# The candidate identity index

`RuntimeCandidateIdentityIndex` keeps identities, each with the resumes and the evidence
it has taken in, and a map from identity keys to identity ids. An upsert collects every
identity that it has a resume, an evidence id or a key in common with, merges them into one
target and records itself there.

What an operation does is said once, for resumes, evidence and keys alike: `Holds t id`
says that the token `t` is with the identity `id`. A merge moves the tokens of the old
identity to the target (`holds_mergeIdentity`), and an upsert moves everything it has met
to its target, together with its own tokens (`holds_upsertCandidate`).
-/

namespace SeekTalent

structure RuntimeCandidateIdentity where
  identityId : String
  canonicalIdentityId : String
  resumeIds : List String := []
  evidenceIds : List String := []
  aliasIdentityIds : List String := []
  strongestSignal : Option StrongestSignal := none

theorem nodup_noIdentities : (([] : List RuntimeCandidateIdentity).map (·.identityId)).Nodup :=
  List.nodup_nil

structure RuntimeCandidateIdentityIndex where
  identities : List RuntimeCandidateIdentity := []
  keyToIdentityId : String → Option String := fun _ => none
  aliasesByCanonicalId : String → Option (List String) := fun _ => none
  nodup_ids : (identities.map (·.identityId)).Nodup := by exact nodup_noIdentities

/-- The arguments of one `upsert_candidate` call. -/
structure Upsert where
  resumeId : String
  evidenceId : String
  signals : RuntimeIdentitySignals

namespace RuntimeCandidateIdentityIndex

def ids (index : RuntimeCandidateIdentityIndex) : List String :=
  index.identities.map (·.identityId)

/-- `self._identities.get(identity_id)` -/
def lookup (index : RuntimeCandidateIdentityIndex) (identityId : String) :
    Option RuntimeCandidateIdentity :=
  Table.lookup (·.identityId) index.identities identityId

/-- `self._identities[identity.identity_id] = identity` -/
def setIdentity (index : RuntimeCandidateIdentityIndex) (identity : RuntimeCandidateIdentity) :
    RuntimeCandidateIdentityIndex :=
  { index with
    identities := Table.upsert (·.identityId) index.identities identity
    nodup_ids := Table.nodup_keys_upsert index.nodup_ids }

/-- `self._identities.pop(identity_id)` -/
def popIdentity (index : RuntimeCandidateIdentityIndex) (identityId : String) :
    RuntimeCandidateIdentityIndex :=
  { index with
    identities := index.identities.filter (·.identityId ≠ identityId)
    nodup_ids := index.nodup_ids.sublist (List.filter_sublist.map _) }

def aliasesFor (index : RuntimeCandidateIdentityIndex) (canonicalIdentityId : String) :
    List String :=
  Py.sortedSet ((index.aliasesByCanonicalId canonicalIdentityId).getD [] ++ [canonicalIdentityId])

def identityForResumeId (index : RuntimeCandidateIdentityIndex) (resumeId : String) :
    Option String :=
  (index.identities.find? (resumeId ∈ ·.resumeIds)).map (·.canonicalIdentityId)

def ensureIdentity (index : RuntimeCandidateIdentityIndex) (identityId : String)
    (strongestSignal : StrongestSignal) : RuntimeCandidateIdentityIndex :=
  if identityId ∈ index.ids then index
  else
    { index.setIdentity
        { identityId, canonicalIdentityId := identityId, strongestSignal := some strongestSignal } with
      aliasesByCanonicalId := fun id =>
        if id = identityId then some ((index.aliasesByCanonicalId id).getD [identityId])
        else index.aliasesByCanonicalId id }

/-- `_merge_identity`. The target is there: `upsert_candidate` has ensured it. -/
def mergeIdentity (index : RuntimeCandidateIdentityIndex) (targetIdentityId oldIdentityId : String) :
    RuntimeCandidateIdentityIndex :=
  match index.lookup oldIdentityId, index.lookup targetIdentityId with
  | some oldIdentity, some targetIdentity =>
    let aliases := Py.sortedSet
      ((index.aliasesByCanonicalId targetIdentityId).getD [targetIdentityId] ++
        (index.aliasesByCanonicalId oldIdentityId).getD [oldIdentityId] ++ [oldIdentityId])
    { (index.popIdentity oldIdentityId).setIdentity
        { targetIdentity with
          resumeIds := Py.sortedSet (targetIdentity.resumeIds ++ oldIdentity.resumeIds)
          evidenceIds := Py.sortedSet (targetIdentity.evidenceIds ++ oldIdentity.evidenceIds)
          aliasIdentityIds := aliases } with
      keyToIdentityId := fun key =>
        (index.keyToIdentityId key).map fun id => if id = oldIdentityId then targetIdentityId else id
      aliasesByCanonicalId := fun id =>
        if id = targetIdentityId then some aliases
        else if id = oldIdentityId then none
        else index.aliasesByCanonicalId id }
  | _, _ => index

section Upsert

variable (sha256 : String → String)

def existingIdentityIds (index : RuntimeCandidateIdentityIndex) (call : Upsert) : List String :=
  Py.sortedSet
    ((identityKeys sha256 call.signals call.evidenceId).filterMap index.keyToIdentityId ++
      (index.identities.filter fun identity =>
        call.resumeId ∈ identity.resumeIds ∨ call.evidenceId ∈ identity.evidenceIds).map
          (·.identityId))

/-- The id a call merges into: without contact hashes the first one that exists. -/
def targetIdentityId (index : RuntimeCandidateIdentityIndex) (call : Upsert) : String :=
  match call.signals.protectedContactHashes, index.existingIdentityIds sha256 call with
  | [], first :: _ => first
  | _, _ => stableIdentityId sha256 (primaryIdentityKey sha256 call.signals call.evidenceId)

/-- The call's own resume, evidence, signal and keys, written to the target. -/
def recordCandidate (index : RuntimeCandidateIdentityIndex) (target : String) (call : Upsert) :
    RuntimeCandidateIdentityIndex :=
  match index.lookup target with
  | some identity =>
    { index.setIdentity
        { identity with
          resumeIds := Py.sortedSet (identity.resumeIds ++ [call.resumeId])
          evidenceIds := Py.sortedSet (identity.evidenceIds ++ [call.evidenceId])
          aliasIdentityIds := Py.sortedSet ((index.aliasesByCanonicalId target).getD [])
          strongestSignal := some (strongestSignalCode call.signals) } with
      keyToIdentityId := fun key =>
        if key ∈ identityKeys sha256 call.signals call.evidenceId then some target
        else index.keyToIdentityId key }
  | none => index

/-- `upsert_candidate`. It returns the identity; `targetIdentityId` is that identity's id,
    the only part of it that callers read. -/
def upsertCandidate (index : RuntimeCandidateIdentityIndex) (call : Upsert) :
    RuntimeCandidateIdentityIndex :=
  let target := index.targetIdentityId sha256 call
  let merged := ((index.existingIdentityIds sha256 call).filter (· ≠ target)).foldl
    (mergeIdentity · target ·)
    (index.ensureIdentity target (strongestSignalCode call.signals))
  merged.recordCandidate sha256 target call

end Upsert

end RuntimeCandidateIdentityIndex

/-- What two upserts can have in common. -/
inductive Token where
  | resume (resumeId : String)
  | evidence (evidenceId : String)
  | key (identityKey : String)

def Upsert.tokens (sha256 : String → String) (call : Upsert) : Set Token
  | .resume r => r = call.resumeId
  | .evidence e => e = call.evidenceId
  | .key k => k ∈ identityKeys sha256 call.signals call.evidenceId

section Rows

variable {rows : List RuntimeCandidateIdentity} {row old target : RuntimeCandidateIdentity}
variable {field : RuntimeCandidateIdentity → List String} {v id : String}

def RowHolds (rows : List RuntimeCandidateIdentity)
    (field : RuntimeCandidateIdentity → List String) (v id : String) : Prop :=
  ∃ row ∈ rows, row.identityId = id ∧ v ∈ field row

theorem rowHolds_upsert :
    RowHolds (Table.upsert (·.identityId) rows row) field v id ↔
      row.identityId = id ∧ v ∈ field row ∨ id ≠ row.identityId ∧ RowHolds rows field v id := by
  constructor
  · intro h
    obtain ⟨x, hx, rfl, hv⟩ := h
    rcases Table.mem_upsert_iff.mp hx with rfl | ⟨hx, hne⟩
    · exact .inl ⟨rfl, hv⟩
    · exact .inr ⟨hne, x, hx, rfl, hv⟩
  · intro h
    rcases h with ⟨rfl, hv⟩ | ⟨hne, x, hx, rfl, hv⟩
    · exact ⟨row, Table.mem_upsert_iff.mpr (.inl rfl), rfl, hv⟩
    · exact ⟨x, Table.mem_upsert_iff.mpr (.inr ⟨hx, hne⟩), rfl, hv⟩

theorem rowHolds_filter :
    RowHolds (rows.filter (·.identityId ≠ old.identityId)) field v id ↔
      RowHolds rows field v id ∧ id ≠ old.identityId := by
  constructor
  · intro h
    obtain ⟨x, hx, rfl, hv⟩ := h
    obtain ⟨hx, hne⟩ := List.mem_filter.mp hx
    exact ⟨⟨x, hx, rfl, hv⟩, by simpa using hne⟩
  · intro h
    obtain ⟨⟨x, hx, rfl, hv⟩, hne⟩ := h
    exact ⟨x, List.mem_filter.mpr ⟨hx, by simpa using hne⟩, rfl, hv⟩

theorem rowHolds_iff_of_mem (hnd : (rows.map (·.identityId)).Nodup) (hrow : row ∈ rows) :
    RowHolds rows field v row.identityId ↔ v ∈ field row := by
  constructor
  · intro h
    obtain ⟨x, hx, hid, hv⟩ := h
    have : x = row := List.inj_on_of_nodup_map hnd hx hrow hid
    exact this ▸ hv
  · intro hv
    exact ⟨row, hrow, rfl, hv⟩

theorem rowHolds_merge {merged : RuntimeCandidateIdentity}
    (hnd : (rows.map (·.identityId)).Nodup) (hold : old ∈ rows) (htarget : target ∈ rows)
    (hid : merged.identityId = target.identityId)
    (hfield : ∀ x, x ∈ field merged ↔ x ∈ field target ∨ x ∈ field old) :
    RowHolds (Table.upsert (·.identityId) (rows.filter (·.identityId ≠ old.identityId)) merged)
        field v id ↔
      ∃ id₀, RowHolds rows field v id₀ ∧
        id = if id₀ = old.identityId then target.identityId else id₀ := by
  rw [rowHolds_upsert, rowHolds_filter, hid, hfield]
  constructor
  · intro h
    rcases h with ⟨rfl, hv | hv⟩ | ⟨hne, h, hno⟩
    · exact ⟨target.identityId, ⟨target, htarget, rfl, hv⟩, by simp⟩
    · exact ⟨old.identityId, ⟨old, hold, rfl, hv⟩, by simp⟩
    · exact ⟨id, h, by simp [hno]⟩
  · intro h
    obtain ⟨id₀, h, rfl⟩ := h
    by_cases ho : id₀ = old.identityId
    · subst ho
      rw [rowHolds_iff_of_mem hnd hold] at h
      exact .inl ⟨by simp, .inr h⟩
    · by_cases ht : id₀ = target.identityId
      · subst ht
        rw [rowHolds_iff_of_mem hnd htarget] at h
        exact .inl ⟨by simp, .inl h⟩
      · exact .inr ⟨by simpa [ho] using ht, by simpa [ho] using h, by simp [ho]⟩

end Rows

namespace RuntimeCandidateIdentityIndex

variable {sha256 : String → String} {index : RuntimeCandidateIdentityIndex} {call : Upsert}
variable {t : Token} {id id' old target : String} {identity : RuntimeCandidateIdentity}

def Holds (index : RuntimeCandidateIdentityIndex) : Token → String → Prop
  | .resume r, id => RowHolds index.identities (·.resumeIds) r id
  | .evidence e, id => RowHolds index.identities (·.evidenceIds) e id
  | .key k, id => index.keyToIdentityId k = some id

theorem mem_ids_iff : id ∈ index.ids ↔ ∃ row ∈ index.identities, row.identityId = id := by
  simp [ids]

theorem lookup_eq_some_iff :
    index.lookup id = some identity ↔ identity ∈ index.identities ∧ identity.identityId = id :=
  Table.lookup_eq_some_iff index.nodup_ids

theorem exists_lookup (h : id ∈ index.ids) : ∃ identity, index.lookup id = some identity := by
  obtain ⟨row, hrow, rfl⟩ := mem_ids_iff.mp h
  exact ⟨row, lookup_eq_some_iff.mpr ⟨hrow, rfl⟩⟩

@[simp] theorem mem_ids_setIdentity :
    id ∈ (index.setIdentity identity).ids ↔ id = identity.identityId ∨ id ∈ index.ids := by
  simp only [mem_ids_iff, setIdentity, Table.mem_upsert_iff]
  constructor
  · intro h
    obtain ⟨row, rfl | ⟨hrow, -⟩, rfl⟩ := h
    · exact .inl rfl
    · exact .inr ⟨row, hrow, rfl⟩
  · intro h
    by_cases hid : id = identity.identityId
    · exact ⟨identity, .inl rfl, hid.symm⟩
    · obtain ⟨row, hrow, rfl⟩ := h.resolve_left hid
      exact ⟨row, .inr ⟨hrow, hid⟩, rfl⟩

/-! ## What the steps of an upsert do -/

@[simp] theorem holds_ensureIdentity {signal : StrongestSignal} :
    (index.ensureIdentity target signal).Holds t id ↔ index.Holds t id := by
  unfold ensureIdentity
  split
  · rfl
  · rename_i hnew
    -- a fresh row replaces none, and lists nothing
    have hrow : ∀ (field : RuntimeCandidateIdentity → List String) (v : String),
        RowHolds index.identities field v id → id ≠ target := by
      intro field v h hid
      obtain ⟨row, hrow, hrid, -⟩ := h
      exact hnew (mem_ids_iff.mpr ⟨row, hrow, hrid.trans hid⟩)
    cases t with
    | resume r =>
      simp only [Holds, setIdentity, rowHolds_upsert]
      simpa using hrow _ r
    | evidence e =>
      simp only [Holds, setIdentity, rowHolds_upsert]
      simpa using hrow _ e
    | key k => rfl

@[simp] theorem mem_ids_ensureIdentity {signal : StrongestSignal} :
    id ∈ (index.ensureIdentity target signal).ids ↔ id = target ∨ id ∈ index.ids := by
  unfold ensureIdentity
  split
  · rename_i hold
    constructor
    · exact .inr
    · intro h
      rcases h with rfl | h
      · exact hold
      · exact h
  · show id ∈ (index.setIdentity _).ids ↔ _
    rw [mem_ids_setIdentity]

/-- **A merge** moves the tokens of the old identity to the target. -/
theorem holds_mergeIdentity (hold : old ∈ index.ids) (htarget : target ∈ index.ids) :
    (index.mergeIdentity target old).Holds t id ↔
      ∃ id₀, index.Holds t id₀ ∧ id = if id₀ = old then target else id₀ := by
  obtain ⟨o, ho⟩ := exists_lookup hold
  obtain ⟨g, hg⟩ := exists_lookup htarget
  unfold mergeIdentity
  rw [ho, hg]
  obtain ⟨hmo, rfl⟩ := lookup_eq_some_iff.mp ho
  obtain ⟨hmg, rfl⟩ := lookup_eq_some_iff.mp hg
  cases t with
  | resume r => exact rowHolds_merge index.nodup_ids hmo hmg rfl (by simp)
  | evidence e => exact rowHolds_merge index.nodup_ids hmo hmg rfl (by simp)
  | key k =>
    simp only [Holds, Option.map_eq_some_iff]
    constructor
    · intro h
      obtain ⟨id₀, h, rfl⟩ := h
      exact ⟨id₀, h, rfl⟩
    · intro h
      obtain ⟨id₀, h, rfl⟩ := h
      exact ⟨id₀, h, rfl⟩

theorem mem_ids_mergeIdentity (hold : old ∈ index.ids) (htarget : target ∈ index.ids)
    (hne : old ≠ target) :
    id ∈ (index.mergeIdentity target old).ids ↔ id ∈ index.ids ∧ id ≠ old := by
  obtain ⟨o, ho⟩ := exists_lookup hold
  obtain ⟨g, hg⟩ := exists_lookup htarget
  unfold mergeIdentity
  rw [ho, hg]
  obtain ⟨hg, rfl⟩ := lookup_eq_some_iff.mp hg
  show id ∈ ((index.popIdentity old).setIdentity _).ids ↔ _
  have hpop : id ∈ (index.popIdentity old).ids ↔ id ∈ index.ids ∧ id ≠ old := by
    simp only [mem_ids_iff, popIdentity, List.mem_filter]
    constructor
    · intro h
      obtain ⟨row, ⟨hrow, hro⟩, rfl⟩ := h
      exact ⟨⟨row, hrow, rfl⟩, by simpa using hro⟩
    · intro h
      obtain ⟨⟨row, hrow, rfl⟩, hro⟩ := h
      exact ⟨row, ⟨hrow, by simpa using hro⟩, rfl⟩
  rw [mem_ids_setIdentity, hpop]
  constructor
  · intro h
    rcases h with rfl | h
    · exact ⟨htarget, hne.symm⟩
    · exact h
  · exact .inr

theorem exists_relabel {P P' : String → Prop} {target old id : String} {olds : List String}
    (htos : target ∉ olds)
    (hstep : ∀ id, P' id ↔ ∃ id₀, P id₀ ∧ id = if id₀ = old then target else id₀) :
    (∃ id₁, P' id₁ ∧ id = if id₁ ∈ olds then target else id₁) ↔
      ∃ id₀, P id₀ ∧ id = if id₀ ∈ old :: olds then target else id₀ := by
  have hcompose : ∀ id₀, (if (if id₀ = old then target else id₀) ∈ olds then target
      else if id₀ = old then target else id₀) = if id₀ ∈ old :: olds then target else id₀ := by
    intro id₀
    by_cases hid : id₀ = old
    · simp [hid, htos]
    · simp [hid]
  simp only [hstep]
  constructor
  · intro h
    obtain ⟨_, ⟨id₀, h₀, rfl⟩, rfl⟩ := h
    exact ⟨id₀, h₀, hcompose id₀⟩
  · intro h
    obtain ⟨id₀, h₀, rfl⟩ := h
    exact ⟨_, ⟨id₀, h₀, rfl⟩, (hcompose id₀).symm⟩

theorem mergeAll (index : RuntimeCandidateIdentityIndex) (target : String) (olds : List String)
    (hnd : olds.Nodup) (holds : ∀ o ∈ olds, o ∈ index.ids)
    (htarget : target ∈ index.ids) (hne : target ∉ olds) :
    (∀ t id, (olds.foldl (mergeIdentity · target ·) index).Holds t id ↔
      ∃ id₀, index.Holds t id₀ ∧ id = if id₀ ∈ olds then target else id₀) ∧
    ∀ id, id ∈ (olds.foldl (mergeIdentity · target ·) index).ids ↔
      id ∈ index.ids ∧ id ∉ olds := by
  induction olds generalizing index with
  | nil => simp
  | cons old olds ih =>
    obtain ⟨hold, holds⟩ := List.forall_mem_cons.mp holds
    obtain ⟨hnot, hnd⟩ := List.nodup_cons.mp hnd
    obtain ⟨hto, htos⟩ := not_or.mp (mt List.mem_cons.mpr hne)
    have hids : ∀ id, id ∈ (index.mergeIdentity target old).ids ↔ id ∈ index.ids ∧ id ≠ old :=
      fun _ => mem_ids_mergeIdentity hold htarget (Ne.symm hto)
    obtain ⟨ihHolds, ihIds⟩ := ih (index.mergeIdentity target old) hnd
      (fun o ho => (hids o).mpr ⟨holds o ho, fun h => hnot (h ▸ ho)⟩)
      ((hids target).mpr ⟨htarget, hto⟩) htos
    refine ⟨fun t id => ?_, fun id => ?_⟩
    · rw [List.foldl_cons, ihHolds]
      exact exists_relabel htos fun _ => holds_mergeIdentity hold htarget
    · rw [List.foldl_cons, ihIds, hids]
      simp [and_assoc]

/-- **Recording the call** adds its tokens to the target, where what is left of them has
    been moved already. -/
theorem holds_recordCandidate (htarget : target ∈ index.ids)
    (hmoved : ∀ x ∈ call.tokens sha256, ∀ id, index.Holds x id → id = target) :
    (index.recordCandidate sha256 target call).Holds t id ↔
      t ∈ call.tokens sha256 ∧ id = target ∨ index.Holds t id := by
  obtain ⟨g, hg⟩ := exists_lookup htarget
  unfold recordCandidate
  rw [hg]
  obtain ⟨hmem, rfl⟩ := lookup_eq_some_iff.mp hg
  have hfield : ∀ {field : RuntimeCandidateIdentity → List String} {row} {v new : String},
      row.identityId = g.identityId → (∀ x, x ∈ field row ↔ x ∈ field g ∨ x = new) →
      (RowHolds (Table.upsert (·.identityId) index.identities row) field v id ↔
        v = new ∧ id = g.identityId ∨ RowHolds index.identities field v id) := by
    intro field row v new hid hrow
    rw [rowHolds_upsert, hid, hrow]
    by_cases h : id = g.identityId
    · subst h
      rw [rowHolds_iff_of_mem index.nodup_ids hmem]
      simp [or_comm]
    · simp [h, Ne.symm h]
  cases t with
  | resume r => exact hfield rfl (by simp)
  | evidence e => exact hfield rfl (by simp)
  | key k =>
    show (if _ then some g.identityId else _) = some id ↔ k ∈ identityKeys .. ∧ _ ∨ _
    by_cases hk : k ∈ identityKeys sha256 call.signals call.evidenceId
    · have hmoved := hmoved (.key k) hk id
      simp only [hk, if_true, true_and, Option.some.injEq]
      constructor
      · intro h
        exact .inl h.symm
      · intro h
        rcases h with h | h
        · exact h.symm
        · exact (hmoved h).symm
    · simp [hk, Holds]

theorem ids_recordCandidate (htarget : target ∈ index.ids) :
    id ∈ (index.recordCandidate sha256 target call).ids ↔ id ∈ index.ids := by
  obtain ⟨g, hg⟩ := exists_lookup htarget
  unfold recordCandidate
  rw [hg]
  obtain ⟨hg, rfl⟩ := lookup_eq_some_iff.mp hg
  show id ∈ (index.setIdentity _).ids ↔ _
  rw [mem_ids_setIdentity]
  constructor
  · intro h
    rcases h with rfl | h
    · exact htarget
    · exact h
  · exact .inr

/-! ## What an upsert does -/

theorem mem_existingIdentityIds :
    id ∈ index.existingIdentityIds sha256 call ↔
      ∃ x ∈ call.tokens sha256, index.Holds x id := by
  simp only [existingIdentityIds, Py.mem_sortedSet, List.mem_append, List.mem_filterMap,
    List.mem_map, List.mem_filter, decide_eq_true_eq]
  constructor
  · intro h
    rcases h with ⟨k, hk, h⟩ | ⟨row, ⟨hrow, h | h⟩, rfl⟩
    · exact ⟨.key k, hk, h⟩
    · exact ⟨.resume call.resumeId, rfl, row, hrow, rfl, h⟩
    · exact ⟨.evidence call.evidenceId, rfl, row, hrow, rfl, h⟩
  · intro h
    obtain ⟨x, hx, h⟩ := h
    cases x with
    | resume r =>
      obtain rfl : r = call.resumeId := hx
      obtain ⟨row, hrow, rfl, h⟩ := h
      exact .inr ⟨row, ⟨hrow, .inl h⟩, rfl⟩
    | evidence e =>
      obtain rfl : e = call.evidenceId := hx
      obtain ⟨row, hrow, rfl, h⟩ := h
      exact .inr ⟨row, ⟨hrow, .inr h⟩, rfl⟩
    | key k => exact .inl ⟨k, hx, h⟩

def LiveLabels (index : RuntimeCandidateIdentityIndex) : Prop :=
  ∀ t id, index.Holds t id → id ∈ index.ids

theorem upsertCandidate_spec (sha256 : String → String) (call : Upsert) (hlive : index.LiveLabels) :
    (∀ t id, (index.upsertCandidate sha256 call).Holds t id ↔
      t ∈ call.tokens sha256 ∧ id = index.targetIdentityId sha256 call ∨
      ∃ id₀, index.Holds t id₀ ∧
        id = if id₀ ∈ index.existingIdentityIds sha256 call then
          index.targetIdentityId sha256 call else id₀) ∧
    ∀ id, id ∈ (index.upsertCandidate sha256 call).ids ↔
      id = index.targetIdentityId sha256 call ∨
        id ∈ index.ids ∧ id ∉ index.existingIdentityIds sha256 call := by
  unfold upsertCandidate
  generalize hT : index.targetIdentityId sha256 call = target
  generalize hE : index.existingIdentityIds sha256 call = existing
  have hnd : existing.Nodup := hE ▸ Py.nodup_sortedSet
  have hexisting : ∀ id, id ∈ existing ↔ ∃ x ∈ call.tokens sha256, index.Holds x id :=
    fun id => hE ▸ mem_existingIdentityIds
  -- the identities to merge are there, and so is the target once it is ensured
  obtain ⟨hHolds, hIds⟩ := mergeAll
    (index.ensureIdentity target (strongestSignalCode call.signals)) target
    (existing.filter (· ≠ target)) (hnd.filter _)
    (by
      intro o ho
      obtain ⟨x, -, hx⟩ := (hexisting o).mp (List.mem_filter.mp ho).1
      exact mem_ids_ensureIdentity.mpr (.inr (hlive x o hx)))
    (mem_ids_ensureIdentity.mpr (.inl rfl)) (by simp)
  have hif : ∀ id₀, (if id₀ ∈ existing.filter (· ≠ target) then target else id₀) =
      if id₀ ∈ existing then target else id₀ := by
    intro id₀
    by_cases h : id₀ = target
    · simp [h]
    · simp [h]
  simp only [holds_ensureIdentity, hif] at hHolds
  have htarget := (hIds target).mpr ⟨mem_ids_ensureIdentity.mpr (.inl rfl), by simp⟩
  refine ⟨fun t id => ?_, fun id => ?_⟩
  · rw [holds_recordCandidate htarget, hHolds]
    intro x hx id h
    obtain ⟨id₀, h₀, rfl⟩ := (hHolds x id).mp h
    simp [(hexisting id₀).mpr ⟨x, hx, h₀⟩]
  · rw [ids_recordCandidate htarget, hIds, mem_ids_ensureIdentity]
    simp only [List.mem_filter, decide_not, Bool.not_eq_eq_eq_not, Bool.not_true,
      decide_eq_false_iff_not]
    constructor
    · intro h
      obtain ⟨h | h, hno⟩ := h
      · exact .inl h
      · by_cases hid : id = target
        · exact .inl hid
        · exact .inr ⟨h, fun he => hno ⟨he, hid⟩⟩
    · intro h
      rcases h with rfl | ⟨h, he⟩
      · exact ⟨.inl rfl, by simp⟩
      · exact ⟨.inr h, fun h => he h.1⟩

end RuntimeCandidateIdentityIndex

end SeekTalent

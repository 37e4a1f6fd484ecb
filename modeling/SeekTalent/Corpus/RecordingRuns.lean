import Mathlib.Data.List.TakeWhile
import SeekTalent.Corpus.Recording

/-!
# What is left of the calls

Every document of the store should have an observation and a membership in the default collection,
and the collection should be counted right. A call that returns keeps that, and so does one that is
refused at its start. A call that ends at a candidate leaves the documents of the candidates before it
without either, so it keeps that exactly when these documents were there before (`accounted_iff`).
-/

namespace SeekTalent

namespace Corpus

open Stateful

/-! ## 1. What is claimed of the store -/

/-- **The documents are accounted for.** -/
structure Tables.Accounted (s : Tables) : Prop where
  observed : ∀ document ∈ s.documents.rows, ∃ observation ∈ s.observations.rows,
    observation.tenantId = document.tenantId ∧ observation.workspaceId = document.workspaceId ∧
      observation.resumeDocId = document.resumeDocId
  collected : ∀ document ∈ s.documents.rows, ∃ membership ∈ s.memberships.rows,
    membership.key = (document.tenantId, document.workspaceId,
      defaultCollectionId document.tenantId document.workspaceId, document.resumeDocId)
  counted : ∀ collection ∈ s.collections.rows, collection.rowCount = s.count collection.key

/-- The digest that a candidate is stored under, if it is not rejected. -/
def snapshotOf (returned : Returned) : Option String :=
  match prepared returned with
  | .ok row => some row.snapshotSha256
  | .error _ => none

def recordable (returned : Returned) : Bool := (snapshotOf returned).isSome

def Tables.Stored (s : Tables) (call : RecordCall) (returned : Returned) : Prop :=
  ∃ snapshotSha256, snapshotOf returned = some snapshotSha256 ∧
    (call.tenantId, call.workspaceId, snapshotSha256) ∈ s.documents.rows.map ResumeDocument.key

/-- **The call keeps the documents accounted for**: it is refused at its start, or no candidate is
    rejected, or the documents of those before the one that is are there already. -/
def Tables.Allowed (s : Tables) (call : RecordCall) : Prop :=
  s.collectionClash (s.counted call.tenantId call.workspaceId) = true ∨
    (∀ returned ∈ call.returned, recordable returned = true) ∨
      ∀ returned ∈ call.returned.takeWhile recordable, s.Stored call returned

/-! ## 2. The invariant -/

/-- What every run keeps: the ids are what they are made of, and the references hold. -/
structure Tables.Sound (s : Tables) : Prop where
  documents : ∀ document ∈ s.documents.rows,
    document.resumeDocId =
        resumeDocIdOf document.tenantId document.workspaceId document.snapshotSha256 ∧
      document.snapshotSha256.toList.length = 64
  housed : ∀ document ∈ s.documents.rows,
    (document.tenantId, document.workspaceId,
      defaultCollectionId document.tenantId document.workspaceId) ∈
        s.collections.rows.map CorpusCollection.key
  collections : ∀ collection ∈ s.collections.rows,
    collection.corpusCollectionId =
      defaultCollectionId collection.tenantId collection.workspaceId
  apart : ∀ collection ∈ s.collections.rows, ∀ other ∈ s.collections.rows,
    collection.corpusCollectionId = other.corpusCollectionId → collection.key = other.key
  observations : ∀ observation ∈ s.observations.rows,
    observation.idempotencyKey.resumeDocId = observation.resumeDocId ∧
      observation.observationId =
          ⟨observation.tenantId, observation.workspaceId, observation.idempotencyKey⟩ ∧
        s.hasDocument observation.tenantId observation.workspaceId observation.resumeDocId = true

theorem sound_empty : ({} : Tables).Sound where
  documents := by simp
  housed := by simp
  collections := by simp
  apart := by simp
  observations := by simp

theorem accounted_empty : ({} : Tables).Accounted where
  observed := by simp
  collected := by simp
  counted := by simp

/-! ## 3. Ids -/

theorem resumeDocIdOf_inj {tenantId workspaceId snapshotSha256 tenantId' workspaceId'
      snapshotSha256' : String}
    (hlength : snapshotSha256.toList.length = snapshotSha256'.toList.length)
    (h : resumeDocIdOf tenantId workspaceId snapshotSha256 =
      resumeDocIdOf tenantId' workspaceId' snapshotSha256') :
    snapshotSha256 = snapshotSha256' ∧
      defaultCollectionId tenantId workspaceId = defaultCollectionId tenantId' workspaceId' := by
  have hchars := congrArg String.toList h
  simp only [resumeDocIdOf, String.toList_append] at hchars
  obtain ⟨hfront, hback⟩ := List.append_inj' hchars hlength
  refine ⟨String.toList_inj.mp hback, String.toList_inj.mp ?_⟩
  obtain ⟨hids, -⟩ := List.append_inj' hfront rfl
  simp only [defaultCollectionId, String.toList_append]
  rw [hids]

variable {s : Tables} {call : RecordCall} {returned : Returned} {row : Prepared}
variable {tenantId workspaceId snapshotSha256 : String}

theorem length_of_prepared (h : prepared returned = .ok row) :
    row.snapshotSha256.toList.length = 64 := by
  obtain ⟨-, -, hrest⟩ := bind_eq_ok h
  obtain ⟨raw, -, hrest⟩ := bind_eq_ok hrest
  obtain ⟨artifactRefId, hwrite, hrest⟩ := bind_eq_ok hrest
  obtain rfl := Except.ok.inj hrest
  unfold writeRawPayloadArtifact at hwrite
  split at hwrite
  · rename_i hdigest
    unfold isSnapshotSha256 at hdigest
    rw [Bool.and_eq_true, decide_eq_true_eq] at hdigest
    exact hdigest.1
  · cases hwrite

theorem snapshotOf_of_prepared (h : prepared returned = .ok row) :
    snapshotOf returned = some row.snapshotSha256 := by
  unfold snapshotOf
  rw [h]

theorem recordable_of_prepared (h : prepared returned = .ok row) : recordable returned = true := by
  unfold recordable
  rw [snapshotOf_of_prepared h]
  rfl

theorem not_recordable_of_error {error : CorpusError} (h : prepared returned = .error error) :
    recordable returned = false := by
  unfold recordable snapshotOf
  rw [h]
  rfl

theorem Tables.Sound.key_of_id (h : s.Sound)
    (hlength : snapshotSha256.toList.length = 64)
    (hhoused : (tenantId, workspaceId, defaultCollectionId tenantId workspaceId) ∈
      s.collections.rows.map CorpusCollection.key)
    {document : ResumeDocument} (hdocument : document ∈ s.documents.rows)
    (hid : document.resumeDocId = resumeDocIdOf tenantId workspaceId snapshotSha256) :
    document.key = (tenantId, workspaceId, snapshotSha256) := by
  obtain ⟨hown, hownLength⟩ := h.documents document hdocument
  obtain ⟨hsnapshot, hcollection⟩ := resumeDocIdOf_inj (hownLength.trans hlength.symm)
    (hown.symm.trans hid)
  obtain ⟨collection, hmem, hkey⟩ := List.mem_map.mp hhoused
  obtain ⟨other, hother, hotherKey⟩ := List.mem_map.mp (h.housed document hdocument)
  have hsame : other.key = collection.key := by
    apply h.apart other hother collection hmem
    have hid := congrArg (·.2.2) hkey
    have hotherId := congrArg (·.2.2) hotherKey
    exact hotherId.trans (hcollection.trans hid.symm)
  rw [hotherKey, hkey] at hsame
  have htenant : document.tenantId = tenantId := congrArg (·.1) hsame
  have hworkspace : document.workspaceId = workspaceId := congrArg (·.2.1) hsame
  unfold ResumeDocument.key
  rw [htenant, hworkspace, hsnapshot]

/-! ## 4. The collection -/

def Tables.ensured (s : Tables) (tenantId workspaceId : String) : Tables :=
  let row := s.counted tenantId workspaceId
  { s with collections := s.collections.insertOrUpdate row row.merged row.key_merged }

theorem exec_ensureDefaultCollection (s : Tables) (tenantId workspaceId : String) :
    exec (ensureDefaultCollection tenantId workspaceId) s =
      if s.collectionClash (s.counted tenantId workspaceId) then
        (.error (.integrityError "corpus_collections.corpus_collection_id"), s)
      else (.ok (defaultCollectionId tenantId workspaceId), s.ensured tenantId workspaceId) := by
  unfold ensureDefaultCollection
  rw [exec_bind, exec_get]
  dsimp only
  split
  · rfl
  · rfl

theorem housed_ensured :
    (tenantId, workspaceId, defaultCollectionId tenantId workspaceId) ∈
      (s.ensured tenantId workspaceId).collections.rows.map CorpusCollection.key :=
  (Keyed.mem_keys_insertOrUpdate _).mpr (.inl rfl)

theorem key_of_not_clash (h : s.collectionClash (s.counted tenantId workspaceId) = false)
    {collection : CorpusCollection} (hmem : collection ∈ s.collections.rows)
    (hid : collection.corpusCollectionId = defaultCollectionId tenantId workspaceId) :
    collection.key = (s.counted tenantId workspaceId).key := by
  unfold Tables.collectionClash at h
  rw [List.any_eq_false] at h
  have hother := h collection hmem
  simp only [Bool.and_eq_true, decide_eq_true_eq, not_and, ne_eq, not_not] at hother
  exact hother hid

theorem Tables.Sound.ensured (h : s.Sound)
    (hclash : s.collectionClash (s.counted tenantId workspaceId) = false) :
    (s.ensured tenantId workspaceId).Sound where
  documents := h.documents
  housed := by
    intro document hdocument
    exact (Keyed.mem_keys_insertOrUpdate _).mpr (.inr (h.housed document hdocument))
  collections := Keyed.forall_insertOrUpdate _ rfl (fun old hold _ => h.collections old hold)
    fun old hold _ => h.collections old hold
  apart := by
    -- a row of the new table has the key and the id of an old one, or of the workspace's
    have hrows : ∀ collection ∈ (s.ensured tenantId workspaceId).collections.rows,
        (∃ old ∈ s.collections.rows, collection.key = old.key ∧
          collection.corpusCollectionId = old.corpusCollectionId) ∨
        collection = s.counted tenantId workspaceId :=
      Keyed.forall_insertOrUpdate _ (.inr rfl) (fun old hold _ => .inl ⟨old, hold, rfl, rfl⟩)
        fun old hold _ => .inl ⟨old, hold, rfl, rfl⟩
    intro collection hmem other hother hid
    rcases hrows collection hmem with ⟨old, hold, hkey, hname⟩ | rfl
    · rcases hrows other hother with ⟨old', hold', hkey', hname'⟩ | rfl
      · rw [hkey, hkey']
        exact h.apart old hold old' hold' (hname.symm.trans (hid.trans hname'))
      · rw [hkey]
        exact key_of_not_clash hclash hold (hname.symm.trans hid)
    · rcases hrows other hother with ⟨old', hold', hkey', hname'⟩ | rfl
      · rw [hkey']
        exact (key_of_not_clash hclash hold' (hname'.symm.trans hid.symm)).symm
      · rfl
  observations := h.observations

/-! ## 5. The loop over the candidates -/

def Tables.recorded (s : Tables) (call : RecordCall) (returned : Returned) (row : Prepared) :
    Tables :=
  let subject := buildResumeSubjectRow call returned row
  let document := buildResumeDocumentRow call returned row
  { s with
    subjects := s.subjects.insertOrUpdate subject subject.merged subject.key_merged
    documents := s.documents.insertOrUpdate document document.merged document.key_merged }

theorem exec_recordReturned (hprepared : prepared returned = .ok row)
    (hclash : s.documentClash (buildResumeDocumentRow call returned row) = false) :
    exec (recordReturned call returned) s =
      (.ok (buildObservationRow call returned row), s.recorded call returned row) := by
  unfold recordReturned upsertResumeSubject upsertResumeDocument
  rw [hprepared, exec_bind]
  unfold checked
  rw [exec_pure]
  dsimp only
  rw [exec_bind, exec_modify]
  dsimp only
  rw [exec_bind, exec_bind, exec_get]
  dsimp only
  have hsame : Tables.documentClash
      { s with
        subjects := s.subjects.insertOrUpdate (buildResumeSubjectRow call returned row)
          (buildResumeSubjectRow call returned row).merged
          (buildResumeSubjectRow call returned row).key_merged }
      (buildResumeDocumentRow call returned row) = false := hclash
  rw [hsame, if_neg Bool.false_ne_true, exec_modify]
  rfl

theorem exec_recordReturned_error {error : CorpusError} (h : prepared returned = .error error) :
    exec (recordReturned call returned) s = (.error error, s) := by
  unfold recordReturned
  rw [h, exec_bind]
  rfl

theorem Tables.Sound.not_documentClash (h : s.Sound) (hprepared : prepared returned = .ok row)
    (hhoused : (call.tenantId, call.workspaceId,
      defaultCollectionId call.tenantId call.workspaceId) ∈
        s.collections.rows.map CorpusCollection.key) :
    s.documentClash (buildResumeDocumentRow call returned row) = false := by
  unfold Tables.documentClash
  rw [List.any_eq_false]
  intro document hdocument
  simp only [Bool.and_eq_true, decide_eq_true_eq, not_and, ne_eq, not_not]
  intro hid
  exact h.key_of_id (length_of_prepared hprepared) hhoused hdocument hid

theorem hasDocument_recorded {resumeDocId : String}
    (h : s.hasDocument tenantId workspaceId resumeDocId = true) :
    (s.recorded call returned row).hasDocument tenantId workspaceId resumeDocId = true := by
  unfold Tables.hasDocument at h ⊢
  rw [List.any_eq_true] at h ⊢
  obtain ⟨document, hmem, hfields⟩ := h
  refine ⟨_, Keyed.mem_insertOrUpdate_of_mem _ hmem, ?_⟩
  split
  · exact hfields
  · exact hfields

theorem Tables.Sound.recorded (h : s.Sound) (hprepared : prepared returned = .ok row)
    (hhoused : (call.tenantId, call.workspaceId,
      defaultCollectionId call.tenantId call.workspaceId) ∈
        s.collections.rows.map CorpusCollection.key) :
    (s.recorded call returned row).Sound where
  documents := Keyed.forall_insertOrUpdate _ ⟨rfl, length_of_prepared hprepared⟩
    (fun old hold _ => h.documents old hold) fun old hold _ => h.documents old hold
  housed := Keyed.forall_insertOrUpdate _ hhoused (fun old hold _ => h.housed old hold)
    fun old hold _ => h.housed old hold
  collections := h.collections
  apart := h.apart
  observations := by
    intro observation hmem
    obtain ⟨hkey, hid, hdocument⟩ := h.observations observation hmem
    exact ⟨hkey, hid, hasDocument_recorded hdocument⟩

/-- What the loop leaves: the documents of the candidates before the first that is rejected, and
    nothing else but subjects. -/
structure Recorded (s after : Tables) (call : RecordCall) (returned : List Returned) : Prop where
  sound : after.Sound
  observations : after.observations = s.observations
  memberships : after.memberships = s.memberships
  collections : after.collections = s.collections
  documents : ∀ key, key ∈ after.documents.rows.map ResumeDocument.key ↔
    key ∈ s.documents.rows.map ResumeDocument.key ∨
      ∃ one ∈ returned.takeWhile recordable, ∃ snapshotSha256,
        snapshotOf one = some snapshotSha256 ∧
          key = (call.tenantId, call.workspaceId, snapshotSha256)

def observationOf (call : RecordCall) (returned : Returned) : Option ResumeObservation :=
  match prepared returned with
  | .ok row => some (buildObservationRow call returned row)
  | .error _ => none

def Ends (call : RecordCall) (returned : List Returned)
    (ending : Except CorpusError (List ResumeObservation)) : Prop :=
  ((∀ one ∈ returned, recordable one = true) →
      ending = .ok (returned.filterMap (observationOf call))) ∧
    ((∃ one ∈ returned, recordable one = false) → ∃ error, ending = .error error)

theorem recordAll_spec (candidates : List Returned) (h : s.Sound)
    (hhoused : (call.tenantId, call.workspaceId,
      defaultCollectionId call.tenantId call.workspaceId) ∈
        s.collections.rows.map CorpusCollection.key) :
    Recorded s (exec (recordAll call candidates) s).2 call candidates ∧
      Ends call candidates (exec (recordAll call candidates) s).1 := by
  induction candidates generalizing s with
  | nil => exact ⟨⟨h, rfl, rfl, rfl, by simp [recordAll]⟩, by simp [Ends, recordAll]⟩
  | cons returned rest ih =>
    cases hprepared : prepared returned with
    | error error =>
      have hrejected := not_recordable_of_error hprepared
      have hexec : exec (recordAll call (returned :: rest)) s = (.error error, s) := by
        unfold recordAll
        rw [exec_bind, exec_recordReturned_error hprepared]
      rw [hexec]
      refine ⟨⟨h, rfl, rfl, rfl, ?_⟩, ?_, ?_⟩
      · simp [hrejected]
      · intro hall
        rw [hall returned List.mem_cons_self] at hrejected
        cases hrejected
      · intro _
        exact ⟨error, rfl⟩
    | ok row =>
      have haccepted := recordable_of_prepared hprepared
      have hnext := ih (h.recorded hprepared hhoused) hhoused
      have hexec : exec (recordAll call (returned :: rest)) s =
          ((exec (recordAll call rest) (s.recorded call returned row)).1.map
              (buildObservationRow call returned row :: ·),
            (exec (recordAll call rest) (s.recorded call returned row)).2) := by
        rw [recordAll, exec_bind, exec_recordReturned hprepared (h.not_documentClash hprepared hhoused)]
        dsimp only
        rw [exec_bind]
        cases exec (recordAll call rest) (s.recorded call returned row) with
        | mk ending after =>
          cases ending with
          | ok observations => rfl
          | error error => rfl
      rw [hexec]
      obtain ⟨hrecorded, hok, herror⟩ := hnext
      refine ⟨⟨hrecorded.sound, hrecorded.observations, hrecorded.memberships,
        hrecorded.collections, ?_⟩, ?_, ?_⟩
      · intro key
        rw [hrecorded.documents]
        have hkeys : key ∈ (s.recorded call returned row).documents.rows.map ResumeDocument.key ↔
            key = (call.tenantId, call.workspaceId, row.snapshotSha256) ∨
              key ∈ s.documents.rows.map ResumeDocument.key :=
          Keyed.mem_keys_insertOrUpdate _
        rw [hkeys, List.takeWhile_cons, if_pos haccepted]
        simp only [List.mem_cons, exists_eq_or_imp, snapshotOf_of_prepared hprepared,
          Option.some.injEq, exists_eq_left']
        constructor
        · intro hkey
          rcases hkey with (hkey | hkey) | hkey
          · exact .inr (.inl hkey)
          · exact .inl hkey
          · exact .inr (.inr hkey)
        · intro hkey
          rcases hkey with hkey | hkey | hkey
          · exact .inl (.inr hkey)
          · exact .inl (.inl hkey)
          · exact .inr hkey
      · intro hall
        rw [hok fun one hone => hall one (List.mem_cons_of_mem _ hone)]
        have hone : observationOf call returned = some (buildObservationRow call returned row) := by
          unfold observationOf
          rw [hprepared]
        rw [List.filterMap_cons_some hone]
        rfl
      · intro hsome
        obtain ⟨one, hone, hrejected⟩ := hsome
        rcases List.mem_cons.mp hone with rfl | hone
        · rw [haccepted] at hrejected
          cases hrejected
        · obtain ⟨error, hending⟩ := herror ⟨one, hone, hrejected⟩
          rw [hending]
          exact ⟨error, rfl⟩

/-! ## 6. The observations -/

theorem fields_of_observationOf {observation : ResumeObservation}
    (h : observationOf call returned = some observation) :
    ∃ row, prepared returned = .ok row ∧ observation = buildObservationRow call returned row := by
  unfold observationOf at h
  cases hprepared : prepared returned with
  | ok row =>
    rw [hprepared] at h
    exact ⟨row, rfl, (Option.some.inj h).symm⟩
  | error error =>
    rw [hprepared] at h
    cases h

/-- What the observations of a call leave: their keys, and rows of the same kind. -/
structure Observes (before after : Keyed ResumeObservation.key) (rows : List ResumeObservation) :
    Prop where
  keys : ∀ key, key ∈ after.rows.map ResumeObservation.key ↔
    key ∈ before.rows.map ResumeObservation.key ∨ key ∈ rows.map ResumeObservation.key
  all : ∀ P : ResumeObservation → Prop,
    (∀ new old : ResumeObservation, P old → P (new.merged old)) →
    (∀ row ∈ rows, P row) → (∀ row ∈ before.rows, P row) → ∀ row ∈ after.rows, P row

theorem exec_insertObservations {rows : List ResumeObservation}
    (hdocuments : ∀ row ∈ rows,
      s.hasDocument row.tenantId row.workspaceId row.resumeDocId = true) :
    ∃ observations, exec (insertObservations rows) s = (.ok (), { s with observations }) ∧
      Observes s.observations observations rows := by
  induction rows generalizing s with
  | nil => exact ⟨s.observations, rfl, ⟨by simp, fun _ _ _ h => h⟩⟩
  | cons row rows ih =>
    obtain ⟨hrow, hrows⟩ := List.forall_mem_cons.mp hdocuments
    let inserted : Tables :=
      { s with observations := s.observations.insertOrUpdate row row.merged row.key_merged }
    obtain ⟨observations, hexec, hobserves⟩ := ih (s := inserted) hrows
    refine ⟨observations, ?_, ?_, ?_⟩
    · rw [insertObservations, exec_bind]
      unfold insertObservation
      rw [exec_bind, exec_get]
      dsimp only
      rw [if_pos hrow, exec_modify]
      exact hexec
    · intro key
      have hkeys : key ∈ inserted.observations.rows.map ResumeObservation.key ↔
          key = row.key ∨ key ∈ s.observations.rows.map ResumeObservation.key :=
        Keyed.mem_keys_insertOrUpdate _
      rw [hobserves.keys, hkeys, List.map_cons, List.mem_cons, or_comm (a := key = row.key), or_assoc]
    · intro P hmerged hnew hbefore
      obtain ⟨hfirst, hrest⟩ := List.forall_mem_cons.mp hnew
      apply hobserves.all P hmerged hrest
      exact Keyed.forall_insertOrUpdate _ hfirst (fun old hold _ => hbefore old hold)
        fun old hold _ => hmerged row old (hbefore old hold)

/-! ## 7. The memberships -/

structure Joins (call : RecordCall) (collectionId : String)
    (before after : Keyed CorpusMembership.key) (rows : List ResumeObservation) : Prop where
  keys : ∀ key, key ∈ after.rows.map CorpusMembership.key ↔
    key ∈ before.rows.map CorpusMembership.key ∨ ∃ row ∈ rows,
      key = (call.tenantId, call.workspaceId, collectionId, row.resumeDocId)
  count : ∀ collection, collection ≠ (call.tenantId, call.workspaceId, collectionId) →
    after.rows.countP (·.isIn collection) = before.rows.countP (·.isIn collection)
  unchanged : rows = [] → after = before

theorem exec_addMemberships {collectionId : String} {rows : List ResumeObservation}
    (hrefers : ∀ row ∈ rows, s.refersTo (membershipRow call collectionId row) = true) :
    ∃ memberships,
      exec (addMemberships call collectionId rows) s = (.ok (), { s with memberships }) ∧
        Joins call collectionId s.memberships memberships rows := by
  induction rows generalizing s with
  | nil => exact ⟨s.memberships, rfl, ⟨by simp, fun _ _ => rfl, fun _ => rfl⟩⟩
  | cons row rows ih =>
    obtain ⟨hrow, hrows⟩ := List.forall_mem_cons.mp hrefers
    let new := membershipRow call collectionId row
    let joined : Tables :=
      { s with memberships := s.memberships.insertOrUpdate new new.merged new.key_merged }
    obtain ⟨memberships, hexec, hjoins⟩ := ih (s := joined) hrows
    refine ⟨memberships, ?_, ?_, ?_, fun hnil => absurd hnil (List.cons_ne_nil _ _)⟩
    · rw [addMemberships, exec_bind]
      unfold addCorpusMembership
      rw [exec_bind, exec_get]
      dsimp only
      rw [if_pos hrow, exec_modify]
      exact hexec
    · intro key
      have hkeys : key ∈ joined.memberships.rows.map CorpusMembership.key ↔
          key = new.key ∨ key ∈ s.memberships.rows.map CorpusMembership.key :=
        Keyed.mem_keys_insertOrUpdate _
      rw [hjoins.keys, hkeys, or_comm (a := key = new.key), or_assoc]
      simp only [List.mem_cons, exists_eq_or_imp]
      exact Iff.rfl
    · intro collection hne
      have hout : ∀ membership : CorpusMembership, membership.key = new.key →
          membership.isIn collection = false := by
        intro membership hkey
        have htenant : membership.tenantId = call.tenantId := congrArg (·.1) hkey
        have hworkspace : membership.workspaceId = call.workspaceId := congrArg (·.2.1) hkey
        have hcollection : membership.corpusCollectionId = collectionId := congrArg (·.2.2.1) hkey
        unfold CorpusMembership.isIn
        rw [htenant, hworkspace, hcollection]
        exact decide_eq_false (Ne.symm hne)
      rw [hjoins.count collection hne]
      have hsame : ∀ old ∈ s.memberships.rows, old.key = new.key →
          (new.merged old).isIn collection = old.isIn collection := by
        intro old _ hkey
        rw [hout old hkey, hout (new.merged old) hkey]
      exact Keyed.countP_insertOrUpdate (q := fun membership : CorpusMembership => membership.isIn collection) _ (hout new rfl) hsame

/-! ## 8. What follows the loop -/

structure Tables.Ready (s : Tables) (call : RecordCall) (rows : List ResumeObservation) : Prop where
  sound : s.Sound
  housed : (call.tenantId, call.workspaceId,
    defaultCollectionId call.tenantId call.workspaceId) ∈
      s.collections.rows.map CorpusCollection.key
  rows : ∀ row ∈ rows, row.tenantId = call.tenantId ∧ row.workspaceId = call.workspaceId ∧
    row.idempotencyKey.resumeDocId = row.resumeDocId ∧
      row.observationId = ⟨row.tenantId, row.workspaceId, row.idempotencyKey⟩ ∧
        s.hasDocument row.tenantId row.workspaceId row.resumeDocId = true

def Tables.joined (s : Tables) (call : RecordCall) (rows : List ResumeObservation)
    (observations : Keyed ResumeObservation.key) (memberships : Keyed CorpusMembership.key) :
    Tables :=
  if rows = [] then { s with observations, memberships }
  else ({ s with observations, memberships } : Tables).ensured call.tenantId call.workspaceId

theorem Tables.Sound.not_collectionClash (h : s.Sound)
    (hhoused : (tenantId, workspaceId, defaultCollectionId tenantId workspaceId) ∈
      s.collections.rows.map CorpusCollection.key) :
    s.collectionClash (s.counted tenantId workspaceId) = false := by
  unfold Tables.collectionClash
  rw [List.any_eq_false]
  intro collection hmem
  simp only [Bool.and_eq_true, decide_eq_true_eq, not_and, ne_eq, not_not]
  intro hid
  obtain ⟨own, hown, hkey⟩ := List.mem_map.mp hhoused
  have hsame : collection.key = own.key := by
    apply h.apart collection hmem own hown
    have hownId := congrArg (·.2.2) hkey
    exact hid.trans hownId.symm
  exact hsame.trans hkey

theorem exec_storeObservations {rows : List ResumeObservation} (h : s.Ready call rows) :
    ∃ observations memberships, Observes s.observations observations rows ∧
      Joins call (defaultCollectionId call.tenantId call.workspaceId) s.memberships memberships
        rows ∧
      exec (storeObservations call (defaultCollectionId call.tenantId call.workspaceId) rows) s =
        (.ok (), s.joined call rows observations memberships) := by
  obtain ⟨observations, hobservations, hobserves⟩ :=
    exec_insertObservations fun row hrow => (h.rows row hrow).2.2.2.2
  have hrefers : ∀ row ∈ rows, ({ s with observations } : Tables).refersTo
      (membershipRow call (defaultCollectionId call.tenantId call.workspaceId) row) = true := by
    intro row hrow
    obtain ⟨htenant, hworkspace, -, hid, hdocument⟩ := h.rows row hrow
    unfold Tables.refersTo
    rw [Bool.and_eq_true, Bool.and_eq_true]
    refine ⟨⟨?_, ?_⟩, ?_⟩
    · obtain ⟨collection, hmem, hkey⟩ := List.mem_map.mp h.housed
      rw [List.any_eq_true]
      exact ⟨collection, hmem, decide_eq_true hkey⟩
    · rw [htenant, hworkspace] at hdocument
      exact hdocument
    · show (observations.rows.any fun observation => _) = true
      have hkey := (hobserves.keys row.key).mpr (.inr (List.mem_map_of_mem hrow))
      obtain ⟨found, hfound, hsame⟩ := List.mem_map.mp hkey
      have hfoundId : found.observationId =
          ⟨found.tenantId, found.workspaceId, found.idempotencyKey⟩ := by
        apply hobserves.all (fun row => row.observationId =
          ⟨row.tenantId, row.workspaceId, row.idempotencyKey⟩) (fun new old hold => hold) _ _
          found hfound
        · intro row hrow
          exact (h.rows row hrow).2.2.2.1
        · intro old hold
          exact (h.sound.observations old hold).2.1
      have hfoundTenant : found.tenantId = row.tenantId := congrArg (·.1) hsame
      have hfoundWorkspace : found.workspaceId = row.workspaceId := congrArg (·.2.1) hsame
      have hfoundKey : found.idempotencyKey = row.idempotencyKey := congrArg (·.2.2) hsame
      rw [List.any_eq_true]
      refine ⟨found, hfound, decide_eq_true ?_⟩
      show (found.tenantId, found.workspaceId, found.observationId) =
        (call.tenantId, call.workspaceId, row.observationId)
      rw [hfoundId, hid, hfoundTenant, hfoundWorkspace, hfoundKey, htenant, hworkspace]
  obtain ⟨memberships, hmemberships, hjoins⟩ := exec_addMemberships hrefers
  refine ⟨observations, memberships, hobserves, hjoins, ?_⟩
  unfold storeObservations recordResumeObservations Tables.joined
  rw [exec_bind, exec_transaction_of_ok hobservations]
  dsimp only
  rw [exec_bind, hmemberships]
  dsimp only
  by_cases hempty : rows = []
  · rw [if_neg (not_not.mpr hempty), if_pos hempty]
    rfl
  · rw [if_pos hempty, if_neg hempty]
    have hclash : ({ s with observations, memberships } : Tables).collectionClash
        (({ s with observations, memberships } : Tables).counted call.tenantId call.workspaceId) =
          false := h.sound.not_collectionClash h.housed
    rw [exec_bind, exec_ensureDefaultCollection, hclash]
    rfl

/-! ## 9. One call -/

theorem step_of_clash
    (h : s.collectionClash (s.counted call.tenantId call.workspaceId) = true) :
    s.step call = s := by
  unfold Tables.step recordCorpusProviderResults
  rw [exec_bind, exec_ensureDefaultCollection, if_pos h]

theorem Tables.Sound.hasDocument (h : s.Sound)
    (hkey : (tenantId, workspaceId, snapshotSha256) ∈
      s.documents.rows.map ResumeDocument.key) :
    s.hasDocument tenantId workspaceId (resumeDocIdOf tenantId workspaceId snapshotSha256) =
      true := by
  obtain ⟨document, hmem, hfields⟩ := List.mem_map.mp hkey
  obtain ⟨hid, -⟩ := h.documents document hmem
  have htenant : document.tenantId = tenantId := congrArg (·.1) hfields
  have hworkspace : document.workspaceId = workspaceId := congrArg (·.2.1) hfields
  have hsnapshot : document.snapshotSha256 = snapshotSha256 := congrArg (·.2.2) hfields
  unfold Tables.hasDocument
  rw [List.any_eq_true]
  refine ⟨document, hmem, decide_eq_true ?_⟩
  rw [hid, htenant, hworkspace, hsnapshot]

theorem step_of_rejected (h : s.Sound)
    (hclash : s.collectionClash (s.counted call.tenantId call.workspaceId) = false)
    (hrejected : ∃ one ∈ call.returned, recordable one = false) :
    Recorded (s.ensured call.tenantId call.workspaceId) (s.step call) call call.returned := by
  obtain ⟨hrecorded, -, herror⟩ :=
    recordAll_spec call.returned (h.ensured hclash) housed_ensured
  obtain ⟨error, hending⟩ := herror hrejected
  have hstep : s.step call =
      (exec (recordAll call call.returned) (s.ensured call.tenantId call.workspaceId)).2 := by
    unfold Tables.step recordCorpusProviderResults
    rw [exec_bind, exec_ensureDefaultCollection, hclash, if_neg Bool.false_ne_true]
    dsimp only
    rw [exec_bind]
    cases hexec : exec (recordAll call call.returned)
        (s.ensured call.tenantId call.workspaceId) with
    | mk ending after =>
      rw [hexec] at hending
      dsimp only at hending
      rw [hending]
  rw [hstep]
  exact hrecorded

def RecordCall.observations (call : RecordCall) : List ResumeObservation :=
  call.returned.filterMap (observationOf call)

theorem ready_of_recorded {after : Tables}
    (hrecorded : Recorded (s.ensured call.tenantId call.workspaceId) after call call.returned)
    (hall : ∀ one ∈ call.returned, recordable one = true) : after.Ready call call.observations where
  sound := hrecorded.sound
  housed := by
    rw [hrecorded.collections]
    exact housed_ensured
  rows := by
    intro observation hmem
    obtain ⟨one, hone, hobservation⟩ := List.mem_filterMap.mp hmem
    obtain ⟨row, hprepared, rfl⟩ := fields_of_observationOf hobservation
    refine ⟨rfl, rfl, rfl, rfl, hrecorded.sound.hasDocument ?_⟩
    rw [hrecorded.documents]
    refine .inr ⟨one, ?_, row.snapshotSha256, snapshotOf_of_prepared hprepared, rfl⟩
    rw [List.takeWhile_eq_self_iff.mpr hall]
    exact hone

theorem step_of_all (h : s.Sound)
    (hclash : s.collectionClash (s.counted call.tenantId call.workspaceId) = false)
    (hall : ∀ one ∈ call.returned, recordable one = true) :
    ∃ loop observations memberships,
      Recorded (s.ensured call.tenantId call.workspaceId) loop call call.returned ∧
        Observes loop.observations observations call.observations ∧
        Joins call (defaultCollectionId call.tenantId call.workspaceId) loop.memberships
          memberships call.observations ∧
        s.step call = loop.joined call call.observations observations memberships := by
  obtain ⟨hrecorded, hok, -⟩ :=
    recordAll_spec call.returned (h.ensured hclash) housed_ensured
  obtain ⟨observations, memberships, hobserves, hjoins, hstored⟩ :=
    exec_storeObservations (ready_of_recorded hrecorded hall)
  refine ⟨_, observations, memberships, hrecorded, hobserves, hjoins, ?_⟩
  have hending := hok hall
  unfold Tables.step recordCorpusProviderResults
  rw [exec_bind, exec_ensureDefaultCollection, hclash, if_neg Bool.false_ne_true]
  dsimp only
  rw [exec_bind]
  cases hexec : exec (recordAll call call.returned)
      (s.ensured call.tenantId call.workspaceId) with
  | mk ending after =>
    rw [hexec] at hending hstored
    dsimp only at hending hstored ⊢
    rw [hending]
    dsimp only
    have hrows : call.returned.filterMap (observationOf call) = call.observations := rfl
    rw [hrows, hstored]

/-! ## 10. What a call keeps -/

section Joined

variable {loop : Tables} {rows : List ResumeObservation}
variable {observations : Keyed ResumeObservation.key} {memberships : Keyed CorpusMembership.key}

theorem Tables.Ready.joined (h : loop.Ready call rows)
    (hobserves : Observes loop.observations observations rows) :
    (loop.joined call rows observations memberships).Sound := by
  have hstored : ({ loop with observations, memberships } : Tables).Sound :=
    { documents := h.sound.documents
      housed := h.sound.housed
      collections := h.sound.collections
      apart := h.sound.apart
      observations := by
        apply hobserves.all (fun row => row.idempotencyKey.resumeDocId = row.resumeDocId ∧
          row.observationId = ⟨row.tenantId, row.workspaceId, row.idempotencyKey⟩ ∧
            loop.hasDocument row.tenantId row.workspaceId row.resumeDocId = true)
          (fun new old hold => hold) _ h.sound.observations
        intro row hrow
        obtain ⟨-, -, hkey, hid, hdocument⟩ := h.rows row hrow
        exact ⟨hkey, hid, hdocument⟩ }
  unfold Tables.joined
  split
  · exact hstored
  · exact hstored.ensured (hstored.not_collectionClash h.housed)

theorem observed_of_key (hsound : loop.Sound)
    (hobserves : Observes loop.observations observations rows)
    (hrows : ∀ row ∈ rows, row.idempotencyKey.resumeDocId = row.resumeDocId)
    {observation : ResumeObservation}
    (hmem : observation ∈ loop.observations.rows ∨ observation ∈ rows) :
    ∃ found ∈ observations.rows, found.tenantId = observation.tenantId ∧
      found.workspaceId = observation.workspaceId ∧
        found.resumeDocId = observation.resumeDocId := by
  have hkey : observation.key ∈ observations.rows.map ResumeObservation.key := by
    rw [hobserves.keys]
    rcases hmem with hmem | hmem
    · exact .inl (List.mem_map_of_mem hmem)
    · exact .inr (List.mem_map_of_mem hmem)
  obtain ⟨found, hfound, hsame⟩ := List.mem_map.mp hkey
  have hown : observation.idempotencyKey.resumeDocId = observation.resumeDocId := by
    rcases hmem with hmem | hmem
    · exact (hsound.observations observation hmem).1
    · exact hrows observation hmem
  have hfoundOwn : found.idempotencyKey.resumeDocId = found.resumeDocId :=
    hobserves.all (fun row => row.idempotencyKey.resumeDocId = row.resumeDocId)
      (fun new old hold => hold) hrows (fun old hold => (hsound.observations old hold).1) found
      hfound
  have hidempotency : found.idempotencyKey = observation.idempotencyKey := congrArg (·.2.2) hsame
  refine ⟨found, hfound, congrArg (·.1) hsame, congrArg (·.2.1) hsame, ?_⟩
  rw [← hfoundOwn, hidempotency, hown]

end Joined

theorem Tables.Sound.step (h : s.Sound) (call : RecordCall) : (s.step call).Sound := by
  cases hclash : s.collectionClash (s.counted call.tenantId call.workspaceId) with
  | true =>
    rw [step_of_clash hclash]
    exact h
  | false =>
    by_cases hall : ∀ one ∈ call.returned, recordable one = true
    · obtain ⟨loop, observations, memberships, hrecorded, hobserves, -, hstep⟩ :=
        step_of_all h hclash hall
      rw [hstep]
      exact (ready_of_recorded hrecorded hall).joined hobserves
    · exact (step_of_rejected h hclash (by simpa using hall)).sound

theorem sameDocument {after : Tables} (h : s.Sound) (hafter : after.Sound)
    {document : ResumeDocument} (hdocument : document ∈ after.documents.rows)
    (hkey : document.key ∈ s.documents.rows.map ResumeDocument.key) :
    ∃ old ∈ s.documents.rows, old.tenantId = document.tenantId ∧
      old.workspaceId = document.workspaceId ∧ old.resumeDocId = document.resumeDocId := by
  obtain ⟨old, hold, hsame⟩ := List.mem_map.mp hkey
  have htenant : old.tenantId = document.tenantId := congrArg (·.1) hsame
  have hworkspace : old.workspaceId = document.workspaceId := congrArg (·.2.1) hsame
  have hsnapshot : old.snapshotSha256 = document.snapshotSha256 := congrArg (·.2.2) hsame
  refine ⟨old, hold, htenant, hworkspace, ?_⟩
  rw [(h.documents old hold).1, (hafter.documents document hdocument).1, htenant, hworkspace,
    hsnapshot]

theorem counted_ensured (h : ∀ collection ∈ s.collections.rows,
      collection.key ≠ (tenantId, workspaceId, defaultCollectionId tenantId workspaceId) →
        collection.rowCount = s.count collection.key) :
    ∀ collection ∈ (s.ensured tenantId workspaceId).collections.rows,
      collection.rowCount = s.count collection.key := by
  have hmerged : ∀ old ∈ s.collections.rows, old.key = (s.counted tenantId workspaceId).key →
      ((s.counted tenantId workspaceId).merged old).rowCount =
        s.count ((s.counted tenantId workspaceId).merged old).key := by
    intro old _ hkey
    rw [CorpusCollection.key_merged, hkey]
    rfl
  exact Keyed.forall_insertOrUpdate (P := fun collection : CorpusCollection =>
    collection.rowCount = s.count collection.key) _ rfl h hmerged

/-- **A call that rejects a candidate** keeps the documents accounted for exactly when those it has
    stored were there. -/
theorem accounted_of_rejected {after : Tables} (h : s.Sound) (haccounted : s.Accounted)
    (hrecorded : Recorded (s.ensured call.tenantId call.workspaceId) after call call.returned) :
    after.Accounted ↔ ∀ one ∈ call.returned.takeWhile recordable, s.Stored call one := by
  constructor
  · intro hafter one hone
    have haccepted : recordable one = true := List.mem_takeWhile_imp hone
    obtain ⟨snapshotSha256, hsnapshot⟩ := Option.isSome_iff_exists.mp haccepted
    refine ⟨snapshotSha256, hsnapshot, ?_⟩
    have hkey := (hrecorded.documents _).mpr (.inr ⟨one, hone, snapshotSha256, hsnapshot, rfl⟩)
    obtain ⟨document, hdocument, hfields⟩ := List.mem_map.mp hkey
    -- the observation of this document was there before, and so was the document
    obtain ⟨observation, hobservation, htenant, hworkspace, hid⟩ :=
      hafter.observed document hdocument
    rw [hrecorded.observations] at hobservation
    obtain ⟨-, -, hstored⟩ := h.observations observation hobservation
    unfold Tables.hasDocument at hstored
    rw [List.any_eq_true] at hstored
    obtain ⟨old, hold, hsame⟩ := hstored
    have hsame := of_decide_eq_true hsame
    have holdTenant : old.tenantId = document.tenantId := (congrArg (·.1) hsame).trans htenant
    have holdWorkspace : old.workspaceId = document.workspaceId :=
      (congrArg (·.2.1) hsame).trans hworkspace
    have holdId : old.resumeDocId = document.resumeDocId := (congrArg (·.2.2) hsame).trans hid
    obtain ⟨hown, hlength⟩ := h.documents old hold
    obtain ⟨hown', hlength'⟩ := hrecorded.sound.documents document hdocument
    obtain ⟨hdigest, -⟩ := resumeDocIdOf_inj (hlength.trans hlength'.symm)
      (hown.symm.trans (holdId.trans hown'))
    rw [← hfields]
    refine List.mem_map.mpr ⟨old, hold, ?_⟩
    unfold ResumeDocument.key
    rw [holdTenant, holdWorkspace, hdigest]
  · intro hstored
    have hold : ∀ document ∈ after.documents.rows,
        document.key ∈ s.documents.rows.map ResumeDocument.key := by
      intro document hdocument
      rcases (hrecorded.documents _).mp (List.mem_map_of_mem hdocument) with hkey | hkey
      · exact hkey
      · obtain ⟨one, hone, snapshotSha256, hsnapshot, hkey⟩ := hkey
        obtain ⟨digest, hdigest, hmem⟩ := hstored one hone
        rw [hkey, Option.some.inj (hsnapshot.symm.trans hdigest)]
        exact hmem
    constructor
    · intro document hdocument
      obtain ⟨old, hmem, htenant, hworkspace, hid⟩ :=
        sameDocument h hrecorded.sound hdocument (hold document hdocument)
      rw [← htenant, ← hworkspace, ← hid, hrecorded.observations]
      exact haccounted.observed old hmem
    · intro document hdocument
      obtain ⟨old, hmem, htenant, hworkspace, hid⟩ :=
        sameDocument h hrecorded.sound hdocument (hold document hdocument)
      rw [← htenant, ← hworkspace, ← hid, hrecorded.memberships]
      exact haccounted.collected old hmem
    · have hcount : after.count = s.count := by
        unfold Tables.count
        rw [hrecorded.memberships]
        rfl
      rw [hcount, hrecorded.collections]
      exact counted_ensured fun collection hmem _ => haccounted.counted collection hmem

/-- **A call that rejects no candidate** keeps the documents accounted for. -/
theorem accounted_of_joined {loop : Tables} {observations : Keyed ResumeObservation.key}
    {memberships : Keyed CorpusMembership.key} (h : s.Sound) (haccounted : s.Accounted)
    (hrecorded : Recorded (s.ensured call.tenantId call.workspaceId) loop call call.returned)
    (hall : ∀ one ∈ call.returned, recordable one = true)
    (hobserves : Observes loop.observations observations call.observations)
    (hjoins : Joins call (defaultCollectionId call.tenantId call.workspaceId) loop.memberships
      memberships call.observations) :
    (loop.joined call call.observations observations memberships).Accounted := by
  have hready := ready_of_recorded hrecorded hall
  have hsame : ∀ observation ∈ call.observations,
      observation.idempotencyKey.resumeDocId = observation.resumeDocId := fun observation hmem =>
    (hready.rows observation hmem).2.2.1
  -- every document was there, or has one of the observations of the call
  have hcases : ∀ document ∈ loop.documents.rows,
      (∃ old ∈ s.documents.rows, old.tenantId = document.tenantId ∧
        old.workspaceId = document.workspaceId ∧ old.resumeDocId = document.resumeDocId) ∨
      (document.tenantId = call.tenantId ∧ document.workspaceId = call.workspaceId ∧
        ∃ observation ∈ call.observations, observation.resumeDocId = document.resumeDocId) := by
    intro document hdocument
    rcases (hrecorded.documents _).mp (List.mem_map_of_mem hdocument) with hkey | hkey
    · exact .inl (sameDocument h hrecorded.sound hdocument hkey)
    · obtain ⟨one, hone, snapshotSha256, hsnapshot, hkey⟩ := hkey
      have htenant : document.tenantId = call.tenantId := congrArg (·.1) hkey
      have hworkspace : document.workspaceId = call.workspaceId := congrArg (·.2.1) hkey
      have hdigest : document.snapshotSha256 = snapshotSha256 := congrArg (·.2.2) hkey
      refine .inr ⟨htenant, hworkspace, ?_⟩
      cases hprepared : prepared one with
      | error error =>
        unfold snapshotOf at hsnapshot
        rw [hprepared] at hsnapshot
        cases hsnapshot
      | ok row =>
        have hrow := Option.some.inj ((snapshotOf_of_prepared hprepared).symm.trans hsnapshot)
        refine ⟨buildObservationRow call one row, List.mem_filterMap.mpr ⟨one, ?_, ?_⟩, ?_⟩
        · exact (List.takeWhile_prefix _).subset hone
        · unfold observationOf
          rw [hprepared]
        · rw [(hrecorded.sound.documents document hdocument).1, htenant, hworkspace, hdigest, ← hrow]
          rfl
  have hobserved : ∀ document ∈ loop.documents.rows, ∃ observation ∈ observations.rows,
      observation.tenantId = document.tenantId ∧ observation.workspaceId = document.workspaceId ∧
        observation.resumeDocId = document.resumeDocId := by
    intro document hdocument
    rcases hcases document hdocument with ⟨old, hold, htenant, hworkspace, hid⟩ |
      ⟨htenant, hworkspace, observation, hmem, hid⟩
    · obtain ⟨observation, hmem, htenant', hworkspace', hid'⟩ := haccounted.observed old hold
      have hthere : observation ∈ loop.observations.rows := by
        rw [hrecorded.observations]
        exact hmem
      rw [← htenant, ← hworkspace, ← hid, ← htenant', ← hworkspace', ← hid']
      exact observed_of_key hready.sound hobserves hsame (.inl hthere)
    · obtain ⟨hown, hown', -⟩ := hready.rows observation hmem
      rw [htenant, hworkspace, ← hid, ← hown, ← hown']
      exact observed_of_key hready.sound hobserves hsame (.inr hmem)
  have hcollected : ∀ document ∈ loop.documents.rows, ∃ membership ∈ memberships.rows,
      membership.key = (document.tenantId, document.workspaceId,
        defaultCollectionId document.tenantId document.workspaceId, document.resumeDocId) := by
    intro document hdocument
    apply List.mem_map.mp
    rw [hjoins.keys]
    rcases hcases document hdocument with ⟨old, hold, htenant, hworkspace, hid⟩ |
      ⟨htenant, hworkspace, observation, hmem, hid⟩
    · rw [← htenant, ← hworkspace, ← hid, hrecorded.memberships]
      exact .inl (List.mem_map.mpr (haccounted.collected old hold))
    · rw [htenant, hworkspace, ← hid]
      exact .inr ⟨observation, hmem, rfl⟩
  have hcounted : ∀ collection ∈ loop.collections.rows,
      collection.rowCount = loop.count collection.key := by
    have hcount : loop.count = s.count := by
      unfold Tables.count
      rw [hrecorded.memberships]
      rfl
    rw [hcount, hrecorded.collections]
    exact counted_ensured fun collection hmem _ => haccounted.counted collection hmem
  unfold Tables.joined
  split
  · rename_i hempty
    refine ⟨hobserved, hcollected, ?_⟩
    rw [hjoins.unchanged hempty]
    exact hcounted
  · refine ⟨hobserved, hcollected, counted_ensured ?_⟩
    intro collection hmem hne
    rw [hcounted collection hmem]
    exact (hjoins.count collection.key hne).symm

/-- **One call**: the documents are accounted for after it exactly when it is allowed. -/
theorem accounted_step_iff (h : s.Sound) (haccounted : s.Accounted) :
    (s.step call).Accounted ↔ s.Allowed call := by
  unfold Tables.Allowed
  cases hclash : s.collectionClash (s.counted call.tenantId call.workspaceId) with
  | true =>
    rw [step_of_clash hclash]
    exact ⟨fun _ => .inl rfl, fun _ => haccounted⟩
  | false =>
    by_cases hall : ∀ one ∈ call.returned, recordable one = true
    · obtain ⟨loop, observations, memberships, hrecorded, hobserves, hjoins, hstep⟩ :=
        step_of_all h hclash hall
      rw [hstep]
      exact ⟨fun _ => .inr (.inl hall), fun _ =>
        accounted_of_joined h haccounted hrecorded hall hobserves hjoins⟩
    · rw [accounted_of_rejected h haccounted
        (step_of_rejected h hclash (by simpa using hall))]
      constructor
      · intro hstored
        exact .inr (.inr hstored)
      · intro hallowed
        rcases hallowed with hrefused | hevery | hstored
        · cases hrefused
        · exact absurd hevery hall
        · exact hstored

/-! ## 11. Runs of calls -/

/-- **When the documents are accounted for.** After every part of a run of calls every document has an
observation and a membership, and the collections are counted right, exactly when every call of the
run is refused at its start, or rejects no candidate, or stores only documents that are there before
it comes to the one that it rejects. -/
theorem accounted_iff (calls : List RecordCall) :
    (∀ first third, calls = first ++ third → (first.foldl Tables.step {}).Accounted) ↔
      Along Tables.step {} Tables.Allowed calls :=
  everywhere_iff_along (fun _ call h _ _ => h.step call)
    (fun _ _ h haccounted => accounted_step_iff h haccounted) sound_empty accounted_empty

def returnedBy (providerName : String) (rank : Int) : Returned where
  candidate := { raw := some { sha256 := "".pushn 'a' 64 } }
  stageId := "retrieval"
  roundNo := 1
  queryInstanceId := "query-1"
  queryFingerprint := "fingerprint-1"
  providerName
  providerRequestId := "request-1"
  providerRank := rank
  providerPageNo := 1
  providerFetchNo := 1
  attemptNo := 1
  artifact := .ok "corpus:corpus-1:raw"

def strandingCall : RecordCall where
  runId := "run-1"
  tenantId := "tenant-a"
  workspaceId := "workspace"
  returned := [returnedBy "cts" 1, returnedBy "liepin" 2]

/-- The document of the first candidate is left alone. -/
theorem not_accounted_strandingCall :
    ¬∀ calls : List RecordCall, (calls.foldl Tables.step {}).Accounted := by
  intro h
  have hcall : (Tables.step {} strandingCall).Accounted := h [strandingCall]
  rw [accounted_step_iff sound_empty accounted_empty] at hcall
  rcases hcall with hclash | hall | hstored
  · cases hclash
  · have hliepin : recordable (returnedBy "liepin" 2) = true :=
      hall _ (List.mem_cons_of_mem _ List.mem_cons_self)
    revert hliepin
    decide
  · have hfirst : returnedBy "cts" 1 ∈ strandingCall.returned.takeWhile recordable := by
      have hcts : recordable (returnedBy "cts" 1) = true := by decide
      unfold strandingCall
      rw [List.takeWhile_cons, if_pos hcts]
      exact List.mem_cons_self
    obtain ⟨snapshotSha256, -, hmem⟩ := hstored _ hfirst
    cases hmem

end Corpus

end SeekTalent

import SeekTalent.Base.Commit
import SeekTalent.Base.Table

/-!
# The corpus store

The resumes that providers returned, and where each was seen: five tables of one database. Every
operation is committed when it returns. A row whose key is there already is merged with the one that
is there; a row that breaks another constraint of its table is refused.
-/

namespace SeekTalent

namespace Corpus

open Stateful

/-! ## 1. Rows -/

/-- `subject_id`, a digest: it stands for the fields that it is made of. -/
structure SubjectId where
  tenantId : String
  workspaceId : String
  providerName : String
  subjectKey : String
  deriving DecidableEq

structure ResumeSubject where
  subjectId : SubjectId
  tenantId : String
  workspaceId : String
  providerName : String
  providerCandidateId : Option String
  sourceResumeId : Option String
  dedupKey : Option String
  subjectConfidence : String
  subjectBindingReason : String

/-- Where a document came from the first time. -/
structure FirstSeen where
  runId : Option String
  queryInstanceId : Option String
  stageId : Option String
  artifactRefId : Option String

structure ResumeDocument where
  resumeDocId : String
  tenantId : String
  workspaceId : String
  subjectId : SubjectId
  snapshotSha256 : String
  sourceResumeId : Option String
  providerName : String
  providerCandidateId : Option String
  dedupKey : Option String
  rawPayloadArtifactRefId : String
  firstSeen : FirstSeen

/-- `idempotency_key`, a digest: it stands for the fields that it is made of. -/
structure IdempotencyKey where
  tenantId : String
  workspaceId : String
  runId : String
  stageId : String
  queryInstanceId : String
  providerName : String
  providerRequestId : String
  providerPageNo : Int
  providerFetchNo : Int
  providerRank : Int
  resumeDocId : String
  deriving DecidableEq

/-- `observation_id`, a digest -/
structure ObservationId where
  tenantId : String
  workspaceId : String
  idempotencyKey : IdempotencyKey
  deriving DecidableEq

structure ResumeObservation where
  observationId : ObservationId
  tenantId : String
  workspaceId : String
  resumeDocId : String
  runId : String
  roundNo : Int
  stageId : String
  queryInstanceId : String
  queryFingerprint : String
  providerName : String
  providerRequestId : String
  providerRank : Int
  providerPageNo : Int
  providerFetchNo : Int
  attemptNo : Int
  idempotencyKey : IdempotencyKey
  wasScored : Bool := false
  wasJudged : Bool := false
  wasSelectedFinal : Bool := false
  sourceArtifactRefId : String

structure CorpusCollection where
  corpusCollectionId : String
  tenantId : String
  workspaceId : String
  rowCount : Nat

structure CorpusMembership where
  tenantId : String
  workspaceId : String
  corpusCollectionId : String
  resumeDocId : String
  addedByObservationId : Option ObservationId
  inclusionReason : String

/-! ## 2. Keys, and what an update leaves -/

def ResumeSubject.key (row : ResumeSubject) : String × String × SubjectId :=
  (row.tenantId, row.workspaceId, row.subjectId)

def ResumeDocument.key (row : ResumeDocument) : String × String × String :=
  (row.tenantId, row.workspaceId, row.snapshotSha256)

def ResumeObservation.key (row : ResumeObservation) : String × String × IdempotencyKey :=
  (row.tenantId, row.workspaceId, row.idempotencyKey)

def CorpusCollection.key (row : CorpusCollection) : String × String × String :=
  (row.tenantId, row.workspaceId, row.corpusCollectionId)

def CorpusMembership.key (row : CorpusMembership) : String × String × String × String :=
  (row.tenantId, row.workspaceId, row.corpusCollectionId, row.resumeDocId)

/-- `excluded.*`, of the row of the same subject -/
def ResumeSubject.merged (new old : ResumeSubject) : ResumeSubject :=
  { new with
    tenantId := old.tenantId
    workspaceId := old.workspaceId
    subjectId := old.subjectId }

def FirstSeen.orElse (old new : FirstSeen) : FirstSeen where
  runId := old.runId <|> new.runId
  queryInstanceId := old.queryInstanceId <|> new.queryInstanceId
  stageId := old.stageId <|> new.stageId
  artifactRefId := old.artifactRefId <|> new.artifactRefId

def ResumeDocument.merged (new old : ResumeDocument) : ResumeDocument :=
  { new with
    resumeDocId := old.resumeDocId
    tenantId := old.tenantId
    workspaceId := old.workspaceId
    snapshotSha256 := old.snapshotSha256
    firstSeen := old.firstSeen.orElse new.firstSeen }

def ResumeObservation.merged (new old : ResumeObservation) : ResumeObservation :=
  { old with
    wasScored := new.wasScored
    wasJudged := new.wasJudged
    wasSelectedFinal := new.wasSelectedFinal }

def CorpusCollection.merged (new old : CorpusCollection) : CorpusCollection :=
  { old with rowCount := new.rowCount }

def CorpusMembership.merged (new old : CorpusMembership) : CorpusMembership :=
  { old with
    addedByObservationId := old.addedByObservationId <|> new.addedByObservationId
    inclusionReason := new.inclusionReason }

theorem ResumeSubject.key_merged (new old : ResumeSubject) : (new.merged old).key = old.key := rfl

theorem ResumeDocument.key_merged (new old : ResumeDocument) : (new.merged old).key = old.key := rfl

theorem ResumeObservation.key_merged (new old : ResumeObservation) :
    (new.merged old).key = old.key := rfl

theorem CorpusCollection.key_merged (new old : CorpusCollection) :
    (new.merged old).key = old.key := rfl

theorem CorpusMembership.key_merged (new old : CorpusMembership) :
    (new.merged old).key = old.key := rfl

/-! ## 3. The store -/

structure Tables where
  subjects : Keyed ResumeSubject.key := {}
  documents : Keyed ResumeDocument.key := {}
  observations : Keyed ResumeObservation.key := {}
  collections : Keyed CorpusCollection.key := {}
  memberships : Keyed CorpusMembership.key := {}

inductive CorpusError where
  | valueError (message : String)
  /-- A constraint of a table is broken. -/
  | integrityError (constraint : String)
  /-- Something outside: the raw payload could not be written. -/
  | artifact (message : String)

abbrev Program := Run Tables CorpusError

def defaultCollectionId (tenantId workspaceId : String) : String :=
  tenantId ++ ":" ++ workspaceId ++ ":local-default-resume-corpus"

def CorpusMembership.isIn (row : CorpusMembership) (collection : String × String × String) : Bool :=
  (row.tenantId, row.workspaceId, row.corpusCollectionId) = collection

/-- `SELECT COUNT(*)` of the members of a collection -/
def Tables.count (s : Tables) (collection : String × String × String) : Nat :=
  s.memberships.rows.countP (·.isIn collection)

def Tables.counted (s : Tables) (tenantId workspaceId : String) : CorpusCollection :=
  let collectionId := defaultCollectionId tenantId workspaceId
  { corpusCollectionId := collectionId, tenantId, workspaceId,
    rowCount := s.count (tenantId, workspaceId, collectionId) }

/-- Another workspace has a collection with this id: the primary key is the id alone. -/
def Tables.collectionClash (s : Tables) (row : CorpusCollection) : Bool :=
  s.collections.rows.any fun old =>
    decide (old.corpusCollectionId = row.corpusCollectionId) && decide (old.key ≠ row.key)

def ensureDefaultCollection (tenantId workspaceId : String) : Program String := do
  let s ← get
  let row := s.counted tenantId workspaceId
  if s.collectionClash row then
    throw (.integrityError "corpus_collections.corpus_collection_id")
  else
    modify fun s =>
      { s with collections := s.collections.insertOrUpdate row row.merged row.key_merged }
    pure row.corpusCollectionId

def upsertResumeSubject (row : ResumeSubject) : Program Unit :=
  modify fun s => { s with subjects := s.subjects.insertOrUpdate row row.merged row.key_merged }

/-- Another document has this id: the primary key is the id alone. -/
def Tables.documentClash (s : Tables) (row : ResumeDocument) : Bool :=
  s.documents.rows.any fun old =>
    decide (old.resumeDocId = row.resumeDocId) && decide (old.key ≠ row.key)

/-- `upsert_resume_document`, after the subject was written -/
def upsertResumeDocument (row : ResumeDocument) : Program Unit := do
  let s ← get
  if s.documentClash row then throw (.integrityError "resume_documents.resume_doc_id")
  else
    modify fun s =>
      { s with documents := s.documents.insertOrUpdate row row.merged row.key_merged }

def Tables.hasDocument (s : Tables) (tenantId workspaceId resumeDocId : String) : Bool :=
  s.documents.rows.any fun document =>
    (document.tenantId, document.workspaceId, document.resumeDocId) =
      (tenantId, workspaceId, resumeDocId)

/-- One statement of `record_resume_observations`. -/
def insertObservation (row : ResumeObservation) : Program Unit := do
  let s ← get
  if s.hasDocument row.tenantId row.workspaceId row.resumeDocId then
    modify fun s =>
      { s with observations := s.observations.insertOrUpdate row row.merged row.key_merged }
  else throw (.integrityError "resume_observations -> resume_documents")

def insertObservations : List ResumeObservation → Program Unit
  | [] => pure ()
  | row :: rows => do
    insertObservation row
    insertObservations rows

def recordResumeObservations (rows : List ResumeObservation) : Program Unit :=
  transaction (insertObservations rows)

def Tables.refersTo (s : Tables) (row : CorpusMembership) : Bool :=
  s.collections.rows.any
      (fun collection => collection.key = (row.tenantId, row.workspaceId, row.corpusCollectionId)) &&
    s.hasDocument row.tenantId row.workspaceId row.resumeDocId &&
    (row.addedByObservationId.all fun observationId =>
      s.observations.rows.any fun observation =>
        (observation.tenantId, observation.workspaceId, observation.observationId) =
          (row.tenantId, row.workspaceId, observationId))

def addCorpusMembership (row : CorpusMembership) : Program Unit := do
  let s ← get
  if s.refersTo row then
    modify fun s =>
      { s with memberships := s.memberships.insertOrUpdate row row.merged row.key_merged }
  else throw (.integrityError "corpus_memberships")

end Corpus

end SeekTalent

import SeekTalent.Corpus.Store

/-!
# Recording what a provider returned

`record_corpus_provider_results` goes through the candidates that a provider returned. Each is
checked, its raw payload is written to a file, and its subject and its document are stored. The
observations are stored after the last candidate, and then the memberships in the default collection.
A candidate that is rejected ends the call, with the documents of those before it in the store.
-/

namespace SeekTalent

namespace Corpus

open Stateful

/-! ## 1. Candidates -/

/-- What is read of a raw payload: its digest, and two of its texts, where they are texts. -/
structure RawResume where
  /-- `sha256_json(raw_payload)` -/
  sha256 : String
  providerCandidateId : Option String := none
  sourceResumeId : Option String := none

/-- What is read of a candidate. An attribute that is no text is none. -/
structure Candidate where
  /-- `raw`, where it is a mapping -/
  raw : Option RawResume := none
  /-- what `model_dump` gives, where it is there and gives a mapping -/
  dumped : Option RawResume := none
  providerCandidateId : Option String := none
  sourceResumeId : Option String := none
  dedupKey : Option String := none
  snapshotSha256 : Option String := none

structure Snapshot where
  providerName : String
  rawPayload : RawResume
  providerSubjectId : Option String
  syntheticCandidateFingerprint : String

/-- `ProviderReturnedCandidate` -/
structure Returned where
  candidate : Candidate
  stageId : String
  roundNo : Int
  queryInstanceId : String
  queryFingerprint : String
  providerName : String
  providerRequestId : String
  providerRank : Int
  providerPageNo : Int
  providerFetchNo : Int
  attemptNo : Int
  providerSnapshot : Option Snapshot := none
  /-- How the session answers when the raw payload is written: the id of the artifact. -/
  artifact : Except CorpusError String

/-- One call, with what the orchestrator passes. -/
structure RecordCall where
  runId : String
  tenantId : String
  workspaceId : String
  returned : List Returned

def shown (text : Option String) : String := text.getD "None"

def candidateRawPayload (candidate : Candidate) : Except CorpusError RawResume :=
  match candidate.raw <|> candidate.dumped with
  | some raw => .ok raw
  | none => .error (.valueError "provider candidate must expose a raw payload")

def payloadForProviderReturn (returned : Returned) : Except CorpusError RawResume :=
  match returned.providerSnapshot with
  | some snapshot => .ok snapshot.rawPayload
  | none =>
    if returned.providerName = "liepin" then
      .error (.valueError "Liepin provider results require ProviderSnapshot")
    else candidateRawPayload returned.candidate

def validateProviderReturnedCandidate (returned : Returned) : Except CorpusError Unit :=
  if returned.providerName ≠ "liepin" then .ok ()
  else
    match returned.providerSnapshot with
    | none => .error (.valueError "Liepin provider results require ProviderSnapshot")
    | some snapshot =>
      if snapshot.providerName ≠ returned.providerName then
        .error (.valueError ("Liepin provider snapshot provider mismatch: returned=" ++
          returned.providerName ++ ", snapshot=" ++ snapshot.providerName))
      else if some snapshot.syntheticCandidateFingerprint ≠ returned.candidate.dedupKey then
        .error (.valueError ("Liepin provider snapshot fingerprint mismatch: candidate=" ++
          shown returned.candidate.dedupKey ++ ", snapshot=" ++
            snapshot.syntheticCandidateFingerprint))
      else if returned.candidate.snapshotSha256.getD "" = "" then
        .error (.valueError "Liepin provider candidate snapshot hash is required")
      else if returned.candidate.snapshotSha256 ≠ some snapshot.rawPayload.sha256 then
        .error (.valueError ("Liepin provider snapshot payload hash mismatch: candidate=" ++
          shown returned.candidate.snapshotSha256 ++ ", snapshot=" ++ snapshot.rawPayload.sha256))
      else .ok ()

def textOf (text : Option String) : Option String := text.filter (· ≠ "")

def snapshotHash (candidate : Candidate) (raw : RawResume) : String :=
  (textOf candidate.snapshotSha256).getD raw.sha256

/-- `SAFE_SNAPSHOT_SHA256_RE` -/
def isSnapshotSha256 (text : String) : Bool :=
  text.toList.length = 64 &&
    text.toList.all fun c => ('a' ≤ c && c ≤ 'f') || ('0' ≤ c && c ≤ '9')

/-- `write_raw_payload_artifact`, and the reference to it: a name that is no digest is refused. -/
def writeRawPayloadArtifact (returned : Returned) (snapshotSha256 : String) :
    Except CorpusError String :=
  if isSnapshotSha256 snapshotSha256 then returned.artifact
  else .error (.valueError "snapshot_sha256 must be a lowercase 64-character hex string")

def returnedProviderCandidateId (returned : Returned) (raw : RawResume) : Option String :=
  match returned.providerSnapshot with
  | some snapshot => snapshot.providerSubjectId
  | none => textOf returned.candidate.providerCandidateId <|> textOf raw.providerCandidateId

/-- What is known of a candidate when its rows are built. -/
structure Prepared where
  snapshotSha256 : String
  artifactRefId : String
  providerCandidateId : Option String
  sourceResumeId : Option String
  dedupKey : Option String

/-- What comes before the rows: the checks, and the file. -/
def prepared (returned : Returned) : Except CorpusError Prepared := do
  validateProviderReturnedCandidate returned
  let raw ← payloadForProviderReturn returned
  let snapshotSha256 := snapshotHash returned.candidate raw
  let artifactRefId ← writeRawPayloadArtifact returned snapshotSha256
  return {
    snapshotSha256
    artifactRefId
    providerCandidateId := returnedProviderCandidateId returned raw
    sourceResumeId := textOf returned.candidate.sourceResumeId <|> textOf raw.sourceResumeId
    dedupKey := textOf returned.candidate.dedupKey }

/-! ## 2. Rows -/

def subjectBinding (row : Prepared) : String × String :=
  match textOf row.providerCandidateId, textOf row.sourceResumeId, textOf row.dedupKey with
  | some id, _, _ => ("provider_candidate_id", id)
  | none, some id, _ => ("source_resume_id", id)
  | none, none, some key => ("dedup_key", key)
  | none, none, none => ("snapshot_sha256", row.snapshotSha256)

def buildResumeSubjectRow (call : RecordCall) (returned : Returned) (row : Prepared) :
    ResumeSubject :=
  let binding := subjectBinding row
  { subjectId :=
      { tenantId := call.tenantId
        workspaceId := call.workspaceId
        providerName := returned.providerName
        subjectKey := binding.2 }
    tenantId := call.tenantId
    workspaceId := call.workspaceId
    providerName := returned.providerName
    providerCandidateId := row.providerCandidateId
    sourceResumeId := row.sourceResumeId
    dedupKey := row.dedupKey
    subjectConfidence := if binding.1 = "snapshot_sha256" then "snapshot_only" else "provider_scoped"
    subjectBindingReason := binding.1 }

def resumeDocIdOf (tenantId workspaceId snapshotSha256 : String) : String :=
  tenantId ++ ":" ++ workspaceId ++ ":" ++ snapshotSha256

def buildResumeDocumentRow (call : RecordCall) (returned : Returned) (row : Prepared) :
    ResumeDocument where
  resumeDocId := resumeDocIdOf call.tenantId call.workspaceId row.snapshotSha256
  tenantId := call.tenantId
  workspaceId := call.workspaceId
  subjectId := (buildResumeSubjectRow call returned row).subjectId
  snapshotSha256 := row.snapshotSha256
  sourceResumeId := row.sourceResumeId
  providerName := returned.providerName
  providerCandidateId := row.providerCandidateId
  dedupKey := row.dedupKey
  rawPayloadArtifactRefId := row.artifactRefId
  firstSeen :=
    { runId := some call.runId
      queryInstanceId := some returned.queryInstanceId
      stageId := some returned.stageId
      artifactRefId := some row.artifactRefId }

/-- The fields of `build_observation_row` that its key is made of. -/
def idempotencyKey (call : RecordCall) (returned : Returned) (row : Prepared) :
    IdempotencyKey where
  tenantId := call.tenantId
  workspaceId := call.workspaceId
  runId := call.runId
  stageId := returned.stageId
  queryInstanceId := returned.queryInstanceId
  providerName := returned.providerName
  providerRequestId := returned.providerRequestId
  providerPageNo := returned.providerPageNo
  providerFetchNo := returned.providerFetchNo
  providerRank := returned.providerRank
  resumeDocId := resumeDocIdOf call.tenantId call.workspaceId row.snapshotSha256

def buildObservationRow (call : RecordCall) (returned : Returned) (row : Prepared) :
    ResumeObservation :=
  let key := idempotencyKey call returned row
  { observationId :=
      { tenantId := call.tenantId
        workspaceId := call.workspaceId
        idempotencyKey := key }
    tenantId := call.tenantId
    workspaceId := call.workspaceId
    resumeDocId := key.resumeDocId
    runId := call.runId
    roundNo := returned.roundNo
    stageId := returned.stageId
    queryInstanceId := returned.queryInstanceId
    queryFingerprint := returned.queryFingerprint
    providerName := returned.providerName
    providerRequestId := returned.providerRequestId
    providerRank := returned.providerRank
    providerPageNo := returned.providerPageNo
    providerFetchNo := returned.providerFetchNo
    attemptNo := returned.attemptNo
    idempotencyKey := key
    sourceArtifactRefId := row.artifactRefId }

def membershipRow (call : RecordCall) (collectionId : String) (row : ResumeObservation) :
    CorpusMembership where
  tenantId := call.tenantId
  workspaceId := call.workspaceId
  corpusCollectionId := collectionId
  resumeDocId := row.resumeDocId
  addedByObservationId := some row.observationId
  inclusionReason := "observed_in_run"

/-! ## 3. The recorder -/

def checked {α : Type} : Except CorpusError α → Program α
  | .ok answer => pure answer
  | .error error => throw error

/-- One candidate: its subject and its document are stored, its observation is left for later. -/
def recordReturned (call : RecordCall) (returned : Returned) : Program ResumeObservation := do
  let row ← checked (prepared returned)
  upsertResumeSubject (buildResumeSubjectRow call returned row)
  upsertResumeDocument (buildResumeDocumentRow call returned row)
  return buildObservationRow call returned row

def recordAll (call : RecordCall) : List Returned → Program (List ResumeObservation)
  | [] => pure []
  | returned :: rest => do
    let observation ← recordReturned call returned
    let observations ← recordAll call rest
    return observation :: observations

def addMemberships (call : RecordCall) (collectionId : String) :
    List ResumeObservation → Program Unit
  | [] => pure ()
  | observation :: observations => do
    addCorpusMembership (membershipRow call collectionId observation)
    addMemberships call collectionId observations

def storeObservations (call : RecordCall) (collectionId : String)
    (observations : List ResumeObservation) : Program Unit := do
  recordResumeObservations observations
  addMemberships call collectionId observations
  if observations ≠ [] then do
    let _ ← ensureDefaultCollection call.tenantId call.workspaceId
    pure ()
  else pure ()

def recordCorpusProviderResults (call : RecordCall) : Program Unit := do
  let collectionId ← ensureDefaultCollection call.tenantId call.workspaceId
  let observations ← recordAll call call.returned
  storeObservations call collectionId observations

/-- The store after a call, whether it returns or raises. -/
def Tables.step (s : Tables) (call : RecordCall) : Tables :=
  (exec (recordCorpusProviderResults call) s).2

end Corpus

end SeekTalent

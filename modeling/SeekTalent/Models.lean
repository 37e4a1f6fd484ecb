import Mathlib.Data.Rat.Defs

/-!
# Shared data types

The records the runtime passes around, under the source's field names
(`models.py`, `core/retrieval/provider_contract.py`, `corpus/runtime.py`). Fields that no
modelled function reads or writes are left out; texts that only travel to an artifact
(adapter notes, latencies, diagnostics) are among them.
-/

namespace SeekTalent

inductive LaneType where
  | exploit
  | genericExplore
  | prfProbe
  deriving DecidableEq

inductive QueryRole where
  | exploit
  | explore
  deriving DecidableEq

inductive LocationExecutionMode where
  | none
  | single
  | priorityThenFallback
  | balancedAll
  deriving DecidableEq

inductive LocationExecutionPhase where
  | priority
  | balanced
  deriving DecidableEq

inductive FitBucket where
  | fit
  | notFit
  deriving DecidableEq

/-- Why a search stopped fetching. -/
inductive ExhaustedReason where
  | targetSatisfied
  | ctsExhausted
  | noProgressRepeatedResults
  | maxAttemptsReached
  | maxPagesReached
  deriving DecidableEq

/-- The location plan of a round. Nothing relates the lists to each other: the runtime
    takes them as they come. -/
structure LocationExecutionPlan where
  mode : LocationExecutionMode
  allowedLocations : List String := []
  preferredLocations : List String := []
  priorityOrder : List String := []
  balancedOrder : List String := []
  rotationOffset : Nat := 0
  targetNew : Int
  deriving DecidableEq

/-- What the runtime reads of a candidate's raw provider payload. A text is `none` where the
    payload has no string. -/
structure RawPayload where
  providerScore : Option Rat := none
  scoreEvidenceSource : Option String := none
  providerCandidateKeyHash : Option String := none
  providerSnapshotRef : Option String := none
  rawPayloadArtifactRef : Option String := none
  safeSummaryRef : Option String := none
  /-- `snapshot_sha256(raw)` -/
  sha256 : String := ""
  deriving DecidableEq

/-- The `first_*` attribution fields of a candidate. -/
structure FirstHit where
  queryInstanceId : Option String := none
  queryFingerprint : Option String := none
  roundNo : Option Nat := none
  laneType : Option LaneType := none
  locationKey : Option String := none
  locationType : Option String := none
  batchNo : Option Nat := none
  deriving DecidableEq

structure ResumeCandidate where
  resumeId : String
  sourceResumeId : Option String := none
  dedupKey : String
  snapshotSha256 : String := ""
  workExperienceSummaries : List String := []
  first : FirstHit := {}
  raw : RawPayload := {}
  deriving DecidableEq

structure ProviderSnapshot where
  providerName : String
  syntheticCandidateFingerprint : String
  /-- `sha256_json(raw_payload)` -/
  rawPayloadSha256 : String

/-- One provider answer. `rawCandidateCount` is the provider's own figure and need not be
    the number of candidates. -/
structure SearchResult where
  candidates : List ResumeCandidate := []
  rawCandidateCount : Nat := 0
  requestPayload : String := ""
  providerSnapshots : List ProviderSnapshot := []

/-- What stays fixed of a lane during a round: its logical query. -/
structure LogicalQuery where
  queryRole : QueryRole
  laneType : LaneType
  queryTerms : List String
  keywordQuery : String
  queryInstanceId : String
  queryFingerprint : String
  deriving DecidableEq

/-- A query as it is sent: a lane's logical query, the city its location filter names
    (`none` when the query carries no location), and the page asked for. -/
structure CTSQuery extends LogicalQuery where
  city : Option String := none
  page : Nat := 1
  pageSize : Int := 10

structure SentQueryRecord where
  roundNo : Nat
  queryRole : QueryRole
  laneType : LaneType
  queryInstanceId : String
  queryFingerprint : String
  city : Option String
  phase : Option LocationExecutionPhase
  batchNo : Nat
  requestedCount : Int
  queryTerms : List String
  keywordQuery : String
  sourcePlanVersion : Nat
  deriving DecidableEq

structure SearchAttempt where
  queryRole : QueryRole
  city : Option String
  phase : Option LocationExecutionPhase
  batchNo : Nat
  attemptNo : Nat
  requestedPage : Nat
  requestedPageSize : Int
  rawCandidateCount : Nat
  batchDuplicateCount : Nat
  batchUniqueNewCount : Nat
  cumulativeUniqueNewCount : Nat
  consecutiveZeroGainAttempts : Nat
  continueRefill : Bool
  exhaustedReason : Option ExhaustedReason
  requestPayload : String

structure CitySearchSummary where
  queryRole : QueryRole
  city : String
  phase : LocationExecutionPhase
  batchNo : Nat
  requestedCount : Int
  uniqueNewCount : Nat
  shortageCount : Int
  startPage : Nat
  nextPage : Nat
  fetchAttemptCount : Nat
  exhaustedReason : ExhaustedReason

structure SearchObservation where
  roundNo : Nat
  requestedCount : Int
  rawCandidateCount : Nat
  uniqueNewCount : Nat
  shortageCount : Int
  fetchAttemptCount : Nat
  exhaustedReason : ExhaustedReason
  newResumeIds : List String
  citySearchSummaries : List CitySearchSummary := []

structure QueryResumeHit where
  runId : String
  queryInstanceId : String
  queryFingerprint : String
  hitSequenceNo : Nat
  snapshotSha256 : String
  resumeId : String
  roundNo : Nat
  laneType : LaneType
  locationKey : Option String
  locationType : Option String
  batchNo : Nat
  rankInQuery : Nat
  rankGlobalInQuery : Nat
  providerName : String
  providerPageNo : Nat
  providerFetchNo : Nat
  providerScoreIfAny : Option Rat
  dedupKey : String
  scoreEvidenceSource : Option String
  wasNewToPool : Bool
  wasDuplicate : Bool
  scoredFitBucket : Option FitBucket := none
  overallScore : Option Nat := none
  mustHaveMatchScore : Option Nat := none
  riskScore : Option Nat := none
  offIntentReasonCount : Nat := 0
  finalCandidateStatus : Option String := none

structure ProviderReturnedCandidate where
  candidate : ResumeCandidate
  roundNo : Nat
  queryInstanceId : String
  queryFingerprint : String
  providerName : String
  providerRequestId : String
  providerRank : Nat
  providerPageNo : Nat
  providerFetchNo : Nat
  attemptNo : Nat
  providerSnapshot : Option ProviderSnapshot

structure ScoredCandidate where
  resumeId : String
  fitBucket : FitBucket
  overallScore : Nat
  mustHaveMatchScore : Nat
  riskScore : Nat
  negativeSignals : List String := []
  scoreEvidenceSource : Option String := none
  reasoningSummary : String := ""
  evidence : List String := []
  strengths : List String := []
  weaknesses : List String := []
  matchedMustHaves : List String := []
  matchedPreferences : List String := []
  deriving DecidableEq

inductive RuntimeSourceKind where
  | cts
  | liepin
  deriving DecidableEq

inductive RuntimeEvidenceLevel where
  | card
  | detail
  | final
  deriving DecidableEq

structure NormalizedExperience where
  title : String := ""
  company : String := ""
  duration : String := ""
  deriving DecidableEq

structure NormalizedResume where
  candidateName : String := ""
  currentTitle : String := ""
  currentCompany : String := ""
  educationSummary : String := ""
  recentExperiences : List NormalizedExperience := []
  completenessScore : Nat
  deriving DecidableEq

structure RuntimeSourceEvidence where
  evidenceId : String
  source : RuntimeSourceKind
  sourcePlanId : Option String := none
  sourceLaneRunId : Option String := none
  evidenceLevel : RuntimeEvidenceLevel
  candidateResumeId : String
  providerCandidateKeyHash : String
  protectedContactHashes : List String := []
  providerRank : Option Int := none
  providerSnapshotRef : Option String := none
  safeSummaryRef : Option String := none
  collectedAt : String
  reasonCode : Option String := none
  safeReasonCodes : List String := []
  deriving DecidableEq

structure RuntimeFinalizationRevision where
  revision : Int
  runtimeRunId : String
  reasonCode : String
  selectedSourceKinds : List RuntimeSourceKind := []
  candidateIdentityIds : List String := []
  createdAt : Option String := none
  deriving DecidableEq

inductive OutcomeLabel where
  | zeroRecall
  | duplicateOnly
  | driftSuspected
  | broadNoise
  | marginalGain
  | lowRecallHighPrecision
  deriving DecidableEq

structure QueryOutcomeClassification where
  primaryLabel : OutcomeLabel
  labels : List OutcomeLabel := []

end SeekTalent

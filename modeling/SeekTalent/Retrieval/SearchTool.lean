import Mathlib.Data.List.Nodup
import Mathlib.Tactic.Linarith
import SeekTalent.Models

/-!
# The search tool

`RetrievalRuntime.execute_search_tool`: fetch page after page for one query until the
target is met, the provider runs dry, nothing new comes back for too long, or a limit is
reached. A call is a pure function of what it is given and of what the provider answers;
it leaves a trace — every request with its answer, every hit it recorded — also when it
ends by raising.
-/

namespace SeekTalent

/-! ## 1. Settings, provider and errors -/

/-- The limits of `AppSettings`, which validates each to be at least one. -/
structure SearchSettings where
  searchMaxPagesPerRound : Nat := 3
  searchMaxAttemptsPerRound : Nat := 3
  searchNoProgressLimit : Nat := 2
  pages_pos : 0 < searchMaxPagesPerRound := by decide
  attempts_pos : 0 < searchMaxAttemptsPerRound := by decide
  progress_pos : 0 < searchNoProgressLimit := by decide

def SearchSettings.default : SearchSettings := {}

/-- What can be raised during a round search. -/
inductive RoundError where
  | provider (message : String)
  | scoring (message : String)
  | recording (message : String)
  | valueError (message : String)
  | indexError
  | keyError (key : String)
  /-- The model's own: a loop was cut short. No run of the program ends like this. -/
  | outOfFuel

/-- The fields `_provider_request_id` digests. -/
structure ProviderRequestKey where
  providerName : String
  queryInstanceId : String
  queryFingerprint : String
  pageNo : Nat
  fetchNo : Nat
  requestPayload : String
  deriving DecidableEq

/-- `RetrievalRuntime` with its retrieval service. `search n query` is the answer to the
    `n`-th request of a round: as `n` counts the requests, every sequence of answers is
    one such function. -/
structure RetrievalRuntime where
  settings : SearchSettings := .default
  providerName : String := "cts"
  search : Nat → CTSQuery → Except RoundError SearchResult
  providerRequestId : ProviderRequestKey → String := fun _ => ""

/-- One `search_once` call: the request, and how it was answered. -/
structure Fetch where
  query : CTSQuery
  answer : Except RoundError SearchResult

def Fetch.candidates (f : Fetch) : List ResumeCandidate :=
  match f.answer with
  | .ok result => result.candidates
  | .error _ => []

/-- The arguments of one `execute_search_tool` call. `fetchBase` is the number of
    requests made before it. -/
structure ToolCall where
  runId : String
  roundNo : Nat
  query : CTSQuery
  targetNew : Int
  seenResumeIds : List String
  seenDedupKeys : List String
  phase : Option LocationExecutionPhase
  batchNo : Nat
  fetchBase : Nat

/-! ## 2. One answer -/

/-- `_validated_provider_snapshots_for_candidates`: liepin answers must carry one
    matching snapshot for each candidate. -/
def checkSnapshots (providerName : String) :
    List ResumeCandidate → List ProviderSnapshot → Except RoundError Unit
  | candidate :: cs, snapshot :: ss =>
    if snapshot.providerName ≠ providerName then
      .error (.valueError ("Liepin provider snapshot provider mismatch: provider=" ++
        providerName ++ ", snapshot=" ++ snapshot.providerName))
    else if snapshot.syntheticCandidateFingerprint ≠ candidate.dedupKey then
      .error (.valueError ("Liepin provider snapshot fingerprint mismatch: candidate=" ++
        candidate.dedupKey ++ ", snapshot=" ++ snapshot.syntheticCandidateFingerprint))
    else if candidate.snapshotSha256 = "" then
      .error (.valueError "Liepin provider candidate snapshot hash is required")
    else if candidate.snapshotSha256 ≠ snapshot.rawPayloadSha256 then
      .error (.valueError ("Liepin provider snapshot payload hash mismatch: candidate=" ++
        candidate.snapshotSha256 ++ ", snapshot=" ++ snapshot.rawPayloadSha256))
    else checkSnapshots providerName cs ss
  | _, _ => .ok ()

def validatedProviderSnapshots (providerName : String) (result : SearchResult) :
    Except RoundError (List (Option ProviderSnapshot)) :=
  let aligned := decide (result.providerSnapshots.length = result.candidates.length)
  if providerName ≠ "liepin" then
    if aligned then .ok (result.providerSnapshots.map some)
    else .ok (List.replicate result.candidates.length none)
  else if aligned then
    match checkSnapshots providerName result.candidates result.providerSnapshots with
    | .ok () => .ok (result.providerSnapshots.map some)
    | .error e => .error e
  else
    .error (.valueError ("Liepin provider snapshot count mismatch: candidates=" ++
      toString result.candidates.length ++ ", snapshots=" ++
      toString result.providerSnapshots.length))

def locationHitFields (city : Option String) : Option String × Option String :=
  match city with
  | some c => if c = "" then (none, none) else (some c, some "city")
  | none => (none, none)

/-- `_apply_first_hit_attribution`: the first query that hits a candidate is kept. -/
def applyFirstHitAttribution (call : ToolCall) (candidate : ResumeCandidate) :
    ResumeCandidate :=
  if candidate.first.queryInstanceId.isSome then candidate
  else
    { candidate with
      first :=
        { queryInstanceId := some call.query.queryInstanceId
          queryFingerprint := some call.query.queryFingerprint
          roundNo := some call.roundNo
          laneType := some call.query.laneType
          locationKey := (locationHitFields call.query.city).1
          locationType := (locationHitFields call.query.city).2
          batchNo := some call.batchNo } }

@[simp] theorem applyFirstHitAttribution_resumeId (call : ToolCall) (c : ResumeCandidate) :
    (applyFirstHitAttribution call c).resumeId = c.resumeId := by
  unfold applyFirstHitAttribution
  split <;> rfl

/-- The locals of one `execute_search_tool` call that outlive an answer. -/
structure ToolState where
  allNewCandidates : List ResumeCandidate := []
  localSeenKeys : List String
  attempts : List SearchAttempt := []
  rawCandidateCount : Nat := 0
  duplicateCount : Nat := 0
  resumeHits : List QueryResumeHit := []
  providerReturns : List ProviderReturnedCandidate := []
  consecutiveZeroGainAttempts : Nat := 0
  page : Nat
  attemptNo : Nat := 0
  fetches : List Fetch := []

/-- The locals of the loop over one answer's candidates. -/
structure BatchState where
  localSeenKeys : List String
  batchNew : List ResumeCandidate := []
  batchDuplicates : Nat := 0
  resumeHits : List QueryResumeHit
  providerReturns : List ProviderReturnedCandidate

/-- The hit recorded for a candidate at a rank. The sequence number counts the hits of
    this call, so it starts again at 1 with every call. -/
def resumeHit (rt : RetrievalRuntime) (call : ToolCall) (page attemptNo rank : Nat)
    (st : BatchState) (candidate : ResumeCandidate) : QueryResumeHit :=
  let wasNewToPool := decide (candidate.dedupKey ∉ st.localSeenKeys ∧
    candidate.resumeId ∉ call.seenResumeIds)
  { runId := call.runId
    queryInstanceId := call.query.queryInstanceId
    queryFingerprint := call.query.queryFingerprint
    hitSequenceNo := st.resumeHits.length + 1
    snapshotSha256 :=
      if candidate.snapshotSha256 = "" then candidate.raw.sha256
      else candidate.snapshotSha256
    resumeId := candidate.resumeId
    roundNo := call.roundNo
    laneType := call.query.laneType
    locationKey := (locationHitFields call.query.city).1
    locationType := (locationHitFields call.query.city).2
    batchNo := call.batchNo
    rankInQuery := rank
    rankGlobalInQuery := rank
    providerName := rt.providerName
    providerPageNo := page
    providerFetchNo := attemptNo
    providerScoreIfAny := candidate.raw.providerScore
    dedupKey := candidate.dedupKey
    scoreEvidenceSource := candidate.raw.scoreEvidenceSource
    wasNewToPool := wasNewToPool
    wasDuplicate := !wasNewToPool }

def providerReturn (rt : RetrievalRuntime) (call : ToolCall) (page attemptNo rank : Nat)
    (requestPayload : String) (candidate : ResumeCandidate)
    (snapshot : Option ProviderSnapshot) : ProviderReturnedCandidate :=
  { candidate := candidate
    roundNo := call.roundNo
    queryInstanceId := call.query.queryInstanceId
    queryFingerprint := call.query.queryFingerprint
    providerName := rt.providerName
    providerRequestId := rt.providerRequestId
      { providerName := rt.providerName
        queryInstanceId := call.query.queryInstanceId
        queryFingerprint := call.query.queryFingerprint
        pageNo := page
        fetchNo := attemptNo
        requestPayload := requestPayload }
    providerRank := rank
    providerPageNo := page
    providerFetchNo := attemptNo
    attemptNo := attemptNo
    providerSnapshot := snapshot }

/-- Take one candidate of an answer: a dedup key met before is a duplicate, a resume seen
    before the call is dropped without being counted, the rest is new. -/
def BatchState.take (call : ToolCall) (candidate : ResumeCandidate) (st : BatchState) :
    BatchState :=
  if candidate.dedupKey ∈ st.localSeenKeys then
    { st with batchDuplicates := st.batchDuplicates + 1 }
  else if candidate.resumeId ∈ call.seenResumeIds then
    { st with localSeenKeys := candidate.dedupKey :: st.localSeenKeys }
  else
    { st with
      localSeenKeys := candidate.dedupKey :: st.localSeenKeys
      batchNew := st.batchNew ++ [applyFirstHitAttribution call candidate] }

/-- The loop over an answer's candidates; `rank` is the rank of the next one. -/
def takeBatch (rt : RetrievalRuntime) (call : ToolCall) (page attemptNo : Nat)
    (requestPayload : String) :
    Nat → List ResumeCandidate → List (Option ProviderSnapshot) → BatchState → BatchState
  | rank, candidate :: cs, snapshots, st =>
    takeBatch rt call page attemptNo requestPayload (rank + 1) cs snapshots.tail
      (BatchState.take call candidate
        { st with
          resumeHits := st.resumeHits ++ [resumeHit rt call page attemptNo rank st candidate]
          providerReturns := st.providerReturns ++
            [providerReturn rt call page attemptNo rank requestPayload candidate
              (snapshots.head?.join)] })
  | _, [], _, st => st

/-! ## 3. The fetch loop -/

/-- Whether to stop after an answer, and why. The limits are compared in this order. -/
def stopReason (settings : SearchSettings) (targetNew : Int) (newCount rawCount : Nat)
    (zeroGain attemptNo page : Nat) : Option ExhaustedReason :=
  if targetNew ≤ newCount then some .targetSatisfied
  else if rawCount = 0 then some .ctsExhausted
  else if settings.searchNoProgressLimit ≤ zeroGain then some .noProgressRepeatedResults
  else if settings.searchMaxAttemptsPerRound ≤ attemptNo then some .maxAttemptsReached
  else if settings.searchMaxPagesPerRound ≤ page then some .maxPagesReached
  else none

def ToolState.attemptQuery (call : ToolCall) (st : ToolState) : CTSQuery :=
  { call.query with
    page := st.page, pageSize := call.targetNew - st.allNewCandidates.length }

def ToolState.absorb (rt : RetrievalRuntime) (call : ToolCall) (st : ToolState)
    (result : SearchResult) (snapshots : List (Option ProviderSnapshot)) :
    ToolState × Option ExhaustedReason :=
  let attemptNo := st.attemptNo + 1
  let batch := takeBatch rt call st.page attemptNo result.requestPayload
    (st.rawCandidateCount + 1) result.candidates snapshots
    { localSeenKeys := st.localSeenKeys
      resumeHits := st.resumeHits
      providerReturns := st.providerReturns }
  let allNewCandidates := st.allNewCandidates ++ batch.batchNew
  let zeroGain := if batch.batchNew = [] then st.consecutiveZeroGainAttempts + 1 else 0
  let reason := stopReason rt.settings call.targetNew allNewCandidates.length
    result.rawCandidateCount zeroGain attemptNo st.page
  let query := st.attemptQuery call
  ({ allNewCandidates := allNewCandidates
     localSeenKeys := batch.localSeenKeys
     attempts := st.attempts ++
       [{ queryRole := query.queryRole
          city := query.city
          phase := call.phase
          batchNo := call.batchNo
          attemptNo := attemptNo
          requestedPage := query.page
          requestedPageSize := query.pageSize
          rawCandidateCount := result.rawCandidateCount
          batchDuplicateCount := batch.batchDuplicates
          batchUniqueNewCount := batch.batchNew.length
          cumulativeUniqueNewCount := allNewCandidates.length
          consecutiveZeroGainAttempts := zeroGain
          continueRefill := reason.isNone
          exhaustedReason := reason
          requestPayload := result.requestPayload }]
     rawCandidateCount := st.rawCandidateCount + result.rawCandidateCount
     duplicateCount := st.duplicateCount + batch.batchDuplicates
     resumeHits := batch.resumeHits
     providerReturns := batch.providerReturns
     consecutiveZeroGainAttempts := zeroGain
     page := st.page + 1
     attemptNo := attemptNo
     fetches := st.fetches ++ [⟨query, .ok result⟩] }, reason)

/-- One turn of the loop after its entry checks: ask, validate, take. -/
def ToolState.attempt (rt : RetrievalRuntime) (call : ToolCall) (st : ToolState) :
    ToolState × Except RoundError (Option ExhaustedReason) :=
  let query := st.attemptQuery call
  match rt.search (call.fetchBase + st.fetches.length) query with
  | .error e => ({ st with fetches := st.fetches ++ [⟨query, .error e⟩] }, .error e)
  | .ok result =>
    match validatedProviderSnapshots rt.providerName result with
    | .error e => ({ st with fetches := st.fetches ++ [⟨query, .ok result⟩] }, .error e)
    | .ok snapshots =>
      let (st', reason) := st.absorb rt call result snapshots
      (st', .ok reason)

/-- The `while True` loop. The recursion is on the attempts left,
    `search_max_attempts_per_round - attempt_no`, so its end is the loop's first check. -/
def searchLoop (rt : RetrievalRuntime) (call : ToolCall) :
    Nat → ToolState → ToolState × Except RoundError ExhaustedReason
  | 0, st => (st, .ok .maxAttemptsReached)
  | left + 1, st =>
    if rt.settings.searchMaxPagesPerRound < st.page then (st, .ok .maxPagesReached)
    else if call.targetNew - st.allNewCandidates.length ≤ 0 then
      (st, .ok .targetSatisfied)
    else
      match st.attempt rt call with
      | (st', .error e) => (st', .error e)
      | (st', .ok (some reason)) => (st', .ok reason)
      | (st', .ok none) => searchLoop rt call left st'

def ToolCall.start (call : ToolCall) : ToolState :=
  { localSeenKeys := call.seenDedupKeys, page := max call.query.page 1 }

/-- What a call left behind, and the reason it stopped or what it raised. -/
structure ToolRun where
  final : ToolState
  outcome : Except RoundError ExhaustedReason

def executeSearchTool (rt : RetrievalRuntime) (call : ToolCall) : ToolRun :=
  let (final, outcome) := searchLoop rt call rt.settings.searchMaxAttemptsPerRound call.start
  ⟨final, outcome⟩

/-- The `SearchObservation` a call that stopped for `reason` answers. -/
def ToolRun.searchObservation (call : ToolCall) (run : ToolRun) (reason : ExhaustedReason) :
    SearchObservation :=
  { roundNo := call.roundNo
    requestedCount := call.targetNew
    rawCandidateCount := run.final.rawCandidateCount
    uniqueNewCount := run.final.allNewCandidates.length
    shortageCount := max 0 (call.targetNew - run.final.allNewCandidates.length)
    fetchAttemptCount := run.final.attempts.length
    exhaustedReason := reason
    newResumeIds := run.final.allNewCandidates.map (·.resumeId) }

/-- The candidates the provider answered a call with, in order. -/
def ToolRun.returned (run : ToolRun) : List ResumeCandidate :=
  run.final.fetches.flatMap Fetch.candidates

end SeekTalent

import Mathlib.Logic.Function.Basic
import SeekTalent.Base.Run
import SeekTalent.Retrieval.LocationPlan
import SeekTalent.Retrieval.QueryOutcome
import SeekTalent.Retrieval.SearchTool

/-!
# The round search

`RetrievalRuntime.execute_round_search`: the target of a round is split over its lanes,
each lane collects candidates city by city, and a refill loop sends the lanes out again
for what is still missing.

The state holds the mutable objects of the call. Beside them it keeps a `log` of the
`execute_search_tool` calls in the order they were made, also of one that raised; the
lists the program only appends to (queries, sent records, attempts, hits, provider
returns, city summaries) are read off it.
-/

namespace SeekTalent

open Stateful (Run)

/-! ## 1. The call and its state -/

theorem mem_laneOrder_id (l : List LaneType) (x : LaneType) : x ∈ id l ↔ x ∈ l := Iff.rfl

/-- The arguments of `execute_round_search`. The callbacks get the number of searches
    made so far, so that they may answer differently each time. -/
structure RoundCall (F : Type) where
  runtime : RetrievalRuntime
  runId : String := ""
  roundNo : Nat := 1
  planVersion : Nat := 1
  plan : LocationExecutionPlan
  queryStates : List LogicalQuery
  targetNew : Int
  seenResumeIds : List String := []
  seenDedupKeys : List String := []
  scoreForQueryOutcome :
    Option (Nat → List ResumeCandidate → Except RoundError (List ScoredCandidate)) := none
  thresholds : QueryOutcomeThresholds F
  recordProviderReturnBatch :
    Option (Nat → List ProviderReturnedCandidate → Except RoundError Unit) := none
  /-- The order in which a set of lane types is iterated. -/
  laneOrder : List LaneType → List LaneType := id
  mem_laneOrder : ∀ l x, x ∈ laneOrder l ↔ x ∈ l := by exact mem_laneOrder_id

structure CityExecutionState where
  nextPage : Nat := 1
  exhausted : Bool := false

/-- The fields of a `LogicalQueryState` that a round changes. -/
structure LaneProgress where
  nextPage : Nat := 1
  exhausted : Bool := false
  cityStates : String → Option CityExecutionState

/-- One `execute_search_tool` call of the round, with what the lane knew when it made it. -/
structure Dispatch where
  /-- the position of the lane -/
  lane : Nat
  /-- the number of `collect_candidates_for_query` calls that ended before it -/
  passNo : Nat
  /-- whether the city (the lane, where there is no location) was marked exhausted -/
  wasExhausted : Bool
  call : ToolCall
  run : ToolRun

def Dispatch.city (d : Dispatch) : Option String := d.call.query.city

def Dispatch.newCandidates (d : Dispatch) : List ResumeCandidate :=
  match d.run.outcome with
  | .ok _ => d.run.final.allNewCandidates
  | .error _ => []

/-- The locals of a `collect_candidates_for_query` call. `batchStart` remembers the cities
    as they were when the current `run_dispatches` call began. -/
structure PassState where
  passNo : Nat := 0
  lane : Nat := 0
  requestedCount : Int := 0
  localNewCandidates : List ResumeCandidate := []
  localCitySummaries : List CitySearchSummary := []
  batchStart : String → Option CityExecutionState := fun _ => none

structure RoundState where
  lanes : Nat → LaneProgress
  globalSeenResumeIds : List String
  globalSeenDedupKeys : List String
  allNewCandidates : List ResumeCandidate := []
  citySearchSummaries : List CitySearchSummary := []
  batchNo : Nat := 0
  lastExhaustedReason : Option ExhaustedReason := none
  /-- `lane_outcomes[lane_type].scored_candidates` -/
  scoredCandidates : LaneType → List ScoredCandidate := fun _ => []
  latestDispatchOutcomes : LaneType → Option QueryOutcomeClassification := fun _ => none
  pass : PassState := {}
  log : List Dispatch := []

def RoundState.fetchCount (s : RoundState) : Nat :=
  (s.log.map fun d => d.run.final.fetches.length).sum

abbrev RoundM := Run RoundState RoundError

variable {F : Type}

def RoundCall.initial (c : RoundCall F) : RoundState :=
  { lanes := fun _ =>
      { cityStates := fun city =>
          if c.plan.mode ≠ .none ∧ city ∈ c.plan.allowedLocations then some {} else none }
    globalSeenResumeIds := c.seenResumeIds
    globalSeenDedupKeys := c.seenDedupKeys }

/-! ## 2. Targets -/

/-- The literal `{a: x, b: y}`, read with `.get(lane_type, 0)`. -/
def laneTargets (a : LaneType) (x : Int) (b : LaneType) (y : Int) : LaneType → Int :=
  Function.update (Function.update (fun _ => 0) a x) b y

def allocateInitialLaneTargets (F : Type) [PyFloat F] (laneOrder : List LaneType → List LaneType)
    (queryStates : List LogicalQuery) (targetNew : Int) : LaneType → Int :=
  match queryStates with
  | [] => fun _ => 0
  | [only] => Function.update (fun _ => 0) only.laneType (max targetNew 0)
  | first :: second :: rest =>
    let laneTypes := ((first :: second :: rest).map (·.laneType)).dedup
    let share := max 1 (PyFloat.ceilSeventyPercent F targetNew)
    if .exploit ∉ laneTypes then
      if targetNew ≤ 1 then
        laneTargets first.laneType (max targetNew 0) second.laneType 0
      else
        let secondTarget := max 1 (targetNew - share)
        let firstTarget :=
          if targetNew < share + secondTarget then targetNew - secondTarget else share
        laneTargets first.laneType firstTarget second.laneType secondTarget
    else
      let secondLaneType := ((laneOrder laneTypes).find? (· ≠ .exploit)).getD .exploit
      if targetNew ≤ 1 then laneTargets .exploit (max targetNew 0) secondLaneType 0
      else
        let exploitTarget := min targetNew share
        let secondTarget := max 1 (targetNew - exploitTarget)
        let exploitTarget :=
          if targetNew < exploitTarget + secondTarget then targetNew - secondTarget
          else exploitTarget
        laneTargets .exploit exploitTarget secondLaneType secondTarget

def finalExhaustedReason (targetNew : Int) (newCandidateCount : Nat)
    (summaries : List CitySearchSummary) : ExhaustedReason :=
  if targetNew ≤ newCandidateCount then .targetSatisfied
  else
    match summaries.getLast? with
    | some summary => summary.exhaustedReason
    | none => .ctsExhausted

/-! ## 3. One dispatch -/

/-- The search of a lane for a city (or without one) at the page the lane has reached. -/
def RoundCall.dispatchOf (c : RoundCall F) (s : RoundState) (i : Nat) (lane : LogicalQuery)
    (city : Option String) (phase : Option LocationExecutionPhase) (nextPage : Nat)
    (exhausted : Bool) (requestedCount : Int) : Dispatch :=
  let call : ToolCall :=
    { runId := c.runId
      roundNo := c.roundNo
      query := { lane with city := city, page := nextPage, pageSize := requestedCount }
      targetNew := requestedCount
      seenResumeIds := s.globalSeenResumeIds
      seenDedupKeys := s.globalSeenDedupKeys
      phase := phase
      batchNo := s.batchNo
      fetchBase := s.fetchCount }
  { lane := i
    passNo := s.pass.passNo
    wasExhausted := exhausted
    call := call
    run := executeSearchTool c.runtime call }

def nextPageAfter (nextPage : Nat) (attempts : List SearchAttempt) : Nat :=
  match attempts.getLast? with
  | some attempt => attempt.requestedPage + 1
  | none => nextPage

def CityExecutionState.after (st : CityExecutionState) (run : ToolRun)
    (reason : ExhaustedReason) : CityExecutionState :=
  { nextPage := nextPageAfter st.nextPage run.final.attempts
    exhausted := st.exhausted || decide (reason ≠ .targetSatisfied) }

/-- The lane's own page and flag, which a search without a location moves. -/
def LaneProgress.after (lane : LaneProgress) (run : ToolRun) (reason : ExhaustedReason) :
    LaneProgress :=
  { lane with
    nextPage := nextPageAfter lane.nextPage run.final.attempts
    exhausted := lane.exhausted || decide (reason ≠ .targetSatisfied) }

/-- `_run_city_dispatch`'s `city_summary`. -/
def Dispatch.citySummary (d : Dispatch) (lane : LogicalQuery) (city : String)
    (phase : LocationExecutionPhase) (nextPage : Nat) (reason : ExhaustedReason) :
    CitySearchSummary :=
  let observation := d.run.searchObservation d.call reason
  { queryRole := lane.queryRole
    city := city
    phase := phase
    batchNo := d.call.batchNo
    requestedCount := d.call.targetNew
    uniqueNewCount := observation.uniqueNewCount
    shortageCount := observation.shortageCount
    startPage := d.call.query.page
    nextPage := nextPage
    fetchAttemptCount := observation.fetchAttemptCount
    exhaustedReason := reason }

def RoundState.afterCity (s : RoundState) (d : Dispatch) (i : Nat) (lane : LogicalQuery)
    (city : String) (phase : LocationExecutionPhase) (st : CityExecutionState) : RoundState :=
  match d.run.outcome with
  | .error _ => { s with log := s.log ++ [d] }
  | .ok reason =>
    let st' := st.after d.run reason
    { s with
      log := s.log ++ [d]
      lanes := Function.update s.lanes i
        { s.lanes i with cityStates := Function.update (s.lanes i).cityStates city (some st') }
      pass :=
        { s.pass with
          localNewCandidates := s.pass.localNewCandidates ++ d.run.final.allNewCandidates
          localCitySummaries := s.pass.localCitySummaries ++
            [d.citySummary lane city phase st'.nextPage reason] } }

def RoundState.afterPlain (s : RoundState) (d : Dispatch) (i : Nat) : RoundState :=
  match d.run.outcome with
  | .error _ => { s with log := s.log ++ [d] }
  | .ok reason =>
    { s with
      log := s.log ++ [d]
      lanes := Function.update s.lanes i ((s.lanes i).after d.run reason)
      lastExhaustedReason := some reason
      pass :=
        { s.pass with
          localNewCandidates := s.pass.localNewCandidates ++ d.run.final.allNewCandidates } }

def raiseIfFailed (d : Dispatch) : RoundM Unit :=
  match d.run.outcome with
  | .error e => throw e
  | .ok _ => pure ()

/-- `flush_provider_returns` right after a dispatch: everything pending is its own. -/
def RoundCall.flushProviderReturns (c : RoundCall F) (d : Dispatch) : RoundM Unit := do
  let s ← get
  match c.recordProviderReturnBatch with
  | none => pure ()
  | some record =>
    if d.run.final.providerReturns = [] then pure ()
    else
      match record s.log.length d.run.final.providerReturns with
      | .error e => throw e
      | .ok () => pure ()

section Outcome

variable [PyFloat F]

def average (total count : Nat) : F := PyFloat.div (PyFloat.ofNat total) (PyFloat.ofNat count)

def mustHaveMatchAvg (scored : List ScoredCandidate) (fallback : F) : F :=
  if scored = [] then fallback
  else average (scored.map (·.mustHaveMatchScore)).sum scored.length

/-- The figures `register_dispatch_outcome` hands to the classification; `exploitScored`
    are the exploit lane's scored candidates so far, these included. -/
def outcomeFigures (scored exploitScored : List ScoredCandidate)
    (newCount providerReturnedCount : Nat) : OutcomeFigures F :=
  let fitCount := scored.countP fun candidate => candidate.fitBucket = .fit
  let avg := mustHaveMatchAvg scored (PyFloat.ofNat 0)
  { providerReturnedCount := providerReturnedCount
    newUniqueResumeCount := newCount
    newFitOrNearFitCount := fitCount
    fitRate := if newCount = 0 then PyFloat.ofNat 0 else average fitCount newCount
    mustHaveMatchAvg := avg
    exploitBaselineMustHaveMatchAvg := mustHaveMatchAvg exploitScored avg
    offIntentReasonCount := (scored.map (·.negativeSignals.length)).sum }

/-- The bookkeeping of `register_dispatch_outcome`. -/
def RoundState.recordOutcome (s : RoundState) (laneType : LaneType)
    (scored : List ScoredCandidate) (outcome : Option QueryOutcomeClassification) :
    RoundState :=
  { s with
    scoredCandidates :=
      Function.update s.scoredCandidates laneType (s.scoredCandidates laneType ++ scored)
    latestDispatchOutcomes := Function.update s.latestDispatchOutcomes laneType outcome }

def RoundCall.registerDispatchOutcome (c : RoundCall F) (lane : LogicalQuery) (d : Dispatch) :
    RoundM (Option QueryOutcomeClassification) := do
  let s ← get
  match c.scoreForQueryOutcome with
  | none =>
    modify fun s => s.recordOutcome lane.laneType [] none
    pure none
  | some score =>
    let answer :=
      if d.newCandidates = [] then .ok [] else score s.log.length d.newCandidates
    match answer with
    | .error e => throw e
    | .ok scored =>
      let exploitScored := s.scoredCandidates .exploit ++
        if lane.laneType = .exploit then scored else []
      let outcome := classifyQueryOutcome
        (outcomeFigures scored exploitScored d.newCandidates.length
          d.run.final.rawCandidateCount) c.thresholds
      modify fun s => s.recordOutcome lane.laneType scored (some outcome)
      pure (some outcome)

/-! ## 4. One lane's pass -/

/-- `run_dispatches`' loop over its targets; `true` stops the lane. -/
def RoundCall.dispatchTargets (c : RoundCall F) (i : Nat) (lane : LogicalQuery)
    (phase : LocationExecutionPhase) : List (String × Int) → RoundM Bool
  | [] => pure false
  | (city, requestedCount) :: rest => do
    let s ← get
    match (s.lanes i).cityStates city with
    | none => throw (.keyError city)
    | some st =>
      let d := c.dispatchOf s i lane (some city) (some phase) st.nextPage st.exhausted
        requestedCount
      modify fun s => s.afterCity d i lane city phase st
      raiseIfFailed d
      c.flushProviderReturns d
      let outcome ← c.registerDispatchOutcome lane d
      if allowLaneRefill lane.laneType outcome then c.dispatchTargets i lane phase rest
      else pure true

/-- A `run_dispatches` call that has targets gets the next batch number. -/
def RoundState.startBatch (s : RoundState) (i : Nat) : RoundState :=
  { s with
    batchNo := s.batchNo + 1
    pass := { s.pass with batchStart := (s.lanes i).cityStates } }

def RoundCall.runDispatches (c : RoundCall F) (i : Nat) (lane : LogicalQuery)
    (phase : LocationExecutionPhase) (cityTargets : List (String × Int)) : RoundM Bool :=
  if cityTargets = [] then pure false
  else do
    modify fun s => s.startBatch i
    c.dispatchTargets i lane phase cityTargets

/-- `requested_count - len(local_new_candidates)` -/
def RoundState.remainingGap (s : RoundState) : Int :=
  s.pass.requestedCount - s.pass.localNewCandidates.length

/-- The loop over `priority_order`: every city is tried for the whole remaining gap, and
    no look is taken at its exhausted flag. -/
def RoundCall.priorityLoop (c : RoundCall F) (i : Nat) (lane : LogicalQuery) :
    List String → RoundM Bool
  | [] => pure false
  | city :: rest => do
    let s ← get
    if s.remainingGap ≤ 0 then pure false
    else do
      let stop ← c.runDispatches i lane .priority [(city, s.remainingGap)]
      if stop then pure true else c.priorityLoop i lane rest

def RoundCall.activeCities (c : RoundCall F) (s : RoundState) (i : Nat) : List String :=
  c.plan.balancedOrder.filter fun city =>
    match (s.lanes i).cityStates city with
    | some st => !st.exhausted
    | none => false

/-- The `while True` over balanced batches. Every batch that leaves a gap exhausts a city,
    so the fuel is never used up. -/
def RoundCall.balancedLoop (c : RoundCall F) (i : Nat) (lane : LogicalQuery) :
    Nat → RoundM Unit
  | 0 => throw .outOfFuel
  | fuel + 1 => do
    let s ← get
    if s.remainingGap ≤ 0 then pure ()
    else
      let cityTargets := allocateBalancedCityTargets (c.activeCities s i) s.remainingGap
      if cityTargets = [] then pure ()
      else do
        let stop ← c.runDispatches i lane .balanced cityTargets
        if stop then pure () else c.balancedLoop i lane fuel

def RoundCall.plainDispatch (c : RoundCall F) (i : Nat) (lane : LogicalQuery)
    (requestedCount : Int) : RoundM Unit := do
  modify fun s => s.startBatch i
  let s ← get
  let d := c.dispatchOf s i lane none none (s.lanes i).nextPage (s.lanes i).exhausted
    requestedCount
  modify fun s => s.afterPlain d i
  raiseIfFailed d
  c.flushProviderReturns d
  let _ ← c.registerDispatchOutcome lane d

def RoundState.settleCities (s : RoundState) (i : Nat) : RoundState :=
  let reason := finalExhaustedReason s.pass.requestedCount
    s.pass.localNewCandidates.length s.pass.localCitySummaries
  { s with
    lanes := Function.update s.lanes i
      { s.lanes i with
        exhausted := (s.lanes i).exhausted || decide (reason ≠ .targetSatisfied) }
    lastExhaustedReason := some reason }

def RoundState.finishPass (s : RoundState) : RoundState :=
  { s with
    allNewCandidates := s.allNewCandidates ++ s.pass.localNewCandidates
    citySearchSummaries := s.citySearchSummaries ++ s.pass.localCitySummaries
    globalSeenResumeIds :=
      s.pass.localNewCandidates.map (·.resumeId) ++ s.globalSeenResumeIds
    globalSeenDedupKeys :=
      s.pass.localNewCandidates.map (·.dedupKey) ++ s.globalSeenDedupKeys
    pass :=
      { s.pass with
        passNo := s.pass.passNo + 1
        localNewCandidates := []
        localCitySummaries := [] } }

def RoundCall.endPass (c : RoundCall F) (i : Nat) (s : RoundState) : RoundState :=
  if c.plan.mode = .none then s.finishPass else (s.settleCities i).finishPass

/-- A `collect_candidates_for_query` call starts with empty locals. -/
def RoundState.beginPass (s : RoundState) (i : Nat) (requestedCount : Int) : RoundState :=
  { s with
    pass := { passNo := s.pass.passNo, lane := i, requestedCount := requestedCount } }

def RoundCall.searchCities (c : RoundCall F) (i : Nat) (lane : LogicalQuery)
    (requestedCount : Int) : RoundM Unit :=
  match c.plan.mode with
  | .none => c.plainDispatch i lane requestedCount
  | .single =>
    match c.plan.allowedLocations with
    | [] => throw .indexError
    | city :: _ => do
      let _ ← c.runDispatches i lane .balanced [(city, requestedCount)]
  | .priorityThenFallback => do
    let stop ← c.priorityLoop i lane c.plan.priorityOrder
    if stop then pure () else c.balancedLoop i lane (c.plan.balancedOrder.length + 1)
  | .balancedAll => c.balancedLoop i lane (c.plan.balancedOrder.length + 1)

def RoundCall.collectCandidatesForQuery (c : RoundCall F) (i : Nat) (lane : LogicalQuery)
    (requestedCount : Int) : RoundM Unit := do
  let s ← get
  if requestedCount ≤ 0 ∨ (s.lanes i).exhausted = true then pure ()
  else do
    modify fun s => s.beginPass i requestedCount
    c.searchCities i lane requestedCount
    modify fun s => c.endPass i s

/-! ## 5. The round -/

def RoundCall.initialPass (c : RoundCall F) (targets : LaneType → Int) :
    List (LogicalQuery × Nat) → RoundM Unit
  | [] => pure ()
  | (lane, i) :: rest => do
    c.collectCandidatesForQuery i lane (targets lane.laneType)
    c.initialPass targets rest

/-- One turn of the refill loop: each lane that may refill is asked for all that is still
    missing. Answers whether a lane gained something. -/
def RoundCall.refillPass (c : RoundCall F) : List (LogicalQuery × Nat) → RoundM Bool
  | [] => pure false
  | (lane, i) :: rest => do
    let s ← get
    if c.targetNew - s.allNewCandidates.length ≤ 0 then pure false
    else if allowLaneRefill lane.laneType (s.latestDispatchOutcomes lane.laneType) then do
      c.collectCandidatesForQuery i lane (c.targetNew - s.allNewCandidates.length)
      let s' ← get
      let later ← c.refillPass rest
      pure (decide (s.allNewCandidates.length < s'.allNewCandidates.length) || later)
    else c.refillPass rest

/-- The refill loop. A turn that does not end it gains a candidate, so the fuel is never
    used up. -/
def RoundCall.refillLoop (c : RoundCall F) : Nat → RoundM Unit
  | 0 => throw .outOfFuel
  | fuel + 1 => do
    let s ← get
    if (s.allNewCandidates.length : Int) < c.targetNew then do
      let progressed ← c.refillPass c.queryStates.zipIdx
      if progressed then c.refillLoop fuel else pure ()
    else pure ()

/-- The loops of `execute_round_search`. -/
def RoundCall.searchRound (c : RoundCall F) : RoundM Unit := do
  c.initialPass (allocateInitialLaneTargets F c.laneOrder c.queryStates c.targetNew)
    c.queryStates.zipIdx
  c.refillLoop (c.targetNew.toNat + 1)

end Outcome

structure RetrievalExecutionResult where
  ctsQueries : List CTSQuery
  sentQueryRecords : List SentQueryRecord
  newCandidates : List ResumeCandidate
  searchObservation : SearchObservation
  searchAttempts : List SearchAttempt
  queryResumeHits : List QueryResumeHit
  providerReturnedCandidates : List ProviderReturnedCandidate

def RoundCall.sentQueryRecord (c : RoundCall F) (d : Dispatch) : SentQueryRecord :=
  { roundNo := c.roundNo
    queryRole := d.call.query.queryRole
    laneType := d.call.query.laneType
    queryInstanceId := d.call.query.queryInstanceId
    queryFingerprint := d.call.query.queryFingerprint
    city := d.city
    phase := d.call.phase
    batchNo := d.call.batchNo
    requestedCount := d.call.targetNew
    queryTerms := d.call.query.queryTerms
    keywordQuery := d.call.query.keywordQuery
    sourcePlanVersion := c.planVersion }

/-- The `SearchObservation` of the round. -/
def RoundCall.searchObservation (c : RoundCall F) (s : RoundState) : SearchObservation :=
  { roundNo := c.roundNo
    requestedCount := c.targetNew
    rawCandidateCount := (s.log.map fun d => d.run.final.rawCandidateCount).sum
    uniqueNewCount := s.allNewCandidates.length
    shortageCount := max 0 (c.targetNew - s.allNewCandidates.length)
    fetchAttemptCount := (s.log.map fun d => d.run.final.attempts.length).sum
    exhaustedReason :=
      if s.citySearchSummaries = [] then
        if c.targetNew ≤ s.allNewCandidates.length then .targetSatisfied
        else s.lastExhaustedReason.getD .ctsExhausted
      else
        finalExhaustedReason c.targetNew s.allNewCandidates.length s.citySearchSummaries
    newResumeIds := s.allNewCandidates.map (·.resumeId)
    citySearchSummaries := s.citySearchSummaries }

def RoundCall.result (c : RoundCall F) (s : RoundState) : RetrievalExecutionResult :=
  { ctsQueries := s.log.map (·.call.query)
    sentQueryRecords := s.log.map c.sentQueryRecord
    newCandidates := s.allNewCandidates
    searchObservation := c.searchObservation s
    searchAttempts := s.log.flatMap (·.run.final.attempts)
    queryResumeHits := s.log.flatMap (·.run.final.resumeHits)
    providerReturnedCandidates := s.log.flatMap (·.run.final.providerReturns) }

def RoundCall.executeRoundSearch [PyFloat F] (c : RoundCall F) :
    RoundM RetrievalExecutionResult := do
  c.searchRound
  let s ← get
  pure (c.result s)

/-- A whole round: its answer, and the state it ends in. -/
def RoundCall.outcome [PyFloat F] (c : RoundCall F) :
    Except RoundError RetrievalExecutionResult × RoundState :=
  Stateful.exec c.executeRoundSearch c.initial

def RoundCall.searches [PyFloat F] (c : RoundCall F) : List Dispatch := c.outcome.2.log

end SeekTalent

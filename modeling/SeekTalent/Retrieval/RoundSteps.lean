import SeekTalent.Retrieval.RoundSearch

/-!
# The steps of a round search

What a round does to its state, whatever its loops decide: begin a pass, start a batch,
search, book an outcome, settle and end the pass. `RoundCall.Step` names these steps with
what the loops guarantee about each, and `RoundCall.reaches` says that every round is a
sequence of them. The properties of a round are inductions over such sequences.
-/

namespace SeekTalent

open Stateful Relation

variable {F : Type}

/-! ## 1. Steps -/

/-- What the loops guarantee about a list of searches when they start it: a positive
    count each; the priority phase only where the plan has one; and in the balanced phase
    either cities not exhausted (in `cities`), or the one search of a `single` plan, made
    for a lane that is not exhausted and before the pass has anything. -/
structure RoundCall.Ready (c : RoundCall F) (cities : String → Option CityExecutionState)
    (phase : LocationExecutionPhase) (targets : List (String × Int)) (s : RoundState) :
    Prop where
  positive : ∀ t ∈ targets, 0 < t.2
  priority : phase = .priority → c.plan.mode = .priorityThenFallback
  balanced : phase = .balanced →
    (c.plan.mode ≠ .single ∧
      ∀ t ∈ targets, ∃ st, cities t.1 = some st ∧ st.exhausted = false) ∨
    (c.plan.mode = .single ∧
      ∀ t ∈ targets, targets = [t] ∧ c.plan.allowedLocations.head? = some t.1 ∧
        t.2 = s.pass.requestedCount ∧ s.pass.localNewCandidates = [] ∧
        s.pass.localCitySummaries = [] ∧ (s.lanes s.pass.lane).exhausted = false)

theorem RoundCall.Ready.head {c : RoundCall F} {cities phase t ts s}
    (h : c.Ready cities phase (t :: ts) s) : c.Ready cities phase [t] s := by
  refine ⟨fun u hu => ?_, h.priority, fun hp => ?_⟩
  · rw [List.mem_singleton.mp hu]
    exact h.positive t List.mem_cons_self
  · rcases h.balanced hp with ⟨hm, hc⟩ | ⟨hm, hc⟩
    · refine .inl ⟨hm, fun u hu => ?_⟩
      rw [List.mem_singleton.mp hu]
      exact hc t List.mem_cons_self
    · refine .inr ⟨hm, fun u hu => ?_⟩
      rw [List.mem_singleton.mp hu]
      exact ⟨rfl, (hc t List.mem_cons_self).2⟩

/-- The rest of a list is ready in every later state of the batch: a `single` plan leaves
    no rest. -/
theorem RoundCall.Ready.tail {c : RoundCall F} {cities phase t ts s}
    (h : c.Ready cities phase (t :: ts) s) (s' : RoundState) :
    c.Ready cities phase ts s' := by
  refine ⟨fun u hu => h.positive u (List.mem_cons_of_mem t hu), h.priority, fun hp => ?_⟩
  rcases h.balanced hp with ⟨hm, hc⟩ | ⟨hm, hc⟩
  · exact .inl ⟨hm, fun u hu => hc u (List.mem_cons_of_mem t hu)⟩
  · obtain ⟨hts, -⟩ := hc t List.mem_cons_self
    simp only [List.cons.injEq, true_and] at hts
    subst hts
    exact .inr ⟨hm, fun u hu => absurd hu List.not_mem_nil⟩

def RoundState.AllReturned (s : RoundState) : Prop :=
  ∀ d ∈ s.log, ∃ reason, d.run.outcome = .ok reason

inductive RoundCall.Step (c : RoundCall F) : RoundState → RoundState → Prop
  | beginPass {s : RoundState} {i : Nat} {lane : LogicalQuery} {n : Int}
      (lane_eq : c.queryStates[i]? = some lane) (pos : 0 < n)
      (open_ : (s.lanes i).exhausted = false) (idle : s.pass.localNewCandidates = [])
      (no_summaries : s.pass.localCitySummaries = []) :
      c.Step s (s.beginPass i n)
  | startBatch {s : RoundState} {i : Nat} (lane_eq : s.pass.lane = i) :
      c.Step s (s.startBatch i)
  | city {s : RoundState} {i : Nat} {lane : LogicalQuery} {city : String}
      {phase : LocationExecutionPhase} {st : CityExecutionState} {n : Int}
      (lane_eq : c.queryStates[i]? = some lane) (pass_lane : s.pass.lane = i)
      (state_eq : (s.lanes i).cityStates city = some st)
      (ready : c.Ready s.pass.batchStart phase [(city, n)] s) (returned : s.AllReturned) :
      c.Step s (s.afterCity
        (c.dispatchOf s i lane (some city) (some phase) st.nextPage st.exhausted n)
        i lane city phase st)
  | plain {s : RoundState} {i : Nat} {lane : LogicalQuery} {n : Int}
      (lane_eq : c.queryStates[i]? = some lane) (pass_lane : s.pass.lane = i)
      (pos : 0 < n) (mode_eq : c.plan.mode = .none) (returned : s.AllReturned) :
      c.Step s (s.afterPlain
        (c.dispatchOf s i lane none none (s.lanes i).nextPage (s.lanes i).exhausted n) i)
  | recordOutcome {s : RoundState} (laneType : LaneType) (scored : List ScoredCandidate)
      (outcome : Option QueryOutcomeClassification)
      (unscored : c.scoreForQueryOutcome = none → outcome = none) :
      c.Step s (s.recordOutcome laneType scored outcome)
  | endPass {s : RoundState} {i : Nat} (lane_eq : s.pass.lane = i) : c.Step s (c.endPass i s)

/-! ## 2. What a step changes -/

structure RoundState.Quiet (s s' : RoundState) : Prop where
  log_eq : s'.log = s.log
  passNo_eq : s'.pass.passNo = s.pass.passNo
  local_eq : s'.pass.localNewCandidates = s.pass.localNewCandidates
  all_eq : s'.allNewCandidates = s.allNewCandidates
  resumeIds_eq : s'.globalSeenResumeIds = s.globalSeenResumeIds
  dedupKeys_eq : s'.globalSeenDedupKeys = s.globalSeenDedupKeys

structure RoundCall.Made (c : RoundCall F) (d : Dispatch) : Prop where
  run_eq : d.run = executeSearchTool c.runtime d.call
  target_pos : 0 < d.call.targetNew
  lane_eq : c.queryStates[d.lane]? = some d.call.query.toLogicalQuery
  runId_eq : d.call.runId = c.runId
  roundNo_eq : d.call.roundNo = c.roundNo

/-- The search `d` was made, with the sets of what the round had seen when the pass
    began. -/
structure RoundCall.Searched (c : RoundCall F) (s s' : RoundState) (d : Dispatch) :
    Prop where
  made : c.Made d
  log_eq : s'.log = s.log ++ [d]
  passNo_eq : d.passNo = s.pass.passNo
  seenResumeIds_eq : d.call.seenResumeIds = s.globalSeenResumeIds
  seenDedupKeys_eq : d.call.seenDedupKeys = s.globalSeenDedupKeys
  local_eq : s'.pass.localNewCandidates = s.pass.localNewCandidates ++ d.newCandidates
  pass_eq : s'.pass.passNo = s.pass.passNo
  all_eq : s'.allNewCandidates = s.allNewCandidates
  resumeIds_eq : s'.globalSeenResumeIds = s.globalSeenResumeIds
  dedupKeys_eq : s'.globalSeenDedupKeys = s.globalSeenDedupKeys

theorem RoundCall.Searched.of_dispatchOf {c : RoundCall F} {s s' : RoundState} {i : Nat}
    {lane : LogicalQuery} {city phase nextPage exhausted n} {d : Dispatch}
    (hd : d = c.dispatchOf s i lane city phase nextPage exhausted n)
    (lane_eq : c.queryStates[i]? = some lane) (pos : 0 < n) (log_eq : s'.log = s.log ++ [d])
    (local_eq : s'.pass.localNewCandidates = s.pass.localNewCandidates ++ d.newCandidates)
    (kept : s'.pass.passNo = s.pass.passNo ∧ s'.allNewCandidates = s.allNewCandidates ∧
      s'.globalSeenResumeIds = s.globalSeenResumeIds ∧
      s'.globalSeenDedupKeys = s.globalSeenDedupKeys) :
    c.Searched s s' d := by
  obtain ⟨hp, ha, hr, hk⟩ := kept
  subst hd
  exact ⟨⟨rfl, pos, lane_eq, rfl, rfl⟩, log_eq, rfl, rfl, rfl, local_eq, hp, ha, hr, hk⟩

theorem RoundState.afterCity_kept (s : RoundState) (d : Dispatch) (i lane city phase st) :
    (s.afterCity d i lane city phase st).log = s.log ++ [d] ∧
    (s.afterCity d i lane city phase st).pass.localNewCandidates =
      s.pass.localNewCandidates ++ d.newCandidates ∧
    (s.afterCity d i lane city phase st).pass.passNo = s.pass.passNo ∧
    (s.afterCity d i lane city phase st).allNewCandidates = s.allNewCandidates ∧
    (s.afterCity d i lane city phase st).globalSeenResumeIds = s.globalSeenResumeIds ∧
    (s.afterCity d i lane city phase st).globalSeenDedupKeys = s.globalSeenDedupKeys := by
  unfold RoundState.afterCity Dispatch.newCandidates
  cases d.run.outcome <;> simp

theorem RoundState.afterPlain_kept (s : RoundState) (d : Dispatch) (i : Nat) :
    (s.afterPlain d i).log = s.log ++ [d] ∧
    (s.afterPlain d i).pass.localNewCandidates =
      s.pass.localNewCandidates ++ d.newCandidates ∧
    (s.afterPlain d i).pass.passNo = s.pass.passNo ∧
    (s.afterPlain d i).allNewCandidates = s.allNewCandidates ∧
    (s.afterPlain d i).globalSeenResumeIds = s.globalSeenResumeIds ∧
    (s.afterPlain d i).globalSeenDedupKeys = s.globalSeenDedupKeys := by
  unfold RoundState.afterPlain Dispatch.newCandidates
  cases d.run.outcome <;> simp

structure RoundState.Finished (s s' : RoundState) : Prop where
  log_eq : s'.log = s.log
  passNo_eq : s'.pass.passNo = s.pass.passNo + 1
  local_eq : s'.pass.localNewCandidates = []
  all_eq : s'.allNewCandidates = s.allNewCandidates ++ s.pass.localNewCandidates
  resumeIds_eq : s'.globalSeenResumeIds =
    s.pass.localNewCandidates.map (·.resumeId) ++ s.globalSeenResumeIds
  dedupKeys_eq : s'.globalSeenDedupKeys =
    s.pass.localNewCandidates.map (·.dedupKey) ++ s.globalSeenDedupKeys

theorem RoundCall.endPass_finished (c : RoundCall F) (i : Nat) (s : RoundState) :
    s.Finished (c.endPass i s) := by
  unfold RoundCall.endPass
  split <;> exact ⟨rfl, rfl, rfl, rfl, rfl, rfl⟩

/-- **A step is quiet, a search, or the end of a pass.** -/
theorem RoundCall.Step.effect {c : RoundCall F} {s s' : RoundState} (h : c.Step s s') :
    s.Quiet s' ∨ (∃ d, c.Searched s s' d) ∨ s.Finished s' := by
  cases h with
  | beginPass lane_eq pos open_ idle no_summaries => exact .inl ⟨rfl, rfl, idle.symm, rfl, rfl, rfl⟩
  | startBatch => exact .inl ⟨rfl, rfl, rfl, rfl, rfl, rfl⟩
  | recordOutcome => exact .inl ⟨rfl, rfl, rfl, rfl, rfl, rfl⟩
  | endPass => exact .inr (.inr (c.endPass_finished _ s))
  | @city i lane city phase st n lane_eq pass_lane state_eq ready returned =>
    obtain ⟨hlog, hlocal, hkept⟩ := s.afterCity_kept
      (c.dispatchOf s i lane (some city) (some phase) st.nextPage st.exhausted n)
      i lane city phase st
    exact .inr (.inl ⟨_, .of_dispatchOf rfl lane_eq
      (ready.positive _ (List.mem_singleton_self _)) hlog hlocal hkept⟩)
  | @plain i lane n lane_eq pass_lane pos mode_eq returned =>
    obtain ⟨hlog, hlocal, hkept⟩ := s.afterPlain_kept
      (c.dispatchOf s i lane none none (s.lanes i).nextPage (s.lanes i).exhausted n) i
    exact .inr (.inl ⟨_, .of_dispatchOf rfl lane_eq pos hlog hlocal hkept⟩)

/-! ## 3. Every round is a sequence of steps -/

/-- In the pass of lane `i` that was asked for `n` candidates. -/
structure RoundState.InPass (i : Nat) (n : Int) (s : RoundState) : Prop where
  returned : s.AllReturned
  lane : s.pass.lane = i
  requested : s.pass.requestedCount = n

structure RoundState.Idle (s : RoundState) : Prop where
  returned : s.AllReturned
  empty : s.pass.localNewCandidates = []
  noSummaries : s.pass.localCitySummaries = []

theorem RoundState.AllReturned.append {s : RoundState} {d : Dispatch}
    {reason : ExhaustedReason} (h : s.AllReturned) (hd : d.run.outcome = .ok reason) :
    ∀ d' ∈ s.log ++ [d], ∃ reason, d'.run.outcome = .ok reason := by
  intro d' hd'
  rcases List.mem_append.mp hd' with hd' | hd'
  · exact h d' hd'
  · rw [List.mem_singleton.mp hd']
    exact ⟨reason, hd⟩

theorem RoundState.InPass.afterCity {s : RoundState} {d : Dispatch} {j i : Nat} {n : Int}
    {lane city phase st reason} (h : s.InPass i n) (hd : d.run.outcome = .ok reason) :
    (s.afterCity d j lane city phase st).InPass i n := by
  unfold RoundState.afterCity
  rw [hd]
  exact ⟨h.returned.append hd, h.lane, h.requested⟩

theorem RoundState.InPass.afterPlain {s : RoundState} {d : Dispatch} {j i : Nat} {n : Int}
    {reason} (h : s.InPass i n) (hd : d.run.outcome = .ok reason) :
    (s.afterPlain d j).InPass i n := by
  unfold RoundState.afterPlain
  rw [hd]
  exact ⟨h.returned.append hd, h.lane, h.requested⟩

theorem RoundState.InPass.startBatch {s : RoundState} {i j : Nat} {n : Int}
    (h : s.InPass i n) : (s.startBatch j).InPass i n := ⟨h.returned, h.lane, h.requested⟩

theorem RoundState.afterCity_batchStart (s : RoundState) (d : Dispatch) (i lane city phase st) :
    (s.afterCity d i lane city phase st).pass.batchStart = s.pass.batchStart := by
  unfold RoundState.afterCity
  cases d.run.outcome <;> rfl

section Loops

variable {c : RoundCall F} {i : Nat} {lane : LogicalQuery} {n : Int} {A : RoundState → Prop}

theorem RoundState.InPass.endPass {s : RoundState} (h : s.InPass i n) :
    (c.endPass i s).Idle := by
  unfold RoundCall.endPass
  split <;> exact ⟨h.returned, rfl, rfl⟩

theorem follows_raiseIfFailed {R : RoundState → RoundState → Prop} (d : Dispatch) :
    Follows R (fun s => ∀ reason, d.run.outcome = .ok reason → A s) (raiseIfFailed d)
      (fun _ s => A s) := by
  unfold raiseIfFailed
  cases hd : d.run.outcome with
  | error e => exact Follows.throw e
  | ok reason => exact Follows.pure fun s hs => hs reason rfl

theorem follows_flushProviderReturns {R : RoundState → RoundState → Prop} (d : Dispatch) :
    Follows R A (c.flushProviderReturns d) (fun _ s => A s) := by
  unfold RoundCall.flushProviderReturns
  refine Follows.get.bind fun a => ?_
  cases c.recordProviderReturnBatch with
  | none => exact Follows.pure fun _ hs => hs.2
  | some record =>
    refine Follows.ite (fun _ => Follows.pure fun _ hs => hs.2) fun _ => ?_
    cases record a.log.length d.run.final.providerReturns with
    | error e => exact Follows.throw e
    | ok u => exact Follows.pure fun _ hs => hs.2

theorem mem_activeCities {s : RoundState} {city : String} (h : city ∈ c.activeCities s i) :
    ∃ st, (s.lanes i).cityStates city = some st ∧ st.exhausted = false := by
  unfold RoundCall.activeCities at h
  rw [List.mem_filter] at h
  cases hst : (s.lanes i).cityStates city with
  | none => rw [hst] at h; simp at h
  | some st =>
    rw [hst] at h
    exact ⟨st, rfl, by simpa using h.2⟩

theorem mem_zipIdx_queryStates (c : RoundCall F) :
    ∀ l ∈ c.queryStates.zipIdx, c.queryStates[l.2]? = some l.1 := by
  rintro ⟨lane, i⟩ h
  exact List.mk_mem_zipIdx_iff_getElem?.mp h

theorem RoundCall.initial_idle (c : RoundCall F) : c.initial.Idle :=
  ⟨fun _ hd => absurd hd List.not_mem_nil, rfl, rfl⟩

variable [PyFloat F]

def RoundCall.Books (c : RoundCall F) (d : Dispatch)
    (outcome : Option QueryOutcomeClassification) : Prop :=
  (c.scoreForQueryOutcome = none ∧ outcome = none) ∨
  (c.scoreForQueryOutcome.isSome ∧ ∃ scored exploitScored, outcome = some (classifyQueryOutcome
    (outcomeFigures scored exploitScored d.newCandidates.length d.run.final.rawCandidateCount)
    c.thresholds))

theorem RoundCall.Books.unscored {d : Dispatch} {outcome : Option QueryOutcomeClassification}
    (h : c.Books d outcome) (hnone : c.scoreForQueryOutcome = none) : outcome = none := by
  rcases h with ⟨-, rfl⟩ | ⟨hsome, -⟩
  · rfl
  · rw [hnone] at hsome
    cases hsome

theorem follows_registerDispatchOutcome {R : RoundState → RoundState → Prop}
    {B : RoundState → Prop} (d : Dispatch)
    (hR : ∀ s scored outcome, c.Books d outcome →
      R s (s.recordOutcome lane.laneType scored outcome))
    (hpost : ∀ s scored outcome, c.Books d outcome → A s →
      B (s.recordOutcome lane.laneType scored outcome)) :
    Follows R A (c.registerDispatchOutcome lane d) (fun _ s => B s) := by
  unfold RoundCall.registerDispatchOutcome
  refine Follows.get.bind fun a => ?_
  have hbook : ∀ scored outcome, c.Books d outcome → Follows R (fun s => a = s ∧ A s)
      (modify fun s => s.recordOutcome lane.laneType scored outcome : RoundM Unit)
      (fun _ s => B s) :=
    fun scored outcome hbooks =>
      Follows.modify (fun s _ => hR s _ _ hbooks) fun s hs => hpost s _ _ hbooks hs.2
  cases hscore : c.scoreForQueryOutcome with
  | none => exact (hbook [] none (.inl ⟨hscore, rfl⟩)).bind fun _ => Follows.pure fun _ hs => hs
  | some score =>
    dsimp only
    generalize (if d.newCandidates = [] then Except.ok []
      else score a.log.length d.newCandidates) = answer
    cases answer with
    | error e => exact Follows.throw e
    | ok scored =>
      exact (hbook scored _ (.inr ⟨by rw [hscore]; rfl, _, _, rfl⟩)).bind
        fun _ => Follows.pure fun _ hs => hs

theorem follows_dispatchTargets {phase : LocationExecutionPhase}
    (hlane : c.queryStates[i]? = some lane) (targets : List (String × Int)) :
    Follows c.Step (fun s => s.InPass i n ∧ c.Ready s.pass.batchStart phase targets s)
      (c.dispatchTargets i lane phase targets) (fun _ s => s.InPass i n) := by
  induction targets with
  | nil => exact Follows.pure fun _ hs => hs.1
  | cons target rest ih =>
    obtain ⟨city, m⟩ := target
    unfold RoundCall.dispatchTargets
    refine Follows.get.bind fun a => ?_
    cases hst : (a.lanes i).cityStates city with
    | none => exact Follows.throw _
    | some st =>
      dsimp only
      generalize hd : c.dispatchOf a i lane (some city) (some phase) st.nextPage st.exhausted
        m = d
      refine Follows.bind (Q := fun _ s => ∀ reason, d.run.outcome = .ok reason →
          s.InPass i n ∧ c.Ready s.pass.batchStart phase rest s) ?_ fun _ => ?_
      · refine Follows.modify ?_ ?_
        · rintro s ⟨rfl, hin, hready⟩
          subst hd
          exact .city hlane hin.lane hst hready.head hin.returned
        · rintro s ⟨rfl, hin, hready⟩ reason hok
          refine ⟨hin.afterCity hok, ?_⟩
          rw [RoundState.afterCity_batchStart]
          exact hready.tail _
      refine (follows_raiseIfFailed d).bind fun _ => ?_
      refine (follows_flushProviderReturns d).bind fun _ => ?_
      refine Follows.bind (Q := fun _ s => s.InPass i n ∧
          c.Ready s.pass.batchStart phase rest s) ?_ fun outcome => ?_
      · refine follows_registerDispatchOutcome d (fun s _ _ hbooks => .recordOutcome _ _ _ hbooks.unscored) ?_
        rintro s scored outcome - ⟨hin, hready⟩
        exact ⟨⟨hin.returned, hin.lane, hin.requested⟩,
          ⟨hready.positive, hready.priority, hready.balanced⟩⟩
      exact Follows.ite (fun _ => ih) fun _ => Follows.pure fun _ hs => hs.1

theorem follows_runDispatches {phase : LocationExecutionPhase}
    (hlane : c.queryStates[i]? = some lane) (targets : List (String × Int)) :
    Follows c.Step
      (fun s => s.InPass i n ∧ c.Ready (s.lanes i).cityStates phase targets s)
      (c.runDispatches i lane phase targets) (fun _ s => s.InPass i n) := by
  unfold RoundCall.runDispatches
  refine Follows.ite (fun _ => Follows.pure fun _ hs => hs.1) fun _ => ?_
  refine Follows.bind (Follows.modify (fun s hs => .startBatch hs.1.lane) ?_)
    fun _ => follows_dispatchTargets hlane targets
  rintro s ⟨hin, hready⟩
  exact ⟨hin.startBatch, ⟨hready.positive, hready.priority, hready.balanced⟩⟩

theorem follows_priorityLoop (hlane : c.queryStates[i]? = some lane)
    (hmode : c.plan.mode = .priorityThenFallback) (cities : List String) :
    Follows c.Step (fun s => s.InPass i n) (c.priorityLoop i lane cities)
      (fun _ s => s.InPass i n) := by
  induction cities with
  | nil => exact Follows.pure fun _ hs => hs
  | cons city rest ih =>
    unfold RoundCall.priorityLoop
    refine Follows.get.bind fun a => ?_
    refine Follows.ite (fun _ => Follows.pure fun _ hs => hs.2) fun hgap => ?_
    refine Follows.bind (Q := fun _ s => s.InPass i n) ?_ fun stop => ?_
    · refine (follows_runDispatches hlane _).conseq ?_ fun _ _ h => h
      rintro s ⟨rfl, hin⟩
      refine ⟨hin, ?_, fun _ => hmode, fun h => absurd h (by decide)⟩
      intro t ht
      rw [List.mem_singleton.mp ht]
      exact lt_of_not_ge hgap
    · exact Follows.ite (fun _ => Follows.pure fun _ hs => hs) fun _ => ih

theorem follows_balancedLoop (hlane : c.queryStates[i]? = some lane)
    (hmode : c.plan.mode ≠ .single) (fuel : Nat) :
    Follows c.Step (fun s => s.InPass i n) (c.balancedLoop i lane fuel)
      (fun _ s => s.InPass i n) := by
  induction fuel with
  | zero => exact Follows.throw _
  | succ fuel ih =>
    unfold RoundCall.balancedLoop
    refine Follows.get.bind fun a => ?_
    refine Follows.ite (fun _ => Follows.pure fun _ hs => hs.2) fun _ => ?_
    refine Follows.ite (fun _ => Follows.pure fun _ hs => hs.2) fun _ => ?_
    refine Follows.bind (Q := fun _ s => s.InPass i n) ?_ fun stop => ?_
    · refine (follows_runDispatches hlane _).conseq ?_ fun _ _ h => h
      rintro s ⟨rfl, hin⟩
      refine ⟨hin, fun t ht => (mem_allocateBalancedCityTargets ht).2,
        fun h => absurd h (by decide), fun _ => .inl ⟨hmode, ?_⟩⟩
      intro t ht
      exact mem_activeCities (mem_allocateBalancedCityTargets ht).1
    · exact Follows.ite (fun _ => Follows.pure fun _ hs => hs) fun _ => ih

theorem follows_plainDispatch (hlane : c.queryStates[i]? = some lane) (hn : 0 < n)
    (hmode : c.plan.mode = .none) :
    Follows c.Step (fun s => s.InPass i n) (c.plainDispatch i lane n)
      (fun _ s => s.InPass i n) := by
  unfold RoundCall.plainDispatch
  refine Follows.bind (Q := fun _ s => s.InPass i n)
    (Follows.modify (fun s hs => .startBatch hs.lane) fun s hs => hs.startBatch) fun _ => ?_
  refine Follows.get.bind fun a => ?_
  dsimp only
  generalize hd : c.dispatchOf a i lane none none (a.lanes i).nextPage (a.lanes i).exhausted
    n = d
  refine Follows.bind (Q := fun _ s => ∀ reason, d.run.outcome = .ok reason → s.InPass i n)
    ?_ fun _ => ?_
  · refine Follows.modify ?_ ?_
    · rintro s ⟨rfl, hin⟩
      subst hd
      exact .plain hlane hin.lane hn hmode hin.returned
    · rintro s ⟨rfl, hin⟩ reason hok
      exact hin.afterPlain hok
  refine (follows_raiseIfFailed d).bind fun _ => ?_
  refine (follows_flushProviderReturns d).bind fun _ => ?_
  refine Follows.bind (follows_registerDispatchOutcome (B := fun s => s.InPass i n) d
    (fun s _ _ hbooks => .recordOutcome _ _ _ hbooks.unscored) ?_) fun _ => Follows.pure fun _ hs => hs
  exact fun s _ _ _ hs => ⟨hs.returned, hs.lane, hs.requested⟩

structure RoundState.FreshPass (i : Nat) (n : Int) (s : RoundState) : Prop where
  inPass : s.InPass i n
  empty : s.pass.localNewCandidates = []
  noSummaries : s.pass.localCitySummaries = []
  open_ : (s.lanes s.pass.lane).exhausted = false

theorem follows_searchCities (hlane : c.queryStates[i]? = some lane) (hn : 0 < n) :
    Follows c.Step (RoundState.FreshPass i n) (c.searchCities i lane n)
      (fun _ s => s.InPass i n) := by
  unfold RoundCall.searchCities
  cases hmode : c.plan.mode with
  | none =>
    exact (follows_plainDispatch hlane hn hmode).conseq (fun s hs => hs.inPass) fun _ _ h => h
  | single =>
    cases hallowed : c.plan.allowedLocations with
    | nil => exact Follows.throw _
    | cons city rest =>
      refine Follows.bind ((follows_runDispatches hlane _).conseq ?_ fun _ _ h => h)
        fun _ => Follows.pure fun _ hs => hs
      rintro s ⟨hin, hnew, hsum, hopen⟩
      refine ⟨hin, ?_, fun h => absurd h (by decide), fun _ => .inr ⟨hmode, ?_⟩⟩
      · intro t ht
        rw [List.mem_singleton.mp ht]
        exact hn
      · intro t ht
        rw [List.mem_singleton.mp ht, hallowed]
        exact ⟨rfl, rfl, hin.requested.symm, hnew, hsum, hopen⟩
  | priorityThenFallback =>
    have hbalanced := follows_balancedLoop (n := n) hlane (by rw [hmode]; decide)
      (c.plan.balancedOrder.length + 1)
    refine Follows.bind ((follows_priorityLoop hlane hmode _).conseq (fun s hs => hs.inPass)
      fun _ _ h => h) fun stop => ?_
    exact Follows.ite (fun _ => Follows.pure fun _ hs => hs) fun _ => hbalanced
  | balancedAll =>
    exact (follows_balancedLoop hlane (by rw [hmode]; decide) _).conseq
      (fun s hs => hs.inPass) fun _ _ h => h

theorem follows_collectCandidatesForQuery (hlane : c.queryStates[i]? = some lane) :
    Follows c.Step RoundState.Idle (c.collectCandidatesForQuery i lane n)
      (fun _ s => s.Idle) := by
  unfold RoundCall.collectCandidatesForQuery
  refine Follows.get.bind fun a => ?_
  refine Follows.ite (fun _ => Follows.pure fun _ hs => hs.2) fun hgo => ?_
  rw [not_or, not_le, Bool.not_eq_true] at hgo
  refine Follows.bind (Follows.modify (Q := fun _ s => s.FreshPass i n) ?_ ?_) fun _ => ?_
  · rintro s ⟨rfl, hidle⟩
    exact .beginPass hlane hgo.1 hgo.2 hidle.empty hidle.noSummaries
  · rintro s ⟨rfl, hidle⟩
    exact ⟨⟨hidle.returned, rfl, rfl⟩, rfl, rfl, hgo.2⟩
  refine (follows_searchCities hlane hgo.1).bind fun _ => ?_
  exact Follows.modify (fun _ hs => .endPass hs.lane) fun s hs => hs.endPass

theorem follows_initialPass (targets : LaneType → Int) (lanes : List (LogicalQuery × Nat))
    (hlanes : ∀ l ∈ lanes, c.queryStates[l.2]? = some l.1) :
    Follows c.Step RoundState.Idle (c.initialPass targets lanes) (fun _ s => s.Idle) := by
  induction lanes with
  | nil => exact Follows.pure fun _ hs => hs
  | cons l rest ih =>
    obtain ⟨hl, hrest⟩ := List.forall_mem_cons.mp hlanes
    exact (follows_collectCandidatesForQuery hl).bind fun _ => ih hrest

theorem follows_refillPass (lanes : List (LogicalQuery × Nat))
    (hlanes : ∀ l ∈ lanes, c.queryStates[l.2]? = some l.1) :
    Follows c.Step RoundState.Idle (c.refillPass lanes) (fun _ s => s.Idle) := by
  induction lanes with
  | nil => exact Follows.pure fun _ hs => hs
  | cons l rest ih =>
    obtain ⟨hl, hrest⟩ := List.forall_mem_cons.mp hlanes
    unfold RoundCall.refillPass
    refine Follows.get.bind fun a => ?_
    refine Follows.ite (fun _ => Follows.pure fun _ hs => hs.2) fun _ => ?_
    refine Follows.ite (fun _ => ?_) fun _ => (ih hrest).conseq (fun _ hs => hs.2) fun _ _ h => h
    refine Follows.bind ((follows_collectCandidatesForQuery hl).conseq (fun _ hs => hs.2)
      fun _ _ h => h) fun _ => ?_
    refine Follows.get.bind fun a' => ?_
    refine Follows.bind ((ih hrest).conseq (fun _ hs => hs.2) fun _ _ h => h) fun _ => ?_
    exact Follows.pure fun _ hs => hs

theorem follows_refillLoop (fuel : Nat) :
    Follows c.Step RoundState.Idle (c.refillLoop fuel) (fun _ s => s.Idle) := by
  induction fuel with
  | zero => exact Follows.throw _
  | succ fuel ih =>
    unfold RoundCall.refillLoop
    refine Follows.get.bind fun a => ?_
    refine Follows.ite (fun _ => ?_) fun _ => Follows.pure fun _ hs => hs.2
    refine Follows.bind ((follows_refillPass _ (mem_zipIdx_queryStates c)).conseq
      (fun _ hs => hs.2) fun _ _ h => h) fun progressed => ?_
    exact Follows.ite (fun _ => ih) fun _ => Follows.pure fun _ hs => hs

theorem follows_executeRoundSearch (c : RoundCall F) :
    Follows c.Step RoundState.Idle c.executeRoundSearch
      (fun result s => s.Idle ∧ result = c.result s) := by
  unfold RoundCall.executeRoundSearch RoundCall.searchRound
  refine Follows.bind (Follows.bind (follows_initialPass _ _ (mem_zipIdx_queryStates c))
    fun _ => follows_refillLoop _) fun _ => ?_
  refine Follows.get.bind fun a => Follows.pure ?_
  rintro s ⟨rfl, hs⟩
  exact ⟨hs, rfl⟩

theorem RoundCall.outcome_ok {c : RoundCall F} {result : RetrievalExecutionResult}
    (h : c.outcome.1 = .ok result) : c.outcome.2.Idle ∧ result = c.result c.outcome.2 :=
  (follows_executeRoundSearch c c.initial c.initial_idle).2 result h

theorem RoundCall.outcome_induction {c : RoundCall F} {I : RoundState → Prop}
    (hinit : I c.initial) (hstep : ∀ s s', c.Step s s' → I s → I s') : I c.outcome.2 :=
  (follows_executeRoundSearch c).preserves hstep c.initial_idle hinit

theorem RoundCall.made (c : RoundCall F) : ∀ d ∈ c.searches, c.Made d := by
  refine RoundCall.outcome_induction (I := fun s => ∀ d ∈ s.log, c.Made d)
    (fun d hd => absurd hd List.not_mem_nil) ?_
  intro s s' hstep h
  rcases hstep.effect with hq | ⟨d, hs⟩ | hfin
  · rw [hq.log_eq]
    exact h
  · rw [hs.log_eq]
    exact List.forall_mem_append.mpr ⟨h, List.forall_mem_singleton.mpr hs.made⟩
  · rw [hfin.log_eq]
    exact h

end Loops

end SeekTalent

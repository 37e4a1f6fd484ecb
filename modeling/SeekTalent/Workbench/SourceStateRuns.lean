import SeekTalent.Workbench.LaneEventRuns
import SeekTalent.Workbench.SourceState

/-!
# Which job's lane is shown

A Liepin source run can be queued again when a job has ended, and each job has a lane run of its
own, named after the job. What is shown of the source is what the lane with the greatest name
reported, and the names are random: it is the lane of the job that ended last only where that name
happens to be the greatest.
-/

namespace SeekTalent

/-! ## 1. Jobs that have ended -/

/-- `f"{job_id}:lane:liepin:card"` -/
def laneRunIdOf (jobId : String) : String := jobId ++ ":lane:liepin:card"

/-- An event of the job's lane run: a `dict` that names the lane run. -/
structure LaneJobEvent (jobId : String) where
  payload : JsonObject
  nodup_keys : (payload.map (·.1)).Nodup
  get_lane : payload.get "source_lane_run_id" = some (.string (laneRunIdOf jobId))

/-- A step of the transaction that completes the job: an event of the lane, or an event of the
    session that has no key. -/
inductive LaneJobStep (jobId : String) where
  | event (event : LaneJobEvent jobId) (now : String)
  | append (draft : EventDraft) (now : String)

/-- A job that has ended, with the transaction that its lane's result was stored by. A job that
    ended without a result has stored nothing. -/
structure FinishedJob where
  jobId : String
  steps : List (LaneJobStep jobId)

section Finish

variable (lib : EventLibrary) (context : LaneContext)

def LaneJobStep.run {jobId : String} (store : LaneStore) :
    LaneJobStep jobId → Except WorkbenchError LaneStore
  | .event laneEvent now => storeLaneEvent lib store context laneEvent.payload now
  | .append draft now =>
    (appendWorkbenchEvent lib.toUnicodeTables store.log { draft with idempotencyKey := none }
      now).map fun stored => { store with log := stored.2 }

/-- The transaction is committed as a whole, or the job has ended without it. -/
def LaneStore.finish (store : LaneStore) (job : FinishedJob) : LaneStore :=
  match job.steps.foldlM (LaneJobStep.run lib context) store with
  | .ok store => store
  | .error _ => store

theorem nodup_noLatest : (([] : List LatestStateRow).map LatestStateRow.key).Nodup := List.nodup_nil

def LaneStore.afterJobs (jobs : List FinishedJob) : LaneStore :=
  jobs.foldl (LaneStore.finish lib context) { latest := ⟨[], nodup_noLatest⟩ }

def listedAfterJobs (jobs : List FinishedJob) : List LatestStateRow :=
  listRuntimeSourceLaneLatestState (LaneStore.afterJobs lib context jobs).latest
    ⟨context.userId, context.workspaceId⟩ context.sessionId

def namedLane (payload : JsonObject) : String :=
  (textField lib payload "source_lane_run_id" 256).getD ""

/-- The id that the lane run of a job is stored under. -/
def storedLane (jobId : String) : String :=
  (((Redaction.redactEventPayload lib.toUnicodeTables
    (Redaction.redactEventPayload lib.toUnicodeTables (.string (laneRunIdOf jobId)))).text?).map
      fun value => safeCandidateText lib.toUnicodeTables value 256).getD ""

end Finish

def ofLane (lane : String) (states : List LatestStateRow) : List LatestStateRow :=
  states.filter fun state => state.sourceLaneRunId = lane

/-- **The source is shown from the events of one lane**: its state, and the coverage, are read from
    the rows that would be read if there were no other lane's. -/
structure ShownFrom (lane : String) (states : List LatestStateRow) : Prop where
  source : latestBySource states .liepin = latestBySource (ofLane lane states) .liepin
  coverage : coverageState states = coverageState (ofLane lane states)

/-! ## 2. Reading -/

structure InLaneOrder (states : List LatestStateRow) : Prop where
  liepin : ∀ state ∈ states, state.sourceKind = .liepin
  ordered : states.Pairwise fun a b => a.sourceLaneRunId < b.sourceLaneRunId

section Read

variable {states : List LatestStateRow} {lane : String} {state other : LatestStateRow}

theorem mem_ofLane : state ∈ ofLane lane states ↔ state ∈ states ∧ state.sourceLaneRunId = lane := by
  simp [ofLane]

theorem InLaneOrder.ofLane (h : InLaneOrder states) : InLaneOrder (ofLane lane states) where
  liepin := fun state hstate => h.liepin state (mem_ofLane.mp hstate).1
  ordered := h.ordered.filter _

theorem InLaneOrder.nodup (h : InLaneOrder states) : states.Nodup := by
  apply h.ordered.imp
  intro a b hlt heq
  rw [heq] at hlt
  exact lt_irrefl _ hlt

theorem InLaneOrder.eq_of_lane (h : InLaneOrder states) (hstate : state ∈ states)
    (hother : other ∈ states) (hlane : state.sourceLaneRunId = other.sourceLaneRunId) :
    state = other := by
  have hnodup : (states.map (·.sourceLaneRunId)).Nodup :=
    List.pairwise_map.mpr (h.ordered.imp fun hlt => ne_of_lt hlt)
  exact List.inj_on_of_nodup_map hnodup hstate hother hlane

theorem InLaneOrder.latestBySource_eq (h : InLaneOrder states) :
    latestBySource states .liepin = states.getLast? := by
  unfold latestBySource
  rw [List.filter_eq_self.mpr fun state hstate => by simp [h.liepin state hstate]]

theorem InLaneOrder.le_of_getLast? (h : InLaneOrder states) (hlast : states.getLast? = some state)
    (hother : other ∈ states) : other.sourceLaneRunId ≤ state.sourceLaneRunId := by
  obtain ⟨earlier, rfl⟩ := List.getLast?_eq_some_iff.mp hlast
  rcases List.mem_append.mp hother with hother | hother
  · have hlt := (List.pairwise_append.mp h.ordered).2.2 other hother state (by simp)
    exact le_of_lt hlt
  · rw [List.mem_singleton.mp hother]

/-- **The row that is kept** is the lane's exactly when no lane has a greater id. -/
theorem InLaneOrder.source_iff (h : InLaneOrder states) :
    latestBySource states .liepin = latestBySource (SeekTalent.ofLane lane states) .liepin ↔
      ∀ other ∈ states, other.sourceLaneRunId ≠ lane →
        ∃ own ∈ states, own.sourceLaneRunId = lane ∧ other.sourceLaneRunId < lane := by
  rw [h.latestBySource_eq, h.ofLane.latestBySource_eq]
  constructor
  · intro heq other hother hne
    have hsome : states ≠ [] := List.ne_nil_of_mem hother
    have hlast := List.getLast?_eq_some_getLast hsome
    have hown : states.getLast hsome ∈ SeekTalent.ofLane lane states := by
      apply List.mem_of_getLast?
      rw [← heq, hlast]
    obtain ⟨hmem, hlane⟩ := mem_ofLane.mp hown
    have hle := h.le_of_getLast? hlast hother
    rw [hlane] at hle
    exact ⟨_, hmem, hlane, lt_of_le_of_ne hle hne⟩
  · intro hall
    cases hlast : states.getLast? with
    | none =>
      rw [List.getLast?_eq_none_iff.mp hlast]
      rfl
    | some last =>
      have hmem := List.mem_of_getLast? hlast
      have hlane : last.sourceLaneRunId = lane := by
        by_contra hne
        obtain ⟨own, hown, hownlane, hlt⟩ := hall last hmem hne
        have hle := h.le_of_getLast? hlast hown
        rw [hownlane] at hle
        exact absurd hlt (not_lt_of_ge hle)
      obtain ⟨earlier, rfl⟩ := List.getLast?_eq_some_iff.mp hlast
      simp [SeekTalent.ofLane, hlane]

theorem coverageState_some (hcoverage : coverageState states = some state) :
    state ∈ states ∧ state.coverage?.isSome ∧
      ∀ other ∈ states, other.coverage?.isSome → other.eventSeq ≤ state.eventSeq := by
  obtain ⟨hmem, hstates, hleast⟩ := Py.find?_sortedBy hcoverage
  refine ⟨hmem, hstates, ?_⟩
  intro other hother hsome
  exact Int.neg_le_neg_iff.mp (hleast other hother hsome)

theorem coverageState_none :
    coverageState states = none ↔ ∀ state ∈ states, ¬state.coverage?.isSome := by
  unfold coverageState byEventSeq
  simp only [List.find?_eq_none, Py.mem_sortedBy]

theorem InLaneOrder.lt_of_coverageState (h : InLaneOrder states)
    (hcoverage : coverageState states = some state) (hother : other ∈ states)
    (hsome : other.coverage?.isSome) (hlane : other.sourceLaneRunId < state.sourceLaneRunId) :
    other.eventSeq < state.eventSeq := by
  obtain ⟨hmem, -, hmost⟩ := coverageState_some hcoverage
  apply lt_of_le_of_ne (hmost other hother hsome)
  intro heq
  have hbefore : [other, state].Sublist states := by
    obtain ⟨earlier, later, rfl⟩ := List.append_of_mem hother
    have hlater : state ∈ later := by
      rcases List.mem_append.mp hmem with hmem | hmem
      · have hlt := (List.pairwise_append.mp h.ordered).2.2 state hmem other (by simp)
        exact absurd hlt (not_lt_of_gt hlane)
      · rcases List.mem_cons.mp hmem with rfl | hmem
        · exact absurd hlane (lt_irrefl _)
        · exact hmem
    apply List.Sublist.trans _ (List.sublist_append_right earlier _)
    exact (List.singleton_sublist.mpr hlater).cons_cons other
  have hnot := Py.eq_false_of_find?_sortedBy h.nodup hcoverage hbefore (by rw [heq])
  rw [hsome] at hnot
  cases hnot

/-- **Whose coverage is shown**, where no other lane has a greater id. -/
theorem InLaneOrder.coverage_iff (h : InLaneOrder states)
    (hless : ∀ other ∈ states, other.sourceLaneRunId ≠ lane → other.sourceLaneRunId < lane) :
    coverageState states = coverageState (SeekTalent.ofLane lane states) ↔
      ∀ other ∈ states, other.sourceLaneRunId ≠ lane → other.coverage?.isSome →
        ∃ own ∈ states, own.sourceLaneRunId = lane ∧ own.coverage?.isSome ∧
          other.eventSeq < own.eventSeq := by
  constructor
  · intro heq other hother hne hsome
    cases hcoverage : coverageState states with
    | none => exact absurd hsome (coverageState_none.mp hcoverage other hother)
    | some state =>
      rw [hcoverage] at heq
      obtain ⟨hown, hstates, -⟩ := coverageState_some heq.symm
      obtain ⟨hmem, hlane⟩ := mem_ofLane.mp hown
      refine ⟨state, hmem, hlane, hstates, ?_⟩
      apply h.lt_of_coverageState hcoverage hother hsome
      rw [hlane]
      exact hless other hother hne
  · intro hall
    cases hcoverage : coverageState states with
    | none =>
      symm
      apply coverageState_none.mpr
      intro state hstate
      exact coverageState_none.mp hcoverage state (mem_ofLane.mp hstate).1
    | some state =>
      obtain ⟨hmem, hstates, hmost⟩ := coverageState_some hcoverage
      have hlane : state.sourceLaneRunId = lane := by
        by_contra hne
        obtain ⟨own, hown, -, hownsome, hlt⟩ := hall state hmem hne hstates
        exact absurd hlt (not_lt_of_ge (hmost own hown hownsome))
      cases hcoverage' : coverageState (SeekTalent.ofLane lane states) with
      | none =>
        exact absurd hstates
          (coverageState_none.mp hcoverage' state (mem_ofLane.mpr ⟨hmem, hlane⟩))
      | some state' =>
        obtain ⟨hmem', hlane'⟩ := mem_ofLane.mp (coverageState_some hcoverage').1
        rw [h.eq_of_lane hmem hmem' (hlane.trans hlane'.symm)]

/-- A state of another lane that is not shown in the place of the lane's own. -/
def Yields (lane : String) (states : List LatestStateRow) (other : LatestStateRow) : Prop :=
  ∃ own ∈ states, own.sourceLaneRunId = lane ∧ other.sourceLaneRunId < lane ∧
    (other.coverage?.isSome → own.coverage?.isSome ∧ other.eventSeq < own.eventSeq)

theorem InLaneOrder.shown_iff_yields (h : InLaneOrder states) :
    ShownFrom lane states ↔
      ∀ other ∈ states, other.sourceLaneRunId ≠ lane → Yields lane states other := by
  constructor
  · intro hshown other hother hne
    have hsource := h.source_iff.mp hshown.source
    obtain ⟨own, hown, hlane, hlt⟩ := hsource other hother hne
    refine ⟨own, hown, hlane, hlt, ?_⟩
    intro hsome
    have hless : ∀ other ∈ states, other.sourceLaneRunId ≠ lane →
        other.sourceLaneRunId < lane := by
      intro other hother hne
      obtain ⟨-, -, -, hlt⟩ := hsource other hother hne
      exact hlt
    obtain ⟨own', hown', hlane', hsome', hseq⟩ :=
      (h.coverage_iff hless).mp hshown.coverage other hother hne hsome
    rw [h.eq_of_lane hown hown' (hlane.trans hlane'.symm)]
    exact ⟨hsome', hseq⟩
  · intro hall
    refine ⟨h.source_iff.mpr ?_, (h.coverage_iff ?_).mpr ?_⟩
    · intro other hother hne
      obtain ⟨own, hown, hlane, hlt, -⟩ := hall other hother hne
      exact ⟨own, hown, hlane, hlt⟩
    · intro other hother hne
      obtain ⟨-, -, -, hlt, -⟩ := hall other hother hne
      exact hlt
    · intro other hother hne hsome
      obtain ⟨own, hown, hlane, -, hcoverage⟩ := hall other hother hne
      exact ⟨own, hown, hlane, (hcoverage hsome).1, (hcoverage hsome).2⟩

end Read

/-! ## 3. Whose rows there are -/

structure LatestStateRow.InRun (row : LatestStateRow) (context : LaneContext) : Prop where
  tenant : row.tenantId = "local"
  workspace : row.workspaceId = context.workspaceId
  user : row.userId = context.userId
  session : row.sessionId = context.sessionId
  sourceRun : row.sourceRunId = context.sourceRunId
  kind : row.sourceKind = .liepin

structure LaneStore.OfJobs (lib : EventLibrary) (context : LaneContext) (jobs : List FinishedJob)
    (store : LaneStore) : Prop where
  log : ∀ row ∈ store.log.rows, row.idempotencyKey.isSome →
    ∃ job ∈ jobs, namedLane lib row.payload = storedLane lib job.jobId
  latest : ∀ row ∈ store.latest.rows, row.InRun context ∧
    ∃ job ∈ jobs, row.sourceLaneRunId = storedLane lib job.jobId

section Runs

variable {lib : EventLibrary} {context : LaneContext} {jobs : List FinishedJob}
  {store store' : LaneStore} {job : FinishedJob}

theorem namedLane_stored {jobId : String} (event : LaneJobEvent jobId) :
    namedLane lib (Redaction.redactMembers lib.toUnicodeTables [] 0
      (Redaction.redactMembers lib.toUnicodeTables [] 0 event.payload)) =
        storedLane lib jobId := by
  have hnodup : ((Redaction.redactMembers lib.toUnicodeTables [] 0 event.payload).map
      (·.1)).Nodup := Redaction.nodup_keys_redactMembers List.nodup_nil
  unfold namedLane textField storedLane
  rw [get_redactMembers_lane (by simp) hnodup, get_redactMembers_lane (by simp) event.nodup_keys,
    event.get_lane]
  rfl

theorem storedEvent_origin {log log' : EventLog} {eventName schemaVersion key now : String}
    {payload : JsonObject} {row : SessionEventRow}
    (h : storedEvent lib log context eventName schemaVersion key payload now = .ok (row, log')) :
    (row ∈ log.rows ∧ row.idempotencyKey.isSome ∧ log' = log) ∨
      (row.payload = Redaction.redactMembers lib.toUnicodeTables [] 0 payload ∧
        log'.rows = log.rows ++ [row]) := by
  unfold storedEvent at h
  cases hexisting : log.withKey context key with
  | some existing =>
    rw [hexisting] at h
    obtain ⟨rfl, rfl⟩ := Prod.mk.inj (Except.ok.inj h)
    have hfound := List.find?_some hexisting
    have hkey : existing.idempotencyKey = some key := (of_decide_eq_true hfound).2.2.2.2
    exact .inl ⟨List.mem_of_find?_eq_some hexisting, by rw [hkey]; rfl, rfl⟩
  | none =>
    rw [hexisting] at h
    dsimp only at h
    split at h
    · rename_i stored happend
      obtain ⟨row', log''⟩ := stored
      obtain ⟨rfl, rfl⟩ := Prod.mk.inj (Except.ok.inj h)
      obtain ⟨rfl, rfl⟩ := appendWorkbenchEvent_spec happend
      exact .inr ⟨rfl, rfl⟩
    · cases h
    · cases h

theorem latestStateRow_inRun (payload : JsonObject) (now : String) :
    (latestStateRow lib context payload now).InRun context :=
  ⟨rfl, rfl, rfl, rfl, rfl, rfl⟩

/-- **What an upsert leaves**: the rows there were, and the row of the payload. -/
theorem mem_upsertLatestState {latest latest' : Keyed LatestStateRow.key} {payload : JsonObject}
    {now : String} {row : LatestStateRow}
    (h : upsertLatestState lib latest context payload now = .ok latest') (hrow : row ∈ latest'.rows) :
    row ∈ latest.rows ∨ row = latestStateRow lib context payload now := by
  by_cases hlane : (latestStateRow lib context payload now).sourceLaneRunId = ""
  · unfold upsertLatestState at h
    dsimp only at h
    rw [if_pos hlane] at h
    obtain rfl := Except.ok.inj h
    exact .inl hrow
  · obtain ⟨hothers, hown⟩ := upsertLatestState_spec hlane h
    have hlookup := Keyed.mem_rows_iff.mp hrow
    by_cases hkey : row.key = (latestStateRow lib context payload now).key
    · rw [hkey] at hlookup
      rcases hown with ⟨existing, hexisting, -, hkept⟩ | ⟨-, hnew⟩
      · rw [hkept] at hlookup
        obtain rfl := Option.some.inj hlookup
        exact .inl (Keyed.lookup_eq_some_iff.mp hexisting).1
      · rw [hnew] at hlookup
        exact .inr (Option.some.inj hlookup).symm
    · rw [hothers _ hkey] at hlookup
      exact .inl (Keyed.mem_rows_iff.mpr hlookup)

/-- **One event** of a job that is among them. -/
theorem LaneStore.OfJobs.event (h : store.OfJobs lib context jobs) (hjob : job ∈ jobs)
    (event : LaneJobEvent job.jobId) {now : String}
    (hstep : storeLaneEvent lib store context event.payload now = .ok store') :
    store'.OfJobs lib context jobs := by
  unfold storeLaneEvent at hstep
  cases hpayload : runtimeSourceLaneEventPayload lib event.payload with
  | none =>
    rw [hpayload] at hstep
    obtain rfl := Except.ok.inj hstep
    exact h
  | some payload =>
    rw [hpayload] at hstep
    have hredacted : payload = Redaction.redactMembers lib.toUnicodeTables [] 0 event.payload := by
      unfold runtimeSourceLaneEventPayload at hpayload
      split at hpayload
      · exact (Option.some.inj hpayload).symm
      · cases hpayload
    subst hredacted
    obtain ⟨eventType, -, hstep⟩ := Stateful.bind_eq_ok hstep
    obtain ⟨schemaVersion, -, hstep⟩ := Stateful.bind_eq_ok hstep
    obtain ⟨laneText, -, hstep⟩ := Stateful.bind_eq_ok hstep
    obtain ⟨attemptText, -, hstep⟩ := Stateful.bind_eq_ok hstep
    obtain ⟨eventSeqText, -, hstep⟩ := Stateful.bind_eq_ok hstep
    unfold appendRuntimeSourceLaneEvent at hstep
    dsimp only at hstep
    split at hstep
    · cases hstep
    obtain ⟨⟨row, log⟩, hstored, hstep⟩ := Stateful.bind_eq_ok hstep
    obtain ⟨latest, hupsert, hstep⟩ := Stateful.bind_eq_ok hstep
    obtain rfl := Except.ok.inj hstep
    -- the event that is stored names the lane of a job, its own or that of the event there was
    have hnamed : ∃ job ∈ jobs, namedLane lib row.payload = storedLane lib job.jobId := by
      rcases storedEvent_origin hstored with ⟨hmem, hkeyed, -⟩ | ⟨hnew, -⟩
      · exact h.log row hmem hkeyed
      · refine ⟨job, hjob, ?_⟩
        rw [hnew]
        exact namedLane_stored event
    constructor
    · intro other hother hkeyed
      rcases storedEvent_origin hstored with ⟨-, -, hlog⟩ | ⟨-, hlog⟩
      · rw [hlog] at hother
        exact h.log other hother hkeyed
      · rw [hlog] at hother
        rcases List.mem_append.mp hother with hother | hother
        · exact h.log other hother hkeyed
        · rw [List.mem_singleton.mp hother]
          exact hnamed
    · intro other hother
      rcases mem_upsertLatestState hupsert hother with hold | hnew
      · exact h.latest other hold
      · subst hnew
        exact ⟨latestStateRow_inRun row.payload now, hnamed⟩

theorem LaneStore.OfJobs.append (h : store.OfJobs lib context jobs) {draft : EventDraft}
    {now : String} {stored : SessionEventRow × EventLog}
    (happend : appendWorkbenchEvent lib.toUnicodeTables store.log
      { draft with idempotencyKey := none } now = .ok stored) :
    { store with log := stored.2 : LaneStore }.OfJobs lib context jobs := by
  obtain ⟨row, log'⟩ := stored
  obtain ⟨rfl, rfl⟩ := appendWorkbenchEvent_spec happend
  refine ⟨?_, h.latest⟩
  intro other hother hkeyed
  rcases List.mem_append.mp hother with hother | hother
  · exact h.log other hother hkeyed
  · rw [List.mem_singleton.mp hother] at hkeyed
    cases hkeyed

theorem LaneStore.OfJobs.steps (h : store.OfJobs lib context jobs) (hjob : job ∈ jobs)
    {steps : List (LaneJobStep job.jobId)}
    (hsteps : steps.foldlM (LaneJobStep.run lib context) store = .ok store') :
    store'.OfJobs lib context jobs := by
  induction steps generalizing store with
  | nil =>
    obtain rfl := Except.ok.inj hsteps
    exact h
  | cons step steps ih =>
    rw [List.foldlM_cons] at hsteps
    obtain ⟨middle, hstep, hrest⟩ := Stateful.bind_eq_ok hsteps
    cases step with
    | event event now => exact ih (h.event hjob event hstep) hrest
    | append draft now =>
      obtain ⟨stored, happend, rfl⟩ := Stateful.map_eq_ok hstep
      exact ih (h.append happend) hrest

theorem LaneStore.OfJobs.finish (h : store.OfJobs lib context jobs) (hjob : job ∈ jobs) :
    (store.finish lib context job).OfJobs lib context jobs := by
  unfold LaneStore.finish
  split
  · rename_i store' hsteps
    exact h.steps hjob hsteps
  · exact h

/-- **After the jobs** there are no rows but those of their lanes. -/
theorem ofJobs_afterJobs (lib : EventLibrary) (context : LaneContext) (jobs : List FinishedJob) :
    (LaneStore.afterJobs lib context jobs).OfJobs lib context jobs := by
  unfold LaneStore.afterJobs
  apply Stateful.foldl_induction (fun _ job => job ∈ jobs)
  · intro store job hjob h
    exact h.finish hjob
  · constructor
    · intro row hrow
      cases hrow
    · intro row hrow
      cases hrow
  · intro first job third hjobs
    rw [hjobs]
    simp

/-! ## 4. What the page lists -/

theorem inLaneOrder_listed (lib : EventLibrary) (context : LaneContext) (jobs : List FinishedJob) :
    InLaneOrder (listedAfterJobs lib context jobs) := by
  have hrows := (ofJobs_afterJobs lib context jobs).latest
  have hinRun : ∀ state ∈ listedAfterJobs lib context jobs, state.InRun context := by
    intro state hstate
    exact (hrows state (List.mem_filter.mp (Py.mem_sortedBy.mp hstate)).1).1
  have hplaces : (((LaneStore.afterJobs lib context jobs).latest.rows.filter fun row =>
      row.tenantId = "local" ∧ row.workspaceId = context.workspaceId ∧
        row.userId = context.userId ∧ row.sessionId = context.sessionId).map
          LatestStateRow.place).Nodup := by
    apply List.Nodup.map_on _ ((List.Nodup.of_map _ (Keyed.nodup _)).filter _)
    intro row hrow other hother hplace
    have hrow := (List.mem_filter.mp hrow).1
    have hother := (List.mem_filter.mp hother).1
    have hrun := (hrows row hrow).1
    have hrun' := (hrows other hother).1
    apply List.inj_on_of_nodup_map (Keyed.nodup _) hrow hother
    have hlane : row.sourceLaneRunId = other.sourceLaneRunId := congrArg (·.2) hplace
    simp only [LatestStateRow.key, hrun.tenant, hrun.workspace, hrun.user, hrun.session,
      hrun.sourceRun, hrun'.tenant, hrun'.workspace, hrun'.user, hrun'.session, hrun'.sourceRun,
      hlane]
  constructor
  · intro state hstate
    exact (hinRun state hstate).kind
  · have hordered := Py.pairwise_lt_sortedBy hplaces
    apply List.Pairwise.imp_of_mem _ hordered
    intro state other hstate hother hlt
    have hkind := (hinRun state hstate).kind
    have hkind' := (hinRun other hother).kind
    rcases Prod.Lex.toLex_lt_toLex.mp hlt with hlt | ⟨-, hlt⟩
    · rw [hkind, hkind'] at hlt
      exact absurd hlt (lt_irrefl _)
    · exact hlt

theorem exists_job_of_listed {state : LatestStateRow}
    (hstate : state ∈ listedAfterJobs lib context jobs) :
    ∃ job ∈ jobs, state.sourceLaneRunId = storedLane lib job.jobId :=
  ((ofJobs_afterJobs lib context jobs).latest state
    (List.mem_filter.mp (Py.mem_sortedBy.mp hstate)).1).2

/-- **When the job that ended last is shown.** After any jobs the source's state and the coverage
are read from the lane of the last one exactly when every other job whose lane has a row yields to
it: its lane has the smaller id, and where its row states a coverage the last one's states one too
and counts more events. -/
theorem shownFrom_iff (lib : EventLibrary) (context : LaneContext) (earlier : List FinishedJob)
    (last : FinishedJob) :
    ShownFrom (storedLane lib last.jobId) (listedAfterJobs lib context (earlier ++ [last])) ↔
      ∀ job ∈ earlier, storedLane lib job.jobId ≠ storedLane lib last.jobId →
        ∀ other ∈ ofLane (storedLane lib job.jobId)
            (listedAfterJobs lib context (earlier ++ [last])),
          Yields (storedLane lib last.jobId) (listedAfterJobs lib context (earlier ++ [last]))
            other := by
  rw [(inLaneOrder_listed lib context (earlier ++ [last])).shown_iff_yields]
  constructor
  · intro hall job hjob hne other hother
    obtain ⟨hmem, hlane⟩ := mem_ofLane.mp hother
    apply hall other hmem
    rw [hlane]
    exact hne
  · intro hall other hother hne
    obtain ⟨job, hjob, hlane⟩ := exists_job_of_listed hother
    rcases List.mem_append.mp hjob with hjob | hjob
    · apply hall job hjob
      · rw [← hlane]
        exact hne
      · exact mem_ofLane.mpr ⟨hother, hlane⟩
    · rw [List.mem_singleton.mp hjob] at hlane
      exact absurd hlane hne

end Runs

/-! ## 5. A lane that does not yield -/

def endPayload (jobId eventType status : String) : JsonObject :=
  [("schema_version", .string "v1"), ("source_lane_run_id", .string (laneRunIdOf jobId)),
    ("attempt", .number 1), ("event_seq", .number 1), ("event_type", .string eventType),
    ("status", .string status)]

theorem endPayload_nodup (jobId eventType status : String) :
    ((endPayload jobId eventType status).map (·.1)).Nodup := by
  show ["schema_version", "source_lane_run_id", "attempt", "event_seq", "event_type",
    "status"].Nodup
  decide

theorem endPayload_lane (jobId eventType status : String) :
    (endPayload jobId eventType status).get "source_lane_run_id" =
      some (.string (laneRunIdOf jobId)) := by
  simp [endPayload, JsonObject.get]

def endedJob (jobId eventType status : String) : FinishedJob where
  jobId
  steps := [.event
    { payload := endPayload jobId eventType status
      nodup_keys := endPayload_nodup jobId eventType status
      get_lane := endPayload_lane jobId eventType status } ""]

/-- A job that was blocked, and one that was started after it and completed. -/
def sampleEnded : List FinishedJob :=
  [endedJob "job_f" "b" "blocked", endedJob "job_0" "c" "completed"]

def sampleLaneContext : LaneContext := ⟨"workspace", "user", "session", "src"⟩

theorem latest_sampleEnded :
    (latestBySource (listedAfterJobs .ascii sampleLaneContext sampleEnded) .liepin).map
        (·.sourceLaneRunId) = some "job_f:lane:liepin:card" ∧
      (latestBySource (ofLane (storedLane .ascii "job_0")
        (listedAfterJobs .ascii sampleLaneContext sampleEnded)) .liepin).map
          (·.sourceLaneRunId) = some "job_0:lane:liepin:card" := by
  decide +kernel

/-- The first job's lane is shown: the source is blocked, although its last job completed. -/
theorem not_shownFrom :
    ¬∀ (lib : EventLibrary) (context : LaneContext) (earlier : List FinishedJob)
      (last : FinishedJob), ((earlier ++ [last]).map (·.jobId)).Nodup →
        ShownFrom (storedLane lib last.jobId)
          (listedAfterJobs lib context (earlier ++ [last])) := by
  intro h
  have hshown := h EventLibrary.ascii sampleLaneContext [endedJob "job_f" "b" "blocked"]
    (endedJob "job_0" "c" "completed") (by simp [endedJob])
  change ShownFrom (storedLane EventLibrary.ascii "job_0")
    (listedAfterJobs EventLibrary.ascii sampleLaneContext sampleEnded) at hshown
  obtain ⟨hlast, howner⟩ := latest_sampleEnded
  rw [← hshown.source, hlast] at howner
  exact absurd howner (by decide)

end SeekTalent

import SeekTalent.Workbench.Calls

/-!
# What the transactions write

One lemma for each transaction says what it can write; from these follow the tables that
a call leaves alone. What a transaction does to the jobs and to the ledger of detail pages is
the subject of the modules that follow.
-/

namespace SeekTalent

open Stateful (bind_eq_ok)

namespace WorkbenchStore

variable {store store' : WorkbenchStore} {user : WorkbenchUser}
variable {sessionId sourceRunId jobId connectionId : String}
variable {providerAccountHash complianceGateRef : Option String}
variable {context : WorkbenchSourceRunJobContext} {now : Instant} {lib : WorkbenchLibrary}
variable {answer : Option SourceConnectionRow} {mode : DetailOpenMode}

/-! ## 1. Sessions and triage -/

theorem createWorkbenchSession_ok {session answer : SessionRow}
    {sources : List (RuntimeSourceKind × String)}
    (hok : createWorkbenchSession session sources store = .ok (store', answer)) :
    ∃ connected sessions sourceRuns triages, store.sessions.insert session = some sessions ∧
      insertSourceRuns (sources.map
        (newSourceRun ⟨session.userId, session.workspaceId⟩ session.sessionId connected))
        store.sourceRuns = .ok sourceRuns ∧
      store.triages.insert
        { sessionId := session.sessionId
          workspaceId := session.workspaceId
          userId := session.userId } = some triages ∧
      store' = { store with sessions, sourceRuns, triages } := by
  obtain ⟨sessions, hsessions, hok⟩ := bind_eq_ok hok
  obtain ⟨sourceRuns, hruns, hok⟩ := bind_eq_ok hok
  obtain ⟨triages, htriages, hok⟩ := bind_eq_ok hok
  obtain ⟨rfl, -⟩ := Prod.mk.inj (Except.ok.inj hok)
  exact ⟨_, sessions, sourceRuns, triages, insert_of_insertOrRaise hsessions, hruns,
    insert_of_insertOrRaise htriages, rfl⟩

def redraft (criteria : TriageCriteria) (row : RequirementTriageRow) : RequirementTriageRow :=
  { row with status := .draft, criteria := criteria.stored, approvedAt := none }

theorem redraft_sessionId (criteria : TriageCriteria) (row : RequirementTriageRow) :
    (redraft criteria row).sessionId = row.sessionId := rfl

def markApproved (now : Instant) (row : RequirementTriageRow) : RequirementTriageRow :=
  { row with status := .approved, approvedAt := some now }

theorem markApproved_sessionId (now : Instant) (row : RequirementTriageRow) :
    (markApproved now row).sessionId = row.sessionId := rfl

theorem updateRequirementTriage_ok {criteria : TriageCriteria}
    {answer : Option RequirementTriageRow}
    (hok : updateRequirementTriage user sessionId criteria store = .ok (store', answer)) :
    (store.sessionExistsForUser user sessionId = false ∧ store' = store) ∨
    (store.sessionExistsForUser user sessionId = true ∧
      store' = { store with
        triages := store.triages.update (isTriageOf user sessionId) (redraft criteria)
          (redraft_sessionId criteria) }) := by
  unfold updateRequirementTriage at hok
  cases hexists : store.sessionExistsForUser user sessionId with
  | false =>
    rw [hexists] at hok
    cases hok
    exact .inl ⟨rfl, rfl⟩
  | true =>
    rw [hexists, if_pos rfl] at hok
    right
    dsimp only at hok
    split at hok
    · cases hok
    · cases hok
      exact ⟨rfl, rfl⟩

theorem approveRequirementTriage_ok {answer : Option RequirementTriageRow}
    (hok : approveRequirementTriage user sessionId now store = .ok (store', answer)) :
    (store' = store ∧ answer = none) ∨
    (store.sessionExistsForUser user sessionId = true ∧
      store' = { store with
        triages := store.triages.update (isTriageOf user sessionId) (markApproved now)
          (markApproved_sessionId now) } ∧
      answer = store'.triages.lookup sessionId) := by
  unfold approveRequirementTriage at hok
  cases hexists : store.sessionExistsForUser user sessionId with
  | false =>
    rw [hexists] at hok
    cases hok
    exact .inl ⟨rfl, rfl⟩
  | true =>
    rw [hexists, if_pos rfl] at hok
    dsimp only at hok
    split at hok
    · cases hok
      exact .inl ⟨rfl, rfl⟩
    · split at hok
      · cases hok
        exact .inr ⟨rfl, rfl, rfl⟩
      · cases hok

/-! ## 2. The connection -/

theorem getOrCreateLiepinSourceConnection_ok {answer : SourceConnectionRow × Bool}
    (hok : getOrCreateLiepinSourceConnection user connectionId store = .ok (store', answer)) :
    store' = store ∨ ∃ sourceConnections, store.liepinConnectionForUser user = none ∧
      store.sourceConnections.insert
        { connectionId, workspaceId := user.workspaceId, userId := user.userId } =
          some sourceConnections ∧
      store' = { store with sourceConnections } := by
  unfold getOrCreateLiepinSourceConnection at hok
  split at hok
  · cases hok
    exact .inl rfl
  · rename_i hnone
    obtain ⟨sourceConnections, hinsert, hok⟩ := bind_eq_ok hok
    obtain ⟨rfl, -⟩ := Prod.mk.inj (Except.ok.inj hok)
    exact .inr ⟨sourceConnections, hnone, insert_of_insertOrRaise hinsert, rfl⟩

def SetsStatus (set : SourceConnectionRow → SourceConnectionRow) (status : SourceConnectionStatus) :
    Prop :=
  ∀ row, (set row).connectionId = row.connectionId ∧ (set row).workspaceId = row.workspaceId ∧
    (set row).userId = row.userId ∧ (set row).status = status

theorem requeueSourceRun_sourceRunId (row : SourceRunRow) :
    (requeueSourceRun row).sourceRunId = row.sourceRunId := rfl

/-- The transaction changes nothing, or it sets the status of the connection; with it, runs that
    are blocked may go back to the queue. -/
def WritesConnection (store store' : WorkbenchStore) (connectionId : String)
    (status : SourceConnectionStatus) : Prop :=
  store' = store ∨ ∃ set, ∃ hset : ∀ row, (set row).connectionId = row.connectionId,
    SetsStatus set status ∧ (store' = store.updateConnection connectionId set hset ∨
      ∃ p : SourceRunRow → Bool, (∀ row, p row = true → row.status = .blocked) ∧
        store' = { store.updateConnection connectionId set hset with
          sourceRuns := store.sourceRuns.update p requeueSourceRun requeueSourceRun_sourceRunId })

theorem startLiepinLoginHandoff_ok
    (hok : startLiepinLoginHandoff user connectionId providerAccountHash complianceGateRef store =
      .ok (store', answer)) : WritesConnection store store' connectionId .loginInProgress := by
  unfold startLiepinLoginHandoff at hok
  split at hok
  · cases hok
    exact .inl rfl
  · cases hok
    refine .inr ⟨_, _, ?_, .inl rfl⟩
    exact fun _ => ⟨rfl, rfl, rfl, rfl⟩

theorem markLiepinConnectionConnected_ok
    (hok : markLiepinConnectionConnected user connectionId providerAccountHash complianceGateRef
      store = .ok (store', answer)) : WritesConnection store store' connectionId .connected := by
  unfold markLiepinConnectionConnected at hok
  split at hok
  · cases hok
    exact .inl rfl
  · cases hok
    refine .inr ⟨_, _, ?_, .inr ⟨_, ?_, rfl⟩⟩
    · exact fun _ => ⟨rfl, rfl, rfl, rfl⟩
    · simp +contextual

theorem markLiepinConnectionLoginRequired_ok {about : Option (String × String)}
    (hok : markLiepinConnectionLoginRequired user connectionId about store = .ok (store', answer)) :
    WritesConnection store store' connectionId .loginRequired := by
  unfold markLiepinConnectionLoginRequired at hok
  split at hok
  · cases hok
    exact .inl rfl
  · split at hok
    · cases hok
      exact .inl rfl
    · cases hok
      refine .inr ⟨_, _, ?_, .inl rfl⟩
      exact fun _ => ⟨rfl, rfl, rfl, rfl⟩

theorem markLiepinConnectionConnectedForSourceRun_ok {accountHash : String}
    (hok : markLiepinConnectionConnectedForSourceRun user connectionId sessionId sourceRunId
      accountHash complianceGateRef store = .ok (store', answer)) :
    WritesConnection store store' connectionId .connected := by
  unfold markLiepinConnectionConnectedForSourceRun at hok
  split at hok
  · cases hok
    exact .inl rfl
  · split at hok
    · cases hok
      exact .inl rfl
    · cases hok
      refine .inr ⟨_, _, ?_, .inr ⟨_, ?_, rfl⟩⟩
      · exact fun _ => ⟨rfl, rfl, rfl, rfl⟩
      · simp +contextual

theorem markLiepinConnectionConnectedWithoutSourceRuns_ok
    (hok : markLiepinConnectionConnectedWithoutSourceRuns user connectionId providerAccountHash
      complianceGateRef store = .ok (store', answer)) :
    WritesConnection store store' connectionId .connected := by
  unfold markLiepinConnectionConnectedWithoutSourceRuns at hok
  split at hok
  · cases hok
    exact .inl rfl
  · cases hok
    refine .inr ⟨_, _, ?_, .inl rfl⟩
    exact fun _ => ⟨rfl, rfl, rfl, rfl⟩

/-! ## 3. Jobs -/

theorem blockSourceRunForStartProbe_ok {answer : Option SourceRunRow}
    (hok : blockSourceRunForStartProbe user sessionId sourceRunId store = .ok (store', answer)) :
    store' = store ∨ ∃ run, ∃ p : SourceRunRow → Bool,
      store.sourceRunForUser user sessionId sourceRunId = some run ∧ ¬store.probeKeeps run ∧
      (∀ row, p row = true → row.sourceRunId = sourceRunId) ∧
      store' = { store with
        sourceRuns := store.sourceRuns.update p
          (fun row => { row with status := .blocked, authState := .loginRequired })
          fun _ => rfl } := by
  unfold blockSourceRunForStartProbe at hok
  split at hok
  · cases hok
    exact .inl rfl
  · rename_i run hrun
    split at hok
    · cases hok
      exact .inl rfl
    · rename_i hguard
      cases hok
      refine .inr ⟨run, _, hrun, (not_or.mp hguard).2, ?_, rfl⟩
      simp +contextual

theorem sourceRunForUser_eq_some {run : SourceRunRow}
    (h : store.sourceRunForUser user sessionId sourceRunId = some run) :
    store.sourceRuns.lookup sourceRunId = some run ∧
      ∃ session, store.sessions.lookup sessionId = some session := by
  obtain ⟨hrun, hscope⟩ := Option.filter_eq_some_iff.mp h
  simp only [decide_eq_true_eq] at hscope
  obtain ⟨rfl, -, -, hsession⟩ := hscope
  obtain ⟨session, hsession, -⟩ := (Option.any_eq_true ..).mp hsession
  exact ⟨hrun, session, hsession⟩

/-- **What a start does**: it finds a job and changes nothing, or it queues a new one for a run
    that is not over, of a session whose triage is approved. -/
theorem startSourceRunJob_ok {idempotencyKey : Option String}
    {answer : Option (SourceRunRow × SourceRunJobRow × Bool)}
    (hok : startSourceRunJob user sessionId sourceRunId idempotencyKey jobId now store =
      .ok (store', answer)) :
    store' = store ∨ ∃ run triage job table,
      store.sourceRuns.lookup sourceRunId = some run ∧ ¬run.status.Terminal ∧
      (∃ session, store.sessions.lookup sessionId = some session) ∧
      store.triages.lookup sessionId = some triage ∧ triage.status = .approved ∧
      store.existingJob sourceRunId idempotencyKey = none ∧
      job.jobId = jobId ∧ job.sessionId = sessionId ∧ job.sourceRunId = sourceRunId ∧
      job.status = .queued ∧ store.sourceRunJobs.insert job = some table ∧
      ∃ authState, store' = { store with sourceRunJobs := table }.updateSourceRun sourceRunId
        (fun row => { row with status := .queued, authState }) fun _ => rfl := by
  unfold startSourceRunJob at hok
  split at hok
  · cases hok
    exact .inl rfl
  · rename_i run hrun
    obtain ⟨authState, -, hok⟩ := bind_eq_ok hok
    split at hok
    · cases hok
    rename_i triage htriage
    split at hok
    · cases hok
    rename_i happroved
    split at hok
    · obtain ⟨rfl, -⟩ := Prod.mk.inj (Except.ok.inj hok)
      exact .inl rfl
    rename_i hexisting
    split at hok
    · cases hok
    rename_i hopen
    obtain ⟨table, hinsert, hok⟩ := bind_eq_ok hok
    obtain ⟨rfl, -⟩ := Prod.mk.inj (Except.ok.inj hok)
    right
    obtain ⟨hlookup, hsession⟩ := sourceRunForUser_eq_some hrun
    exact ⟨run, triage, _, table, hlookup, hopen, hsession, htriage, not_not.mp happroved, hexisting, rfl, rfl, rfl, rfl, insert_of_insertOrRaise hinsert,
      authState, rfl⟩

theorem startSourceRunJob_none {idempotencyKey : Option String}
    (hok : startSourceRunJob user sessionId sourceRunId idempotencyKey jobId now store =
      .ok (store', none)) : store' = store := by
  unfold startSourceRunJob at hok
  split at hok
  · cases hok
    rfl
  · rename_i run hrun
    obtain ⟨authState, -, hok⟩ := bind_eq_ok hok
    split at hok
    · cases hok
    split at hok
    · cases hok
    split at hok
    · cases hok
    split at hok
    · cases hok
    obtain ⟨table, -, hok⟩ := bind_eq_ok hok
    obtain ⟨-, hanswer⟩ := Prod.mk.inj (Except.ok.inj hok)
    -- the run is there, so the answer is
    rw [Option.map_eq_none_iff, lookup_updateSourceRun, if_pos rfl, Option.map_eq_none_iff] at hanswer
    have hlookup := (sourceRunForUser_eq_some hrun).1
    rw [hanswer] at hlookup
    cases hlookup

def markClaimed (ownerId : String) (leaseExpiresAt : Instant) (row : SourceRunJobRow) :
    SourceRunJobRow :=
  { row with
    status := .running
    leaseOwner := some ownerId
    leaseExpiresAt := some leaseExpiresAt
    attemptCount := row.attemptCount + 1 }

theorem markClaimed_jobId (ownerId : String) (leaseExpiresAt : Instant) (row : SourceRunJobRow) :
    (markClaimed ownerId leaseExpiresAt row).jobId = row.jobId := rfl

/-- **What a claim does**: there is nothing to claim, or the next job starts to run, and the
    context has the triage as it is now. -/
theorem claimNextSourceRunJob_ok {ownerId : String} {leaseExpiresAt : Instant}
    {sourceKind : Option RuntimeSourceKind} {context : Option WorkbenchSourceRunJobContext}
    (hok : claimNextSourceRunJob ownerId leaseExpiresAt sourceKind store = .ok (store', context)) :
    (store.nextQueuedJob sourceKind = none ∧ store' = store ∧ context = none) ∨
    ∃ row session triage, store.nextQueuedJob sourceKind = some row ∧
      store.sessions.lookup row.sessionId = some session ∧
      store.triages.lookup row.sessionId = some triage ∧
      context = some ⟨markClaimed ownerId leaseExpiresAt row, session, triage⟩ ∧
      store' = (store.updateJob row.jobId (markClaimed ownerId leaseExpiresAt)
        (markClaimed_jobId ownerId leaseExpiresAt)).updateSourceRun row.sourceRunId
          (fun run => { run with status := .running }) fun _ => rfl := by
  unfold claimNextSourceRunJob at hok
  split at hok
  · rename_i hnone
    cases hok
    exact .inl ⟨hnone, rfl, rfl⟩
  · rename_i row hrow
    dsimp only at hok
    split at hok
    · rename_i session triage hsession htriage
      obtain ⟨rfl, rfl⟩ := Prod.mk.inj (Except.ok.inj hok)
      exact .inr ⟨row, session, triage, hrow, hsession, htriage, rfl, rfl⟩
    · cases hok

theorem finishSourceRunJob_ok {outcome : JobOutcome} {answer : Unit}
    (hok : finishSourceRunJob jobId outcome store = .ok (store', answer)) :
    store' = store ∨ ∃ row, store.sourceRunJobs.lookup jobId = some row ∧
      row.status = .running ∧ store' = store.finishSourceRunJobConn row outcome none := by
  unfold finishSourceRunJob at hok
  split at hok
  · cases hok
    exact .inl rfl
  · rename_i row hrow
    split at hok
    · cases hok
      exact .inl rfl
    · rename_i hrunning
      cases hok
      exact .inr ⟨row, hrow, not_not.mp hrunning, rfl⟩

theorem completeCtsSourceRun_ok {artifacts : CtsArtifacts} {answer : List String}
    (hok : completeCtsSourceRun lib context artifacts now store = .ok (store', answer)) :
    store' = store ∨ ∃ row attached set,
      ∃ hset : ∀ run : SourceRunRow, (set run).sourceRunId = run.sourceRunId,
      store.sourceRunJobs.lookup context.job.jobId = some row ∧ row.status = .running ∧
      store.attachGivenRuntimeRunId context (nonempty (artifacts.runId.map Py.strip)) =
        .ok attached ∧
      (∀ run, (set run).detailOpenUsedCount = run.detailOpenUsedCount ∧
        (set run).detailOpenBlockedCount = run.detailOpenBlockedCount) ∧
      store' = ((persistCtsCandidateResults lib context now artifacts.finalCandidates
        attached).1.updateSourceRun context.job.sourceRunId set hset).finishSourceRunJobConn row
          .completed none := by
  unfold completeCtsSourceRun at hok
  split at hok
  · cases hok
    exact .inl rfl
  rename_i row hrow
  dsimp only at hok
  split at hok
  · split at hok
    · cases hok
      exact .inl rfl
    · obtain ⟨_, -, hok⟩ := bind_eq_ok hok
      cases hok
      exact .inl rfl
  · rename_i hrunning
    obtain ⟨attached, hattached, hok⟩ := bind_eq_ok hok
    obtain ⟨rfl, -⟩ := Prod.mk.inj (Except.ok.inj hok)
    refine .inr ⟨row, attached, _, _, hrow, not_not.mp hrunning, hattached, ?_, rfl⟩
    exact fun _ => ⟨rfl, rfl⟩

theorem completeLiepinCardSourceRun_ok {result : LiepinLaneResult}
    {answer : List String}
    (hok : completeLiepinCardSourceRun lib context result now store = .ok (store', answer)) :
    store' = store ∨ ∃ row persisted set,
      ∃ hset : ∀ run : SourceRunRow, (set run).sourceRunId = run.sourceRunId,
      store.sourceRunJobs.lookup context.job.jobId = some row ∧ row.status = .running ∧
      persistLiepinCardCandidateResults lib context result now store = .ok persisted ∧
      (∀ run, (set run).detailOpenUsedCount = run.detailOpenUsedCount ∧
        (set run).detailOpenBlockedCount = run.detailOpenBlockedCount) ∧
      store' = (persisted.1.updateSourceRun context.job.sourceRunId set
        hset).finishSourceRunJobConn row (liepinJobStatusFromLaneResult result)
          (some (liepinSourceRunStatusFromLaneResult result)) := by
  unfold completeLiepinCardSourceRun at hok
  split at hok
  · cases hok
    exact .inl rfl
  rename_i row hrow
  split at hok
  · cases hok
    exact .inl rfl
  · rename_i hrunning
    obtain ⟨⟨persisted, made, reviewItemIds⟩, hpersisted, hok⟩ := bind_eq_ok hok
    obtain ⟨rfl, -⟩ := Prod.mk.inj (Except.ok.inj hok)
    refine .inr ⟨row, _, _, _, hrow, not_not.mp hrunning, hpersisted, ?_, rfl⟩
    exact fun _ => ⟨rfl, rfl⟩

/-! ## 4. Requests -/

def withRequests (store : WorkbenchStore) (requests : Keyed DetailOpenRequestRow.requestId) :
    WorkbenchStore := { store with detailOpenRequests := requests }

theorem mem_of_liepinReviewTarget {reviewItemId : String} {target : CandidateEvidenceRow}
    (h : store.liepinReviewTarget user sessionId reviewItemId = some target) :
    target ∈ store.candidateEvidence.rows := by
  unfold liepinReviewTarget at h
  split at h
  · cases h
  · exact (List.mem_filter.mp (Py.mem_of_minBy h)).1

structure AskedByHand (store : WorkbenchStore) (user : WorkbenchUser)
    (sessionId reviewItemId : String) (idempotencyKey : Option String)
    (row : DetailOpenRequestRow) (target : CandidateEvidenceRow) : Prop where
  found : store.liepinReviewTarget user sessionId reviewItemId = some target
  level : target.evidenceLevel ≠ .detail
  free : store.detailOpenRequestByKey user
    (detailIdempotencyKey sessionId reviewItemId idempotencyKey) = none
  session : row.sessionId = sessionId
  run : row.sourceRunId = target.sourceRunId
  hash : row.providerCandidateKeyHash = target.providerCandidateKeyHash
  mode : row.detailOpenMode = store.detailOpenModeOf user sessionId

theorem createLiepinDetailOpenRequest_ok {reviewItemId : String} {idempotencyKey : Option String}
    {requestId ledgerId : String}
    {answer : Option (DetailOpenRequestRow × Option String)}
    (hok : createLiepinDetailOpenRequest user sessionId reviewItemId idempotencyKey requestId
      ledgerId now store = .ok (store', answer)) :
    store' = store ∨ ∃ connection row requests,
      store.connectedLiepinConnection user = some connection ∧
      (∃ target, AskedByHand store user sessionId reviewItemId idempotencyKey row target) ∧
      row.requestId = requestId ∧ row.connectionId = connection.connectionId ∧
      row.status = row.detailOpenMode.initialStatus ∧ row.ledgerId = none ∧
      store.detailOpenRequests.insert row = some requests ∧
      (row.detailOpenMode = .humanConfirm ∧ store' = store.withRequests requests ∨
        row.detailOpenMode = .bypassConfirm ∧ store' =
          ((store.withRequests requests).leaseLiepinDetailOpenRequest requestId ledgerId now).1) := by
  unfold createLiepinDetailOpenRequest at hok
  dsimp only at hok
  split at hok
  · cases hok
    exact .inl rfl
  rename_i target htarget
  split at hok
  · cases hok
  rename_i hlevel
  split at hok
  · cases hok
    exact .inl rfl
  rename_i hfree
  split at hok
  · cases hok
  rename_i connection hconnection
  obtain ⟨requests, hinsert, hok⟩ := bind_eq_ok hok
  split at hok
  · rename_i hmode
    cases hok
    exact .inr ⟨connection, _, requests, hconnection,
      ⟨target, htarget, hlevel, hfree, rfl, rfl, rfl, rfl⟩, rfl, rfl, rfl, rfl,
      insert_of_insertOrRaise hinsert, .inr ⟨hmode, rfl⟩⟩
  · rename_i hmode
    cases hok
    refine .inr ⟨connection, _, requests, hconnection,
      ⟨target, htarget, hlevel, hfree, rfl, rfl, rfl, rfl⟩, rfl, rfl, rfl, rfl,
      insert_of_insertOrRaise hinsert, .inl ⟨?_, rfl⟩⟩
    cases hdetail : store.detailOpenModeOf user sessionId with
    | humanConfirm => rfl
    | bypassConfirm => exact absurd hdetail hmode

theorem lookup_of_detailRequestRowForUser {requestId : String} {row : DetailOpenRequestRow}
    (h : store.detailRequestRowForUser user requestId = some row) :
    store.detailOpenRequests.lookup requestId = some row := (Option.filter_eq_some_iff.mp h).1

theorem approveLiepinDetailOpenRequest_ok {requestId ledgerId : String}
    {answer : Option (DetailOpenRequestRow × Option String)}
    (hok : approveLiepinDetailOpenRequest user requestId ledgerId now store =
      .ok (store', answer)) :
    store' = store ∨ ∃ row, store.detailRequestRowForUser user requestId = some row ∧
      row.status = .pending ∧
      store' = ((store.updateRequest requestId
        (fun request => { request with status := .approved })
        fun _ => rfl).leaseLiepinDetailOpenRequest requestId ledgerId now).1 := by
  unfold approveLiepinDetailOpenRequest at hok
  split at hok
  · cases hok
    exact .inl rfl
  rename_i row hrow
  split at hok
  · cases hok
  · rename_i hpending
    dsimp only at hok
    cases hok
    exact .inr ⟨row, hrow, not_not.mp hpending, rfl⟩

theorem rejectLiepinDetailOpenRequest_ok {requestId : String}
    {answer : Option DetailOpenRequestRow}
    (hok : rejectLiepinDetailOpenRequest user requestId store = .ok (store', answer)) :
    store' = store ∨ ∃ row, store.detailOpenRequests.lookup requestId = some row ∧
      row.status = .pending ∧
      store' = store.updateRequest requestId
        (fun request => { request with status := .rejected }) fun _ => rfl := by
  unfold rejectLiepinDetailOpenRequest at hok
  split at hok
  · cases hok
    exact .inl rfl
  rename_i row hrow
  split at hok
  · cases hok
  · rename_i hpending
    cases hok
    exact .inr ⟨row, lookup_of_detailRequestRowForUser hrow, not_not.mp hpending, rfl⟩

theorem updateLiepinSourceRunPolicy_ok {answer : Option DetailOpenMode}
    (hok : updateLiepinSourceRunPolicy user sessionId mode store = .ok (store', answer)) :
    ∃ policies, store' = { store with sourceRunPolicies := policies } := by
  unfold updateLiepinSourceRunPolicy at hok
  dsimp only at hok
  split at hok
  · cases hok
    exact ⟨_, rfl⟩
  · cases hok
    exact ⟨store.sourceRunPolicies, rfl⟩

/-! ## 5. What is left alone -/

structure SameScope (store store' : WorkbenchStore) : Prop where
  sessions : store'.sessions = store.sessions
  triages : store'.triages = store.triages
  sourceConnections : store'.sourceConnections = store.sourceConnections

theorem SameScope.refl (store : WorkbenchStore) : SameScope store store := ⟨rfl, rfl, rfl⟩

theorem SameScope.trans {middle : WorkbenchStore} (h : SameScope store middle)
    (h' : SameScope middle store') : SameScope store store' :=
  ⟨h'.sessions.trans h.sessions, h'.triages.trans h.triages,
    h'.sourceConnections.trans h.sourceConnections⟩

theorem sameScope_lease (store : WorkbenchStore) (requestId ledgerId : String) (now : Instant) :
    SameScope store (store.leaseLiepinDetailOpenRequest requestId ledgerId now).1 := by
  unfold leaseLiepinDetailOpenRequest
  split
  · exact .refl store
  · split
    · exact ⟨rfl, rfl, rfl⟩
    · split
      · exact ⟨rfl, rfl, rfl⟩
      · split
        · exact ⟨rfl, rfl, rfl⟩
        · exact ⟨rfl, rfl, rfl⟩

theorem sameScope_persistCtsCandidateResults (lib : WorkbenchLibrary)
    (context : WorkbenchSourceRunJobContext) (now : Instant)
    (candidates : List (Option String × Option String)) (store : WorkbenchStore) :
    SameScope store (persistCtsCandidateResults lib context now candidates store).1 := by
  induction candidates generalizing store with
  | nil => exact .refl store
  | cons candidate candidates ih =>
    unfold persistCtsCandidateResults
    split
    · exact ih store
    · dsimp only
      apply SameScope.trans _ (ih _)
      exact ⟨rfl, rfl, rfl⟩

def autoDetailKey (context : WorkbenchSourceRunJobContext) (reviewItemId : String) : String :=
  detailIdempotencyKey context.session.sessionId reviewItemId
    (some ("auto-detail:" ++ reviewItemId))

structure AskedForCard (context : WorkbenchSourceRunJobContext) (providerKeyHash : String)
    (row : DetailOpenRequestRow) : Prop where
  session : row.sessionId = context.session.sessionId
  run : row.sourceRunId = context.job.sourceRunId
  hash : row.providerCandidateKeyHash = providerKeyHash

/-- What `_create_auto_liepin_detail_open_request_conn` writes. -/
theorem createAutoLiepinDetailOpenRequest_ok
    {evidenceId reviewItemId providerKeyHash requestId : String}
    {made : Bool}
    (hok : store.createAutoLiepinDetailOpenRequest context connectionId evidenceId reviewItemId
      providerKeyHash mode requestId = .ok (store', made)) :
    (made = false ∧ store' = store) ∨ ∃ row requests, made = true ∧
      store.detailOpenRequestByKey context.user (autoDetailKey context reviewItemId) = none ∧
      row.requestId = requestId ∧ row.connectionId = connectionId ∧
      AskedForCard context providerKeyHash row ∧ row.detailOpenMode = mode ∧
      row.status = mode.initialStatus ∧ row.ledgerId = none ∧
      store.detailOpenRequests.insert row = some requests ∧
      store' = store.withRequests requests := by
  unfold createAutoLiepinDetailOpenRequest at hok
  dsimp only at hok
  split at hok
  · cases hok
    exact .inl ⟨rfl, rfl⟩
  · rename_i hnew
    obtain ⟨requests, hinsert, hok⟩ := bind_eq_ok hok
    obtain ⟨rfl, rfl⟩ := Prod.mk.inj (Except.ok.inj hok)
    exact .inr ⟨_, requests, rfl, hnew, rfl, rfl, ⟨rfl, rfl, rfl⟩, rfl, rfl, rfl,
      insert_of_insertOrRaise hinsert, rfl⟩

/-- **What the automatic request for a card does**: nothing, or it makes a request, which is
    leased at once under a policy that asks nobody. -/
theorem requestCardDetail_ok {card : LiepinCard}
    {connection : SourceConnectionRow}
    {evidenceId reviewItemId providerKeyHash : String} {made : Bool}
    (hok : store.requestCardDetail context card connection mode evidenceId reviewItemId
      providerKeyHash now = .ok (store', made)) :
    store' = store ∨ ∃ row requests,
      store.detailOpenRequestByKey context.user (autoDetailKey context reviewItemId) = none ∧
      row.requestId = card.requestId ∧ row.connectionId = connection.connectionId ∧
      AskedForCard context providerKeyHash row ∧ row.detailOpenMode = mode ∧
      row.status = row.detailOpenMode.initialStatus ∧ row.ledgerId = none ∧
      store.detailOpenRequests.insert row = some requests ∧
      (row.detailOpenMode = .humanConfirm ∧ store' = store.withRequests requests ∨
        row.detailOpenMode = .bypassConfirm ∧ store' = ((store.withRequests
          requests).leaseLiepinDetailOpenRequest card.requestId card.ledgerId now).1) := by
  obtain ⟨⟨middle, made'⟩, hmade, hlease⟩ := bind_eq_ok hok
  clear hok
  rcases createAutoLiepinDetailOpenRequest_ok hmade with ⟨rfl, rfl⟩ | ⟨row, requests, rfl, hnew,
    hrequestId, hconnectionId, hrun, rfl, hstatus, hledger, hinsert, rfl⟩
  · cases hlease
    exact .inl rfl
  · refine .inr ⟨row, requests, hnew, hrequestId, hconnectionId, hrun, rfl, hstatus, hledger, hinsert,
      ?_⟩
    cases hmode : row.detailOpenMode with
    | humanConfirm =>
      rw [hmode] at hlease
      cases hlease
      exact .inl ⟨rfl, rfl⟩
    | bypassConfirm =>
      rw [hmode] at hlease
      cases hlease
      exact .inr ⟨rfl, rfl⟩

/-- The card is worth a request, and the review item is its candidate's. -/
def WantsDetail (lib : WorkbenchLibrary) (context : WorkbenchSourceRunJobContext) (uses : Bool)
    (card : LiepinCard) (reviewItemId : String) : Prop :=
  ∃ resumeId providerKey, nonempty card.resumeId = some resumeId ∧
    nonempty ((nonempty card.sourceResumeId).or ((nonempty card.dedupKey).or card.resumeId)) =
      some providerKey ∧
    card.worthDetail lib context.triage.criteria uses = true ∧
    reviewItemId = stableId lib "review" [context.session.sessionId, "liepin", providerKey]

/-- The same, with the hash of the candidate's key. -/
def WantsDetailOf (lib : WorkbenchLibrary) (context : WorkbenchSourceRunJobContext) (uses : Bool)
    (card : LiepinCard) (reviewItemId providerKeyHash : String) : Prop :=
  ∃ resumeId providerKey, nonempty card.resumeId = some resumeId ∧
    nonempty ((nonempty card.sourceResumeId).or ((nonempty card.dedupKey).or card.resumeId)) =
      some providerKey ∧
    card.worthDetail lib context.triage.criteria uses = true ∧
    reviewItemId = stableId lib "review" [context.session.sessionId, "liepin", providerKey] ∧
    providerKeyHash = lib.sha256 providerKey

theorem WantsDetailOf.wantsDetail
    {uses : Bool} {card : LiepinCard} {reviewItemId providerKeyHash : String}
    (h : WantsDetailOf lib context uses card reviewItemId providerKeyHash) :
    WantsDetail lib context uses card reviewItemId := by
  obtain ⟨resumeId, providerKey, hresume, hkey, hworth, hid, -⟩ := h
  exact ⟨resumeId, providerKey, hresume, hkey, hworth, hid⟩

/-- **What one card writes**: nothing, its candidate, or its candidate and a request. -/
theorem persistLiepinCard_ok {uses : Bool} {connection : Option SourceConnectionRow}
    {card : LiepinCard} {progress progress' : WorkbenchStore × Nat × List String}
    (hok : persistLiepinCard lib context uses connection mode now card progress = .ok progress') :
    progress'.1 = progress.1 ∨ ∃ reviewItemId evidenceId providerKeyHash,
      progress'.1 = progress.1.writeCandidate context .liepin .card reviewItemId evidenceId
        providerKeyHash now ∨
      ∃ row made, connection = some row ∧
        WantsDetailOf lib context uses card reviewItemId providerKeyHash ∧
        (progress.1.writeCandidate context .liepin .card reviewItemId evidenceId providerKeyHash
          now).requestCardDetail context card row mode evidenceId reviewItemId providerKeyHash now =
            .ok (progress'.1, made) := by
  unfold persistLiepinCard at hok
  dsimp only at hok
  split at hok
  · rename_i hresume hkey
    split at hok
    · obtain rfl := Except.ok.inj hok
      exact .inr ⟨_, _, _, .inl rfl⟩
    · rename_i row
      split at hok
      · rename_i hwanted
        obtain ⟨⟨middle, made⟩, hmade, hok⟩ := bind_eq_ok hok
        obtain rfl := Except.ok.inj hok
        exact .inr ⟨_, _, _, .inr ⟨row, made, rfl, ⟨_, _, hresume, hkey, hwanted.2, rfl, rfl⟩,
          hmade⟩⟩
      · obtain rfl := Except.ok.inj hok
        exact .inr ⟨_, _, _, .inl rfl⟩
  · obtain rfl := Except.ok.inj hok
    exact .inl rfl

/-- **The rule for the cards of a result**: what writing a candidate keeps, and what a request
    for a card keeps, the whole loop keeps. -/
theorem persistLiepinCards_induction {uses : Bool} {connection : Option SourceConnectionRow}
     {P : WorkbenchStore → Prop} {cards : List LiepinCard}
    (hwrite : ∀ store reviewItemId evidenceId providerKeyHash, P store →
      P (store.writeCandidate context .liepin .card reviewItemId evidenceId providerKeyHash now))
    (hrequest : ∀ store store' row card evidenceId reviewItemId providerKeyHash made, P store →
      connection = some row → card ∈ cards →
      WantsDetailOf lib context uses card reviewItemId providerKeyHash →
      store.requestCardDetail context card row mode evidenceId reviewItemId
        providerKeyHash now = .ok (store', made) → P store')
    {progress progress' : WorkbenchStore × Nat × List String} (hstart : P progress.1)
    (hok : persistLiepinCards lib context uses connection mode now cards progress = .ok progress') :
    P progress'.1 := by
  induction cards generalizing progress with
  | nil =>
    obtain rfl := Except.ok.inj hok
    exact hstart
  | cons card cards ih =>
    obtain ⟨middle, hcard, hrest⟩ := bind_eq_ok hok
    refine ih ?_ ?_ hrest
    · intro store store' row card' evidenceId reviewItemId providerKeyHash made h hconnection hmem
      exact hrequest store store' row card' evidenceId reviewItemId providerKeyHash made h hconnection
        (List.mem_cons_of_mem card hmem)
    rcases persistLiepinCard_ok hcard with hsame | ⟨reviewItemId, evidenceId, providerKeyHash,
      hwritten | ⟨row, made, hconnection, hwants, hmade⟩⟩
    · rw [hsame]
      exact hstart
    · rw [hwritten]
      exact hwrite _ _ _ _ hstart
    · exact hrequest _ _ row card _ _ _ made (hwrite _ _ _ _ hstart) hconnection
        List.mem_cons_self hwants hmade

theorem sameScope_requestCardDetail {card : LiepinCard}
    {connection : SourceConnectionRow}
    {evidenceId reviewItemId providerKeyHash : String} {made : Bool}
    (hok : store.requestCardDetail context card connection mode evidenceId reviewItemId
      providerKeyHash now = .ok (store', made)) : SameScope store store' := by
  rcases requestCardDetail_ok hok with rfl | ⟨row, requests, -, -, -, -, -, -, -, -,
    ⟨-, rfl⟩ | ⟨-, rfl⟩⟩
  · exact .refl _
  · exact ⟨rfl, rfl, rfl⟩
  · apply SameScope.trans _ (sameScope_lease (store.withRequests requests) _ _ _)
    exact ⟨rfl, rfl, rfl⟩

theorem sameScope_persistLiepinCards {result : LiepinLaneResult}
    {progress : WorkbenchStore × Nat × List String}
    (hok : persistLiepinCardCandidateResults lib context result now store = .ok progress) :
    SameScope store progress.1 := by
  apply persistLiepinCards_induction (P := SameScope store) _ _ (.refl store) hok
  · intro middle _ _ _ h
    exact h.trans ⟨rfl, rfl, rfl⟩
  · intro middle middle' _ _ _ _ _ _ h _ _ _ hmade
    exact h.trans (sameScope_requestCardDetail hmade)

theorem sameScope_reconcile (rows : List SourceRunJobRow) (store : WorkbenchStore) :
    SameScope store (rows.foldl expireJob store) := by
  induction rows generalizing store with
  | nil => exact .refl store
  | cons row rows ih =>
    apply SameScope.trans _ (ih (store.expireJob row))
    exact ⟨rfl, rfl, rfl⟩

theorem sameScope_attach {runtimeRunId : Option String}
    (hok : store.attachGivenRuntimeRunId context runtimeRunId = .ok store') :
    SameScope store store' := by
  cases runtimeRunId with
  | none =>
    cases hok
    exact .refl store
  | some runtimeRunId =>
    obtain ⟨_, -, hok⟩ := bind_eq_ok hok
    cases hok
    exact ⟨rfl, rfl, rfl⟩

theorem WritesConnection.triages {status : SourceConnectionStatus}
    (h : WritesConnection store store' connectionId status) :
    store'.sessions = store.sessions ∧ store'.triages = store.triages := by
  rcases h with rfl | ⟨set, hset, -, rfl | ⟨p, -, rfl⟩⟩
  · exact ⟨rfl, rfl⟩
  · exact ⟨rfl, rfl⟩
  · exact ⟨rfl, rfl⟩

end WorkbenchStore

def WorkbenchCall.WritesTriage : WorkbenchCall → Prop
  | .createWorkbenchSession .. => True
  | .updateRequirementTriage .. => True
  | .approveRequirementTriage .. => True
  | _ => False

open WorkbenchStore

/-- **What leaves the triage alone**: every call that is not about it. -/
theorem WorkbenchCall.body_triages {lib : WorkbenchLibrary} {call : WorkbenchCall}
    {store store' : WorkbenchStore} {context : Option WorkbenchSourceRunJobContext}
    (hcall : ¬call.WritesTriage) (hok : call.body lib store = .ok (store', context)) :
    store'.sessions = store.sessions ∧ store'.triages = store.triages := by
  have hscope : SameScope store store' →
      store'.sessions = store.sessions ∧ store'.triages = store.triages :=
    fun h => ⟨h.sessions, h.triages⟩
  cases call with
  | createWorkbenchSession => exact absurd trivial hcall
  | updateRequirementTriage => exact absurd trivial hcall
  | approveRequirementTriage => exact absurd trivial hcall
  | getOrCreateLiepinSourceConnection =>
    obtain ⟨-, _, hok⟩ := silent_ok hok
    rcases getOrCreateLiepinSourceConnection_ok hok with rfl | ⟨_, -, -, rfl⟩ <;> exact ⟨rfl, rfl⟩
  | startLiepinLoginHandoff =>
    obtain ⟨-, _, hok⟩ := silent_ok hok
    exact (startLiepinLoginHandoff_ok hok).triages
  | markLiepinConnectionConnected =>
    obtain ⟨-, _, hok⟩ := silent_ok hok
    exact (markLiepinConnectionConnected_ok hok).triages
  | markLiepinConnectionLoginRequired =>
    obtain ⟨-, _, hok⟩ := silent_ok hok
    exact (markLiepinConnectionLoginRequired_ok hok).triages
  | markLiepinConnectionConnectedForSourceRun =>
    obtain ⟨-, _, hok⟩ := silent_ok hok
    exact (markLiepinConnectionConnectedForSourceRun_ok hok).triages
  | markLiepinConnectionConnectedWithoutSourceRuns =>
    obtain ⟨-, _, hok⟩ := silent_ok hok
    exact (markLiepinConnectionConnectedWithoutSourceRuns_ok hok).triages
  | blockSourceRunForStartProbe =>
    obtain ⟨-, _, hok⟩ := silent_ok hok
    rcases blockSourceRunForStartProbe_ok hok with rfl | ⟨_, _, -, -, -, rfl⟩ <;> exact ⟨rfl, rfl⟩
  | startSourceRunJob =>
    obtain ⟨-, _, hok⟩ := silent_ok hok
    rcases startSourceRunJob_ok hok with rfl |
      ⟨_, _, _, _, -, -, -, -, -, -, -, -, -, -, -, _, rfl⟩ <;>
      exact ⟨rfl, rfl⟩
  | claimNextSourceRunJob =>
    rcases claimNextSourceRunJob_ok hok with ⟨-, rfl, -⟩ | ⟨_, _, _, -, -, -, -, rfl⟩ <;>
      exact ⟨rfl, rfl⟩
  | extendSourceRunJobLease =>
    obtain ⟨-, _, hok⟩ := silent_ok hok
    cases hok
    exact ⟨rfl, rfl⟩
  | reconcileExpiredRunningJobs =>
    obtain ⟨-, _, hok⟩ := silent_ok hok
    cases hok
    exact hscope (sameScope_reconcile _ store)
  | markSourceRunCompleted =>
    obtain ⟨-, _, hok⟩ := silent_ok hok
    rcases finishSourceRunJob_ok hok with rfl | ⟨_, -, -, rfl⟩ <;> exact ⟨rfl, rfl⟩
  | markSourceRunFailed =>
    obtain ⟨-, _, hok⟩ := silent_ok hok
    rcases finishSourceRunJob_ok hok with rfl | ⟨_, -, -, rfl⟩ <;> exact ⟨rfl, rfl⟩
  | completeCtsSourceRun =>
    obtain ⟨-, _, hok⟩ := silent_ok hok
    rcases completeCtsSourceRun_ok hok with rfl | ⟨_, _, _, _, -, -, hattach, -, rfl⟩
    · exact ⟨rfl, rfl⟩
    · apply hscope
      refine (sameScope_attach hattach).trans ?_
      exact (sameScope_persistCtsCandidateResults _ _ _ _ _).trans ⟨rfl, rfl, rfl⟩
  | completeLiepinCardSourceRun =>
    obtain ⟨-, _, hok⟩ := silent_ok hok
    rcases completeLiepinCardSourceRun_ok hok with rfl | ⟨_, _, _, _, -, -, hpersist, -, rfl⟩
    · exact ⟨rfl, rfl⟩
    · exact hscope ((sameScope_persistLiepinCards hpersist).trans ⟨rfl, rfl, rfl⟩)
  | updateLiepinSourceRunPolicy =>
    obtain ⟨-, _, hok⟩ := silent_ok hok
    obtain ⟨_, rfl⟩ := updateLiepinSourceRunPolicy_ok hok
    exact ⟨rfl, rfl⟩
  | createLiepinDetailOpenRequest =>
    obtain ⟨-, _, hok⟩ := silent_ok hok
    rcases createLiepinDetailOpenRequest_ok hok with rfl | ⟨_, _, requests, -, -, -, -, -, -, -,
      ⟨-, rfl⟩ | ⟨-, rfl⟩⟩
    · exact ⟨rfl, rfl⟩
    · exact ⟨rfl, rfl⟩
    · apply hscope
      apply SameScope.trans _ (sameScope_lease (store.withRequests requests) _ _ _)
      exact ⟨rfl, rfl, rfl⟩
  | approveLiepinDetailOpenRequest =>
    obtain ⟨-, _, hok⟩ := silent_ok hok
    rcases approveLiepinDetailOpenRequest_ok hok with rfl | ⟨_, -, -, rfl⟩
    · exact ⟨rfl, rfl⟩
    · apply hscope
      refine SameScope.trans ?_ (sameScope_lease _ _ _ _)
      exact ⟨rfl, rfl, rfl⟩
  | rejectLiepinDetailOpenRequest =>
    obtain ⟨-, _, hok⟩ := silent_ok hok
    rcases rejectLiepinDetailOpenRequest_ok hok with rfl | ⟨_, -, -, rfl⟩ <;> exact ⟨rfl, rfl⟩
  | reconcileExpiredDetailOpenLeases =>
    obtain ⟨-, _, hok⟩ := silent_ok hok
    cases hok
    exact ⟨rfl, rfl⟩

end SeekTalent

import SeekTalent.Workbench.DetailReplay

/-!
# What blocks a request

Three paths ask for a lease: a request by hand under a policy that asks nobody, the approval of a
request, and a card search. Each is told that a lease is active, also where none is: the ledger
takes no second row that is marked as leased, whether the first one's lease has expired or not.
Who has reconciled the leases at that time cannot meet such a row; a card search has not.
-/

namespace SeekTalent

open Stateful (bind_eq_ok)

def activeDetailOpenLease : String := "active_detail_open_lease"

/-- A transaction, or the pass of a loop for one card, that asks for a lease. -/
inductive LeasePath where
  | manual (ask : DetailOpenAsk) (requestId ledgerId : String)
  | approval (user : WorkbenchUser) (requestId ledgerId : String)
  | automatic (context : WorkbenchSourceRunJobContext) (usesRuntimeDetailRecommendations : Bool)
      (connection : Option SourceConnectionRow) (mode : DetailOpenMode)
      (autoDetailRequestCount : Nat) (reviewItemIds : List String) (card : LiepinCard)

namespace LeasePath

def requestId : LeasePath → String
  | .manual _ requestId _ => requestId
  | .approval _ requestId _ => requestId
  | .automatic _ _ _ _ _ _ card => card.requestId

def ledgerId : LeasePath → String
  | .manual _ _ ledgerId => ledgerId
  | .approval _ _ ledgerId => ledgerId
  | .automatic _ _ _ _ _ _ card => card.ledgerId

def run (lib : WorkbenchLibrary) (now : Instant) (store : WorkbenchStore) :
    LeasePath → Except WorkbenchError WorkbenchStore
  | .manual ask requestId ledgerId =>
    (WorkbenchStore.makeRequest ask requestId ledgerId now store).map (·.1)
  | .approval user requestId ledgerId =>
    (WorkbenchStore.approveLiepinDetailOpenRequest user requestId ledgerId now store).map (·.1)
  | .automatic context uses connection mode count reviewItemIds card =>
    (WorkbenchStore.persistLiepinCard lib context uses connection mode now card
      (store, count, reviewItemIds)).map (·.1)

end LeasePath

namespace WorkbenchStore

variable {store store' middle : WorkbenchStore} {requestId ledgerId connectionId : String}
variable {now : Instant} {row request : DetailOpenRequestRow}

/-! ## 1. Leases that run, and rows in the way -/

def RunningLease (store : WorkbenchStore) (connectionId : String) (now : Instant) : Prop :=
  ∃ entry ∈ store.detailOpenLedger.rows, entry.connectionId = connectionId ∧
    entry.status = .leased ∧ ∃ expiry, entry.leaseExpiresAt = some expiry ∧ now < expiry

theorem hasActiveLease_iff :
    store.hasActiveLease connectionId now = true ↔ store.RunningLease connectionId now := by
  simp [hasActiveLease, RunningLease, Option.any_eq_true]

/-- No row is in the way of the request's: none of the connection is marked as leased, of an
    expired lease or not, and none of the actor has the request's key, or the id. -/
structure LedgerTakes (store : WorkbenchStore) (row : DetailOpenRequestRow) (ledgerId : String) :
    Prop where
  no_lease : ∀ entry ∈ store.detailOpenLedger.rows, entry.connectionId = row.connectionId →
    entry.status ≠ .leased
  key : ∀ entry ∈ store.detailOpenLedger.rows, entry.workspaceId = row.workspaceId →
    entry.actorId = row.userId → entry.idempotencyKey ≠ row.idempotencyKey
  id : store.detailOpenLedger.lookup ledgerId = none

variable (now) in
theorem ledgerTakes_iff : store.LedgerTakes row ledgerId ↔
    ∃ ledger, store.insertLedgerRow (leaseRow row ledgerId now) = some ledger := by
  rw [insertLedgerRow_leaseRow]
  constructor
  · intro h
    exact ⟨h.no_lease, h.key, h.id⟩
  · intro h
    exact ⟨h.1, h.2.1, h.2.2⟩

/-- What is asked when a lease is: a running lease or the budget answers first. -/
def LeaseTold (store : WorkbenchStore) (row : DetailOpenRequestRow) (ledgerId : String)
    (now : Instant) : Prop :=
  store.RunningLease row.connectionId now ∨
    liepinDailyDetailOpenLimit ≤ store.usedCount row.connectionId (budgetDay now) ∨
      store.LedgerTakes row ledgerId

/-- **What a lease leaves of its request**: it is blocked, with a running lease, with the budget,
    or with a row that is in the way; or it is leased. -/
theorem lease_cases (ledgerId : String) (now : Instant)
    (hrow : store.detailOpenRequests.lookup requestId = some row) :
    ∃ request, (store.leaseLiepinDetailOpenRequest requestId ledgerId now).1.detailOpenRequests.lookup
        requestId = some request ∧ request.connectionId = row.connectionId ∧
      ((request.status = .blocked ∧ request.blockedReason = some activeDetailOpenLease ∧
          (store.RunningLease row.connectionId now ∨ ¬store.LeaseTold row ledgerId now)) ∨
        (request.blockedReason ≠ some activeDetailOpenLease ∧ store.LeaseTold row ledgerId now)) := by
  obtain rfl := Keyed.key_of_lookup hrow
  have hblock : ∀ reason : String, (store.blockDetailOpenRequest row reason).detailOpenRequests.lookup
      row.requestId = some { row with status := .blocked, blockedReason := some reason } := by
    intro reason
    exact lookup_updateRequest_self
      (fun request => { request with status := .blocked, blockedReason := some reason })
      (fun _ => rfl) hrow
  unfold leaseLiepinDetailOpenRequest
  rw [hrow]
  dsimp only
  split
  · rename_i hactive
    exact ⟨_, hblock _, rfl, .inl ⟨rfl, rfl, .inl (hasActiveLease_iff.mp hactive)⟩⟩
  rename_i hactive
  split
  · rename_i hbudget
    refine ⟨_, hblock _, rfl, .inr ⟨?_, .inr (.inl hbudget)⟩⟩
    simp [activeDetailOpenLease]
  rename_i hbudget
  split
  -- the ledger does not take the row, and no lease is running
  · rename_i hinsert
    refine ⟨_, hblock _, rfl, .inl ⟨rfl, rfl, .inr ?_⟩⟩
    intro htold
    rcases htold with hrunning | hexhausted | htakes
    · exact hactive (hasActiveLease_iff.mpr hrunning)
    · exact hbudget hexhausted
    · obtain ⟨ledger, hledger⟩ := (ledgerTakes_iff now).mp htakes
      rw [hinsert] at hledger
      cases hledger
  · rename_i detailOpenLedger hinsert
    have hledger : ({ store with detailOpenLedger } : WorkbenchStore).detailOpenRequests.lookup
        row.requestId = some row := hrow
    refine ⟨{ row with ledgerId := some ledgerId, blockedReason := none }, ?_, rfl,
      .inr ⟨?_, .inr (.inr ((ledgerTakes_iff now).mpr ⟨_, hinsert⟩))⟩⟩
    · exact lookup_updateRequest_self
        (fun request => { request with ledgerId := some ledgerId, blockedReason := none })
        (fun _ => rfl) hledger
    · simp

/-! ## 2. Where a path asks for a lease -/

def autoRequest (context : WorkbenchSourceRunJobContext)
    (connectionId evidenceId reviewItemId providerKeyHash : String) (mode : DetailOpenMode)
    (requestId : String) : DetailOpenRequestRow where
  requestId
  workspaceId := context.session.workspaceId
  userId := context.session.userId
  sessionId := context.session.sessionId
  sourceRunId := context.job.sourceRunId
  connectionId
  candidateEvidenceId := evidenceId
  reviewItemId
  providerCandidateKeyHash := providerKeyHash
  detailOpenMode := mode
  status := mode.initialStatus
  idempotencyKey := autoDetailKey context reviewItemId

/-- The path comes to ask for a lease, and the request then stands like this. -/
inductive AsksFor (lib : WorkbenchLibrary) (store : WorkbenchStore) :
    LeasePath → DetailOpenRequestRow → Prop where
  | manual {ask : DetailOpenAsk} {target : CandidateEvidenceRow} {connection : SourceConnectionRow}
      {requestId ledgerId : String} (htarget : store.targetOf ask = some target)
      (hlevel : target.evidenceLevel ≠ .detail) (hfree : store.existingOf ask = none)
      (hconnection : store.connectedLiepinConnection ask.user = some connection)
      (hmode : store.detailOpenModeOf ask.user ask.sessionId = .bypassConfirm)
      (hid : store.detailOpenRequests.lookup requestId = none) :
      AsksFor lib store (.manual ask requestId ledgerId)
        (store.requestOf ask target connection requestId)
  | approval {user : WorkbenchUser} {requestId ledgerId : String} {row : DetailOpenRequestRow}
      (hrow : store.detailRequestRowForUser user requestId = some row)
      (hpending : row.status = .pending) :
      AsksFor lib store (.approval user requestId ledgerId) { row with status := .approved }
  | automatic {context : WorkbenchSourceRunJobContext} {uses : Bool}
      {connection : SourceConnectionRow} {count : Nat} {reviewItemIds : List String}
      {card : LiepinCard} {resumeId providerKey : String}
      (hresume : nonempty card.resumeId = some resumeId)
      (hkey : nonempty ((nonempty card.sourceResumeId).or ((nonempty card.dedupKey).or
        card.resumeId)) = some providerKey)
      (hcount : count < liepinAutoDetailRequestLimit)
      (hworth : card.worthDetail lib context.triage.criteria uses = true)
      (hfree : store.detailOpenRequestByKey context.user (autoDetailKey context
        (stableId lib "review" [context.session.sessionId, "liepin", providerKey])) = none)
      (hid : store.detailOpenRequests.lookup card.requestId = none) :
      AsksFor lib store (.automatic context uses (some connection) .bypassConfirm count
        reviewItemIds card)
        (autoRequest context connection.connectionId
          (stableId lib "evidence" [context.job.sourceRunId, providerKey, "card"])
          (stableId lib "review" [context.session.sessionId, "liepin", providerKey])
          (lib.sha256 providerKey) .bypassConfirm card.requestId)

structure AskedWith (store middle : WorkbenchStore) (requestId : String)
    (row : DetailOpenRequestRow) : Prop where
  found : middle.detailOpenRequests.lookup requestId = some row
  ledger : middle.detailOpenLedger = store.detailOpenLedger
  old : ∀ request, request.status = .blocked →
    store.detailOpenRequests.lookup requestId ≠ some request

theorem exists_insert {requests : Keyed DetailOpenRequestRow.requestId} (row : DetailOpenRequestRow)
    (hid : requests.lookup row.requestId = none) :
    ∃ requests', requests.insert row = some requests' ∧
      insertOrRaise requests row = .ok requests' := by
  obtain ⟨requests', hinsert⟩ := Keyed.insert_eq_some_iff.mpr hid
  refine ⟨requests', hinsert, ?_⟩
  unfold insertOrRaise
  rw [hinsert]

theorem askedWith_withRequests {requests : Keyed DetailOpenRequestRow.requestId}
    (hledger : middle.detailOpenLedger = store.detailOpenLedger)
    (hid : store.detailOpenRequests.lookup requestId = none)
    (hinsert : middle.detailOpenRequests.insert row = some requests) (hrow : row.requestId = requestId) :
    AskedWith store (middle.withRequests requests) requestId row where
  found := lookup_withRequests hinsert hrow
  ledger := hledger
  old := by
    intro request hblocked hold
    rw [hid] at hold
    cases hold

/-- **A path that asks**: what it leaves is what the lease leaves. -/
theorem AsksFor.run_eq {lib : WorkbenchLibrary} {path : LeasePath} (h : AsksFor lib store path row)
    (now : Instant) :
    ∃ middle, AskedWith store middle path.requestId row ∧ path.run lib now store =
      .ok (middle.leaseLiepinDetailOpenRequest path.requestId path.ledgerId now).1 := by
  cases h with
  | @manual ask target connection requestId ledgerId htarget hlevel hfree hconnection hmode hid =>
    obtain ⟨requests, hinsert, hinserted⟩ := exists_insert
      (store.requestOf ask target connection requestId) hid
    refine ⟨store.withRequests requests, askedWith_withRequests rfl hid hinsert rfl, ?_⟩
    show (makeRequest ask requestId ledgerId now store).map (·.1) = _
    rw [makeRequest_eq requestId ledgerId now htarget hlevel hfree hconnection, hinserted, hmode]
    rfl
  | @approval user requestId ledgerId row hrow hpending =>
    have hlookup := lookup_of_detailRequestRowForUser hrow
    refine ⟨store.updateRequest requestId (fun request => { request with status := .approved })
      fun _ => rfl, ⟨?_, rfl, ?_⟩, ?_⟩
    · show (store.updateRequest requestId _ _).detailOpenRequests.lookup requestId = _
      rw [lookup_updateRequest, if_pos rfl, hlookup, Option.map_some]
    · intro request hblocked hold
      have hsame := Option.some.inj (hlookup.symm.trans hold)
      rw [← hsame, hpending] at hblocked
      cases hblocked
    · show (approveLiepinDetailOpenRequest user requestId ledgerId now store).map (·.1) = _
      unfold approveLiepinDetailOpenRequest
      simp only [hrow, hpending, ne_eq, not_true_eq_false, if_false]
      rfl
  | @automatic context uses connection count reviewItemIds card resumeId providerKey hresume hkey
      hcount hworth hfree hid =>
    let reviewItemId := stableId lib "review" [context.session.sessionId, "liepin", providerKey]
    let evidenceId := stableId lib "evidence" [context.job.sourceRunId, providerKey, "card"]
    let written := store.writeCandidate context .liepin .card reviewItemId evidenceId
      (lib.sha256 providerKey) now
    have hfree' : written.detailOpenRequestByKey context.user
        (detailIdempotencyKey context.session.sessionId reviewItemId
          (some ("auto-detail:" ++ reviewItemId))) = none := hfree
    obtain ⟨requests, hinsert, hinserted⟩ := exists_insert (autoRequest context
      connection.connectionId evidenceId reviewItemId (lib.sha256 providerKey) .bypassConfirm
      card.requestId) hid
    refine ⟨written.withRequests requests, askedWith_withRequests rfl hid hinsert rfl, ?_⟩
    have hmade : written.createAutoLiepinDetailOpenRequest context connection.connectionId evidenceId
        reviewItemId (lib.sha256 providerKey) .bypassConfirm card.requestId =
        .ok (written.withRequests requests, true) := by
      unfold createAutoLiepinDetailOpenRequest
      dsimp only
      rw [hfree']
      show insertOrRaise _ (autoRequest context connection.connectionId evidenceId reviewItemId
        (lib.sha256 providerKey) .bypassConfirm card.requestId) >>= _ = _
      rw [show insertOrRaise written.detailOpenRequests _ = .ok requests from hinserted]
      rfl
    have hasked : written.requestCardDetail context card connection .bypassConfirm evidenceId
        reviewItemId (lib.sha256 providerKey) now =
        .ok (((written.withRequests requests).leaseLiepinDetailOpenRequest card.requestId
          card.ledgerId now).1, true) := by
      unfold requestCardDetail
      rw [hmade]
      rfl
    show (persistLiepinCard lib context uses (some connection) .bypassConfirm now card
      (store, count, reviewItemIds)).map (·.1) = _
    unfold persistLiepinCard
    simp only [hresume, hkey, hcount, hworth, and_self, if_true]
    rw [show (store.writeCandidate context .liepin .card _ _ _ now).requestCardDetail context card
      connection .bypassConfirm _ _ _ now = _ from hasked]
    rfl

theorem manual_cases {ask : DetailOpenAsk} {answer : Option (DetailOpenRequestRow × Option String)}
    (hok : makeRequest ask requestId ledgerId now store = .ok (store', answer)) :
    (∀ lib, ∃ row, AsksFor lib store (.manual ask requestId ledgerId) row) ∨
      (∀ request, store'.detailOpenRequests.lookup requestId = some request →
        request.status = .blocked →
          store.detailOpenRequests.lookup requestId = some request) := by
  rcases createLiepinDetailOpenRequest_ok hok with rfl | ⟨connection, row, requests, hconnection,
    ⟨target, hasked⟩, hid, -, hstatus, -, hinsert, hmade⟩
  · exact .inr fun _ h _ => h
  have hnew : store.detailOpenRequests.lookup requestId = none := by
    rw [← hid]
    exact (Keyed.lookup_insert hinsert).1
  rcases hmade with ⟨hmode, rfl⟩ | ⟨hmode, -⟩
  · right
    intro request hlookup hblocked
    rw [lookup_withRequests hinsert hid] at hlookup
    obtain rfl := Option.some.inj hlookup
    rw [hstatus, hmode] at hblocked
    cases hblocked
  · left
    intro lib
    refine ⟨_, .manual hasked.found hasked.level hasked.free hconnection ?_ hnew⟩
    rw [← hasked.mode]
    exact hmode

theorem approval_cases {user : WorkbenchUser}
    {answer : Option (DetailOpenRequestRow × Option String)}
    (hok : approveLiepinDetailOpenRequest user requestId ledgerId now store = .ok (store', answer)) :
    (∀ lib, ∃ row, AsksFor lib store (.approval user requestId ledgerId) row) ∨ store' = store := by
  rcases approveLiepinDetailOpenRequest_ok hok with rfl | ⟨row, hrow, hpending, -⟩
  · exact .inr rfl
  · exact .inl fun _ => ⟨_, .approval hrow hpending⟩

theorem requestCardDetail_cases {context : WorkbenchSourceRunJobContext} {card : LiepinCard}
    {connection : SourceConnectionRow} {mode : DetailOpenMode}
    {evidenceId reviewItemId providerKeyHash : String} {made : Bool}
    (hok : store.requestCardDetail context card connection mode evidenceId reviewItemId
      providerKeyHash now = .ok (store', made)) :
    (mode = .bypassConfirm ∧
      store.detailOpenRequestByKey context.user (autoDetailKey context reviewItemId) = none ∧
      store.detailOpenRequests.lookup card.requestId = none) ∨
      (∀ request, store'.detailOpenRequests.lookup card.requestId = some request →
        request.status = .blocked →
          store.detailOpenRequests.lookup card.requestId = some request) := by
  rcases requestCardDetail_ok hok with rfl | ⟨row, requests, hfree, hid, -, -, rfl, hstatus, -,
    hinsert, hmade⟩
  · exact .inr fun _ h _ => h
  have hnew : store.detailOpenRequests.lookup card.requestId = none := by
    rw [← hid]
    exact (Keyed.lookup_insert hinsert).1
  rcases hmade with ⟨hmode, rfl⟩ | ⟨hmode, -⟩
  · right
    intro request hlookup hblocked
    rw [lookup_withRequests hinsert hid] at hlookup
    obtain rfl := Option.some.inj hlookup
    rw [hstatus, hmode] at hblocked
    cases hblocked
  · exact .inl ⟨hmode, hfree, hnew⟩

theorem automatic_cases {lib : WorkbenchLibrary} {context : WorkbenchSourceRunJobContext}
    {uses : Bool} {connection : Option SourceConnectionRow} {mode : DetailOpenMode} {count : Nat}
    {reviewItemIds : List String} {card : LiepinCard} {progress : WorkbenchStore × Nat × List String}
    (hok : persistLiepinCard lib context uses connection mode now card
      (store, count, reviewItemIds) = .ok progress) :
    (∃ row, AsksFor lib store
      (.automatic context uses connection mode count reviewItemIds card) row) ∨
      (∀ request, progress.1.detailOpenRequests.lookup card.requestId = some request →
        request.status = .blocked →
          store.detailOpenRequests.lookup card.requestId = some request) := by
  unfold persistLiepinCard at hok
  dsimp only at hok
  split at hok
  · rename_i hresume hkey
    split at hok
    · obtain rfl := Except.ok.inj hok
      exact .inr fun _ h _ => h
    · rename_i row
      split at hok
      · rename_i hwanted
        obtain ⟨⟨middle, made⟩, hmade, hok⟩ := bind_eq_ok hok
        obtain rfl := Except.ok.inj hok
        rcases requestCardDetail_cases hmade with ⟨rfl, hfree, hid⟩ | hsame
        · exact .inl ⟨_, .automatic hresume hkey hwanted.1 hwanted.2 hfree hid⟩
        · exact .inr hsame
      · obtain rfl := Except.ok.inj hok
        exact .inr fun _ h _ => h
  · obtain rfl := Except.ok.inj hok
    exact .inr fun _ h _ => h

/-- **A path that does not ask** blocks nothing. -/
theorem run_cases {lib : WorkbenchLibrary} {path : LeasePath}
    (hok : path.run lib now store = .ok store') :
    (∃ row, AsksFor lib store path row) ∨
      (∀ request, store'.detailOpenRequests.lookup path.requestId = some request →
        request.status = .blocked →
          store.detailOpenRequests.lookup path.requestId = some request) := by
  cases path with
  | manual ask requestId ledgerId =>
    obtain ⟨⟨after, answer⟩, hmade, rfl⟩ := Stateful.map_eq_ok hok
    rcases manual_cases hmade with hasks | hsame
    · exact .inl (hasks lib)
    · exact .inr hsame
  | approval user requestId ledgerId =>
    obtain ⟨⟨after, answer⟩, happroved, rfl⟩ := Stateful.map_eq_ok hok
    rcases approval_cases happroved with hasks | rfl
    · exact .inl (hasks lib)
    · exact .inr fun _ h _ => h
  | automatic context uses connection mode count reviewItemIds card =>
    obtain ⟨progress, hmade, rfl⟩ := Stateful.map_eq_ok hok
    exact automatic_cases hmade

/-! ## 3. Blocked only while a lease runs -/

structure Blocks (lib : WorkbenchLibrary) (store : WorkbenchStore) (path : LeasePath)
    (now : Instant) (request : DetailOpenRequestRow) : Prop where
  left : ∃ store', path.run lib now store = .ok store' ∧
    store'.detailOpenRequests.lookup path.requestId = some request
  status : request.status = .blocked
  reason : request.blockedReason = some activeDetailOpenLease
  new : store.detailOpenRequests.lookup path.requestId ≠ some request

def BlocksOnlyWhileLeased (lib : WorkbenchLibrary) (store : WorkbenchStore) (path : LeasePath)
    (now : Instant) : Prop :=
  ∀ request, Blocks lib store path now request → store.RunningLease request.connectionId now

theorem AskedWith.leaseTold_iff (h : AskedWith store middle requestId row) :
    middle.LeaseTold row ledgerId now ↔ store.LeaseTold row ledgerId now := by
  unfold LeaseTold RunningLease usedCount
  rw [h.ledger]
  constructor
  · intro htold
    rcases htold with hrunning | hexhausted | htakes
    · exact .inl hrunning
    · exact .inr (.inl hexhausted)
    · obtain ⟨hlease, hkey, hid⟩ := htakes
      rw [h.ledger] at hlease hkey hid
      exact .inr (.inr ⟨hlease, hkey, hid⟩)
  · intro htold
    rcases htold with hrunning | hexhausted | htakes
    · exact .inl hrunning
    · exact .inr (.inl hexhausted)
    · obtain ⟨hlease, hkey, hid⟩ := htakes
      rw [← h.ledger] at hlease hkey hid
      exact .inr (.inr ⟨hlease, hkey, hid⟩)

/-- **A path blocks only while a lease runs** exactly if no row that is not a running lease is in
    the way of the one it asks for. -/
theorem blocksOnlyWhileLeased_iff (lib : WorkbenchLibrary) (store : WorkbenchStore)
    (path : LeasePath) (now : Instant) :
    BlocksOnlyWhileLeased lib store path now ↔
      ∀ row, AsksFor lib store path row → store.LeaseTold row path.ledgerId now := by
  constructor
  · intro h row hasks
    obtain ⟨middle, hasked, hrun⟩ := hasks.run_eq now
    obtain ⟨request, hlookup, hconnection, ⟨hstatus, hreason, hrunning | htold⟩ | ⟨-, htold⟩⟩ :=
      lease_cases path.ledgerId now hasked.found
    · exact hasked.leaseTold_iff.mp (.inl hrunning)
    · have hrunning := h request ⟨⟨_, hrun, hlookup⟩, hstatus, hreason, hasked.old request hstatus⟩
      rw [hconnection] at hrunning
      exact .inl hrunning
    · exact hasked.leaseTold_iff.mp htold
  · intro h request hblocks
    obtain ⟨store', hrun, hlookup⟩ := hblocks.left
    rcases run_cases hrun with ⟨row, hasks⟩ | hsame
    case inr => exact absurd (hsame request hlookup hblocks.status) hblocks.new
    obtain ⟨middle, hasked, hrun'⟩ := hasks.run_eq now
    obtain rfl := Except.ok.inj (hrun.symm.trans hrun')
    obtain ⟨request', hlookup', hconnection, hcases⟩ := lease_cases path.ledgerId now hasked.found
    obtain rfl := Option.some.inj (hlookup.symm.trans hlookup')
    rw [hconnection]
    rcases hcases with ⟨-, -, hrunning | htold⟩ | ⟨hreason, -⟩
    · obtain ⟨entry, hentry, hlease⟩ := hrunning
      rw [hasked.ledger] at hentry
      exact ⟨entry, hentry, hlease⟩
    · exact absurd (hasked.leaseTold_iff.mpr (h row hasks)) htold
    · exact absurd hblocks.reason hreason

/-! ## 4. After the leases have been reconciled -/

end WorkbenchStore

namespace Workbench

open WorkbenchStore

/-- A second session of the user, whose search may open pages unasked; a worker has its job. -/
def searchedAgain : List WorkbenchCall :=
  sampleLease ++
    [.createWorkbenchSession { sampleSession with sessionId := "s2" } [(.liepin, "r2")],
      .updateRequirementTriage sampleUser "s2" sampleCriteria,
      .approveRequirementTriage sampleUser "s2" 990,
      .updateLiepinSourceRunPolicy sampleUser "s2" .bypassConfirm,
      .startSourceRunJob sampleUser "s2" "r2" none "j2" 991,
      .claimNextSourceRunJob "w" 1091 (some .liepin)]

def searchedAgainContext : WorkbenchSourceRunJobContext where
  job :=
    { sampleContext.job with
      jobId := "j2"
      sessionId := "s2"
      sourceRunId := "r2"
      sourceKind := .liepin
      leaseExpiresAt := some 1091
      createdAt := 991 }
  session := { sampleSession with sessionId := "s2" }
  triage := { sampleContext.triage with sessionId := "s2", approvedAt := some 990 }

def searchedAgainPath : LeasePath :=
  .automatic searchedAgainContext true
    ((run .ascii {} searchedAgain).store.connectedLiepinConnectionForOwner sampleUser)
    .bypassConfirm 0 []
    { resumeId := some "k2", recommended := true, requestId := "q2", ledgerId := "l2" }

theorem runs_searchedAgain : Runs .ascii {} searchedAgain := by
  apply Stateful.Along.join runs_sampleLease
  refine runs_cons trivial (runs_cons trivial (runs_cons trivial (runs_cons trivial
    (runs_cons trivial (runs_cons trivial (runs_nil _))))))

/-- The lease of the first session has expired, and the second session's request is blocked. -/
theorem not_blocksOnlyWhileLeased :
    ¬∀ calls, Runs .ascii {} calls → ∀ path now,
      BlocksOnlyWhileLeased .ascii (run .ascii {} calls).store path now := by
  intro h
  have honly := h searchedAgain runs_searchedAgain searchedAgainPath 1000
  have hstatus : ((searchedAgainPath.run .ascii 1000 (run .ascii {} searchedAgain).store).toOption.bind
      fun store => store.detailOpenRequests.lookup "q2").map
        (fun request => (request.status, request.blockedReason, request.connectionId)) =
      some (.blocked, some activeDetailOpenLease, "cx") := by
    decide +kernel
  obtain ⟨request, hlookup, hrequest⟩ := Option.map_eq_some_iff.mp hstatus
  obtain ⟨store', hstore', hlookup⟩ := Option.bind_eq_some_iff.mp hlookup
  obtain ⟨hblocked, hreason, hconnection⟩ :
      request.status = .blocked ∧ request.blockedReason = some activeDetailOpenLease ∧
        request.connectionId = "cx" := by
    simpa using hrequest
  have hrun : searchedAgainPath.run .ascii 1000 (run .ascii {} searchedAgain).store = .ok store' := by
    cases hresult : searchedAgainPath.run .ascii 1000 (run .ascii {} searchedAgain).store with
    | error error =>
      rw [hresult] at hstore'
      cases hstore'
    | ok store =>
      rw [hresult] at hstore'
      rw [Option.some.inj hstore']
  have hnew : (run .ascii {} searchedAgain).store.detailOpenRequests.lookup "q2" = none := by
    decide +kernel
  have hrunning := honly request ⟨⟨store', hrun, hlookup⟩, hblocked, hreason, by
    show (run .ascii {} searchedAgain).store.detailOpenRequests.lookup "q2" ≠ some request
    rw [hnew]
    simp⟩
  rw [hconnection] at hrunning
  have hidle : (run .ascii {} searchedAgain).store.hasActiveLease "cx" 1000 = false := by
    decide +kernel
  have hactive := hasActiveLease_iff.mpr hrunning
  rw [hidle] at hactive
  cases hactive

end Workbench

end SeekTalent

import Mathlib.Data.Fintype.EquivFin
import SeekTalent.Workbench.DetailCharges

/-!
# A request made twice

A repetition is answered with the request that is found under its idempotency key, whatever
that request is about and whatever has become of it. The first call tells its caller of a block
by an exception, the second returns the blocked request.
-/

namespace SeekTalent

/-- What `create_liepin_detail_open_request` is asked for. -/
structure DetailOpenAsk where
  user : WorkbenchUser
  sessionId : String
  reviewItemId : String
  idempotencyKey : Option String

def DetailOpenAsk.key (ask : DetailOpenAsk) : String :=
  detailIdempotencyKey ask.sessionId ask.reviewItemId ask.idempotencyKey

/-- What the caller of `create_liepin_detail_open_request` is told. -/
inductive DetailOpenAnswer where
  | missing
  | returned (request : DetailOpenRequestRow)
  | refused (error : WorkbenchError)

namespace WorkbenchStore

variable {store store' : WorkbenchStore} {ask : DetailOpenAsk} {requestId ledgerId : String}
variable {now : Instant}
variable {row : DetailOpenRequestRow} {user : WorkbenchUser}

/-! ## 1. The call -/

/-- The tables after `reconcile_expired_detail_open_leases`. -/
def reconciled (store : WorkbenchStore) (now : Instant) : WorkbenchStore :=
  match reconcileExpiredDetailOpenLeases now store with
  | .ok (store', _) => store'
  | .error _ => store

/-- The transaction of the call, after the leases have been reconciled. -/
def makeRequest (ask : DetailOpenAsk) (requestId ledgerId : String) (now : Instant) :
    Transaction (Option (DetailOpenRequestRow × Option String)) :=
  createLiepinDetailOpenRequest ask.user ask.sessionId ask.reviewItemId ask.idempotencyKey requestId
    ledgerId now

def told (store : WorkbenchStore) :
    Except WorkbenchError (WorkbenchStore × Option (DetailOpenRequestRow × Option String)) →
      WorkbenchStore × DetailOpenAnswer
  | .error error => (store, .refused error)
  | .ok (store', none) => (store', .missing)
  | .ok (store', some (request, none)) => (store', .returned request)
  | .ok (store', some (_, some blockedReason)) =>
    (store', .refused (.permissionError blockedReason))

/-- `create_liepin_detail_open_request`: the tables it leaves, and what it answers. -/
def answerRequest (ask : DetailOpenAsk) (requestId ledgerId : String) (now : Instant)
    (store : WorkbenchStore) : WorkbenchStore × DetailOpenAnswer :=
  told (store.reconciled now) (makeRequest ask requestId ledgerId now (store.reconciled now))

/-! ## 2. Requests under a key -/

theorem detailOpenRequestByKey_withRequests {key : String}
    {requests : Keyed DetailOpenRequestRow.requestId}
    (hinsert : store.detailOpenRequests.insert row = some requests)
    (hfree : store.detailOpenRequestByKey user key = none)
    (hrow : row.workspaceId = user.workspaceId ∧ row.userId = user.userId ∧
      row.idempotencyKey = key) :
    (store.withRequests requests).detailOpenRequestByKey user key = some row := by
  unfold detailOpenRequestByKey at hfree ⊢
  show requests.rows.find? _ = some row
  rw [Keyed.rows_insert hinsert, List.find?_append, hfree]
  simp [hrow]

theorem lookup_updateRequest_self (set : DetailOpenRequestRow → DetailOpenRequestRow)
    (hset : ∀ row, (set row).requestId = row.requestId)
    (hrow : store.detailOpenRequests.lookup requestId = some row) :
    (store.updateRequest requestId set hset).detailOpenRequests.lookup requestId =
      some (set row) := by
  rw [lookup_updateRequest, if_pos rfl, hrow, Option.map_some]

theorem detailOpenRequestByKey_updateRequest {key : String}
    (set : DetailOpenRequestRow → DetailOpenRequestRow)
    (hset : ∀ row, (set row).requestId = row.requestId)
    (hsame : ∀ row, (set row).workspaceId = row.workspaceId ∧ (set row).userId = row.userId ∧
      (set row).idempotencyKey = row.idempotencyKey)
    (hrow : store.detailOpenRequestByKey user key = some row) (hid : row.requestId = requestId) :
    (store.updateRequest requestId set hset).detailOpenRequestByKey user key = some (set row) := by
  unfold detailOpenRequestByKey at hrow ⊢
  show (Table.updateWhere _ set store.detailOpenRequests.rows).find? _ = _
  unfold Table.updateWhere
  rw [List.find?_map]
  have hkey : ((fun row : DetailOpenRequestRow => decide (row.workspaceId = user.workspaceId ∧
      row.userId = user.userId ∧ row.idempotencyKey = key)) ∘ fun row =>
        if decide (row.requestId = requestId) then set row else row) =
      fun row => decide (row.workspaceId = user.workspaceId ∧ row.userId = user.userId ∧
        row.idempotencyKey = key) := by
    funext row
    simp only [Function.comp_apply]
    obtain ⟨hworkspace, huser, hidempotency⟩ := hsame row
    split
    · rw [hworkspace, huser, hidempotency]
    · rfl
  rw [hkey, hrow, Option.map_some, if_pos (decide_eq_true hid)]

/-! ## 3. Leases that are granted -/

structure LeaseGranted (store : WorkbenchStore) (user : WorkbenchUser)
    (connectionId key ledgerId : String) (now : Instant) : Prop where
  isOpen : store.LeaseOpen connectionId now
  key : ∀ entry ∈ store.detailOpenLedger.rows, entry.workspaceId = user.workspaceId →
    entry.actorId = user.userId → entry.idempotencyKey ≠ key
  id : store.detailOpenLedger.lookup ledgerId = none

theorem insertLedgerRow_leaseRow :
    (∃ ledger, store.insertLedgerRow (leaseRow row ledgerId now) = some ledger) ↔
      (∀ entry ∈ store.detailOpenLedger.rows, entry.connectionId = row.connectionId →
        entry.status ≠ .leased) ∧
      (∀ entry ∈ store.detailOpenLedger.rows, entry.workspaceId = row.workspaceId →
        entry.actorId = row.userId → entry.idempotencyKey ≠ row.idempotencyKey) ∧
      store.detailOpenLedger.lookup ledgerId = none := by
  have hconflict : store.ledgerConflict (leaseRow row ledgerId now) = true ↔
      ∃ entry ∈ store.detailOpenLedger.rows,
        (entry.workspaceId = row.workspaceId ∧ entry.actorId = row.userId ∧
          entry.idempotencyKey = row.idempotencyKey) ∨
        (entry.connectionId = row.connectionId ∧ entry.status = .leased) := by
    simp [ledgerConflict, leaseRow]
  unfold insertLedgerRow
  split
  · rename_i h
    obtain ⟨entry, hentry, ⟨hworkspace, huser, hkey⟩ | ⟨hconnection, hleased⟩⟩ := hconflict.mp h
    · constructor
      · intro hnone
        obtain ⟨_, hnone⟩ := hnone
        cases hnone
      · intro hfree
        exact absurd hkey (hfree.2.1 entry hentry hworkspace huser)
    · constructor
      · intro hnone
        obtain ⟨_, hnone⟩ := hnone
        cases hnone
      · intro hfree
        exact absurd hleased (hfree.1 entry hentry hconnection)
  · rename_i h
    rw [Keyed.insert_eq_some_iff]
    constructor
    · intro hid
      refine ⟨?_, ?_, hid⟩
      · intro entry hentry hconnection hleased
        exact h (hconflict.mpr ⟨entry, hentry, .inr ⟨hconnection, hleased⟩⟩)
      · intro entry hentry hworkspace huser hkey
        exact h (hconflict.mpr ⟨entry, hentry, .inl ⟨hworkspace, huser, hkey⟩⟩)
    · exact fun hfree => hfree.2.2

/-- **The lease is granted** exactly if nothing stands against it. -/
theorem lease_eq_none_iff (ledgerId : String) (now : Instant)
    (hrow : store.detailOpenRequests.lookup requestId = some row) :
    (store.leaseLiepinDetailOpenRequest requestId ledgerId now).2 = none ↔
      store.LeaseGranted ⟨row.userId, row.workspaceId⟩ row.connectionId row.idempotencyKey ledgerId
        now := by
  unfold leaseLiepinDetailOpenRequest
  rw [hrow]
  dsimp only
  split
  · rename_i hactive
    constructor
    · intro hnone
      cases hnone
    · intro hgranted
      obtain ⟨entry, hentry, hlease⟩ := List.any_eq_true.mp hactive
      obtain ⟨hconnection, hleased, -⟩ := of_decide_eq_true hlease
      exact absurd hleased (hgranted.isOpen.no_lease entry hentry hconnection)
  · split
    · rename_i hbudget
      constructor
      · intro hnone
        cases hnone
      · intro hgranted
        exact absurd hbudget (Nat.not_le_of_lt hgranted.isOpen.budget)
    · rename_i hbudget
      split
      · rename_i hinsert
        constructor
        · intro hnone
          cases hnone
        · intro hgranted
          obtain ⟨ledger, hledger⟩ := insertLedgerRow_leaseRow.mpr
            ⟨hgranted.isOpen.no_lease, hgranted.key, hgranted.id⟩
          rw [hinsert] at hledger
          cases hledger
      · rename_i ledger hinsert
        obtain ⟨hlease, hkey, hid⟩ := insertLedgerRow_leaseRow.mp ⟨ledger, hinsert⟩
        exact ⟨fun _ => ⟨⟨hlease, Nat.lt_of_not_le hbudget⟩, hkey, hid⟩, fun _ => rfl⟩

theorem lease_request (ledgerId : String)
    (now : Instant) (hrow : store.detailOpenRequests.lookup requestId = some row)
    (hkey : store.detailOpenRequestByKey user row.idempotencyKey = some row) :
    ∃ request, (store.leaseLiepinDetailOpenRequest requestId ledgerId now).1.detailOpenRequests.lookup
        requestId = some request ∧
      (store.leaseLiepinDetailOpenRequest requestId ledgerId now).1.detailOpenRequestByKey user
        row.idempotencyKey = some request ∧
      request.reviewItemId = row.reviewItemId ∧
      request.status = if (store.leaseLiepinDetailOpenRequest requestId ledgerId now).2 = none then
        row.status else .blocked := by
  obtain rfl := Keyed.key_of_lookup hrow
  have hblock : ∀ reason : String, ∃ request,
      (store.blockDetailOpenRequest row reason).detailOpenRequests.lookup row.requestId =
        some request ∧
      (store.blockDetailOpenRequest row reason).detailOpenRequestByKey user row.idempotencyKey =
        some request ∧
      request.reviewItemId = row.reviewItemId ∧ request.status = .blocked := by
    intro reason
    refine ⟨{ row with status := .blocked, blockedReason := some reason }, ?_, ?_, rfl, rfl⟩
    · exact lookup_updateRequest_self
        (fun request => { request with status := .blocked, blockedReason := some reason })
        (fun _ => rfl) hrow
    · exact detailOpenRequestByKey_updateRequest
        (fun request => { request with status := .blocked, blockedReason := some reason })
        (fun _ => rfl) (fun _ => ⟨rfl, rfl, rfl⟩) hkey rfl
  unfold leaseLiepinDetailOpenRequest
  rw [hrow]
  dsimp only
  split
  · exact hblock "active_detail_open_lease"
  · split
    · exact hblock "detail_budget_exhausted"
    · split
      · exact hblock "active_detail_open_lease"
      · rename_i detailOpenLedger hinsert
        refine ⟨{ row with ledgerId := some ledgerId, blockedReason := none }, ?_, ?_, rfl, rfl⟩
        · have hledger : ({ store with detailOpenLedger } : WorkbenchStore).detailOpenRequests.lookup
              row.requestId = some row := hrow
          exact lookup_updateRequest_self
            (fun request => { request with ledgerId := some ledgerId, blockedReason := none })
            (fun _ => rfl) hledger
        · exact detailOpenRequestByKey_updateRequest
            (fun request => { request with ledgerId := some ledgerId, blockedReason := none })
            (fun _ => rfl) (fun _ => ⟨rfl, rfl, rfl⟩) hkey rfl

theorem liepinReviewTarget_lease (user : WorkbenchUser) (sessionId reviewItemId : String) :
    (store.leaseLiepinDetailOpenRequest requestId ledgerId now).1.liepinReviewTarget user sessionId
      reviewItemId = store.liepinReviewTarget user sessionId reviewItemId := by
  unfold leaseLiepinDetailOpenRequest
  split
  · rfl
  · split
    · rfl
    · split
      · rfl
      · split
        · rfl
        · rfl

/-! ## 4. What a call answers -/

section Answers

variable {target : CandidateEvidenceRow} {connection : SourceConnectionRow}

def targetOf (store : WorkbenchStore) (ask : DetailOpenAsk) : Option CandidateEvidenceRow :=
  store.liepinReviewTarget ask.user ask.sessionId ask.reviewItemId

def existingOf (store : WorkbenchStore) (ask : DetailOpenAsk) : Option DetailOpenRequestRow :=
  store.detailOpenRequestByKey ask.user ask.key

def requestOf (store : WorkbenchStore) (ask : DetailOpenAsk) (target : CandidateEvidenceRow)
    (connection : SourceConnectionRow) (requestId : String) : DetailOpenRequestRow where
  requestId
  workspaceId := ask.user.workspaceId
  userId := ask.user.userId
  sessionId := ask.sessionId
  sourceRunId := target.sourceRunId
  connectionId := connection.connectionId
  candidateEvidenceId := target.evidenceId
  reviewItemId := ask.reviewItemId
  providerCandidateKeyHash := target.providerCandidateKeyHash
  detailOpenMode := store.detailOpenModeOf ask.user ask.sessionId
  status := (store.detailOpenModeOf ask.user ask.sessionId).initialStatus
  idempotencyKey := ask.key

theorem answer_of_missing (htarget : store.targetOf ask = none) :
    (answerRequest ask requestId ledgerId now store) = (store.reconciled now, .missing) := by
  have htarget : (store.reconciled now).liepinReviewTarget ask.user ask.sessionId ask.reviewItemId =
      none := htarget
  unfold answerRequest makeRequest createLiepinDetailOpenRequest
  simp only [htarget, told]

theorem answer_of_detail (htarget : store.targetOf ask = some target)
    (hlevel : target.evidenceLevel = .detail) :
    (answerRequest ask requestId ledgerId now store) =
      (store.reconciled now, .refused (.permissionError "detail_open_not_required")) := by
  have htarget : (store.reconciled now).liepinReviewTarget ask.user ask.sessionId ask.reviewItemId =
      some target := htarget
  unfold answerRequest makeRequest createLiepinDetailOpenRequest
  simp only [htarget, hlevel, if_true, told]

theorem answer_of_existing {existing : DetailOpenRequestRow} (htarget : store.targetOf ask = some target)
    (hlevel : target.evidenceLevel ≠ .detail) (hexisting : store.existingOf ask = some existing) :
    (answerRequest ask requestId ledgerId now store) =
      (store.reconciled now, .returned existing) := by
  have htarget : (store.reconciled now).liepinReviewTarget ask.user ask.sessionId ask.reviewItemId =
      some target := htarget
  have hexisting : (store.reconciled now).detailOpenRequestByKey ask.user
      (detailIdempotencyKey ask.sessionId ask.reviewItemId ask.idempotencyKey) = some existing :=
    hexisting
  unfold answerRequest makeRequest createLiepinDetailOpenRequest
  simp only [htarget, hlevel, if_false, hexisting, told]

theorem answer_of_unconnected (htarget : store.targetOf ask = some target)
    (hlevel : target.evidenceLevel ≠ .detail) (hfree : store.existingOf ask = none)
    (hconnection : store.connectedLiepinConnection ask.user = none) :
    (answerRequest ask requestId ledgerId now store) =
      (store.reconciled now, .refused (.permissionError "liepin_connection_not_connected")) := by
  have htarget : (store.reconciled now).liepinReviewTarget ask.user ask.sessionId ask.reviewItemId =
      some target := htarget
  have hfree : (store.reconciled now).detailOpenRequestByKey ask.user
      (detailIdempotencyKey ask.sessionId ask.reviewItemId ask.idempotencyKey) = none := hfree
  have hconnection : (store.reconciled now).connectedLiepinConnection ask.user = none := hconnection
  unfold answerRequest makeRequest createLiepinDetailOpenRequest
  simp only [htarget, hlevel, if_false, hfree, hconnection, told]

theorem makeRequest_eq (requestId ledgerId : String) (now : Instant)
    (htarget : store.targetOf ask = some target) (hlevel : target.evidenceLevel ≠ .detail) (hfree : store.existingOf ask = none)
    (hconnection : store.connectedLiepinConnection ask.user = some connection) :
    makeRequest ask requestId ledgerId now store =
      insertOrRaise store.detailOpenRequests (store.requestOf ask target connection requestId) >>=
        fun requests =>
          if store.detailOpenModeOf ask.user ask.sessionId = .bypassConfirm then
            let leased := (store.withRequests requests).leaseLiepinDetailOpenRequest requestId
              ledgerId now
            .ok (leased.1, (leased.1.detailOpenRequests.lookup requestId).map (·, leased.2))
          else
            .ok (store.withRequests requests,
              some (store.requestOf ask target connection requestId, none)) := by
  have htarget : store.liepinReviewTarget ask.user ask.sessionId ask.reviewItemId = some target :=
    htarget
  have hfree : store.detailOpenRequestByKey ask.user
      (detailIdempotencyKey ask.sessionId ask.reviewItemId ask.idempotencyKey) = none := hfree
  unfold makeRequest createLiepinDetailOpenRequest
  simp only [htarget, hlevel, if_false, hfree, hconnection]
  rfl

theorem answer_of_taken (htarget : store.targetOf ask = some target)
    (hlevel : target.evidenceLevel ≠ .detail) (hfree : store.existingOf ask = none)
    (hconnection : store.connectedLiepinConnection ask.user = some connection)
    (htaken : store.detailOpenRequests.lookup requestId ≠ none) :
    (answerRequest ask requestId ledgerId now store) =
      (store.reconciled now, .refused .integrityError) := by
  have hnone : (store.reconciled now).detailOpenRequests.insert
      ((store.reconciled now).requestOf ask target connection requestId) = none := by
    rw [Option.eq_none_iff_forall_ne_some]
    intro requests hinsert
    exact htaken (Keyed.lookup_insert hinsert).1
  have hmade : makeRequest ask requestId ledgerId now (store.reconciled now) =
      .error .integrityError := by
    have htarget : (store.reconciled now).targetOf ask = some target := htarget
    rw [makeRequest_eq requestId ledgerId now htarget hlevel hfree hconnection]
    unfold insertOrRaise
    rw [hnone]
    rfl
  unfold answerRequest
  rw [hmade]
  rfl

/-- **What a call answers that makes a request**: the request, which is then found under the key;
    or why it was blocked, which the request found under the key does not keep it from being. -/
theorem answer_of_new (htarget : store.targetOf ask = some target)
    (hlevel : target.evidenceLevel ≠ .detail) (hfree : store.existingOf ask = none)
    (hconnection : store.connectedLiepinConnection ask.user = some connection)
    (hid : store.detailOpenRequests.lookup requestId = none) :
    ∃ request,
      (answerRequest ask requestId ledgerId now store).1.targetOf ask = some target ∧
      (answerRequest ask requestId ledgerId now store).1.existingOf ask = some request ∧
      request.reviewItemId = ask.reviewItemId ∧
      (((answerRequest ask requestId ledgerId now store).2 = .returned request ∧
          request.status ≠ .blocked ∧
          (store.detailOpenModeOf ask.user ask.sessionId = .bypassConfirm →
            (store.reconciled now).LeaseGranted ask.user connection.connectionId ask.key ledgerId
              now)) ∨
        ((∃ reason, (answerRequest ask requestId ledgerId now store).2 =
            .refused (.permissionError reason)) ∧
          store.detailOpenModeOf ask.user ask.sessionId = .bypassConfirm ∧
          ¬(store.reconciled now).LeaseGranted ask.user connection.connectionId ask.key ledgerId
            now)) := by
  have htable : (store.reconciled now).detailOpenRequests.lookup
      ((store.reconciled now).requestOf ask target connection requestId).requestId = none := hid
  obtain ⟨requests, hinsert⟩ := Keyed.insert_eq_some_iff.mpr htable
  have htarget' : (store.reconciled now).targetOf ask = some target := htarget
  have hmade := makeRequest_eq requestId ledgerId now htarget' hlevel hfree hconnection
  have hinserted : insertOrRaise (store.reconciled now).detailOpenRequests
      ((store.reconciled now).requestOf ask target connection requestId) = .ok requests := by
    unfold insertOrRaise
    rw [hinsert]
  have hfound : ((store.reconciled now).withRequests requests).detailOpenRequestByKey ask.user ask.key =
      some ((store.reconciled now).requestOf ask target connection requestId) :=
    detailOpenRequestByKey_withRequests hinsert hfree ⟨rfl, rfl, rfl⟩
  have hlookup : ((store.reconciled now).withRequests requests).detailOpenRequests.lookup requestId =
      some ((store.reconciled now).requestOf ask target connection requestId) :=
    lookup_withRequests hinsert rfl
  cases hmode : store.detailOpenModeOf ask.user ask.sessionId with
  | humanConfirm =>
    have hmode' : (store.reconciled now).detailOpenModeOf ask.user ask.sessionId = .humanConfirm :=
      hmode
    rw [hinserted, hmode'] at hmade
    refine ⟨(store.reconciled now).requestOf ask target connection requestId, ?_⟩
    unfold answerRequest
    rw [hmade]
    refine ⟨htarget, hfound, rfl, .inl ⟨rfl, ?_, ?_⟩⟩
    · show ((store.reconciled now).detailOpenModeOf ask.user ask.sessionId).initialStatus ≠ _
      rw [hmode']
      simp [DetailOpenMode.initialStatus]
    · intro hbypass
      cases hbypass
  | bypassConfirm =>
    have hmode' : (store.reconciled now).detailOpenModeOf ask.user ask.sessionId = .bypassConfirm :=
      hmode
    obtain ⟨request, hleft, hkey, hitem, hstatus⟩ := lease_request ledgerId now hlookup hfound
    have hgranted := lease_eq_none_iff ledgerId now hlookup
    have hrowStatus : ((store.reconciled now).requestOf ask target connection requestId).status =
        .bypassed := by
      show ((store.reconciled now).detailOpenModeOf ask.user ask.sessionId).initialStatus = _
      rw [hmode']
      rfl
    rw [hrowStatus] at hstatus
    have hanswer : answerRequest ask requestId ledgerId now store = told (store.reconciled now)
        (.ok ((((store.reconciled now).withRequests requests).leaseLiepinDetailOpenRequest requestId
          ledgerId now).1, some (request, (((store.reconciled now).withRequests
            requests).leaseLiepinDetailOpenRequest requestId ledgerId now).2))) := by
      unfold answerRequest
      rw [hmade, hinserted, hmode']
      show told _ (.ok (_, Option.map _ _)) = _
      rw [hleft]
      rfl
    rw [hanswer]
    refine ⟨request, ?_⟩
    cases hreason : (((store.reconciled now).withRequests requests).leaseLiepinDetailOpenRequest
        requestId ledgerId now).2 with
    | none =>
      rw [if_pos hreason] at hstatus
      refine ⟨(liepinReviewTarget_lease _ _ _).trans htarget, hkey, hitem, .inl ⟨rfl, ?_, ?_⟩⟩
      · rw [hstatus]
        simp
      · intro _
        obtain ⟨hopen, hkeyFree, hidFree⟩ := hgranted.mp hreason
        exact ⟨⟨hopen.no_lease, hopen.budget⟩, hkeyFree, hidFree⟩
    | some reason =>
      refine ⟨(liepinReviewTarget_lease _ _ _).trans htarget, hkey, hitem, .inr ⟨⟨reason, rfl⟩, rfl, ?_⟩⟩
      intro hfree
      obtain ⟨hopen, hkeyFree, hidFree⟩ := hfree
      have hnone := hgranted.mpr ⟨⟨hopen.no_lease, hopen.budget⟩, hkeyFree, hidFree⟩
      rw [hreason] at hnone
      cases hnone

end Answers

/-! ## 5. A call and its repetition -/

/-- The call answers as it should: what it returns is about the review item and is not blocked, and
    it is answered alike when it is repeated, whenever that is and whatever ids are drawn. -/
structure AnswersAlike (store : WorkbenchStore) (ask : DetailOpenAsk) (requestId ledgerId : String)
    (now : Instant) : Prop where
  about : ∀ request, (answerRequest ask requestId ledgerId now store).2 = .returned request →
    request.reviewItemId = ask.reviewItemId ∧ request.status ≠ .blocked
  again : ∀ requestId' ledgerId' now',
    (answerRequest ask requestId' ledgerId' now'
      (answerRequest ask requestId ledgerId now store).1).2 =
      (answerRequest ask requestId ledgerId now store).2

/-- What is found under the key is about the review item and is not blocked; and a request that is
    made gets an id of its own and, under a policy that asks nobody, its lease. -/
structure Replayable (store : WorkbenchStore) (ask : DetailOpenAsk) (requestId ledgerId : String)
    (now : Instant) : Prop where
  existing : ∀ target existing, store.targetOf ask = some target → target.evidenceLevel ≠ .detail →
    store.existingOf ask = some existing →
    existing.reviewItemId = ask.reviewItemId ∧ existing.status ≠ .blocked
  new : ∀ target connection, store.targetOf ask = some target → target.evidenceLevel ≠ .detail →
    store.existingOf ask = none → store.connectedLiepinConnection ask.user = some connection →
    store.detailOpenRequests.lookup requestId = none ∧
    (store.detailOpenModeOf ask.user ask.sessionId = .bypassConfirm →
      (store.reconciled now).LeaseGranted ask.user connection.connectionId ask.key ledgerId now)

theorem exists_free_requestId (store : WorkbenchStore) :
    ∃ requestId, store.detailOpenRequests.lookup requestId = none := by
  obtain ⟨requestId, hfree⟩ :=
    Infinite.exists_notMem_finset (store.detailOpenRequests.rows.map (·.requestId)).toFinset
  refine ⟨requestId, Keyed.lookup_eq_none_iff.mpr ?_⟩
  simpa using hfree

theorem again_of_existing {target : CandidateEvidenceRow} {existing : DetailOpenRequestRow}
    (htarget : store.targetOf ask = some target)
    (hlevel : target.evidenceLevel ≠ .detail) (hexisting : store.existingOf ask = some existing) :
    ∀ requestId' ledgerId' now', (answerRequest ask requestId' ledgerId' now' store).2 =
      .returned existing := by
  intro requestId' ledgerId' now'
  rw [answer_of_existing htarget hlevel hexisting]

theorem answersAlike_of_settled {answer : DetailOpenAnswer}
    (hfirst : answerRequest ask requestId ledgerId now store = (store.reconciled now, answer))
    (hagain : ∀ requestId' ledgerId' now', answerRequest ask requestId' ledgerId' now'
      (store.reconciled now) = ((store.reconciled now).reconciled now', answer))
    (habout : ∀ request, answer = .returned request →
      request.reviewItemId = ask.reviewItemId ∧ request.status ≠ .blocked) :
    store.AnswersAlike ask requestId ledgerId now where
  about := by
    rw [hfirst]
    exact habout
  again := by
    intro requestId' ledgerId' now'
    rw [hfirst, hagain]

theorem Replayable.answersAlike (h : store.Replayable ask requestId ledgerId now) :
    store.AnswersAlike ask requestId ledgerId now := by
  cases htarget : store.targetOf ask with
  | none =>
    apply answersAlike_of_settled (answer_of_missing htarget)
    · exact fun _ _ _ => answer_of_missing htarget
    · simp
  | some target =>
    by_cases hlevel : target.evidenceLevel = .detail
    case pos =>
      apply answersAlike_of_settled (answer_of_detail htarget hlevel)
      · exact fun _ _ _ => answer_of_detail htarget hlevel
      · simp
    case neg =>
      cases hfound : store.existingOf ask with
      | some existing =>
        apply answersAlike_of_settled (answer_of_existing htarget hlevel hfound)
        · exact fun _ _ _ => answer_of_existing htarget hlevel hfound
        · intro request hrequest
          cases hrequest
          exact h.existing target existing htarget hlevel hfound
      | none =>
        cases hconnection : store.connectedLiepinConnection ask.user with
        | none =>
          apply answersAlike_of_settled (answer_of_unconnected htarget hlevel hfound hconnection)
          · exact fun _ _ _ => answer_of_unconnected htarget hlevel hfound hconnection
          · simp
        | some connection =>
          obtain ⟨hid, hgranted⟩ := h.new target connection htarget hlevel hfound hconnection
          obtain ⟨request, htarget', hfound', hitem, hanswer⟩ := @answer_of_new store ask requestId
            ledgerId now target connection htarget hlevel hfound hconnection hid
          rcases hanswer with ⟨hanswer, hstatus, -⟩ | ⟨-, hmode, hrefused⟩
          · refine ⟨?_, ?_⟩
            · intro returned hreturned
              rw [hanswer] at hreturned
              cases hreturned
              exact ⟨hitem, hstatus⟩
            · intro requestId' ledgerId' now'
              rw [hanswer]
              exact again_of_existing htarget' hlevel hfound' requestId' ledgerId' now'
          · exact absurd (hgranted hmode) hrefused

theorem AnswersAlike.replayable (h : store.AnswersAlike ask requestId ledgerId now) :
    store.Replayable ask requestId ledgerId now := by
  refine ⟨?_, ?_⟩
  · intro target existing htarget hlevel hfound
    exact h.about existing (again_of_existing htarget hlevel hfound requestId ledgerId now)
  · intro target connection htarget hlevel hfree hconnection
    have hid : store.detailOpenRequests.lookup requestId = none := by
      by_contra htaken
      -- a second call draws another id, and is not told of the first one's collision
      obtain ⟨requestId', hid'⟩ := exists_free_requestId (store.reconciled now)
      have hfirst := @answer_of_taken store ask requestId ledgerId now target connection htarget hlevel
        hfree hconnection htaken
      have hagain := h.again requestId' ledgerId now
      rw [hfirst] at hagain
      obtain ⟨_, -, -, -, hanswer⟩ := @answer_of_new (store.reconciled now) ask requestId' ledgerId now
        target connection htarget hlevel hfree hconnection hid'
      rcases hanswer with ⟨hanswer, -⟩ | ⟨⟨_, hanswer⟩, -⟩
      · rw [hanswer] at hagain
        cases hagain
      · rw [hanswer] at hagain
        cases hagain
    refine ⟨hid, ?_⟩
    intro hmode
    obtain ⟨request, htarget', hfound', -, hanswer⟩ := @answer_of_new store ask requestId ledgerId now
      target connection htarget hlevel hfree hconnection hid
    rcases hanswer with ⟨-, -, hgranted⟩ | ⟨⟨reason, hanswer⟩, -, -⟩
    · exact hgranted hmode
    -- the caller was told of a block, and is now handed the request
    · have hagain := h.again requestId ledgerId now
      rw [hanswer, again_of_existing htarget' hlevel hfound'] at hagain
      cases hagain

/-- **A call answers alike** exactly if what it finds, or makes, is what it was asked for. -/
theorem answersAlike_iff : store.AnswersAlike ask requestId ledgerId now ↔
    store.Replayable ask requestId ledgerId now :=
  ⟨AnswersAlike.replayable, Replayable.answersAlike⟩

end WorkbenchStore

namespace Workbench

open WorkbenchStore

def askedDuringLease : List WorkbenchCall :=
  sampleLease ++ [.createLiepinDetailOpenRequest sampleUser "s" "review_s\x1fliepin\x1fk"
    (some "again") "q2" "l2" 6]

def blockedDuringLease : List WorkbenchCall :=
  askedDuringLease ++ [.approveLiepinDetailOpenRequest sampleUser "q2" "l2" 6]

/-- A repetition of the second call returns the blocked request. -/
theorem not_answersAlike :
    ¬∀ calls, Runs .ascii {} calls → ∀ ask requestId ledgerId now,
      (run .ascii {} calls).store.AnswersAlike ask requestId ledgerId now := by
  intro h
  have hasked : Runs .ascii {} askedDuringLease := runs_sampleLease.snoc trivial
  have hruns : Runs .ascii {} blockedDuringLease := hasked.snoc trivial
  let ask : DetailOpenAsk := ⟨sampleUser, "s", "review_s\x1fliepin\x1fk", some "again"⟩
  have halike := h blockedDuringLease hruns ask "q3" "l3" 7
  have hanswer : ∃ request,
      (answerRequest ask "q3" "l3" 7 (run .ascii {} blockedDuringLease).store).2 = .returned request ∧
        request.status = .blocked := by
    have hexisting : ((run .ascii {} blockedDuringLease).store.existingOf ask).map (·.status) =
        some .blocked := by
      decide
    obtain ⟨request, hfound, hstatus⟩ := Option.map_eq_some_iff.mp hexisting
    have htarget : ((run .ascii {} blockedDuringLease).store.targetOf ask).map (·.evidenceLevel) =
        some .card := by
      decide
    obtain ⟨target, htarget, hlevel⟩ := Option.map_eq_some_iff.mp htarget
    refine ⟨request, again_of_existing htarget ?_ hfound "q3" "l3" 7, hstatus⟩
    rw [hlevel]
    simp
  obtain ⟨request, hreturned, hstatus⟩ := hanswer
  exact (halike.about request hreturned).2 hstatus

end Workbench

end SeekTalent

import SeekTalent.Workbench.DetailOpenLedger

/-!
# The account behind a lease

A request that is made by hand demands a connected account. The two other ways to a lease
demand less: an approval looks at no connection at all, and a card search is content with an
account whose hash is empty. So an opening may be reserved on a connection that is lost, and
only by steps of these two kinds (`body_leases`).
-/

namespace SeekTalent

open Stateful (bind_eq_ok)

namespace WorkbenchStore

variable {store store' middle : WorkbenchStore} {user : WorkbenchUser}
variable {entry : DetailOpenLedgerRow} {requestId ledgerId connectionId : String} {now : Instant}

/-! ## 1. Leases and accounts -/

def HasAccount (store : WorkbenchStore) (connectionId : String) : Prop :=
  ∃ row, store.sourceConnections.lookup connectionId = some row ∧ row.status = .connected ∧
    row.providerAccountHash ≠ none ∧ row.providerAccountHash ≠ some ""

structure LeaseOpen (store : WorkbenchStore) (connectionId : String) (now : Instant) : Prop where
  no_lease : ∀ row ∈ store.detailOpenLedger.rows, row.connectionId = connectionId →
    row.status ≠ .leased
  budget : store.usedCount connectionId (budgetDay now) < liepinDailyDetailOpenLimit

structure Leases (store store' : WorkbenchStore) (entry : DetailOpenLedgerRow) : Prop where
  mem : entry ∈ store'.detailOpenLedger.rows
  leased : entry.status = .leased
  before : ∀ old ∈ store.detailOpenLedger.rows, old.ledgerId = entry.ledgerId →
    old.status ≠ .leased

theorem Leases.new (h : Leases store store' entry) : entry ∉ store.detailOpenLedger.rows := by
  intro hold
  exact h.before entry hold rfl h.leased

theorem not_leases_of_eq (h : store'.detailOpenLedger = store.detailOpenLedger) :
    ¬Leases store store' entry := by
  intro hleases
  apply hleases.new
  rw [← h]
  exact hleases.mem

/-- **What leasing a request does to the ledger**: nothing, or it adds the request's row, and
    then nothing stood against it. -/
theorem lease_ledger {row : DetailOpenRequestRow} (ledgerId : String) (now : Instant)
    (hrow : store.detailOpenRequests.lookup requestId = some row) :
    (store.leaseLiepinDetailOpenRequest requestId ledgerId now).1.detailOpenLedger =
      store.detailOpenLedger ∨
    (store.LeaseOpen row.connectionId now ∧
      (store.leaseLiepinDetailOpenRequest requestId ledgerId now).1.detailOpenLedger.rows =
        store.detailOpenLedger.rows ++ [leaseRow row ledgerId now]) := by
  unfold leaseLiepinDetailOpenRequest
  rw [hrow]
  dsimp only
  split
  · exact .inl rfl
  · split
    · exact .inl rfl
    · rename_i hbudget
      split
      · exact .inl rfl
      · rename_i ledger hinsert
        obtain ⟨hinserted, hfree⟩ := no_lease_of_insertLedgerRow hinsert
        exact .inr ⟨⟨hfree, Nat.lt_of_not_le hbudget⟩, Keyed.rows_insert hinserted⟩

theorem lease_leases {row : DetailOpenRequestRow}
    (hrow : store.detailOpenRequests.lookup requestId = some row)
    (hleases : Leases store (store.leaseLiepinDetailOpenRequest requestId ledgerId now).1 entry) :
    entry.connectionId = row.connectionId ∧ store.LeaseOpen row.connectionId now := by
  rcases lease_ledger ledgerId now hrow with hsame | ⟨hopen, hrows⟩
  · exact absurd hleases (not_leases_of_eq hsame)
  · have hmem := hleases.mem
    rw [hrows] at hmem
    rcases List.mem_append.mp hmem with hold | hnew
    · exact absurd hold hleases.new
    · obtain rfl := List.mem_singleton.mp hnew
      exact ⟨rfl, hopen⟩

/-! ## 2. Requests by hand -/

theorem hasAccount_of_connected {connection : SourceConnectionRow}
    (h : store.connectedLiepinConnection user = some connection) :
    store.HasAccount connection.connectionId := by
  obtain ⟨hfound, hconnected⟩ := Option.filter_eq_some_iff.mp h
  obtain ⟨hstatus, hnone, hempty⟩ := of_decide_eq_true hconnected
  exact ⟨connection, Keyed.mem_rows_iff.mp (List.mem_of_find?_eq_some hfound), hstatus, hnone, hempty⟩

theorem create_leases {sessionId reviewItemId : String} {idempotencyKey : Option String}
    {answer : Option (DetailOpenRequestRow × Option String)}
    (hok : createLiepinDetailOpenRequest user sessionId reviewItemId idempotencyKey requestId
      ledgerId now store = .ok (store', answer))
    (hleases : Leases store store' entry) : store.HasAccount entry.connectionId := by
  rcases createLiepinDetailOpenRequest_ok hok with rfl | ⟨connection, row, requests, hconnection, -,
    hid, hrowConnection, -, -, hinsert, ⟨-, rfl⟩ | ⟨-, rfl⟩⟩
  · exact absurd hleases (not_leases_of_eq rfl)
  · exact absurd hleases (not_leases_of_eq rfl)
  · have hlookup : (store.withRequests requests).detailOpenRequests.lookup requestId = some row := by
      show requests.lookup requestId = some row
      rw [(Keyed.lookup_insert hinsert).2, if_pos hid]
    have hfrom : Leases (store.withRequests requests) _ entry :=
      ⟨hleases.mem, hleases.leased, hleases.before⟩
    obtain ⟨hentry, -⟩ := lease_leases hlookup hfrom
    rw [hentry, hrowConnection]
    exact hasAccount_of_connected hconnection

theorem approve_leases {answer : Option (DetailOpenRequestRow × Option String)}
    (hok : approveLiepinDetailOpenRequest user requestId ledgerId now store = .ok (store', answer))
    (hleases : Leases store store' entry) :
    ∃ request, store.detailRequestRowForUser user requestId = some request ∧
      request.status = .pending ∧ entry.connectionId = request.connectionId ∧
      store.LeaseOpen request.connectionId now := by
  rcases approveLiepinDetailOpenRequest_ok hok with rfl | ⟨request, hfound, hpending, rfl⟩
  · exact absurd hleases (not_leases_of_eq rfl)
  · obtain ⟨hentry, hopen⟩ := lease_leases
      (lookup_approved (lookup_of_detailRequestRowForUser hfound))
      ⟨hleases.mem, hleases.leased, hleases.before⟩
    exact ⟨request, hfound, hpending, hentry, hopen.no_lease, hopen.budget⟩

/-! ## 3. Requests of a card search -/

def KeepsRequests (store store' : WorkbenchStore) : Prop :=
  ∀ request ∈ store.detailOpenRequests.rows, ∃ request' ∈ store'.detailOpenRequests.rows,
    request'.workspaceId = request.workspaceId ∧ request'.userId = request.userId ∧
      request'.idempotencyKey = request.idempotencyKey

theorem KeepsRequests.refl (store : WorkbenchStore) : KeepsRequests store store := by
  intro request hrequest
  exact ⟨request, hrequest, rfl, rfl, rfl⟩

theorem KeepsRequests.trans (h : KeepsRequests store middle) (h' : KeepsRequests middle store') :
    KeepsRequests store store' := by
  intro request hrequest
  obtain ⟨request₁, hrequest₁, hworkspace₁, huser₁, hkey₁⟩ := h request hrequest
  obtain ⟨request₂, hrequest₂, hworkspace₂, huser₂, hkey₂⟩ := h' request₁ hrequest₁
  exact ⟨request₂, hrequest₂, hworkspace₂.trans hworkspace₁, huser₂.trans huser₁,
    hkey₂.trans hkey₁⟩

theorem KeepsRequests.free {key : String} (h : KeepsRequests store store')
    (hfree : store'.detailOpenRequestByKey user key = none) :
    store.detailOpenRequestByKey user key = none := by
  unfold detailOpenRequestByKey at hfree ⊢
  rw [List.find?_eq_none] at hfree ⊢
  intro request hrequest hmatch
  obtain ⟨hworkspace, huser, hkey⟩ := of_decide_eq_true hmatch
  obtain ⟨request', hrequest', hworkspace', huser', hkey'⟩ := h request hrequest
  apply hfree request' hrequest'
  exact decide_eq_true ⟨hworkspace'.trans hworkspace, huser'.trans huser, hkey'.trans hkey⟩

theorem keepsRequests_updateRequest {set : DetailOpenRequestRow → DetailOpenRequestRow}
    {hset : ∀ row, (set row).requestId = row.requestId}
    (hsame : ∀ row, (set row).workspaceId = row.workspaceId ∧ (set row).userId = row.userId ∧
      (set row).idempotencyKey = row.idempotencyKey) :
    KeepsRequests store (store.updateRequest requestId set hset) := by
  intro request hrequest
  cases hid : (decide (request.requestId = requestId)) with
  | true =>
    exact ⟨set request, Table.mem_updateWhere_iff.mpr (.inl ⟨request, hrequest, hid, rfl⟩),
      hsame request⟩
  | false =>
    exact ⟨request, Table.mem_updateWhere_iff.mpr (.inr ⟨hrequest, hid⟩), rfl, rfl, rfl⟩

theorem keepsRequests_withRequests {row : DetailOpenRequestRow}
    {requests : Keyed DetailOpenRequestRow.requestId}
    (hinsert : store.detailOpenRequests.insert row = some requests) :
    KeepsRequests store (store.withRequests requests) := by
  intro request hrequest
  refine ⟨request, ?_, rfl, rfl, rfl⟩
  show request ∈ requests.rows
  rw [Keyed.rows_insert hinsert]
  exact List.mem_append_left _ hrequest

theorem keepsRequests_lease (requestId ledgerId : String) (now : Instant) :
    KeepsRequests store (store.leaseLiepinDetailOpenRequest requestId ledgerId now).1 := by
  have hblock : ∀ row reason, KeepsRequests store (store.blockDetailOpenRequest row reason) := by
    intro row reason
    apply keepsRequests_updateRequest
    · exact fun _ => rfl
    · exact fun _ => ⟨rfl, rfl, rfl⟩
  unfold leaseLiepinDetailOpenRequest
  split
  · exact .refl store
  · split
    · exact hblock _ _
    · split
      · exact hblock _ _
      · split
        · exact hblock _ _
        · apply keepsRequests_updateRequest
          · exact fun _ => rfl
          · exact fun _ => ⟨rfl, rfl, rfl⟩

def AsksForDetail (lib : WorkbenchLibrary) (context : WorkbenchSourceRunJobContext)
    (result : LiepinLaneResult) (store : WorkbenchStore) : Prop :=
  ∃ card ∈ result.cards, ∃ reviewItemId,
    WantsDetail lib context result.usesRuntimeDetailRecommendations card reviewItemId ∧
      store.detailOpenRequestByKey context.user (autoDetailKey context reviewItemId) = none

structure SearchWrites (lib : WorkbenchLibrary) (context : WorkbenchSourceRunJobContext)
    (result : LiepinLaneResult) (now : Instant) (store store' : WorkbenchStore) : Prop where
  kept : store.detailOpenLedger.rows <+: store'.detailOpenLedger.rows
  requests : KeepsRequests store store'
  leased : ∀ row ∈ store'.detailOpenLedger.rows, row ∈ store.detailOpenLedger.rows ∨
    ∃ connection, store.connectedLiepinConnectionForOwner context.user = some connection ∧
      row.connectionId = connection.connectionId ∧
      store.detailOpenModeOf context.user context.session.sessionId = .bypassConfirm ∧
      store.LeaseOpen connection.connectionId now ∧ store.AsksForDetail lib context result

section Search

variable {lib : WorkbenchLibrary} {context : WorkbenchSourceRunJobContext} {result : LiepinLaneResult}
variable {connection : SourceConnectionRow} {card : LiepinCard}
variable {evidenceId reviewItemId providerKeyHash : String} {made : Bool}

theorem SearchWrites.refl : SearchWrites lib context result now store store where
  kept := List.prefix_rfl
  requests := .refl store
  leased := fun _ hrow => .inl hrow

theorem LeaseOpen.of_prefix (h : middle.LeaseOpen connectionId now)
    (hkept : store.detailOpenLedger.rows <+: middle.detailOpenLedger.rows) :
    store.LeaseOpen connectionId now where
  no_lease := fun row hrow => h.no_lease row (hkept.subset hrow)
  budget := Nat.lt_of_le_of_lt (hkept.sublist.filter _).length_le h.budget

theorem SearchWrites.request (h : SearchWrites lib context result now store middle)
    (hconnection : store.connectedLiepinConnectionForOwner context.user = some connection)
    (hcard : card ∈ result.cards)
    (hwants : WantsDetail lib context result.usesRuntimeDetailRecommendations card reviewItemId)
    (hmade : middle.requestCardDetail context card connection
      (store.detailOpenModeOf context.user context.session.sessionId) evidenceId reviewItemId
      providerKeyHash now = .ok (store', made)) : SearchWrites lib context result now store store' := by
  rcases requestCardDetail_ok hmade with rfl | ⟨row, requests, hfree, hid, hrowConnection, -, hmode, -,
    -, hinsert, ⟨-, rfl⟩ | ⟨hbypass, rfl⟩⟩
  · exact h
  · exact ⟨h.kept, h.requests.trans (keepsRequests_withRequests hinsert), h.leased⟩
  · have hlookup : (middle.withRequests requests).detailOpenRequests.lookup card.requestId =
        some row := by
      show requests.lookup card.requestId = some row
      rw [(Keyed.lookup_insert hinsert).2, if_pos hid]
    have hrequests := (h.requests.trans (keepsRequests_withRequests hinsert)).trans
      (keepsRequests_lease card.requestId card.ledgerId now)
    rcases lease_ledger card.ledgerId now hlookup with hsame | ⟨hopen, hrows⟩
    · refine ⟨?_, hrequests, ?_⟩
      · rw [hsame]
        exact h.kept
      · rw [hsame]
        exact h.leased
    · have hopen : store.LeaseOpen connection.connectionId now := by
        rw [← hrowConnection]
        exact hopen.of_prefix h.kept
      refine ⟨?_, hrequests, ?_⟩
      · rw [hrows]
        exact h.kept.trans (List.prefix_append _ _)
      · intro entry hentry
        rw [hrows] at hentry
        rcases List.mem_append.mp hentry with hold | hnew
        · exact h.leased entry hold
        · obtain rfl := List.mem_singleton.mp hnew
          refine .inr ⟨connection, hconnection, hrowConnection, ?_, hopen, card, hcard, reviewItemId,
            hwants, h.requests.free hfree⟩
          rw [← hmode]
          exact hbypass

theorem persistLiepin_writes {progress : WorkbenchStore × Nat × List String}
    (hok : persistLiepinCardCandidateResults lib context result now store = .ok progress) :
    SearchWrites lib context result now store progress.1 := by
  apply persistLiepinCards_induction (P := SearchWrites lib context result now store) _ _ .refl hok
  · intro middle _ _ _ h
    exact ⟨h.kept, h.requests, h.leased⟩
  · intro middle middle' _ _ _ _ _ _ h hconnection hcard hwants hmade
    exact h.request hconnection hcard hwants.wantsDetail hmade

theorem connectedForOwner (h : store.connectedLiepinConnectionForOwner user = some connection)
    (hhash : connection.providerAccountHash ≠ some "") : store.HasAccount connection.connectionId := by
  unfold connectedLiepinConnectionForOwner at h
  have hfound := List.find?_some h
  simp only [decide_eq_true_eq] at hfound
  obtain ⟨-, -, hstatus, hnone⟩ := hfound
  exact ⟨connection, Keyed.mem_rows_iff.mp (List.mem_of_find?_eq_some h), hstatus, hnone, hhash⟩

theorem completeLiepin_leases {answer : List String}
    (hok : completeLiepinCardSourceRun lib context result now store = .ok (store', answer))
    (hleases : Leases store store' entry) :
    ∃ job connection, store.sourceRunJobs.lookup context.job.jobId = some job ∧
      job.status = .running ∧
      store.connectedLiepinConnectionForOwner context.user = some connection ∧
      entry.connectionId = connection.connectionId ∧
      store.detailOpenModeOf context.user context.session.sessionId = .bypassConfirm ∧
      store.LeaseOpen connection.connectionId now ∧ store.AsksForDetail lib context result := by
  rcases completeLiepinCardSourceRun_ok hok with rfl | ⟨job, progress, _, _, hjob, hrunning, hpersist, -,
    rfl⟩
  · exact absurd hleases (not_leases_of_eq rfl)
  · rcases (persistLiepin_writes hpersist).leased entry hleases.mem with hold | ⟨connection, hconnection,
      hentry, hmode, hopen, hasks⟩
    · exact absurd hold hleases.new
    · exact ⟨job, connection, hjob, hrunning, hconnection, hentry, hmode, hopen, hasks⟩

end Search

end WorkbenchStore

open WorkbenchStore

/-! ## 4. Every step -/

/-- The step leases nothing on a connection without an account: if it approves a pending request
    that nothing stands against, the connection has one; if it completes a search that is to lease
    at once, the account hash of the connection is not empty. -/
def WorkbenchCall.OnAccount (lib : WorkbenchLibrary) (store : WorkbenchStore) :
    WorkbenchCall → Prop
  | .approveLiepinDetailOpenRequest user requestId _ now =>
    ∀ request, store.detailRequestRowForUser user requestId = some request →
      request.status = .pending → store.LeaseOpen request.connectionId now →
      store.HasAccount request.connectionId
  | .completeLiepinCardSourceRun context result now =>
    ∀ job connection, store.sourceRunJobs.lookup context.job.jobId = some job →
      job.status = .running →
      store.connectedLiepinConnectionForOwner context.user = some connection →
      store.detailOpenModeOf context.user context.session.sessionId = .bypassConfirm →
      store.LeaseOpen connection.connectionId now → store.AsksForDetail lib context result →
      connection.providerAccountHash ≠ some ""
  | _ => True

namespace Workbench

variable {lib : WorkbenchLibrary} {bench : Workbench} {calls : List WorkbenchCall}

/-- **What leases**: a request by hand, on a connection with an account; or one of the two kinds
    of step that may do so on a connection without. -/
theorem body_leases {call : WorkbenchCall} {store' : WorkbenchStore}
    {context : Option WorkbenchSourceRunJobContext} {entry : DetailOpenLedgerRow}
    (hinStep : bench.InStep) (hissued : call.Issued bench) (hon : call.OnAccount lib bench.store)
    (hok : call.body lib bench.store = .ok (store', context))
    (hleases : Leases bench.store store' entry) : bench.store.HasAccount entry.connectionId := by
  by_cases hcall : call.WritesRequests
  case neg =>
    exact absurd hleases (not_leases_of_eq (body_keepsBooks hinStep hcall hissued hok).ledger)
  cases call
  case completeLiepinCardSourceRun =>
    obtain ⟨-, _, hok⟩ := silent_ok hok
    obtain ⟨job, connection, hjob, hrunning, hconnection, hentry, hmode, hopen, hasks⟩ :=
      completeLiepin_leases hok hleases
    rw [hentry]
    exact connectedForOwner hconnection
      (hon job connection hjob hrunning hconnection hmode hopen hasks)
  case createLiepinDetailOpenRequest =>
    obtain ⟨-, _, hok⟩ := silent_ok hok
    exact create_leases hok hleases
  case approveLiepinDetailOpenRequest =>
    obtain ⟨-, _, hok⟩ := silent_ok hok
    obtain ⟨request, hfound, hpending, hentry, hopen⟩ := approve_leases hok hleases
    rw [hentry]
    exact hon request hfound hpending hopen
  case rejectLiepinDetailOpenRequest =>
    obtain ⟨-, _, hok⟩ := silent_ok hok
    rcases rejectLiepinDetailOpenRequest_ok hok with rfl | ⟨_, -, -, rfl⟩
    · exact absurd hleases (not_leases_of_eq rfl)
    · exact absurd hleases (not_leases_of_eq rfl)
  case reconcileExpiredDetailOpenLeases =>
    obtain ⟨-, _, hok⟩ := silent_ok hok
    cases hok
    rcases Table.mem_updateWhere_iff.mp hleases.mem with ⟨old, -, -, hentry⟩ | ⟨hold, -⟩
    · have hleased := hleases.leased
      rw [hentry] at hleased
      cases hleased
    · exact absurd hold hleases.new
  all_goals cases hcall

/-! ## 5. Every run -/

/-- Whenever a row of the ledger is leased, the connection of its request has an account. -/
def LeasesOnAccount (lib : WorkbenchLibrary) (calls : List WorkbenchCall) : Prop :=
  ∀ first call rest, calls = first ++ call :: rest →
    ∀ entry, Leases (run lib {} first).store (run lib {} (first ++ [call])).store entry →
      ∃ request,
        (run lib {} (first ++ [call])).store.detailOpenRequests.lookup entry.requestId =
          some request ∧
        (run lib {} first).store.HasAccount request.connectionId

def StepsOnAccount (lib : WorkbenchLibrary) (bench : Workbench) (calls : List WorkbenchCall) : Prop :=
  Stateful.Along (step lib) bench (fun bench call => call.OnAccount lib bench.store) calls

theorem stepsOnAccount_cons {call : WorkbenchCall} (hcall : call.OnAccount lib bench.store)
    (hcalls : StepsOnAccount lib (step lib bench call) calls) :
    StepsOnAccount lib bench (call :: calls) :=
  Stateful.along_cons hcall hcalls

/-- **Every run** whose steps are on an account leases on accounts only. -/
theorem run_leasesOnAccount (hruns : Runs lib {} calls) (hsteps : StepsOnAccount lib {} calls) :
    LeasesOnAccount lib calls := by
  intro first call rest hcalls entry hleases
  have hbefore : Runs lib {} first := (hcalls ▸ hruns).append.1
  have hissued : call.Issued (run lib {} first) := hruns first call rest hcalls
  obtain ⟨request, hrequest, -, -, -, hconnection⟩ :=
    (run_booked (hbefore.snoc hissued)).entries.owner entry hleases.mem
  refine ⟨request, hrequest, ?_⟩
  rw [hconnection]
  have hrun : run lib {} (first ++ [call]) = step lib (run lib {} first) call := by
    rw [run_append]
    rfl
  rw [hrun] at hleases
  rcases step_cases lib (run lib {} first) call with ⟨store', context, hbody, hstep⟩ | hstep
  · rw [hstep] at hleases
    exact body_leases (run_steps inStep_empty hbefore).2 hissued (hsteps first call rest hcalls) hbody
      hleases
  · rw [hstep] at hleases
    exact absurd hleases (not_leases_of_eq rfl)

theorem hasAccount_sampleRequest : (run .ascii {} sampleRequest).store.HasAccount "cx" :=
  ⟨⟨"cx", "lab", "ann", .connected, some "account", none⟩, by decide, rfl, by decide, by decide⟩

theorem stepsOnAccount_sampleLease : StepsOnAccount .ascii {} sampleLease := by
  have hrequest : StepsOnAccount .ascii {} sampleRequest := by
    refine stepsOnAccount_cons trivial (stepsOnAccount_cons trivial (stepsOnAccount_cons trivial
      (stepsOnAccount_cons trivial (stepsOnAccount_cons trivial (stepsOnAccount_cons trivial
        (stepsOnAccount_cons trivial (stepsOnAccount_cons ?_ (stepsOnAccount_cons trivial
          Stateful.along_nil))))))))
    -- the policy of the session is to ask the user
    intro job connection hjob hrunning hconnection hmode
    have hhuman : (run .ascii {} (sampleRequest.take 7)).store.detailOpenModeOf
        sampleSearchContext.user "s" = .humanConfirm := by
      decide
    cases hhuman.symm.trans hmode
  refine hrequest.snoc ?_
  intro request hrequest
  have hconnection : ((run .ascii {} sampleRequest).store.detailRequestRowForUser sampleUser
      "q").map (·.connectionId) = some "cx" := by
    decide
  intro hpending hopen
  rw [show (run .ascii {} sampleRequest).store.detailRequestRowForUser sampleUser "q" = some request
    from hrequest] at hconnection
  have hid : request.connectionId = "cx" := Option.some.inj hconnection
  rw [hid]
  exact hasAccount_sampleRequest

/-- The approval of the sample leases on an account. -/
theorem run_leasesOnAccount_sample : LeasesOnAccount .ascii sampleLease :=
  run_leasesOnAccount runs_sampleLease stepsOnAccount_sampleLease

def lostBeforeApproval : List WorkbenchCall :=
  sampleRequest ++ [.markLiepinConnectionLoginRequired sampleUser "cx" none,
    .approveLiepinDetailOpenRequest sampleUser "q" "l" 5]

/-- The approval reserves an opening all the same. -/
theorem not_leasesOnAccount_lostBeforeApproval :
    ¬∀ calls, Runs .ascii {} calls → LeasesOnAccount .ascii calls := by
  intro h
  have hmarked : Runs .ascii {} (sampleRequest ++
      [.markLiepinConnectionLoginRequired sampleUser "cx" none]) := runs_sampleRequest.snoc trivial
  have hruns : Runs .ascii {} lostBeforeApproval := hmarked.snoc trivial
  let entry : DetailOpenLedgerRow :=
    { ledgerId := "l"
      workspaceId := "lab"
      actorId := "ann"
      connectionId := "cx"
      sourceRunId := "r"
      requestId := "q"
      candidateEvidenceId := "evidence_r\x1fk\x1fcard"
      providerCandidateKeyHash := "k"
      budgetDay := 0
      idempotencyKey := "s:review_s\x1fliepin\x1fk"
      leaseExpiresAt := some 605 }
  obtain ⟨request, hrequest, row, hrow, hstatus, -⟩ :=
    h lostBeforeApproval hruns (sampleRequest ++ [.markLiepinConnectionLoginRequired sampleUser "cx" none])
      _ [] rfl entry ⟨by decide, rfl, by decide⟩
  have hconnection : ((run .ascii {} lostBeforeApproval).store.detailOpenRequests.lookup "q").map
      (·.connectionId) = some "cx" := by
    decide
  have hlost : ((run .ascii {} (sampleRequest ++ [.markLiepinConnectionLoginRequired sampleUser "cx"
      none])).store.sourceConnections.lookup "cx").map (·.status) = some .loginRequired := by
    decide
  rw [show (run .ascii {} lostBeforeApproval).store.detailOpenRequests.lookup "q" = some request
    from hrequest] at hconnection
  have hid : request.connectionId = "cx" := Option.some.inj hconnection
  rw [hid] at hrow
  rw [hrow] at hlost
  cases hstatus.symm.trans (Option.some.inj hlost)

end Workbench

end SeekTalent

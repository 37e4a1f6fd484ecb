import SeekTalent.Workbench.LeaseConnection

/-!
# What a candidate's detail page is charged

A request is recognised as a repetition by its idempotency key only, and the key of a request by
hand, the key of an automatic request and a key the user has chosen are three different keys for
one candidate. So the day's budget may be charged twice with one page. A step that does so leases
a request for a candidate of which another request of the session already has an opening of the
day; a run without such a step charges every candidate once.
-/

namespace SeekTalent

namespace WorkbenchStore

variable {store store' middle : WorkbenchStore} {requestId ledgerId : String} {now : Instant}

/-! ## 1. Charges -/

def LeasedFor (store : WorkbenchStore) (sessionId : String) (entry : DetailOpenLedgerRow) : Prop :=
  ∃ request, store.detailOpenRequests.lookup entry.requestId = some request ∧
    request.sessionId = sessionId

/-- Within a session and a day, no candidate is charged to a connection twice. -/
def ChargesOnce (store : WorkbenchStore) : Prop :=
  ∀ sessionId, ∀ row ∈ store.detailOpenLedger.rows, ∀ row' ∈ store.detailOpenLedger.rows,
    store.LeasedFor sessionId row → store.LeasedFor sessionId row' →
    row.connectionId = row'.connectionId → row.budgetDay = row'.budgetDay →
    row.providerCandidateKeyHash = row'.providerCandidateKeyHash → row = row'

def Opened (store : WorkbenchStore) (sessionId connectionId providerKeyHash : String) (day : Nat) :
    Prop :=
  ∃ request ∈ store.detailOpenRequests.rows, request.sessionId = sessionId ∧
    request.connectionId = connectionId ∧ request.providerCandidateKeyHash = providerKeyHash ∧
    ∃ entry ∈ store.detailOpenLedger.rows,
      request.ledgerId = some entry.ledgerId ∧ entry.budgetDay = day

theorem not_opened_of_nil {sessionId connectionId providerKeyHash : String} {day : Nat}
    (h : store.detailOpenLedger.rows = []) :
    ¬store.Opened sessionId connectionId providerKeyHash day := by
  intro hopened
  obtain ⟨_, -, -, -, -, entry, hentry, -⟩ := hopened
  rw [h] at hentry
  cases hentry

/-! ## 2. What requests are about -/

def KeepsAbout (store store' : WorkbenchStore) : Prop :=
  ∀ id request, store.detailOpenRequests.lookup id = some request →
    ∃ request', store'.detailOpenRequests.lookup id = some request' ∧
      request'.sessionId = request.sessionId ∧
      request'.providerCandidateKeyHash = request.providerCandidateKeyHash

theorem KeepsAbout.refl (store : WorkbenchStore) : KeepsAbout store store := by
  intro id request hrequest
  exact ⟨request, hrequest, rfl, rfl⟩

theorem KeepsAbout.of_eq (h : store'.detailOpenRequests = store.detailOpenRequests) :
    KeepsAbout store store' := by
  intro id request hrequest
  exact ⟨request, by rw [h, hrequest], rfl, rfl⟩

theorem KeepsAbout.trans (h : KeepsAbout store middle) (h' : KeepsAbout middle store') :
    KeepsAbout store store' := by
  intro id request hrequest
  obtain ⟨request₁, hrequest₁, hsession₁, hhash₁⟩ := h id request hrequest
  obtain ⟨request₂, hrequest₂, hsession₂, hhash₂⟩ := h' id request₁ hrequest₁
  exact ⟨request₂, hrequest₂, hsession₂.trans hsession₁, hhash₂.trans hhash₁⟩

theorem keepsAbout_updateRequest {set : DetailOpenRequestRow → DetailOpenRequestRow}
    {hset : ∀ row, (set row).requestId = row.requestId}
    (hsame : ∀ row, (set row).sessionId = row.sessionId ∧
      (set row).providerCandidateKeyHash = row.providerCandidateKeyHash) :
    KeepsAbout store (store.updateRequest requestId set hset) := by
  intro id request hrequest
  rw [lookup_updateRequest, hrequest]
  split
  · exact ⟨set request, rfl, hsame request⟩
  · exact ⟨request, rfl, rfl, rfl⟩

theorem keepsAbout_withRequests {row : DetailOpenRequestRow}
    {requests : Keyed DetailOpenRequestRow.requestId}
    (hinsert : store.detailOpenRequests.insert row = some requests) :
    KeepsAbout store (store.withRequests requests) := by
  intro id request hrequest
  obtain ⟨hnew, hlookup⟩ := Keyed.lookup_insert hinsert
  refine ⟨request, ?_, rfl, rfl⟩
  show requests.lookup id = some request
  rw [hlookup, if_neg, hrequest]
  intro hid
  rw [hid, hrequest] at hnew
  cases hnew

theorem keepsAbout_lease (requestId ledgerId : String) (now : Instant) :
    KeepsAbout store (store.leaseLiepinDetailOpenRequest requestId ledgerId now).1 := by
  have hblock : ∀ row reason, KeepsAbout store (store.blockDetailOpenRequest row reason) := by
    intro row reason
    apply keepsAbout_updateRequest
    · exact fun _ => rfl
    · exact fun _ => ⟨rfl, rfl⟩
  unfold leaseLiepinDetailOpenRequest
  split
  · exact .refl store
  · split
    · exact hblock _ _
    · split
      · exact hblock _ _
      · split
        · exact hblock _ _
        · apply keepsAbout_updateRequest
          · exact fun _ => rfl
          · exact fun _ => ⟨rfl, rfl⟩

/-! ## 3. A step -/

structure SameCharge (row row' : DetailOpenLedgerRow) : Prop where
  ledgerId : row'.ledgerId = row.ledgerId
  requestId : row'.requestId = row.requestId
  connectionId : row'.connectionId = row.connectionId
  hash : row'.providerCandidateKeyHash = row.providerCandidateKeyHash
  budgetDay : row'.budgetDay = row.budgetDay

theorem SameCharge.refl (row : DetailOpenLedgerRow) : SameCharge row row := ⟨rfl, rfl, rfl, rfl, rfl⟩

structure FirstCharge (store store' : WorkbenchStore) (entry : DetailOpenLedgerRow) : Prop where
  leased : entry.status = .leased
  request : ∃ request, store'.detailOpenRequests.lookup entry.requestId = some request ∧
    request.providerCandidateKeyHash = entry.providerCandidateKeyHash ∧
    ¬store.Opened request.sessionId entry.connectionId entry.providerCandidateKeyHash entry.budgetDay

theorem FirstCharge.keep {entry : DetailOpenLedgerRow} (h : FirstCharge store middle entry)
    (hkeeps : KeepsAbout middle store') : FirstCharge store store' entry := by
  obtain ⟨request, hrequest, hhash, hfirst⟩ := h.request
  obtain ⟨request', hrequest', hsession', hhash'⟩ := hkeeps _ request hrequest
  refine ⟨h.leased, request', hrequest', hhash'.trans hhash, ?_⟩
  rw [hsession']
  exact hfirst

structure ChargesFirst (store store' : WorkbenchStore) : Prop where
  about : KeepsAbout store store'
  entries : ∀ entry ∈ store'.detailOpenLedger.rows,
    (∃ old ∈ store.detailOpenLedger.rows, SameCharge old entry) ∨ FirstCharge store store' entry

theorem ChargesFirst.of_about (hkeeps : KeepsAbout store store')
    (hledger : store'.detailOpenLedger = store.detailOpenLedger) : ChargesFirst store store' where
  about := hkeeps
  entries := by
    intro entry hentry
    rw [hledger] at hentry
    exact .inl ⟨entry, hentry, .refl entry⟩

theorem ChargesFirst.keep (h : ChargesFirst store middle) (hkeeps : KeepsAbout middle store')
    (hledger : store'.detailOpenLedger = middle.detailOpenLedger) : ChargesFirst store store' where
  about := h.about.trans hkeeps
  entries := by
    intro entry hentry
    rw [hledger] at hentry
    rcases h.entries entry hentry with hold | hfirst
    · exact .inl hold
    · exact .inr (hfirst.keep hkeeps)

theorem ChargesFirst.lease {row : DetailOpenRequestRow} (ledgerId : String) (now : Instant)
    (h : ChargesFirst store middle)
    (hrow : middle.detailOpenRequests.lookup requestId = some row)
    (hfirst : middle.LeaseOpen row.connectionId now → ¬store.Opened row.sessionId row.connectionId
      row.providerCandidateKeyHash (budgetDay now)) :
    ChargesFirst store (middle.leaseLiepinDetailOpenRequest requestId ledgerId now).1 := by
  have hkeeps : KeepsAbout middle (middle.leaseLiepinDetailOpenRequest requestId ledgerId now).1 :=
    keepsAbout_lease requestId ledgerId now
  rcases lease_ledger ledgerId now hrow with hsame | ⟨hopen, hrows⟩
  · exact h.keep hkeeps hsame
  · refine ⟨h.about.trans hkeeps, ?_⟩
    intro entry hentry
    rw [hrows] at hentry
    rcases List.mem_append.mp hentry with hold | hnew
    · rcases h.entries entry hold with hold | hfirst
      · exact .inl hold
      · exact .inr (hfirst.keep hkeeps)
    · obtain rfl := List.mem_singleton.mp hnew
      obtain rfl := Keyed.key_of_lookup hrow
      have hnew : FirstCharge store middle (leaseRow row ledgerId now) :=
        ⟨rfl, row, hrow, rfl, hfirst hopen⟩
      exact .inr (hnew.keep hkeeps)

structure Charged (store : WorkbenchStore) : Prop where
  about : ∀ row ∈ store.detailOpenLedger.rows, ∀ request,
    store.detailOpenRequests.lookup row.requestId = some request →
      request.providerCandidateKeyHash = row.providerCandidateKeyHash
  once : store.ChargesOnce

theorem charged_empty : Charged {} where
  about := by simp
  once := by simp [ChargesOnce]

theorem LeasedFor.before {sessionId : String} {old entry : DetailOpenLedgerRow} (hbooked : store.Booked)
    (hkeeps : KeepsAbout store store') (hold : old ∈ store.detailOpenLedger.rows)
    (hsame : SameCharge old entry) (hleased : store'.LeasedFor sessionId entry) :
    store.LeasedFor sessionId old := by
  obtain ⟨request, hrequest, -⟩ := hbooked.entries.owner old hold
  obtain ⟨request', hrequest', hsession, -⟩ := hkeeps _ request hrequest
  obtain ⟨owner, howner, rfl⟩ := hleased
  rw [hsame.requestId, hrequest'] at howner
  cases howner
  exact ⟨request, hrequest, hsession.symm⟩

theorem FirstCharge.not_charged {sessionId : String} {old entry entry' : DetailOpenLedgerRow}
    (h : store.Charged) (hbooked : store.Booked) (hold : old ∈ store.detailOpenLedger.rows)
    (hleased : store.LeasedFor sessionId old) (hsame : SameCharge old entry)
    (hfirst : FirstCharge store store' entry') (hleased' : store'.LeasedFor sessionId entry')
    (hconnection : entry.connectionId = entry'.connectionId)
    (hday : entry.budgetDay = entry'.budgetDay)
    (hhash : entry.providerCandidateKeyHash = entry'.providerCandidateKeyHash) : False := by
  obtain ⟨request, hrequest, hnames, -, -, hrequestConnection⟩ := hbooked.entries.owner old hold
  obtain ⟨owner, howner, hsession⟩ := hleased
  rw [hrequest] at howner
  cases howner
  obtain ⟨request', hrequest', -, hnot⟩ := hfirst.request
  obtain ⟨owner', howner', hsession'⟩ := hleased'
  rw [hrequest'] at howner'
  cases howner'
  apply hnot
  refine ⟨request, (Keyed.lookup_eq_some_iff.mp hrequest).1, hsession.trans hsession'.symm, ?_, ?_, old,
    hold, hnames, ?_⟩
  · rw [hrequestConnection, ← hsame.connectionId, hconnection]
  · rw [h.about old hold request hrequest, ← hsame.hash, hhash]
  · rw [← hsame.budgetDay, hday]

/-- **A step** that charges nobody twice keeps the ledger as it should be. -/
theorem Charged.step (h : store.Charged) (hbooked : store.Booked) (hbooked' : store'.Booked)
    (hstep : ChargesFirst store store') : store'.Charged where
  about := by
    intro row hrow request hrequest
    rcases hstep.entries row hrow with ⟨old, hold, hsame⟩ | hfirst
    · obtain ⟨before, hbefore, -⟩ := hbooked.entries.owner old hold
      obtain ⟨after, hafter, -, hhash⟩ := hstep.about _ before hbefore
      rw [hsame.requestId, hafter] at hrequest
      cases hrequest
      rw [hhash, hsame.hash]
      exact h.about old hold before hbefore
    · obtain ⟨owner, howner, hhash, -⟩ := hfirst.request
      rw [hrequest] at howner
      cases howner
      exact hhash
  once := by
    intro sessionId row hrow row' hrow' hleased hleased' hconnection hday hhash
    rcases hstep.entries row hrow with ⟨old, hold, hsame⟩ | hfirst
    · have hbefore := hleased.before hbooked hstep.about hold hsame
      rcases hstep.entries row' hrow' with ⟨old', hold', hsame'⟩ | hfirst'
      · have hbefore' := hleased'.before hbooked hstep.about hold' hsame'
        have hone : old = old' := by
          apply h.once sessionId old hold old' hold' hbefore hbefore'
          · rw [← hsame.connectionId, ← hsame'.connectionId, hconnection]
          · rw [← hsame.budgetDay, ← hsame'.budgetDay, hday]
          · rw [← hsame.hash, ← hsame'.hash, hhash]
        have hid : row.ledgerId = row'.ledgerId := by
          rw [hsame.ledgerId, hsame'.ledgerId, hone]
        have hlookup := Keyed.mem_rows_iff.mp hrow
        rw [hid, Keyed.mem_rows_iff.mp hrow'] at hlookup
        exact (Option.some.inj hlookup).symm
      · exact (hfirst'.not_charged h hbooked hold hbefore hsame hleased' hconnection hday hhash).elim
    · rcases hstep.entries row' hrow' with ⟨old', hold', hsame'⟩ | hfirst'
      · have hbefore' := hleased'.before hbooked hstep.about hold' hsame'
        exact (hfirst.not_charged h hbooked hold' hbefore' hsame' hleased hconnection.symm hday.symm
          hhash.symm).elim
      -- two rows of one step would be two leases of one connection
      · exact hbooked'.one_lease row hrow row' hrow' hfirst.leased hfirst'.leased hconnection

/-! ## 4. The methods -/

section Methods

variable {user : WorkbenchUser} {lib : WorkbenchLibrary} {context : WorkbenchSourceRunJobContext}
variable {result : LiepinLaneResult} {connection : SourceConnectionRow}

theorem lookup_withRequests {row : DetailOpenRequestRow}
    {requests : Keyed DetailOpenRequestRow.requestId}
    (hinsert : store.detailOpenRequests.insert row = some requests) (hid : row.requestId = requestId) :
    (store.withRequests requests).detailOpenRequests.lookup requestId = some row := by
  show requests.lookup requestId = some row
  rw [(Keyed.lookup_insert hinsert).2, if_pos hid]

def AsksByHandOnce (store : WorkbenchStore) (user : WorkbenchUser) (sessionId reviewItemId : String)
    (idempotencyKey : Option String) (now : Instant) : Prop :=
  ∀ target connection, store.liepinReviewTarget user sessionId reviewItemId = some target →
    target.evidenceLevel ≠ .detail →
    store.detailOpenRequestByKey user
      (detailIdempotencyKey sessionId reviewItemId idempotencyKey) = none →
    store.connectedLiepinConnection user = some connection →
    store.detailOpenModeOf user sessionId = .bypassConfirm →
    store.LeaseOpen connection.connectionId now →
    ¬store.Opened sessionId connection.connectionId target.providerCandidateKeyHash (budgetDay now)

/-- The request that is approved is for a candidate without an opening of the day. -/
def ApprovesOnce (store : WorkbenchStore) (user : WorkbenchUser) (requestId : String)
    (now : Instant) : Prop :=
  ∀ request, store.detailRequestRowForUser user requestId = some request →
    request.status = .pending → store.LeaseOpen request.connectionId now →
    ¬store.Opened request.sessionId request.connectionId request.providerCandidateKeyHash
      (budgetDay now)

def SearchAsksOnce (lib : WorkbenchLibrary) (context : WorkbenchSourceRunJobContext)
    (result : LiepinLaneResult) (store : WorkbenchStore) (now : Instant) : Prop :=
  ∀ job connection, store.sourceRunJobs.lookup context.job.jobId = some job →
    job.status = .running →
    store.connectedLiepinConnectionForOwner context.user = some connection →
    store.detailOpenModeOf context.user context.session.sessionId = .bypassConfirm →
    store.LeaseOpen connection.connectionId now →
    ∀ card ∈ result.cards, ∀ reviewItemId providerKeyHash,
      WantsDetailOf lib context result.usesRuntimeDetailRecommendations card reviewItemId
        providerKeyHash →
      store.detailOpenRequestByKey context.user (autoDetailKey context reviewItemId) = none →
      ¬store.Opened context.session.sessionId connection.connectionId providerKeyHash
        (budgetDay now)

theorem create_charges {sessionId reviewItemId : String} {idempotencyKey : Option String}
    {answer : Option (DetailOpenRequestRow × Option String)}
    (honce : store.AsksByHandOnce user sessionId reviewItemId idempotencyKey now)
    (hok : createLiepinDetailOpenRequest user sessionId reviewItemId idempotencyKey requestId
      ledgerId now store = .ok (store', answer)) : ChargesFirst store store' := by
  rcases createLiepinDetailOpenRequest_ok hok with rfl | ⟨connection, row, requests, hconnection,
    ⟨target, hasked⟩, hid, hrowConnection, -, -, hinsert, ⟨-, rfl⟩ | ⟨hbypass, rfl⟩⟩
  · exact .of_about (.refl _) rfl
  · exact .of_about (keepsAbout_withRequests hinsert) rfl
  · apply (ChargesFirst.of_about (keepsAbout_withRequests hinsert) rfl).lease ledgerId now
      (lookup_withRequests hinsert hid)
    intro hopen
    rw [hasked.session, hrowConnection, hasked.hash]
    rw [hrowConnection] at hopen
    exact honce target connection hasked.found hasked.level hasked.free hconnection
      (hasked.mode ▸ hbypass) ⟨hopen.no_lease, hopen.budget⟩

theorem approve_charges {answer : Option (DetailOpenRequestRow × Option String)}
    (honce : store.ApprovesOnce user requestId now)
    (hok : approveLiepinDetailOpenRequest user requestId ledgerId now store = .ok (store', answer)) :
    ChargesFirst store store' := by
  rcases approveLiepinDetailOpenRequest_ok hok with rfl | ⟨request, hfound, hpending, rfl⟩
  · exact .of_about (.refl _) rfl
  · have hrow := lookup_of_detailRequestRowForUser hfound
    have happroved : KeepsAbout store (store.updateRequest requestId
        (fun request => { request with status := .approved }) fun _ => rfl) := by
      apply keepsAbout_updateRequest
      exact fun _ => ⟨rfl, rfl⟩
    apply (ChargesFirst.of_about happroved rfl).lease ledgerId now (lookup_approved hrow)
    intro hopen
    exact honce request hfound hpending ⟨hopen.no_lease, hopen.budget⟩

theorem reject_charges {answer : Option DetailOpenRequestRow}
    (hok : rejectLiepinDetailOpenRequest user requestId store = .ok (store', answer)) :
    ChargesFirst store store' := by
  rcases rejectLiepinDetailOpenRequest_ok hok with rfl | ⟨_, -, -, rfl⟩
  · exact .of_about (.refl _) rfl
  · refine .of_about (keepsAbout_updateRequest ?_) rfl
    exact fun _ => ⟨rfl, rfl⟩

theorem reconcile_charges {answer : Unit}
    (hok : reconcileExpiredDetailOpenLeases now store = .ok (store', answer)) :
    ChargesFirst store store' := by
  cases hok
  refine ⟨.of_eq rfl, ?_⟩
  intro entry hentry
  rcases Table.mem_updateWhere_iff.mp hentry with ⟨old, hold, -, rfl⟩ | ⟨hold, -⟩
  · exact .inl ⟨old, hold, rfl, rfl, rfl, rfl, rfl⟩
  · exact .inl ⟨entry, hold, .refl entry⟩

theorem complete_charges {answer : List String} (honce : SearchAsksOnce lib context result store now)
    (hok : completeLiepinCardSourceRun lib context result now store = .ok (store', answer)) :
    ChargesFirst store store' := by
  rcases completeLiepinCardSourceRun_ok hok with rfl | ⟨job, progress, _, _, hjob, hrunning, hpersist, -,
    rfl⟩
  · exact .of_about (.refl _) rfl
  have hboth : SearchWrites lib context result now store progress.1 ∧ ChargesFirst store progress.1 := by
    apply persistLiepinCards_induction
      (P := fun s => SearchWrites lib context result now store s ∧ ChargesFirst store s) _ _
      ⟨.refl, .of_about (.refl _) rfl⟩ hpersist
    · intro middle _ _ _ h
      exact ⟨⟨h.1.kept, h.1.requests, h.1.leased⟩, h.2.keep (.of_eq rfl) rfl⟩
    · intro middle middle' connection card _ _ _ _ h hconnection hcard hwants hmade
      refine ⟨h.1.request hconnection hcard hwants.wantsDetail hmade, ?_⟩
      rcases requestCardDetail_ok hmade with rfl | ⟨row, requests, hfree, hid, hrowConnection, hasked,
        hmode, -, -, hinsert, ⟨-, rfl⟩ | ⟨hbypass, rfl⟩⟩
      · exact h.2
      · exact h.2.keep (keepsAbout_withRequests hinsert) rfl
      · apply (h.2.keep (keepsAbout_withRequests hinsert) rfl).lease card.ledgerId now
          (lookup_withRequests hinsert hid)
        intro hopen
        rw [hrowConnection] at hopen
        rw [hasked.session, hrowConnection, hasked.hash]
        exact honce job connection hjob hrunning hconnection (hmode ▸ hbypass)
          (hopen.of_prefix h.1.kept) card hcard _ _ hwants (h.1.requests.free hfree)
  exact hboth.2.keep (.of_eq rfl) rfl

end Methods

end WorkbenchStore

open WorkbenchStore

/-! ## 5. Every run -/

/-- The step leases no opening for a candidate that has one of the day in the session. -/
def WorkbenchCall.AsksOnce (lib : WorkbenchLibrary) (store : WorkbenchStore) : WorkbenchCall → Prop
  | .createLiepinDetailOpenRequest user sessionId reviewItemId idempotencyKey _ _ now =>
    store.AsksByHandOnce user sessionId reviewItemId idempotencyKey now
  | .approveLiepinDetailOpenRequest user requestId _ now => store.ApprovesOnce user requestId now
  | .completeLiepinCardSourceRun context result now => SearchAsksOnce lib context result store now
  | _ => True

namespace Workbench

variable {lib : WorkbenchLibrary} {bench : Workbench} {calls : List WorkbenchCall}

theorem body_charges {call : WorkbenchCall} {store' : WorkbenchStore}
    {context : Option WorkbenchSourceRunJobContext} (hinStep : bench.InStep)
    (hissued : call.Issued bench) (honce : call.AsksOnce lib bench.store)
    (hok : call.body lib bench.store = .ok (store', context)) : ChargesFirst bench.store store' := by
  by_cases hcall : call.WritesRequests
  case neg =>
    have hkeeps := body_keepsBooks hinStep hcall hissued hok
    exact .of_about (.of_eq hkeeps.requests) hkeeps.ledger
  cases call
  case completeLiepinCardSourceRun =>
    obtain ⟨-, _, hok⟩ := silent_ok hok
    exact complete_charges honce hok
  case createLiepinDetailOpenRequest =>
    obtain ⟨-, _, hok⟩ := silent_ok hok
    exact create_charges honce hok
  case approveLiepinDetailOpenRequest =>
    obtain ⟨-, _, hok⟩ := silent_ok hok
    exact approve_charges honce hok
  case rejectLiepinDetailOpenRequest =>
    obtain ⟨-, _, hok⟩ := silent_ok hok
    exact reject_charges hok
  case reconcileExpiredDetailOpenLeases =>
    obtain ⟨-, _, hok⟩ := silent_ok hok
    exact reconcile_charges hok
  all_goals cases hcall

/-- No step of the run leases a second opening for a candidate. -/
def StepsAskOnce (lib : WorkbenchLibrary) (bench : Workbench) (calls : List WorkbenchCall) : Prop :=
  Stateful.Along (step lib) bench (fun bench call => call.AsksOnce lib bench.store) calls

/-- Every state of the run charges every candidate once. -/
def ChargesOnceThroughout (lib : WorkbenchLibrary) (calls : List WorkbenchCall) : Prop :=
  ∀ first rest, calls = first ++ rest → (run lib {} first).store.ChargesOnce

theorem run_charged (hruns : Runs lib {} calls) (hsteps : StepsAskOnce lib {} calls) :
    (run lib {} calls).store.Charged := by
  have hall : (run lib {} calls).InStep ∧ (run lib {} calls).store.Booked ∧
      (run lib {} calls).store.Charged := by
    apply Stateful.foldl_induction
      (P := fun b : Workbench => b.InStep ∧ b.store.Booked ∧ b.store.Charged)
      (fun bench call => call.Issued bench ∧ call.AsksOnce lib bench.store) _
      ⟨inStep_empty, booked_empty, charged_empty⟩
    · intro first call rest hcalls
      exact ⟨hruns first call rest hcalls, hsteps first call rest hcalls⟩
    intro bench call hallowed hbench
    obtain ⟨hissued, honce⟩ := hallowed
    obtain ⟨hinStep, hbooked, hcharged⟩ := hbench
    refine ⟨(step_steps lib hinStep hissued).2, ?_⟩
    rcases step_cases lib bench call with ⟨store', context, hbody, hstep⟩ | hstep
    · rw [hstep]
      have hbooked' := body_booked hinStep hbooked hissued hbody
      exact ⟨hbooked', hcharged.step hbooked hbooked' (body_charges hinStep hissued honce hbody)⟩
    · rw [hstep]
      exact ⟨hbooked, hcharged⟩
  exact hall.2.2

/-- **Every run** whose steps ask for no candidate twice charges every candidate once. -/
theorem run_chargesOnce (hruns : Runs lib {} calls) (hsteps : StepsAskOnce lib {} calls) :
    ChargesOnceThroughout lib calls := by
  intro first rest hcalls
  subst hcalls
  exact (run_charged hruns.append.1 (Stateful.Along.append hsteps).1).once

theorem stepsAskOnce_cons {call : WorkbenchCall} (hcall : call.AsksOnce lib bench.store)
    (hcalls : StepsAskOnce lib (step lib bench call) calls) :
    StepsAskOnce lib bench (call :: calls) :=
  Stateful.along_cons hcall hcalls

theorem stepsAskOnce_sampleLease : StepsAskOnce .ascii {} sampleLease := by
  have hledger : (run .ascii {} sampleRequest).store.detailOpenLedger.rows = [] := by
    decide
  have hhuman : (run .ascii {} (sampleRequest.take 7)).store.detailOpenModeOf
      sampleSearchContext.user "s" = .humanConfirm := by
    decide
  have hfound : (run .ascii {} (sampleRequest.take 8)).store.detailOpenModeOf
      sampleUser "s" = .humanConfirm := by
    decide
  have hrequest : StepsAskOnce .ascii {} sampleRequest := by
    refine stepsAskOnce_cons trivial (stepsAskOnce_cons trivial (stepsAskOnce_cons trivial
      (stepsAskOnce_cons trivial (stepsAskOnce_cons trivial (stepsAskOnce_cons trivial
        (stepsAskOnce_cons trivial (stepsAskOnce_cons ?_ (stepsAskOnce_cons ?_
          Stateful.along_nil))))))))
    -- the policy of the session is to ask the user
    · intro job connection hjob hrunning hconnection hmode
      cases hhuman.symm.trans hmode
    · intro target connection htarget hlevel hfree hconnection hmode
      cases hfound.symm.trans hmode
  refine hrequest.snoc ?_
  intro request hfound hpending hopen
  exact not_opened_of_nil hledger

/-- The approval of the sample charges its candidate once. -/
theorem run_chargesOnce_sample : ChargesOnceThroughout .ascii sampleLease :=
  run_chargesOnce runs_sampleLease stepsAskOnce_sampleLease

def askedAgain : List WorkbenchCall :=
  sampleLease ++ [.reconcileExpiredDetailOpenLeases 1000] ++
    [.createLiepinDetailOpenRequest sampleUser "s" "review_s\x1fliepin\x1fk" (some "again") "q2" "l2"
      1001]

def askedTwice : List WorkbenchCall :=
  askedAgain ++ [.approveLiepinDetailOpenRequest sampleUser "q2" "l2" 1001]

/-- The day's budget is charged with it twice. -/
theorem not_chargesOnceThroughout :
    ¬∀ calls, Runs .ascii {} calls → ChargesOnceThroughout .ascii calls := by
  intro h
  have hexpired : Runs .ascii {} (sampleLease ++ [.reconcileExpiredDetailOpenLeases 1000]) :=
    runs_sampleLease.snoc trivial
  have hagain : Runs .ascii {} askedAgain := hexpired.snoc trivial
  have hruns : Runs .ascii {} askedTwice := hagain.snoc trivial
  have honce := h askedTwice hruns askedTwice [] (List.append_nil _).symm
  let entry (ledgerId requestId idempotencyKey : String) (status : DetailOpenLedgerStatus)
      (expiry : Instant) : DetailOpenLedgerRow :=
    { ledgerId
      workspaceId := "lab"
      actorId := "ann"
      connectionId := "cx"
      sourceRunId := "r"
      requestId
      candidateEvidenceId := "evidence_r\x1fk\x1fcard"
      providerCandidateKeyHash := "k"
      budgetDay := 0
      status
      idempotencyKey
      leaseExpiresAt := some expiry }
  have hrows : (run .ascii {} askedTwice).store.detailOpenLedger.rows =
      [entry "l" "q" "s:review_s\x1fliepin\x1fk" .maybeUsed 605,
        entry "l2" "q2" "s:again" .leased 1601] := by
    decide
  have hsession : ∀ id ∈ ["q", "q2"],
      ((run .ascii {} askedTwice).store.detailOpenRequests.lookup id).map (·.sessionId) =
        some "s" := by
    decide
  have hsame := honce "s" (entry "l" "q" "s:review_s\x1fliepin\x1fk" .maybeUsed 605)
    (by rw [hrows]; simp) (entry "l2" "q2" "s:again" .leased 1601) (by rw [hrows]; simp)
    (Option.map_eq_some_iff.mp (hsession "q" (by simp)))
    (Option.map_eq_some_iff.mp (hsession "q2" (by simp))) rfl rfl rfl
  cases congrArg DetailOpenLedgerRow.status hsame

end Workbench

end SeekTalent

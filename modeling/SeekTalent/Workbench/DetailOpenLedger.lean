import SeekTalent.Workbench.JobInvariant

/-!
# The ledger of detail pages

Requests, ledger rows and the counters of the source runs are three records of one thing. They
are kept in step by `Booked`: a ledger row belongs to a request that is approved, the counters
count, and what a request or a piece of evidence is about is a run of the tables. Each of the
elementary writes keeps it, and so does every call.
-/

namespace SeekTalent

open Stateful (bind_eq_ok)

def DetailOpenRequestStatus.Granted (status : DetailOpenRequestStatus) : Prop :=
  status = .approved ∨ status = .bypassed

namespace WorkbenchStore

variable {store store' : WorkbenchStore} {user : WorkbenchUser}
variable {sessionId sourceRunId requestId ledgerId connectionId : String} {now : Instant}
variable {context : WorkbenchSourceRunJobContext} {row : DetailOpenRequestRow}
variable {set : SourceRunRow → SourceRunRow}

/-! ## 1. What is in step -/

def HasRun (store : WorkbenchStore) (sourceRunId : String) : Prop :=
  ∃ run, store.sourceRuns.lookup sourceRunId = some run

def isLedgerOf (sourceRunId : String) (row : DetailOpenLedgerRow) : Bool :=
  row.sourceRunId = sourceRunId

def isBlockedOf (sourceRunId : String) (request : DetailOpenRequestRow) : Bool :=
  request.sourceRunId = sourceRunId ∧ request.status = .blocked

structure Entries (requests : Keyed DetailOpenRequestRow.requestId)
    (ledger : Keyed DetailOpenLedgerRow.ledgerId) : Prop where
  owner : ∀ row ∈ ledger.rows, ∃ request, requests.lookup row.requestId = some request ∧
    request.ledgerId = some row.ledgerId ∧ request.status.Granted ∧
    request.sourceRunId = row.sourceRunId ∧ request.connectionId = row.connectionId
  named : ∀ request ∈ requests.rows, ∀ ledgerId, request.ledgerId = some ledgerId →
    ∃ row ∈ ledger.rows, row.ledgerId = ledgerId ∧ row.requestId = request.requestId

structure Booked (store : WorkbenchStore) : Prop where
  one_lease : ∀ row ∈ store.detailOpenLedger.rows, ∀ row' ∈ store.detailOpenLedger.rows,
    row.status = .leased → row'.status = .leased → row.connectionId = row'.connectionId →
      row = row'
  budget : ∀ connectionId day, store.usedCount connectionId day ≤ liepinDailyDetailOpenLimit
  entries : Entries store.detailOpenRequests store.detailOpenLedger
  requestRun : ∀ request ∈ store.detailOpenRequests.rows, store.HasRun request.sourceRunId
  evidenceRun : ∀ evidence ∈ store.candidateEvidence.rows, store.HasRun evidence.sourceRunId
  used_count : ∀ id run, store.sourceRuns.lookup id = some run →
    run.detailOpenUsedCount = store.detailOpenLedger.rows.countP (isLedgerOf id)
  blocked_count : ∀ id run, store.sourceRuns.lookup id = some run →
    run.detailOpenBlockedCount = store.detailOpenRequests.rows.countP (isBlockedOf id)

theorem booked_empty : Booked {} where
  one_lease := by simp
  budget := by simp [usedCount]
  entries := ⟨by simp, by simp⟩
  requestRun := by simp
  evidenceRun := by simp
  used_count := by
    intro sourceRunId run hrun
    cases hrun
  blocked_count := by
    intro sourceRunId run hrun
    cases hrun

theorem Booked.counts_of_not_hasRun (h : store.Booked) (hrun : ¬store.HasRun sourceRunId) :
    store.detailOpenLedger.rows.countP (isLedgerOf sourceRunId) = 0 ∧
      store.detailOpenRequests.rows.countP (isBlockedOf sourceRunId) = 0 := by
  constructor
  · apply List.countP_eq_zero.mpr
    intro row hrow
    obtain ⟨request, hrequest, -, -, hsame, -⟩ := h.entries.owner row hrow
    obtain ⟨hmem, -⟩ := Keyed.lookup_eq_some_iff.mp hrequest
    have hrequestRun := h.requestRun request hmem
    rw [hsame] at hrequestRun
    simp only [isLedgerOf, decide_eq_true_eq]
    intro hid
    exact hrun (hid ▸ hrequestRun)
  · apply List.countP_eq_zero.mpr
    intro request hrequest
    have hrequestRun := h.requestRun request hrequest
    simp only [isBlockedOf, decide_eq_true_eq]
    intro hid
    exact hrun (hid.1 ▸ hrequestRun)

/-! ## 2. Writes that are about something else -/

section Counts

variable {runs runs' runs'' : Keyed SourceRunRow.sourceRunId}

structure KeepsCounts (runs runs' : Keyed SourceRunRow.sourceRunId) : Prop where
  old : ∀ id run, runs.lookup id = some run → ∃ run', runs'.lookup id = some run' ∧
    run'.detailOpenUsedCount = run.detailOpenUsedCount ∧
    run'.detailOpenBlockedCount = run.detailOpenBlockedCount
  new : ∀ id run, runs'.lookup id = some run → runs.lookup id = none →
    run.detailOpenUsedCount = 0 ∧ run.detailOpenBlockedCount = 0

theorem KeepsCounts.refl (runs : Keyed SourceRunRow.sourceRunId) : KeepsCounts runs runs where
  old := by
    intro id run hrun
    exact ⟨run, hrun, rfl, rfl⟩
  new := by
    intro id run hrun hnone
    rw [hnone] at hrun
    cases hrun

theorem KeepsCounts.trans (h : KeepsCounts runs runs') (h' : KeepsCounts runs' runs'') :
    KeepsCounts runs runs'' where
  old := by
    intro id run hrun
    obtain ⟨run₁, hrun₁, hused₁, hblocked₁⟩ := h.old id run hrun
    obtain ⟨run₂, hrun₂, hused₂, hblocked₂⟩ := h'.old id run₁ hrun₁
    exact ⟨run₂, hrun₂, hused₂.trans hused₁, hblocked₂.trans hblocked₁⟩
  new := by
    intro id run hrun hnone
    cases hmiddle : runs'.lookup id with
    | none => exact h'.new id run hrun hmiddle
    | some run₁ =>
      obtain ⟨hused₁, hblocked₁⟩ := h.new id run₁ hmiddle hnone
      obtain ⟨run₂, hrun₂, hused₂, hblocked₂⟩ := h'.old id run₁ hmiddle
      obtain rfl := Option.some.inj (hrun.symm.trans hrun₂)
      exact ⟨hused₂.trans hused₁, hblocked₂.trans hblocked₁⟩

theorem keepsCounts_update {p : SourceRunRow → Bool} {f : SourceRunRow → SourceRunRow}
    (hf : ∀ row, (f row).sourceRunId = row.sourceRunId)
    (hcounts : ∀ row, (f row).detailOpenUsedCount = row.detailOpenUsedCount ∧
      (f row).detailOpenBlockedCount = row.detailOpenBlockedCount) :
    KeepsCounts runs (runs.update p f hf) where
  old := by
    intro id run hrun
    refine ⟨if p run then f run else run, ?_, ?_⟩
    · rw [Keyed.lookup_update, hrun, Option.map_some]
    · split
      · exact hcounts run
      · exact ⟨rfl, rfl⟩
  new := by
    intro id run hrun hnone
    rw [Keyed.lookup_update, hnone] at hrun
    cases hrun

end Counts

theorem KeepsCounts.hasRun (h : KeepsCounts store.sourceRuns store'.sourceRuns)
    (hrun : store.HasRun sourceRunId) : store'.HasRun sourceRunId := by
  obtain ⟨run, hrun⟩ := hrun
  obtain ⟨run', hrun', -⟩ := h.old sourceRunId run hrun
  exact ⟨run', hrun'⟩

structure KeepsBooks (store store' : WorkbenchStore) : Prop where
  requests : store'.detailOpenRequests = store.detailOpenRequests
  ledger : store'.detailOpenLedger = store.detailOpenLedger
  evidence : ∀ evidence ∈ store'.candidateEvidence.rows,
    (∃ old ∈ store.candidateEvidence.rows, old.sourceRunId = evidence.sourceRunId) ∨
      store'.HasRun evidence.sourceRunId
  counts : KeepsCounts store.sourceRuns store'.sourceRuns

theorem KeepsBooks.refl (store : WorkbenchStore) : KeepsBooks store store where
  requests := rfl
  ledger := rfl
  evidence := fun evidence hevidence => .inl ⟨evidence, hevidence, rfl⟩
  counts := .refl _

theorem KeepsBooks.trans {middle : WorkbenchStore} (h : KeepsBooks store middle)
    (h' : KeepsBooks middle store') : KeepsBooks store store' where
  requests := h'.requests.trans h.requests
  ledger := h'.ledger.trans h.ledger
  evidence := by
    intro evidence hevidence
    rcases h'.evidence evidence hevidence with ⟨old, hold, hsame⟩ | hrun
    · rcases h.evidence old hold with ⟨older, holder, hsame'⟩ | hrun
      · exact .inl ⟨older, holder, hsame'.trans hsame⟩
      · exact .inr (h'.counts.hasRun (hsame ▸ hrun))
    · exact .inr hrun
  counts := h.counts.trans h'.counts

theorem KeepsBooks.of_counts (h : KeepsCounts store.sourceRuns store'.sourceRuns)
    (hrequests : store'.detailOpenRequests = store.detailOpenRequests)
    (hledger : store'.detailOpenLedger = store.detailOpenLedger)
    (hevidence : store'.candidateEvidence = store.candidateEvidence) : KeepsBooks store store' where
  requests := hrequests
  ledger := hledger
  evidence := fun evidence hmem => .inl ⟨evidence, hevidence ▸ hmem, rfl⟩
  counts := h

/-- **The frame rule**: what is about something else keeps the books. -/
theorem Booked.frame (h : store.Booked) (hkeeps : KeepsBooks store store') : store'.Booked where
  one_lease := by
    rw [hkeeps.ledger]
    exact h.one_lease
  budget := by
    unfold usedCount
    rw [hkeeps.ledger]
    exact h.budget
  entries := by
    rw [hkeeps.ledger, hkeeps.requests]
    exact h.entries
  requestRun := by
    rw [hkeeps.requests]
    intro request hrequest
    exact hkeeps.counts.hasRun (h.requestRun request hrequest)
  evidenceRun := by
    intro evidence hevidence
    rcases hkeeps.evidence evidence hevidence with ⟨old, hold, hsame⟩ | hrun
    · exact hkeeps.counts.hasRun (hsame ▸ h.evidenceRun old hold)
    · exact hrun
  used_count := by
    intro id run hrun
    rw [hkeeps.ledger]
    cases hold : store.sourceRuns.lookup id with
    | none =>
      rw [(hkeeps.counts.new id run hrun hold).1]
      exact (h.counts_of_not_hasRun (by simp [HasRun, hold])).1.symm
    | some old =>
      obtain ⟨run', hrun', hused, -⟩ := hkeeps.counts.old id old hold
      obtain rfl := Option.some.inj (hrun.symm.trans hrun')
      exact hused.trans (h.used_count id old hold)
  blocked_count := by
    intro id run hrun
    rw [hkeeps.requests]
    cases hold : store.sourceRuns.lookup id with
    | none =>
      rw [(hkeeps.counts.new id run hrun hold).2]
      exact (h.counts_of_not_hasRun (by simp [HasRun, hold])).2.symm
    | some old =>
      obtain ⟨run', hrun', -, hblocked⟩ := hkeeps.counts.old id old hold
      obtain rfl := Option.some.inj (hrun.symm.trans hrun')
      exact hblocked.trans (h.blocked_count id old hold)

/-! ## 3. Writes of the books -/

theorem usedCount_eq (day : Nat) : store.usedCount connectionId day =
    store.detailOpenLedger.rows.countP fun row =>
      row.connectionId = connectionId ∧ row.budgetDay = day ∧ row.status.Used :=
  List.countP_eq_length_filter.symm

section Entries

variable {requests requests' : Keyed DetailOpenRequestRow.requestId}
variable {ledger ledger' : Keyed DetailOpenLedgerRow.ledgerId} {request : DetailOpenRequestRow}
variable {entry : DetailOpenLedgerRow} {set : DetailOpenRequestRow → DetailOpenRequestRow}

theorem Entries.owns_none (h : Entries requests ledger)
    (hrequest : requests.lookup requestId = some request) (hnone : request.ledgerId = none) :
    ∀ row ∈ ledger.rows, row.requestId ≠ requestId := by
  intro row hrow hid
  obtain ⟨owner, howner, hnames, -⟩ := h.owner row hrow
  rw [hid, hrequest] at howner
  cases howner
  rw [hnone] at hnames
  cases hnames

theorem Entries.names_none (h : Entries requests ledger)
    (hrequest : requests.lookup requestId = some request) (hstatus : ¬request.status.Granted) :
    request.ledgerId = none := by
  apply Option.eq_none_iff_forall_ne_some.mpr
  intro ledgerId hnames
  obtain ⟨hmem, rfl⟩ := Keyed.lookup_eq_some_iff.mp hrequest
  obtain ⟨row, hrow, -, hid⟩ := h.named request hmem ledgerId hnames
  obtain ⟨owner, howner, -, hgranted, -⟩ := h.owner row hrow
  rw [hid, hrequest] at howner
  cases howner
  exact hstatus hgranted

theorem Entries.insert (h : Entries requests ledger) (hinsert : requests.insert request = some requests')
    (hnone : request.ledgerId = none) : Entries requests' ledger where
  owner := by
    intro row hrow
    obtain ⟨owner, howner, howned⟩ := h.owner row hrow
    obtain ⟨hnew, hlookup⟩ := Keyed.lookup_insert hinsert
    refine ⟨owner, ?_, howned⟩
    rw [hlookup, if_neg, howner]
    intro hid
    rw [hid, howner] at hnew
    cases hnew
  named := by
    intro other hother ledgerId hnames
    rw [Keyed.rows_insert hinsert] at hother
    rcases List.mem_append.mp hother with hold | hnew
    · exact h.named other hold ledgerId hnames
    · obtain rfl := List.mem_singleton.mp hnew
      rw [hnone] at hnames
      cases hnames

theorem Entries.update (h : Entries requests ledger) (hset : ∀ row, (set row).requestId = row.requestId)
    (hledger : ∀ row, (set row).ledgerId = row.ledgerId)
    (hrequest : requests.lookup requestId = some request) (hnone : request.ledgerId = none) :
    Entries (requests.update (fun row => decide (row.requestId = requestId)) set hset) ledger where
  owner := by
    intro row hrow
    obtain ⟨owner, howner, howned⟩ := h.owner row hrow
    refine ⟨owner, ?_, howned⟩
    rw [Keyed.lookup_update_key, if_neg, howner]
    exact h.owns_none hrequest hnone row hrow
  named := by
    intro other hother ledgerId hnames
    rcases Table.mem_updateWhere_iff.mp hother with ⟨old, hold, -, rfl⟩ | ⟨hold, -⟩
    · rw [hledger] at hnames
      obtain ⟨row, hrow, hid, howner⟩ := h.named old hold ledgerId hnames
      exact ⟨row, hrow, hid, howner.trans (hset old).symm⟩
    · exact h.named other hold ledgerId hnames

theorem Entries.lease (h : Entries requests ledger) (hset : ∀ row, (set row).requestId = row.requestId)
    (hrequest : requests.lookup requestId = some request) (hnone : request.ledgerId = none)
    (hgranted : (set request).status.Granted) (hnames : (set request).ledgerId = some entry.ledgerId)
    (hrun : (set request).sourceRunId = entry.sourceRunId)
    (hconnection : (set request).connectionId = entry.connectionId) (hentry : entry.requestId = requestId)
    (hinsert : ledger.insert entry = some ledger') :
    Entries (requests.update (fun row => decide (row.requestId = requestId)) set hset) ledger' where
  owner := by
    intro row hrow
    rw [Keyed.rows_insert hinsert] at hrow
    rcases List.mem_append.mp hrow with hold | hnew
    · obtain ⟨owner, howner, howned⟩ := h.owner row hold
      refine ⟨owner, ?_, howned⟩
      rw [Keyed.lookup_update_key, if_neg, howner]
      exact h.owns_none hrequest hnone row hold
    · obtain rfl := List.mem_singleton.mp hnew
      refine ⟨set request, ?_, hnames, hgranted, hrun, hconnection⟩
      rw [Keyed.lookup_update_key, if_pos hentry, hentry, hrequest, Option.map_some]
  named := by
    intro other hother ledgerId hother'
    rw [Keyed.rows_insert hinsert]
    obtain ⟨hmem, hid⟩ := Keyed.lookup_eq_some_iff.mp hrequest
    rcases Table.mem_updateWhere_iff.mp hother with ⟨old, hold, hkey, rfl⟩ | ⟨hold, -⟩
    · obtain rfl : old = request := by
        have hlookup := Keyed.mem_rows_iff.mp hold
        rw [of_decide_eq_true hkey, hrequest] at hlookup
        exact (Option.some.inj hlookup).symm
      rw [hnames] at hother'
      exact ⟨entry, List.mem_append_right _ (List.mem_singleton_self entry),
        Option.some.inj hother', hentry.trans (hid.symm.trans (hset old).symm)⟩
    · obtain ⟨row, hrow, hrest⟩ := h.named other hold ledgerId hother'
      exact ⟨row, List.mem_append_left _ hrow, hrest⟩

end Entries

theorem hasRun_updateSourceRun {id : String}
    {hset : ∀ row, (set row).sourceRunId = row.sourceRunId} (h : store.HasRun id) :
    (store.updateSourceRun sourceRunId set hset).HasRun id := by
  obtain ⟨run, hrun⟩ := h
  unfold HasRun
  rw [lookup_updateSourceRun, hrun]
  split
  · exact ⟨set run, rfl⟩
  · exact ⟨run, rfl⟩

theorem Booked.insertRequest {requests : Keyed DetailOpenRequestRow.requestId} (h : store.Booked)
    (hinsert : store.detailOpenRequests.insert row = some requests)
    (hrun : store.HasRun row.sourceRunId) (hnone : row.ledgerId = none)
    (hstatus : row.status ≠ .blocked) : (store.withRequests requests).Booked where
  one_lease := h.one_lease
  budget := h.budget
  entries := h.entries.insert hinsert hnone
  requestRun := by
    intro request hrequest
    replace hrequest : request ∈ requests.rows := hrequest
    rw [Keyed.rows_insert hinsert] at hrequest
    rcases List.mem_append.mp hrequest with hold | hnew
    · exact h.requestRun request hold
    · obtain rfl := List.mem_singleton.mp hnew
      exact hrun
  evidenceRun := h.evidenceRun
  used_count := h.used_count
  blocked_count := by
    intro id run hrun
    show _ = requests.rows.countP _
    rw [Keyed.countP_insert hinsert, if_neg, h.blocked_count id run hrun]
    · rfl
    · simp [isBlockedOf, hstatus]

theorem Booked.settle (status : DetailOpenRequestStatus)
    (h : store.Booked) (hrow : store.detailOpenRequests.lookup requestId = some row)
    (hpending : row.status = .pending) (hstatus : status ≠ .blocked) :
    (store.updateRequest requestId (fun request => { request with status }) fun _ => rfl).Booked where
  one_lease := h.one_lease
  budget := h.budget
  entries := by
    refine h.entries.update ?_ ?_ hrow (h.entries.names_none hrow ?_)
    · exact fun _ => rfl
    · exact fun _ => rfl
    · rw [hpending]
      simp [DetailOpenRequestStatus.Granted]
  requestRun := by
    intro request hrequest
    rcases Table.mem_updateWhere_iff.mp hrequest with ⟨old, hold, -, rfl⟩ | ⟨hold, -⟩
    · exact h.requestRun old hold
    · exact h.requestRun request hold
  evidenceRun := h.evidenceRun
  used_count := h.used_count
  blocked_count := by
    intro id run hrun
    have hcount := Keyed.countP_update_key (t := store.detailOpenRequests) (q := isBlockedOf id)
      (f := fun request => { request with status }) (fun _ => rfl) hrow
    rw [if_neg (by simp [isBlockedOf, hpending]), if_neg (by simp [isBlockedOf, hstatus])] at hcount
    rw [h.blocked_count id run hrun]
    exact hcount.symm

theorem Booked.block (reason : String) (h : store.Booked)
    (hrow : store.detailOpenRequests.lookup row.requestId = some row)
    (hgranted : row.status.Granted) (hnone : row.ledgerId = none) :
    (store.blockDetailOpenRequest row reason).Booked where
  one_lease := h.one_lease
  budget := h.budget
  entries := by
    refine h.entries.update ?_ ?_ hrow hnone
    · exact fun _ => rfl
    · exact fun _ => rfl
  requestRun := by
    intro request hrequest
    apply hasRun_updateSourceRun
    rcases Table.mem_updateWhere_iff.mp hrequest with ⟨old, hold, -, rfl⟩ | ⟨hold, -⟩
    · exact h.requestRun old hold
    · exact h.requestRun request hold
  evidenceRun := by
    intro evidence hevidence
    exact hasRun_updateSourceRun (h.evidenceRun evidence hevidence)
  used_count := by
    intro id run hrun
    unfold blockDetailOpenRequest at hrun
    rw [lookup_updateSourceRun] at hrun
    split at hrun
    · obtain ⟨old, hold, rfl⟩ := Option.map_eq_some_iff.mp hrun
      exact h.used_count id old hold
    · exact h.used_count id run hrun
  blocked_count := by
    intro id run hrun
    have hcount := Keyed.countP_update_key (t := store.detailOpenRequests) (q := isBlockedOf id)
      (f := fun request => { request with status := .blocked, blockedReason := some reason })
      (fun _ => rfl) hrow
    have hbefore : isBlockedOf id row = false := by
      rcases hgranted with hstatus | hstatus <;> simp [isBlockedOf, hstatus]
    rw [hbefore, if_neg Bool.false_ne_true] at hcount
    unfold blockDetailOpenRequest at hrun
    rw [lookup_updateSourceRun] at hrun
    split at hrun
    · rename_i hid
      obtain ⟨old, hold, rfl⟩ := Option.map_eq_some_iff.mp hrun
      rw [if_pos (by simp [isBlockedOf, hid]), ← h.blocked_count id old hold] at hcount
      exact hcount.symm
    · rename_i hid
      rw [if_neg (by simp [isBlockedOf, Ne.symm hid]), ← h.blocked_count id run hrun] at hcount
      exact hcount.symm

theorem no_lease_of_insertLedgerRow {ledger : Keyed DetailOpenLedgerRow.ledgerId}
    (hinsert : store.insertLedgerRow (leaseRow row ledgerId now) = some ledger) :
    store.detailOpenLedger.insert (leaseRow row ledgerId now) = some ledger ∧
      ∀ old ∈ store.detailOpenLedger.rows, old.connectionId = row.connectionId →
        old.status ≠ .leased := by
  unfold insertLedgerRow at hinsert
  split at hinsert
  · cases hinsert
  rename_i hconflict
  refine ⟨hinsert, ?_⟩
  intro old hold hconnection hleased
  apply hconflict
  unfold ledgerConflict
  rw [List.any_eq_true]
  refine ⟨old, hold, ?_⟩
  simp [leaseRow, hconnection, hleased]

theorem Booked.lease {ledger : Keyed DetailOpenLedgerRow.ledgerId}
    (h : store.Booked) (hrow : store.detailOpenRequests.lookup row.requestId = some row)
    (hgranted : row.status.Granted) (hnone : row.ledgerId = none)
    (hbudget : store.usedCount row.connectionId (budgetDay now) < liepinDailyDetailOpenLimit)
    (hinsert : store.insertLedgerRow (leaseRow row ledgerId now) = some ledger) :
    ({ store with detailOpenLedger := ledger }.recordLease row ledgerId).Booked := by
  obtain ⟨hinsert, hfree⟩ := no_lease_of_insertLedgerRow hinsert
  have hrows := Keyed.rows_insert hinsert
  refine ⟨?_, ?_, ?_, ?_, ?_, ?_, ?_⟩
  · intro entry hentry entry' hentry' hleased hleased' hconnection
    replace hentry : entry ∈ ledger.rows := hentry
    replace hentry' : entry' ∈ ledger.rows := hentry'
    rw [hrows, List.mem_append, List.mem_singleton] at hentry hentry'
    rcases hentry with hold | rfl
    · rcases hentry' with hold' | rfl
      · exact h.one_lease entry hold entry' hold' hleased hleased' hconnection
      · exact absurd hleased (hfree entry hold hconnection)
    · rcases hentry' with hold' | rfl
      · exact absurd hleased' (hfree entry' hold' hconnection.symm)
      · rfl
  · intro connectionId day
    rw [usedCount_eq]
    show ledger.rows.countP _ ≤ _
    rw [Keyed.countP_insert hinsert, ← usedCount_eq]
    split
    · rename_i hsame
      obtain ⟨hconnection, hday, -⟩ := of_decide_eq_true hsame
      rw [← hconnection, ← hday]
      exact hbudget
    · exact h.budget connectionId day
  · refine h.entries.lease ?_ hrow hnone ?_ ?_ ?_ ?_ ?_ hinsert
    · exact fun _ => rfl
    · exact hgranted
    · rfl
    · rfl
    · rfl
    · rfl
  · intro request hrequest
    apply hasRun_updateSourceRun
    rcases Table.mem_updateWhere_iff.mp hrequest with ⟨old, hold, -, rfl⟩ | ⟨hold, -⟩
    · exact h.requestRun old hold
    · exact h.requestRun request hold
  · intro evidence hevidence
    exact hasRun_updateSourceRun (h.evidenceRun evidence hevidence)
  · intro id run hrun
    show _ = ledger.rows.countP _
    rw [Keyed.countP_insert hinsert]
    unfold recordLease at hrun
    rw [lookup_updateSourceRun] at hrun
    split at hrun
    · rename_i hid
      obtain ⟨old, hold, rfl⟩ := Option.map_eq_some_iff.mp hrun
      rw [if_pos (by simp [isLedgerOf, leaseRow, hid]), ← h.used_count id old hold]
    · rename_i hid
      rw [if_neg (by simp [isLedgerOf, leaseRow, Ne.symm hid]), ← h.used_count id run hrun]
      rfl
  · intro id run hrun
    have hcount := Keyed.countP_update_key (t := store.detailOpenRequests) (q := isBlockedOf id)
      (f := fun request => { request with ledgerId := some ledgerId, blockedReason := none })
      (fun _ => rfl) hrow
    have hsame : store.detailOpenRequests.rows.countP (isBlockedOf id) =
        ({ store with detailOpenLedger := ledger }.recordLease row ledgerId).detailOpenRequests.rows.countP
          (isBlockedOf id) := (Nat.add_right_cancel hcount).symm
    rw [← hsame]
    unfold recordLease at hrun
    rw [lookup_updateSourceRun] at hrun
    split at hrun
    · obtain ⟨old, hold, rfl⟩ := Option.map_eq_some_iff.mp hrun
      exact h.blocked_count id old hold
    · exact h.blocked_count id run hrun

/-- **Leasing** keeps the books, for a granted request that has no row yet. -/
theorem Booked.leaseRequest (ledgerId : String) (now : Instant)
    (h : store.Booked) (hrow : store.detailOpenRequests.lookup requestId = some row)
    (hgranted : row.status.Granted) (hnone : row.ledgerId = none) :
    (store.leaseLiepinDetailOpenRequest requestId ledgerId now).1.Booked := by
  obtain rfl := Keyed.key_of_lookup hrow
  unfold leaseLiepinDetailOpenRequest
  rw [hrow]
  dsimp only
  split
  · exact h.block _ hrow hgranted hnone
  · split
    · exact h.block _ hrow hgranted hnone
    · rename_i hbudget
      split
      · exact h.block _ hrow hgranted hnone
      · rename_i ledger hinsert
        exact h.lease hrow hgranted hnone (Nat.lt_of_not_le hbudget) hinsert

theorem Booked.expireLeases {answer : Unit} (h : store.Booked)
    (hok : reconcileExpiredDetailOpenLeases now store = .ok (store', answer)) : store'.Booked := by
  cases hok
  refine ⟨?_, ?_, ?_, h.requestRun, h.evidenceRun, ?_, h.blocked_count⟩
  · intro entry hentry entry' hentry' hleased hleased' hconnection
    rcases Table.mem_updateWhere_iff.mp hentry with ⟨old, -, -, rfl⟩ | ⟨hold, -⟩
    · cases hleased
    · rcases Table.mem_updateWhere_iff.mp hentry' with ⟨old', -, -, rfl⟩ | ⟨hold', -⟩
      · cases hleased'
      · exact h.one_lease entry hold entry' hold' hleased hleased' hconnection
  · intro connectionId day
    rw [usedCount_eq]
    have hbudget := h.budget connectionId day
    rw [usedCount_eq] at hbudget
    refine le_of_eq_of_le (Keyed.countP_update ?_ ?_) hbudget
    · exact fun _ => rfl
    intro old hold hexpired
    simp only [decide_eq_true_eq] at hexpired
    simp [hexpired.1, DetailOpenLedgerStatus.Used]
  · refine ⟨?_, ?_⟩
    · intro entry hentry
      rcases Table.mem_updateWhere_iff.mp hentry with ⟨old, hold, -, rfl⟩ | ⟨hold, -⟩
      · exact h.entries.owner old hold
      · exact h.entries.owner entry hold
    · intro request hrequest ledgerId hnames
      obtain ⟨row, hrow, hid, howner⟩ := h.entries.named request hrequest ledgerId hnames
      cases hexpired : (decide (row.status = .leased ∧
          row.leaseExpiresAt.any fun expiry => expiry ≤ now)) with
      | false => exact ⟨row, Table.mem_updateWhere_iff.mpr (.inr ⟨hrow, hexpired⟩), hid, howner⟩
      | true =>
        exact ⟨_, Table.mem_updateWhere_iff.mpr (.inl ⟨row, hrow, hexpired, rfl⟩), hid, howner⟩
  · intro id run hrun
    rw [h.used_count id run hrun]
    refine (Keyed.countP_update ?_ ?_).symm
    · exact fun _ => rfl
    · intro old _ _
      rfl

/-! ## 4. What keeps the books -/

theorem keepsBooks_updateSourceRun (hset : ∀ row, (set row).sourceRunId = row.sourceRunId)
    (hcounts : ∀ row, (set row).detailOpenUsedCount = row.detailOpenUsedCount ∧
      (set row).detailOpenBlockedCount = row.detailOpenBlockedCount) :
    KeepsBooks store (store.updateSourceRun sourceRunId set hset) :=
  .of_counts (keepsCounts_update hset hcounts) rfl rfl rfl

theorem keepsBooks_endJob {jobId : String} {outcome : JobOutcome} {status : SourceRunStatus} :
    KeepsBooks store (store.endJob jobId sourceRunId outcome status) := by
  refine .of_counts (keepsCounts_update ?_ ?_) rfl rfl rfl
  · exact fun _ => rfl
  · exact fun _ => ⟨rfl, rfl⟩

theorem keepsBooks_complete
    {hset : ∀ run, (set run).sourceRunId = run.sourceRunId} {row : SourceRunJobRow}
    {outcome : JobOutcome} {status : Option SourceRunStatus}
    (hcounts : ∀ run, (set run).detailOpenUsedCount = run.detailOpenUsedCount ∧
      (set run).detailOpenBlockedCount = run.detailOpenBlockedCount) :
    KeepsBooks store
      ((store.updateSourceRun sourceRunId set hset).finishSourceRunJobConn row outcome status) :=
  (keepsBooks_updateSourceRun hset hcounts).trans keepsBooks_endJob

theorem keepsBooks_createWorkbenchSession {session answer : SessionRow}
    {sources : List (RuntimeSourceKind × String)}
    (hok : createWorkbenchSession session sources store = .ok (store', answer)) :
    KeepsBooks store store' := by
  obtain ⟨connected, _, sourceRuns, _, -, hruns, -, rfl⟩ := createWorkbenchSession_ok hok
  refine .of_counts ⟨?_, ?_⟩ rfl rfl rfl
  · intro id run hrun
    refine ⟨run, ?_, rfl, rfl⟩
    show sourceRuns.lookup id = some run
    rcases insertSourceRuns_ok hruns id with hsame | ⟨hnone, -⟩
    · rw [hsame, hrun]
    · rw [hnone] at hrun
      cases hrun
  · intro id run hrun hnone
    replace hrun : sourceRuns.lookup id = some run := hrun
    rcases insertSourceRuns_ok hruns id with hsame | ⟨-, row, hrow, hsome⟩
    · rw [hsame, hnone] at hrun
      cases hrun
    · obtain ⟨source, -, rfl⟩ := List.mem_map.mp hrow
      rw [hsome] at hrun
      cases hrun
      exact ⟨rfl, rfl⟩

theorem keepsBooks_writesConnection {status : SourceConnectionStatus}
    (hwrites : WritesConnection store store' connectionId status) : KeepsBooks store store' := by
  rcases hwrites with rfl | ⟨set, hset, -, rfl | ⟨p, -, rfl⟩⟩
  · exact .refl _
  · exact .of_counts (.refl _) rfl rfl rfl
  · refine .of_counts (keepsCounts_update ?_ ?_) rfl rfl rfl
    · exact fun _ => rfl
    · exact fun _ => ⟨rfl, rfl⟩

theorem keepsBooks_writeCandidate {kind : RuntimeSourceKind} {level : RuntimeEvidenceLevel}
    {reviewItemId evidenceId providerKeyHash : String} (hrun : store.HasRun context.job.sourceRunId) :
    KeepsBooks store
      (store.writeCandidate context kind level reviewItemId evidenceId providerKeyHash now) := by
  refine ⟨rfl, rfl, ?_, .refl _⟩
  intro evidence hevidence
  have hlookup := Keyed.mem_rows_iff.mp hevidence
  unfold WorkbenchStore.writeCandidate at hlookup
  dsimp only at hlookup
  rw [Keyed.lookup_insertOrUpdate] at hlookup
  split at hlookup
  · cases hold : store.candidateEvidence.lookup evidence.evidenceId with
    | none =>
      rw [hold] at hlookup
      cases hlookup
      exact .inr hrun
    | some old =>
      rw [hold] at hlookup
      cases hlookup
      exact .inl ⟨old, (Keyed.lookup_eq_some_iff.mp hold).1, rfl⟩
  · exact .inl ⟨evidence, (Keyed.lookup_eq_some_iff.mp hlookup).1, rfl⟩

theorem keepsBooks_persistCts (lib : WorkbenchLibrary)
    (candidates : List (Option String × Option String))
    (hrun : store.HasRun context.job.sourceRunId) :
    KeepsBooks store (persistCtsCandidateResults lib context now candidates store).1 := by
  induction candidates generalizing store with
  | nil => exact .refl store
  | cons candidate candidates ih =>
    unfold persistCtsCandidateResults
    split
    · exact ih hrun
    · exact (keepsBooks_writeCandidate hrun).trans (ih hrun)

theorem keepsBooks_attach {runtimeRunId : Option String}
    (hok : store.attachGivenRuntimeRunId context runtimeRunId = .ok store') :
    KeepsBooks store store' := by
  cases runtimeRunId with
  | none =>
    cases hok
    exact .refl _
  | some runtimeRunId =>
    obtain ⟨_, -, hok⟩ := bind_eq_ok hok
    cases hok
    apply keepsBooks_updateSourceRun
    exact fun _ => ⟨rfl, rfl⟩

theorem keepsBooks_expireJobs {rows : List SourceRunJobRow} :
    KeepsBooks store (rows.foldl expireJob store) := by
  induction rows generalizing store with
  | nil => exact .refl store
  | cons row rows ih =>
    have hfirst : KeepsBooks store (store.expireJob row) := by
      refine .of_counts (keepsCounts_update ?_ ?_) rfl rfl rfl
      · exact fun _ => rfl
      · exact fun _ => ⟨rfl, rfl⟩
    exact hfirst.trans ih

theorem Booked.makeRequest
    {requests : Keyed DetailOpenRequestRow.requestId} (ledgerId : String) (now : Instant)
    (h : store.Booked) (hinsert : store.detailOpenRequests.insert row = some requests)
    (hrun : store.HasRun row.sourceRunId) (hid : row.requestId = requestId)
    (hstatus : row.status = row.detailOpenMode.initialStatus) (hnone : row.ledgerId = none)
    (hok : row.detailOpenMode = .humanConfirm ∧ store' = store.withRequests requests ∨
      row.detailOpenMode = .bypassConfirm ∧ store' =
        ((store.withRequests requests).leaseLiepinDetailOpenRequest requestId ledgerId now).1) :
    store'.Booked := by
  have hmade : (store.withRequests requests).Booked := by
    apply h.insertRequest hinsert hrun hnone
    rw [hstatus]
    cases row.detailOpenMode <;> simp [DetailOpenMode.initialStatus]
  rcases hok with ⟨-, rfl⟩ | ⟨hmode, rfl⟩
  · exact hmade
  · subst hid
    have hlookup : (store.withRequests requests).detailOpenRequests.lookup row.requestId =
        some row := by
      show requests.lookup row.requestId = some row
      rw [(Keyed.lookup_insert hinsert).2, if_pos rfl]
    apply hmade.leaseRequest ledgerId now hlookup _ hnone
    rw [hstatus, hmode]
    exact .inr rfl

theorem hasRun_lease {id : String} (requestId ledgerId : String) (now : Instant)
    (h : store.HasRun id) : (store.leaseLiepinDetailOpenRequest requestId ledgerId now).1.HasRun id := by
  unfold leaseLiepinDetailOpenRequest
  split
  · exact h
  · split
    · exact hasRun_updateSourceRun h
    · split
      · exact hasRun_updateSourceRun h
      · split
        · exact hasRun_updateSourceRun h
        · exact hasRun_updateSourceRun h

theorem Booked.requestCardDetail {card : LiepinCard}
    {connection : SourceConnectionRow} {mode : DetailOpenMode}
    {evidenceId reviewItemId providerKeyHash : String} {made : Bool} (h : store.Booked)
    (hrun : store.HasRun context.job.sourceRunId)
    (hok : store.requestCardDetail context card connection mode evidenceId reviewItemId
      providerKeyHash now = .ok (store', made)) :
    store'.Booked ∧ store'.HasRun context.job.sourceRunId := by
  rcases requestCardDetail_ok hok with rfl | ⟨row, requests, -, hid, -, hasked, -, hstatus,
    hnone, hinsert, hwritten⟩
  · exact ⟨h, hrun⟩
  · refine ⟨h.makeRequest card.ledgerId now hinsert (hasked.run ▸ hrun) hid hstatus hnone hwritten, ?_⟩
    rcases hwritten with ⟨-, rfl⟩ | ⟨-, rfl⟩
    · exact hrun
    · exact hasRun_lease card.requestId card.ledgerId now hrun

theorem Booked.persistLiepin {lib : WorkbenchLibrary}
    {result : LiepinLaneResult} {progress : WorkbenchStore × Nat × List String} (h : store.Booked)
    (hrun : store.HasRun context.job.sourceRunId)
    (hok : persistLiepinCardCandidateResults lib context result now store = .ok progress) :
    progress.1.Booked := by
  have hboth : progress.1.Booked ∧ progress.1.HasRun context.job.sourceRunId := by
    apply persistLiepinCards_induction
      (P := fun s => s.Booked ∧ s.HasRun context.job.sourceRunId) _ _ ⟨h, hrun⟩ hok
    · intro middle _ _ _ hmiddle
      exact ⟨hmiddle.1.frame (keepsBooks_writeCandidate hmiddle.2), hmiddle.2⟩
    · intro middle middle' _ _ _ _ _ _ hmiddle _ _ _ hmade
      exact hmiddle.1.requestCardDetail hmiddle.2 hmade
  exact hboth.1

theorem lookup_approved (hrow : store.detailOpenRequests.lookup requestId = some row) :
    (store.updateRequest requestId (fun request => { request with status := .approved })
      fun _ => rfl).detailOpenRequests.lookup requestId = some { row with status := .approved } := by
  rw [lookup_updateRequest, if_pos rfl, hrow, Option.map_some]

end WorkbenchStore

def WorkbenchCall.WritesRequests : WorkbenchCall → Prop
  | .completeLiepinCardSourceRun .. => True
  | .createLiepinDetailOpenRequest .. => True
  | .approveLiepinDetailOpenRequest .. => True
  | .rejectLiepinDetailOpenRequest .. => True
  | .reconcileExpiredDetailOpenLeases .. => True
  | _ => False

namespace Workbench

open WorkbenchStore

variable {lib : WorkbenchLibrary} {bench : Workbench} {calls : List WorkbenchCall}

theorem InStep.hasRun (h : bench.InStep) {context : WorkbenchSourceRunJobContext}
    (hcontext : context ∈ bench.contexts) : bench.store.HasRun context.job.sourceRunId := by
  obtain ⟨job, hjob, hrun⟩ := h.knows context hcontext
  have hsome := h.valid.job_run _ job hjob
  rw [hrun, queue_run] at hsome
  obtain ⟨status, hstatus⟩ := Option.ne_none_iff_exists'.mp hsome
  obtain ⟨run, hlookup, -⟩ := Option.map_eq_some_iff.mp hstatus
  exact ⟨run, hlookup⟩

/-- **What leaves requests and ledger alone**: every call that is not about them. -/
theorem body_keepsBooks {call : WorkbenchCall} {store' : WorkbenchStore}
    {context : Option WorkbenchSourceRunJobContext} (hinStep : bench.InStep)
    (hcall : ¬call.WritesRequests) (hissued : call.Issued bench)
    (hok : call.body lib bench.store = .ok (store', context)) : KeepsBooks bench.store store' := by
  cases call
  case claimNextSourceRunJob =>
    rcases claimNextSourceRunJob_ok hok with ⟨-, rfl, -⟩ | ⟨_, _, _, -, -, -, -, rfl⟩
    · exact .refl _
    · refine .of_counts (keepsCounts_update ?_ ?_) rfl rfl rfl
      · exact fun _ => rfl
      · exact fun _ => ⟨rfl, rfl⟩
  -- the others answer no context
  all_goals obtain ⟨-, _, hok⟩ := silent_ok hok
  case createWorkbenchSession => exact keepsBooks_createWorkbenchSession hok
  case updateRequirementTriage =>
    rcases updateRequirementTriage_ok hok with ⟨-, rfl⟩ | ⟨-, rfl⟩
    · exact .refl _
    · exact .of_counts (.refl _) rfl rfl rfl
  case approveRequirementTriage =>
    rcases approveRequirementTriage_ok hok with ⟨rfl, -⟩ | ⟨-, rfl, -⟩
    · exact .refl _
    · exact .of_counts (.refl _) rfl rfl rfl
  case getOrCreateLiepinSourceConnection =>
    rcases getOrCreateLiepinSourceConnection_ok hok with rfl | ⟨_, -, -, rfl⟩
    · exact .refl _
    · exact .of_counts (.refl _) rfl rfl rfl
  case startLiepinLoginHandoff =>
    exact keepsBooks_writesConnection (startLiepinLoginHandoff_ok hok)
  case markLiepinConnectionConnected =>
    exact keepsBooks_writesConnection (markLiepinConnectionConnected_ok hok)
  case markLiepinConnectionLoginRequired =>
    exact keepsBooks_writesConnection (markLiepinConnectionLoginRequired_ok hok)
  case markLiepinConnectionConnectedForSourceRun =>
    exact keepsBooks_writesConnection (markLiepinConnectionConnectedForSourceRun_ok hok)
  case markLiepinConnectionConnectedWithoutSourceRuns =>
    exact keepsBooks_writesConnection (markLiepinConnectionConnectedWithoutSourceRuns_ok hok)
  case blockSourceRunForStartProbe =>
    rcases blockSourceRunForStartProbe_ok hok with rfl | ⟨_, _, -, -, -, rfl⟩
    · exact .refl _
    · refine .of_counts (keepsCounts_update ?_ ?_) rfl rfl rfl
      · exact fun _ => rfl
      · exact fun _ => ⟨rfl, rfl⟩
  case startSourceRunJob =>
    rcases startSourceRunJob_ok hok with rfl |
      ⟨_, _, _, _, -, -, -, -, -, -, -, -, -, -, -, _, rfl⟩
    · exact .refl _
    · refine .of_counts (keepsCounts_update ?_ ?_) rfl rfl rfl
      · exact fun _ => rfl
      · exact fun _ => ⟨rfl, rfl⟩
  case extendSourceRunJobLease =>
    cases hok
    exact .of_counts (.refl _) rfl rfl rfl
  case reconcileExpiredRunningJobs =>
    cases hok
    exact keepsBooks_expireJobs
  case markSourceRunCompleted =>
    rcases finishSourceRunJob_ok hok with rfl | ⟨_, -, -, rfl⟩
    · exact .refl _
    · exact keepsBooks_endJob
  case markSourceRunFailed =>
    rcases finishSourceRunJob_ok hok with rfl | ⟨_, -, -, rfl⟩
    · exact .refl _
    · exact keepsBooks_endJob
  case completeCtsSourceRun =>
    rcases completeCtsSourceRun_ok hok with rfl | ⟨_, _, _, _, -, -, hattach, hcounts, rfl⟩
    · exact .refl _
    · have hattached := keepsBooks_attach hattach
      have hrun := hattached.counts.hasRun (hinStep.hasRun hissued)
      exact (hattached.trans (keepsBooks_persistCts lib _ hrun)).trans (keepsBooks_complete hcounts)
  case updateLiepinSourceRunPolicy =>
    obtain ⟨_, rfl⟩ := updateLiepinSourceRunPolicy_ok hok
    exact .of_counts (.refl _) rfl rfl rfl
  all_goals exact absurd trivial hcall

/-- **Every call** keeps the books. -/
theorem body_booked {call : WorkbenchCall} {store' : WorkbenchStore}
    {context : Option WorkbenchSourceRunJobContext} (hinStep : bench.InStep)
    (h : bench.store.Booked) (hissued : call.Issued bench)
    (hok : call.body lib bench.store = .ok (store', context)) : store'.Booked := by
  by_cases hcall : call.WritesRequests
  case neg => exact h.frame (body_keepsBooks hinStep hcall hissued hok)
  cases call
  case completeLiepinCardSourceRun context result now =>
    obtain ⟨-, _, hok⟩ := silent_ok hok
    rcases completeLiepinCardSourceRun_ok hok with rfl | ⟨_, _, _, _, -, -, hpersist, hcounts, rfl⟩
    · exact h
    · exact (h.persistLiepin (hinStep.hasRun hissued) hpersist).frame (keepsBooks_complete hcounts)
  case createLiepinDetailOpenRequest user sessionId reviewItemId idempotencyKey requestId ledgerId
      now =>
    obtain ⟨-, _, hok⟩ := silent_ok hok
    rcases createLiepinDetailOpenRequest_ok hok with rfl | ⟨_, row, _, -, ⟨target, hasked⟩, hid,
      -, hstatus, hnone, hinsert, hwritten⟩
    · exact h
    · have hrow : bench.store.HasRun row.sourceRunId := by
        rw [hasked.run]
        exact h.evidenceRun target (mem_of_liepinReviewTarget hasked.found)
      exact h.makeRequest ledgerId now hinsert hrow hid hstatus hnone hwritten
  case approveLiepinDetailOpenRequest user requestId ledgerId now =>
    obtain ⟨-, _, hok⟩ := silent_ok hok
    rcases approveLiepinDetailOpenRequest_ok hok with rfl | ⟨row, hfound, hpending, rfl⟩
    · exact h
    · have hrow := lookup_of_detailRequestRowForUser hfound
      have hnone : row.ledgerId = none := by
        apply h.entries.names_none hrow
        rw [hpending]
        simp [DetailOpenRequestStatus.Granted]
      have happroved := h.settle .approved hrow hpending (by simp)
      exact happroved.leaseRequest ledgerId now (lookup_approved hrow) (.inl rfl) hnone
  case rejectLiepinDetailOpenRequest user requestId =>
    obtain ⟨-, _, hok⟩ := silent_ok hok
    rcases rejectLiepinDetailOpenRequest_ok hok with rfl | ⟨row, hrow, hpending, rfl⟩
    · exact h
    · exact h.settle .rejected hrow hpending (by simp)
  case reconcileExpiredDetailOpenLeases now =>
    obtain ⟨-, _, hok⟩ := silent_ok hok
    exact h.expireLeases hok
  all_goals cases hcall

theorem run_booked (hruns : Runs lib {} calls) : (run lib {} calls).store.Booked := by
  have hboth : (run lib {} calls).InStep ∧ (run lib {} calls).store.Booked := by
    apply run_induction (P := fun b => b.InStep ∧ b.store.Booked) _ ⟨inStep_empty, booked_empty⟩ hruns
    intro bench call hissued hbench
    obtain ⟨hinStep, h⟩ := hbench
    refine ⟨(step_steps lib hinStep hissued).2, ?_⟩
    rcases step_cases lib bench call with ⟨store', context, hbody, hstep⟩ | hstep
    · rw [hstep]
      exact body_booked hinStep h hissued hbody
    · rw [hstep]
      exact h
  exact hboth.2

end Workbench

/-! ## 5. Every run -/

structure WorkbenchStore.LedgerSound (store : WorkbenchStore) : Prop where
  one_lease : ∀ row ∈ store.detailOpenLedger.rows, ∀ row' ∈ store.detailOpenLedger.rows,
    row.status = .leased → row'.status = .leased → row.connectionId = row'.connectionId →
      row = row'
  budget : ∀ connectionId day, store.usedCount connectionId day ≤ liepinDailyDetailOpenLimit
  one_row : ∀ row ∈ store.detailOpenLedger.rows, ∀ row' ∈ store.detailOpenLedger.rows,
    row.requestId = row'.requestId → row = row'
  /-- The two tables agree on who owns what. -/
  owns_iff : ∀ request ∈ store.detailOpenRequests.rows, ∀ ledgerId,
    request.ledgerId = some ledgerId ↔ ∃ row ∈ store.detailOpenLedger.rows,
      row.ledgerId = ledgerId ∧ row.requestId = request.requestId
  owns_none : ∀ request ∈ store.detailOpenRequests.rows,
    request.status = .rejected ∨ request.status = .blocked →
    ∀ row ∈ store.detailOpenLedger.rows, row.requestId ≠ request.requestId
  used_count : ∀ run ∈ store.sourceRuns.rows, run.detailOpenUsedCount =
    (store.detailOpenLedger.rows.filter fun row => row.sourceRunId = run.sourceRunId).length
  blocked_count : ∀ run ∈ store.sourceRuns.rows, run.detailOpenBlockedCount =
    (store.detailOpenRequests.rows.filter fun request =>
      request.sourceRunId = run.sourceRunId ∧ request.status = .blocked).length

open WorkbenchStore

theorem WorkbenchStore.Booked.ledgerSound {store : WorkbenchStore} (h : store.Booked) :
    store.LedgerSound where
  one_lease := h.one_lease
  budget := h.budget
  one_row := by
    intro row hrow row' hrow' hsame
    obtain ⟨request, hrequest, hnames, -⟩ := h.entries.owner row hrow
    obtain ⟨request', hrequest', hnames', -⟩ := h.entries.owner row' hrow'
    rw [hsame, hrequest'] at hrequest
    cases hrequest
    have hid : row.ledgerId = row'.ledgerId := Option.some.inj (hnames.symm.trans hnames')
    have hlookup := Keyed.mem_rows_iff.mp hrow
    rw [hid, Keyed.mem_rows_iff.mp hrow'] at hlookup
    exact (Option.some.inj hlookup).symm
  owns_iff := by
    intro request hrequest ledgerId
    constructor
    · exact h.entries.named request hrequest ledgerId
    · intro howns
      obtain ⟨row, hrow, rfl, hid⟩ := howns
      obtain ⟨owner, howner, hnames, -⟩ := h.entries.owner row hrow
      rw [hid, Keyed.mem_rows_iff.mp hrequest] at howner
      cases howner
      exact hnames
  owns_none := by
    intro request hrequest hstatus
    have hlookup := Keyed.mem_rows_iff.mp hrequest
    apply h.entries.owns_none hlookup
    apply h.entries.names_none hlookup
    rcases hstatus with hstatus | hstatus <;> simp [DetailOpenRequestStatus.Granted, hstatus]
  used_count := by
    intro run hrun
    rw [h.used_count _ run (Keyed.mem_rows_iff.mp hrun), List.countP_eq_length_filter]
    rfl
  blocked_count := by
    intro run hrun
    rw [h.blocked_count _ run (Keyed.mem_rows_iff.mp hrun), List.countP_eq_length_filter]
    rfl

namespace Workbench

/-- **Every run** keeps the ledger sound. -/
theorem run_ledgerSound {lib : WorkbenchLibrary} {calls : List WorkbenchCall}
    (hruns : Runs lib {} calls) : (run lib {} calls).store.LedgerSound :=
  (run_booked hruns).ledgerSound

def sampleSearchContext : WorkbenchSourceRunJobContext :=
  { sampleContext with job := { sampleContext.job with sourceKind := .liepin } }

/-- A connection is made, and a search finds one candidate, whose detail page is asked for. -/
def sampleRequest : List WorkbenchCall :=
  [.getOrCreateLiepinSourceConnection sampleUser "cx",
    .markLiepinConnectionConnectedWithoutSourceRuns sampleUser "cx" (some "account") none] ++
  sampleStart .liepin ++
  [.claimNextSourceRunJob "w" 9 (some .liepin),
    .completeLiepinCardSourceRun sampleSearchContext { cards := [{ resumeId := some "k" }] } 3,
    .createLiepinDetailOpenRequest sampleUser "s" "review_s\x1fliepin\x1fk" none "q" "l" 4]

/-- The request is approved, which leases a row. -/
def sampleLease : List WorkbenchCall :=
  sampleRequest ++ [.approveLiepinDetailOpenRequest sampleUser "q" "l" 5]

theorem runs_sampleRequest : Runs .ascii {} sampleRequest := by
  refine runs_cons trivial (runs_cons trivial (runs_cons trivial (runs_cons trivial (runs_cons trivial
    (runs_cons trivial (runs_cons trivial (runs_cons ?_ (runs_cons trivial (runs_nil _)))))))))
  show sampleSearchContext ∈ _
  decide

theorem runs_sampleLease : Runs .ascii {} sampleLease := runs_sampleRequest.snoc trivial

/-- The ledger of the sample has a leased row. -/
theorem run_ledgerSound_sample : (run .ascii {} sampleLease).store.LedgerSound ∧
    ((run .ascii {} sampleLease).store.detailOpenLedger.rows.map (·.status)) = [.leased] :=
  ⟨run_ledgerSound runs_sampleLease, by decide⟩

end Workbench

end SeekTalent

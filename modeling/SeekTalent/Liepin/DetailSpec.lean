import SeekTalent.Liepin.DetailLoop

/-!
# What a call does to the ledger

Every operation of the store leaves the rows there are in place, with their keys, and never
touches a terminal one (`Extends`). A call prepares its request from attempts that it has
just started itself, no more of them than the day's budget had left when it counted
(`prepare_spec`); whatever it does afterwards only extends the ledger (`settle_spec`).
-/

namespace SeekTalent

namespace LiepinStore

variable {store store' store'' : LiepinStore} {scope : LiepinScope} {attemptId : String}
variable {transition : DetailTransition} {row : LiepinDetailAttemptRow}

/-- The later ledger has the rows of the earlier one, and its terminal ones unchanged. -/
def Extends (store store' : LiepinStore) : Prop :=
  ∀ id row, store.row id = some row → ∃ row', store'.row id = some row' ∧
    row'.budgetKey = row.budgetKey ∧ row'.reservationKey = row.reservationKey ∧
    (row.state.Terminal → row' = row)

theorem Extends.refl (store : LiepinStore) : Extends store store :=
  fun _ row hrow => ⟨row, hrow, rfl, rfl, fun _ => rfl⟩

theorem Extends.trans (h : Extends store store') (h' : Extends store' store'') :
    Extends store store'' := by
  intro id row hrow
  obtain ⟨row', hrow', hb', hk', hterm'⟩ := h id row hrow
  obtain ⟨row'', hrow'', hb'', hk'', hterm''⟩ := h' id row' hrow'
  refine ⟨row'', hrow'', hb''.trans hb', hk''.trans hk', fun hterm => ?_⟩
  obtain rfl := hterm' hterm
  exact hterm'' hterm

theorem extends_update (hrow : store.row attemptId = some row)
    (hallowed : transition.state ∈ row.state.allowedTransitions)
    (hlegal : transition.consumptionState ∈ transition.state.validConsumptionStates) :
    Extends store (store.update attemptId transition hlegal) := by
  intro id x hx
  rw [row_update]
  split
  · rename_i hid
    rw [hid, hrow] at hx
    obtain rfl := Option.some.inj hx
    refine ⟨row.set transition, by rw [hid, hrow]; rfl, rfl, rfl, fun hterm => ?_⟩
    rw [hterm] at hallowed
    exact absurd hallowed List.not_mem_nil
  · exact ⟨x, hx, rfl, rfl, fun _ => rfl⟩

theorem transitionDetailAttempt_extends {updated : LiepinDetailAttemptRow}
    (h : store.transitionDetailAttempt scope attemptId transition = .ok (store', updated)) :
    Extends store store' := by
  obtain ⟨row, hrow, -, hallowed, hlegal, rfl, -⟩ := transitionDetailAttempt_ok_iff.mp h
  exact extends_update hrow hallowed hlegal

theorem applyDetailWorkerResponse_extends {workerResponseId : String}
    {updated : LiepinDetailAttemptRow}
    (h : store.applyDetailWorkerResponse scope attemptId workerResponseId transition =
      .ok (store', updated)) : Extends store store' := by
  unfold applyDetailWorkerResponse at h
  split at h
  · cases h
  · split at h
    · split at h
      · cases h
      · split at h
        · cases h
        · obtain ⟨rfl, rfl⟩ := Prod.mk.inj (Except.ok.inj h)
          exact Extends.refl store
    · split at h
      · cases h
      · rename_i moved updated' hmoved
        obtain ⟨rfl, rfl⟩ := Prod.mk.inj (Except.ok.inj h)
        have hext : Extends store moved := transitionDetailAttempt_extends hmoved
        exact hext

theorem row_insert {reservation : DetailReservation} {hid hkey} {id : String} :
    (store.insert reservation attemptId hid hkey).row id =
      if id = attemptId then some (reservation.row attemptId) else store.row id := by
  apply Option.ext
  intro x
  have hmem : x ∈ (store.insert reservation attemptId hid hkey).attempts ↔
      x ∈ store.attempts ∨ x = reservation.row attemptId := by
    simp [insert]
  rw [row_eq_some_iff, hmem]
  constructor
  · intro h
    obtain ⟨hx | rfl, rfl⟩ := h
    · have hne : x.attemptId ≠ attemptId := fun h => hid (h ▸ List.mem_map_of_mem hx)
      rw [if_neg hne]
      exact row_eq_some_iff.mpr ⟨hx, rfl⟩
    · exact if_pos rfl
  · intro h
    split at h
    · rename_i hida
      obtain rfl := Option.some.inj h
      exact ⟨.inr rfl, hida.symm⟩
    · obtain ⟨hx, hxid⟩ := row_eq_some_iff.mp h
      exact ⟨.inl hx, hxid⟩

theorem reserveDetailAttempt_spec {reservation : DetailReservation}
    {attempt : LiepinDetailAttemptRow}
    (h : store.reserveDetailAttempt reservation attemptId = .ok (store', attempt)) :
    (∀ id row, store.row id = some row → store'.row id = some row) ∧
      store'.responses = store.responses ∧
      store'.row attempt.attemptId = some attempt ∧
      attempt.reservationKey = (reservation.row "").reservationKey ∧
      attempt.providerDayKey = reservation.providerDayKey := by
  unfold reserveDetailAttempt at h
  split at h
  · cases h
  · split at h
    · rename_i existing hfetch
      split at h
      · rename_i hreplay
        obtain ⟨rfl, rfl⟩ := Prod.mk.inj (Except.ok.inj h)
        have hkey : existing.reservationKey = (reservation.row "").reservationKey := by
          simpa using List.find?_some hfetch
        have hday : existing.providerDayKey = reservation.providerDayKey := by
          by_contra hne
          simp [validateDetailReservationReplay, hne] at hreplay
        exact ⟨fun _ _ h => h, rfl,
          row_eq_some_iff.mpr ⟨List.mem_of_find?_eq_some hfetch, rfl⟩, hkey, hday⟩
      · cases h
    · split at h
      · rename_i hnew
        obtain ⟨rfl, rfl⟩ := Prod.mk.inj (Except.ok.inj h)
        refine ⟨fun id row hrow => ?_, rfl, by rw [row_insert]; exact if_pos rfl, rfl, rfl⟩
        obtain ⟨hmem, rfl⟩ := row_eq_some_iff.mp hrow
        have hne : row.attemptId ≠ attemptId := fun h => hnew.1 (h ▸ List.mem_map_of_mem hmem)
        rw [row_insert, if_neg hne]
        exact hrow
      · cases h

theorem extends_of_rows (h : ∀ id row, store.row id = some row → store'.row id = some row) :
    Extends store store' :=
  fun id row hrow => ⟨row, h id row hrow, rfl, rfl, fun _ => rfl⟩

end LiepinStore

open LiepinStore

namespace DetailOpenCall

variable {call : DetailOpenCall} {store₀ store : LiepinStore} {sent : List LiepinDetailOpenRequest}
variable {sent₀ : List LiepinDetailOpenRequest} {attempt : LiepinDetailAttemptRow}
variable {prepared : Prepared}

/-! ## Before the worker is contacted -/

/-- Nothing has been sent or recorded since the call began, and the ledger has grown. -/
def Preparing (store₀ : LiepinStore) (sent₀ : List LiepinDetailOpenRequest) (store : LiepinStore)
    (sent : List LiepinDetailOpenRequest) : Prop :=
  sent = sent₀ ∧ Extends store₀ store ∧ store.responses = store₀.responses

/-- An attempt of the call is in the ledger, under the call's keys. -/
def Owns (call : DetailOpenCall) (store : LiepinStore) (attempt : LiepinDetailAttemptRow) : Prop :=
  ∃ row, store.row attempt.attemptId = some row ∧ row.budgetKey = call.budgetKey ∧
    row.reservationKey =
      (call.scope, call.providerAccountHash, call.budgetDate, attempt.idempotencyKey)

theorem Owns.extends {store' : LiepinStore}
    (h : Owns call store attempt) (hext : Extends store store') : Owns call store' attempt := by
  obtain ⟨row, hrow, hb, hk⟩ := h
  obtain ⟨row', hrow', hb', hk', -⟩ := hext _ row hrow
  exact ⟨row', hrow', hb'.trans hb, hk'.trans hk⟩

theorem Owns.attemptId_eq {a b : LiepinDetailAttemptRow} (ha : Owns call store a)
    (hb : Owns call store b) (hkey : a.idempotencyKey = b.idempotencyKey) :
    a.attemptId = b.attemptId := by
  obtain ⟨ra, hra, -, hka⟩ := ha
  obtain ⟨rb, hrb, -, hkb⟩ := hb
  obtain ⟨hma, hida⟩ := row_eq_some_iff.mp hra
  obtain ⟨hmb, hidb⟩ := row_eq_some_iff.mp hrb
  have hrows : ra = rb := by
    apply List.inj_on_of_nodup_map store.nodup_reservations hma hmb
    rw [hka, hkb, hkey]
  rw [← hida, ← hidb, hrows]

structure Reserved (call : DetailOpenCall) (limit : Nat) (attempts : List LiepinDetailAttemptRow)
    (items : List LiepinDetailOpenRequestItem) (store : LiepinStore) : Prop where
  owns : ∀ attempt ∈ attempts, Owns call store attempt
  ofItem : ∀ item ∈ items, ∃ attempt ∈ attempts, attempt.attemptId = item.attemptId ∧
    attempt.idempotencyKey = item.idempotencyKey
  items_le : items.length ≤ limit

theorem requestItem_spec {candidate : LiepinCardCandidate}
    {item : LiepinDetailOpenRequestItem}
    (h : call.requestItem candidate attempt = .ok (some item)) :
    item.attemptId = attempt.attemptId ∧ item.idempotencyKey = idempotencyKey candidate := by
  unfold requestItem issueDetailOpenApprovalKey at h
  split at h
  · cases h
  · split at h
    · cases h
    · obtain rfl := Option.some.inj (Except.ok.inj h)
      exact ⟨rfl, rfl⟩

theorem reserveAll_spec {selectedById : String → Option LiepinCardCandidate} {n : Nat}
    {decisions : List LiepinDetailPlanDecision} (h : Preparing store₀ sent₀ store sent) :
    Proc.Ensures (Preparing store₀ sent₀)
      (fun reserved store' _ => Extends store store' ∧
        Reserved call (openings decisions).length reserved.1 reserved.2 store')
      (call.reserveAll selectedById n decisions) store sent := by
  induction decisions generalizing n store sent with
  | nil =>
    exact ⟨h, Extends.refl store, ⟨fun _ h => absurd h List.not_mem_nil,
      fun _ h => absurd h List.not_mem_nil, Nat.le_refl 0⟩⟩
  | cons decision rest ih =>
    unfold reserveAll
    by_cases hopen : decision.action = .openDetail
    · have hlength : (openings (decision :: rest)).length = (openings rest).length + 1 := by
        simp [openings, hopen]
      simp only [hopen, ne_eq, not_true_eq_false, if_false]
      cases selectedById decision.candidateId with
      | none => exact h
      | some candidate =>
        refine Proc.Ensures.bind (Q := fun attempt store' sent' =>
          Extends store store' ∧ Owns call store' attempt ∧
            attempt.idempotencyKey = idempotencyKey candidate) ?_ ?_
        · apply Proc.Ensures.atomically h
          intro store' attempt hop
          obtain ⟨hrows, hresp, hrow, hkey, hday⟩ := reserveDetailAttempt_spec hop
          obtain ⟨hsent, hext, hresp₀⟩ := h
          have hgrow := extends_of_rows hrows
          simp only [LiepinDetailAttemptRow.reservationKey, DetailReservation.row, reservation,
            Prod.mk.injEq] at hkey hday
          obtain ⟨hscope, haccount, hdate, hidem⟩ := hkey
          refine ⟨⟨hsent, hext.trans hgrow, hresp.trans hresp₀⟩, hgrow, ⟨attempt, hrow, ?_, ?_⟩,
            hidem⟩
          · simp [LiepinDetailAttemptRow.budgetKey, DetailOpenCall.budgetKey, hscope, haccount,
              hday]
          · simp [LiepinDetailAttemptRow.reservationKey, hscope, haccount, hdate]
        · intro attempt store' sent' hprep hattempt
          obtain ⟨hext, howns, hidem⟩ := hattempt
          cases hitem : call.requestItem candidate attempt with
          | error e => exact hprep
          | ok item =>
            refine Proc.Ensures.bind (ih (n := n + 1) hprep) ?_
            intro reserved store'' sent'' hprep'' hreserved
            obtain ⟨hext'', hreserved⟩ := hreserved
            refine ⟨hprep'', hext.trans hext'', ?_, ?_, ?_⟩
            · intro a ha
              rcases List.mem_cons.mp ha with rfl | ha
              · exact howns.extends hext''
              · exact hreserved.owns a ha
            · intro i hi
              rcases List.mem_append.mp hi with hi | hi
              · obtain rfl : item = some i := by simpa using hi
                obtain ⟨hid, hikey⟩ := requestItem_spec hitem
                exact ⟨attempt, List.mem_cons_self .., hid.symm, hidem.trans hikey.symm⟩
              · obtain ⟨a, ha, heq⟩ := hreserved.ofItem i hi
                exact ⟨a, List.mem_cons_of_mem _ ha, heq⟩
            · have hle := hreserved.items_le
              rw [hlength, List.length_append]
              cases item <;> simp <;> omega
    · have hsame : openings (decision :: rest) = openings rest := by
        simp [openings, hopen]
      simp only [hopen, ne_eq, not_false_eq_true, if_true, hsame]
      exact ih h

def At (call : DetailOpenCall) (store : LiepinStore) (attempt : LiepinDetailAttemptRow)
    (state : DetailAttemptState) : Prop :=
  ∃ row, store.row attempt.attemptId = some row ∧ row.budgetKey = call.budgetKey ∧
    row.state = state

def Starting (call : DetailOpenCall) (all : List LiepinDetailAttemptRow)
    (rest : List LiepinDetailAttemptRow) (store : LiepinStore)
    (_ : List LiepinDetailOpenRequest) : Prop :=
  (∀ attempt ∈ all, Owns call store attempt) ∧ ∃ started, all = started ++ rest ∧
    (started.map (·.attemptId)).Nodup ∧ ∀ attempt ∈ started, At call store attempt .started

theorem startAll_spec
    {attempts : List LiepinDetailAttemptRow} (h : Preparing store₀ sent₀ store sent)
    (howns : ∀ attempt ∈ attempts, Owns call store attempt) :
    Proc.Ensures (Preparing store₀ sent₀) (fun _ => Starting call attempts [])
      (Proc.forEach (call.transition call.startTransition) attempts) store sent := by
  refine Proc.Ensures.forEach (I := Starting call attempts) h ⟨howns, [], rfl, List.nodup_nil,
    fun _ h => absurd h List.not_mem_nil⟩ ?_
  intro attempt rest store sent hprep hstarting
  obtain ⟨howns, started, rfl, hnd, hstarted⟩ := hstarting
  refine Proc.Ensures.bind (Q := fun _ => Starting call (started ++ attempt :: rest) rest) ?_
    fun _ store sent hp hs => ⟨hp, hs⟩
  apply Proc.Ensures.atomically hprep
  intro store' updated hop
  obtain ⟨row, hrow, -, hallowed, hlegal, rfl, -⟩ := transitionDetailAttempt_ok_iff.mp hop
  have hgrow := extends_update hrow hallowed hlegal
  obtain ⟨hsent, hext, hresp⟩ := hprep
  refine ⟨⟨hsent, hext.trans hgrow, hresp⟩, fun a ha => (howns a ha).extends hgrow,
    started ++ [attempt], by simp, ?_, ?_⟩
  · rw [List.map_append, List.map_singleton]
    refine hnd.append (List.nodup_singleton _) ?_
    intro id hid hid'
    rw [List.mem_singleton] at hid'
    subst hid'
    -- an attempt that is started already cannot be started again
    obtain ⟨a, ha, hida⟩ := List.mem_map.mp hid
    obtain ⟨row', hrow', -, hstate⟩ := hstarted a ha
    rw [hida, hrow] at hrow'
    obtain rfl := Option.some.inj hrow'
    rw [hstate] at hallowed
    exact absurd hallowed (show DetailAttemptState.started ∉
      DetailAttemptState.started.allowedTransitions by decide)
  · intro a ha
    have howned := howns a (by
      rcases List.mem_append.mp ha with ha | ha
      · exact List.mem_append_left _ ha
      · rw [List.mem_singleton.mp ha]
        exact List.mem_append_right _ (List.mem_cons_self ..))
    unfold At
    rw [row_update]
    by_cases hid : a.attemptId = attempt.attemptId
    · obtain ⟨row', hrow', hb, -⟩ := howned
      rw [hid, hrow] at hrow'
      obtain rfl := Option.some.inj hrow'
      exact ⟨row.set call.startTransition, by simp [hid, hrow], hb, rfl⟩
    · rcases List.mem_append.mp ha with ha | ha
      · obtain ⟨row', hrow', hb, hstate⟩ := hstarted a ha
        exact ⟨row', by simp [hid, hrow'], hb, hstate⟩
      · exact absurd (by rw [List.mem_singleton.mp ha]) hid

structure Ready (call : DetailOpenCall) (consumed : Nat) (prepared : Prepared)
    (store : LiepinStore) : Prop where
  nodup : (prepared.dispatchAttempts.map (·.attemptId)).Nodup
  started : ∀ attempt ∈ prepared.dispatchAttempts, At call store attempt .started
  owns : ∀ attempt ∈ prepared.dispatchAttempts, Owns call store attempt
  ofItem : ∀ item ∈ prepared.items, ∃ attempt ∈ prepared.dispatchAttempts,
    attempt.attemptId = item.attemptId ∧ attempt.idempotencyKey = item.idempotencyKey
  items_le : (prepared.items.length : Int) ≤ max 0 (call.dailyDetailBudget - consumed)

/-- **Preparing a request** sends and records nothing, and leaves it ready to be sent. -/
theorem prepare_spec :
    Proc.Ensures (Preparing store sent)
      (fun prepared store' _ => Ready call (store.countDetailBudgetConsumed call.budgetKey)
        prepared store')
      call.prepare store sent := by
  have hstart : Preparing store sent store sent := ⟨rfl, Extends.refl store, rfl⟩
  unfold prepare
  refine Proc.Ensures.bind (Q := fun consumed store' _ => store' = store ∧
    consumed = store.countDetailBudgetConsumed call.budgetKey) ?_ ?_
  · apply Proc.Ensures.atomically hstart
    intro store' consumed hop
    obtain ⟨rfl, rfl⟩ := Prod.mk.inj (Except.ok.inj hop)
    exact ⟨hstart, rfl, rfl⟩
  · intro consumed store₁ sent₁ hprep hcount
    obtain ⟨rfl, rfl⟩ := hcount
    split
    · exact hprep
    · rename_i decisions hplan
      have hbudget := openings_buildDetailOpenPlan_le hplan
      refine Proc.Ensures.bind (reserveAll_spec hprep) ?_
      intro reserved store₂ sent₂ hprep₂ hreserved
      obtain ⟨-, howns, hitems, hle⟩ := hreserved
      have hdispatch : ∀ attempt ∈ (Prepared.mk decisions reserved.1 reserved.2).dispatchAttempts,
          Owns call store₂ attempt := fun a ha => howns a (List.mem_of_mem_filter ha)
      refine Proc.Ensures.bind (startAll_spec hprep₂ hdispatch) ?_
      intro _ store₃ sent₃ hprep₃ hstarting
      obtain ⟨howns₃, started, hall, hnd, hstarted⟩ := hstarting
      rw [List.append_nil] at hall
      refine ⟨hprep₃, hall ▸ hnd, hall ▸ hstarted, howns₃, ?_, ?_⟩
      · intro item hitem
        obtain ⟨a, ha, hid, hkey⟩ := hitems item hitem
        refine ⟨a, List.mem_filter.mpr ⟨ha, ?_⟩, hid, hkey⟩
        simpa using ⟨item, hitem, hid.symm⟩
      · exact (Int.ofNat_le.mpr hle).trans hbudget

theorem Ready.nodup_keys {consumed : Nat}
    (h : Ready call consumed prepared store) :
    (prepared.dispatchAttempts.map (·.idempotencyKey)).Nodup := by
  rw [List.nodup_map_iff_inj_on h.nodup.of_map]
  intro a ha b hb hkey
  exact List.inj_on_of_nodup_map h.nodup ha hb ((h.owns a ha).attemptId_eq (h.owns b hb) hkey)

/-! ## After the worker has answered -/

def Settling (store₀ : LiepinStore) (sent₀ : List LiepinDetailOpenRequest) (store : LiepinStore)
    (sent : List LiepinDetailOpenRequest) : Prop :=
  sent = sent₀ ∧ Extends store₀ store

theorem transition_settling {transition : DetailTransition}
    (h : Settling store₀ sent₀ store sent) :
    Proc.Ensures (Settling store₀ sent₀) (fun _ _ _ => True)
      (call.transition transition attempt) store sent := by
  refine Proc.Ensures.bind (Q := fun _ _ _ => True) ?_ fun _ _ _ hp _ => ⟨hp, trivial⟩
  apply Proc.Ensures.atomically h
  intro store' updated hop
  exact ⟨⟨h.1, h.2.trans (transitionDetailAttempt_extends hop)⟩, trivial⟩

theorem transitions_settling {α : Type} {items : List α}
    {body : α → DetailProc Unit}
    (hbody : ∀ item store sent, Settling store₀ sent₀ store sent →
      Proc.Ensures (Settling store₀ sent₀) (fun _ _ _ => True) (body item) store sent)
    (h : Settling store₀ sent₀ store sent) :
    Proc.Ensures (Settling store₀ sent₀) (fun _ _ _ => True) (Proc.forEach body items) store sent :=
  Proc.Ensures.forEach (I := fun _ _ _ => True) h trivial
    fun item _ store sent hp _ => hbody item store sent hp

theorem applyStatus_settling {result : LiepinDetailOpenResult}
    (h : Settling store₀ sent₀ store sent) :
    Proc.Ensures (Settling store₀ sent₀) (fun _ _ _ => True)
      (call.applyStatus attempt result) store sent := by
  refine Proc.Ensures.bind (Q := fun _ _ _ => True) ?_ fun _ _ _ hp _ => ⟨hp, trivial⟩
  apply Proc.Ensures.atomically h
  intro store' updated hop
  exact ⟨⟨h.1, h.2.trans (applyDetailWorkerResponse_extends hop)⟩, trivial⟩

theorem applyWorkerDetailResult_settling {result : LiepinDetailOpenResult}
    (h : Settling store₀ sent₀ store sent) :
    Proc.Ensures (Settling store₀ sent₀) (fun _ _ _ => True)
      (call.applyWorkerDetailResult attempt result) store sent := by
  refine Proc.Ensures.bind
    (transitions_settling (fun _ _ _ hs => transition_settling hs) h) ?_
  intro _ store₁ sent₁ h₁ _
  split
  · unfold applyCompleted
    cases result.candidate with
    | none =>
      exact Proc.Ensures.bind (transition_settling h₁) fun _ _ _ h₂ _ => h₂
    | some detail =>
      dsimp only
      split
      · exact h₁
      · split
        · exact h₁
        · exact Proc.Ensures.bind (applyStatus_settling h₁) fun _ _ _ h₂ _ => ⟨h₂, trivial⟩
  · exact Proc.Ensures.bind (applyStatus_settling h₁) fun _ _ _ h₂ _ => ⟨h₂, trivial⟩

theorem applyResults_settling
    {results : List LiepinDetailOpenResult} (h : Settling store₀ sent₀ store sent) :
    Proc.Ensures (Settling store₀ sent₀) (fun _ _ _ => True)
      (call.applyResults prepared results) store sent := by
  induction results generalizing store sent with
  | nil => exact ⟨h, trivial⟩
  | cons result rest ih =>
    unfold applyResults
    cases prepared.attemptByKey result.idempotencyKey with
    | none => exact h
    | some attempt =>
      refine Proc.Ensures.bind (applyWorkerDetailResult_settling h) ?_
      intro mapped store₁ sent₁ h₁ _
      exact Proc.Ensures.bind (ih h₁) fun _ _ _ h₂ _ => ⟨h₂, trivial⟩

/-- **Settling** only extends the ledger, whatever the answer is. -/
theorem settle_spec {answer : WorkerAnswer} :
    Proc.Ensures (Settling store sent) (fun _ _ _ => True) (call.settle prepared answer)
      store sent := by
  have h : Settling store sent store sent := ⟨rfl, Extends.refl store⟩
  cases answer with
  | cancelled => exact h
  | exception message =>
    exact Proc.Ensures.bind (transitions_settling (fun _ _ _ hs => transition_settling hs) h)
      fun _ _ _ h₁ _ => h₁
  | response results =>
    unfold settle
    dsimp only
    split
    · exact Proc.Ensures.bind (transitions_settling (fun _ _ _ hs => transition_settling hs) h)
        fun _ _ _ h₁ _ => h₁
    · exact Proc.Ensures.bind (applyResults_settling h) fun _ _ _ h₁ _ => ⟨h₁, trivial⟩

end DetailOpenCall

end SeekTalent

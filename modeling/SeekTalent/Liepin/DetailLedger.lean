import Mathlib.Data.List.Perm.Subperm
import SeekTalent.Liepin.DetailSpec

/-!
# Runs of the ledger

Any calls in any order, with any arguments: the states come in as texts, and a call may
raise. What an attempt has consumed is known once its state is terminal, and a terminal
attempt never changes, so the budget that is counted never shrinks.
-/

namespace SeekTalent

/-! ## 1. The arguments as they come in -/

def DetailAttemptState.all : List DetailAttemptState :=
  [approvedNotStarted, started, providerPageLoaded, detailPayloadSeen, completed,
    blockedByRiskControl, failedBeforeConsumption, failedAfterPossibleConsumption, unknown]

def DetailConsumptionState.all : List DetailConsumptionState :=
  [notConsumed, consumed, possiblyConsumed, unknown]

structure DetailTransitionArgs where
  state : String
  consumptionState : String
  workerCommandId : Option String := none
  rawEvidenceRef : Option String := none

/-- The first two checks of `_validate_detail_transition`: both states are known. -/
def DetailTransitionArgs.known (args : DetailTransitionArgs) : Except String DetailTransition :=
  match DetailAttemptState.all.find? (·.text = args.state) with
  | none => .error ("invalid Liepin detail attempt state: " ++ args.state)
  | some state =>
    match DetailConsumptionState.all.find? (·.text = args.consumptionState) with
    | none => .error ("invalid Liepin detail consumption state: " ++ args.consumptionState)
    | some consumptionState =>
      .ok
        { state
          consumptionState
          workerCommandId := args.workerCommandId
          rawEvidenceRef := args.rawEvidenceRef }

def DetailTransition.args (transition : DetailTransition) : DetailTransitionArgs :=
  { state := transition.state.text
    consumptionState := transition.consumptionState.text
    workerCommandId := transition.workerCommandId
    rawEvidenceRef := transition.rawEvidenceRef }

namespace LiepinStore

/-- `_update_detail_attempt`, from the arguments as they come in. -/
def updateFromArgs (store : LiepinStore) (row : LiepinDetailAttemptRow)
    (args : DetailTransitionArgs) : Except String (LiepinStore × LiepinDetailAttemptRow) :=
  match args.known with
  | .error e => .error e
  | .ok transition => store.updateDetailAttempt row transition

/-- `transition_detail_attempt`, from the arguments as they come in. -/
def transitionFromArgs (scope : LiepinScope) (attemptId : String) (args : DetailTransitionArgs)
    (store : LiepinStore) : Except String (LiepinStore × LiepinDetailAttemptRow) :=
  match store.fetchDetailAttempt scope attemptId with
  | none => .error "Liepin detail attempt not found."
  | some row => store.updateFromArgs row args

/-- `apply_detail_worker_response`, from the arguments as they come in: those of a response
    that was applied before are not looked at again. -/
def applyFromArgs (scope : LiepinScope) (attemptId workerResponseId : String)
    (args : DetailTransitionArgs) (store : LiepinStore) :
    Except String (LiepinStore × LiepinDetailAttemptRow) :=
  if workerResponseId = "" then
    .error "Liepin detail worker response requires a response id."
  else
    match store.responses.find? fun r =>
        r.scope = scope ∧ r.workerResponseId = workerResponseId with
    | some duplicate =>
      if duplicate.attemptId ≠ attemptId then
        .error "Liepin detail worker response attempt mismatch."
      else match store.fetchDetailAttempt scope duplicate.attemptId with
        | none => .error "Liepin detail worker response references a missing attempt."
        | some row => .ok (store, row)
    | none =>
      match store.transitionFromArgs scope attemptId args with
      | .error e => .error e
      | .ok (store, updated) =>
        .ok ({ store with responses := store.responses ++ [⟨scope, workerResponseId, attemptId⟩] },
          updated)

variable {store store' : LiepinStore} {scope : LiepinScope} {attemptId workerResponseId : String}
variable {transition : DetailTransition} {args : DetailTransitionArgs}

theorem transitionFromArgs_ok {updated : LiepinDetailAttemptRow}
    (h : store.transitionFromArgs scope attemptId args = .ok (store', updated)) :
    ∃ transition, store.transitionDetailAttempt scope attemptId transition =
      .ok (store', updated) := by
  unfold transitionFromArgs updateFromArgs at h
  cases hrow : store.fetchDetailAttempt scope attemptId with
  | none =>
    rw [hrow] at h
    cases h
  | some row =>
    rw [hrow] at h
    dsimp only at h
    cases hknown : args.known with
    | error e =>
      rw [hknown] at h
      cases h
    | ok transition =>
      rw [hknown] at h
      refine ⟨transition, ?_⟩
      unfold transitionDetailAttempt
      rw [hrow]
      exact h

end LiepinStore

/-! ## 2. Calls and runs -/

inductive LedgerCall where
  /-- with the id that is drawn for a new row -/
  | reserve (reservation : DetailReservation) (attemptId : String)
  | transition (scope : LiepinScope) (attemptId : String) (args : DetailTransitionArgs)
  | workerResponse (scope : LiepinScope) (attemptId workerResponseId : String)
      (args : DetailTransitionArgs)

def LedgerCall.body : LedgerCall → LiepinStore →
    Except String (LiepinStore × LiepinDetailAttemptRow)
  | .reserve reservation attemptId => LiepinStore.reserveDetailAttempt reservation attemptId
  | .transition scope attemptId args => LiepinStore.transitionFromArgs scope attemptId args
  | .workerResponse scope attemptId workerResponseId args =>
    LiepinStore.applyFromArgs scope attemptId workerResponseId args

/-- A call in its transaction: what it returns, and the tables it leaves. -/
def LedgerCall.execute (call : LedgerCall) (store : LiepinStore) :
    Except String LiepinDetailAttemptRow × LiepinStore :=
  match call.body store with
  | .ok (store', row) => (.ok row, store')
  | .error e => (.error e, store)

def LiepinStore.runCalls (store : LiepinStore) (calls : List LedgerCall) : LiepinStore :=
  calls.foldl (fun store call => (call.execute store).2) store

def LiepinStore.HasApplied (store : LiepinStore) (scope : LiepinScope)
    (workerResponseId : String) : Prop :=
  ∃ r ∈ store.responses, r.scope = scope ∧ r.workerResponseId = workerResponseId

def LedgerCall.TakesEffect (call : LedgerCall) (store : LiepinStore) : Prop :=
  (call.execute store).2 ≠ store

section Execute

open LiepinStore

variable {call : LedgerCall} {store store' : LiepinStore} {scope : LiepinScope}
variable {attemptId workerResponseId : String} {args : DetailTransitionArgs}
variable {row : LiepinDetailAttemptRow}

theorem LedgerCall.execute_error {e : String} (h : (call.execute store).1 = .error e) :
    (call.execute store).2 = store := by
  unfold LedgerCall.execute at h ⊢
  split at h
  · cases h
  · rfl

/-- **How a worker response is applied**: it is known already and changes nothing, or it is
    new, moves its attempt, and is recorded. -/
theorem applyFromArgs_ok (h : store.applyFromArgs scope attemptId workerResponseId args =
    .ok (store', row)) :
    (store.HasApplied scope workerResponseId ∧ store' = store) ∨
    (¬store.HasApplied scope workerResponseId ∧ ∃ moved transition,
      store.transitionDetailAttempt scope attemptId transition = .ok (moved, row) ∧
      store' = { moved with
        responses := moved.responses ++ [⟨scope, workerResponseId, attemptId⟩] }) := by
  unfold applyFromArgs at h
  split at h
  · cases h
  split at h
  · rename_i duplicate hfind
    left
    have hkey := List.find?_some hfind
    rw [decide_eq_true_eq] at hkey
    refine ⟨⟨duplicate, List.mem_of_find?_eq_some hfind, hkey⟩, ?_⟩
    split at h
    · cases h
    · split at h
      · cases h
      · obtain ⟨rfl, -⟩ := Prod.mk.inj (Except.ok.inj h)
        rfl
  · rename_i hnone
    right
    refine ⟨?_, ?_⟩
    · intro happlied
      obtain ⟨r, hr, hkey⟩ := happlied
      exact List.find?_eq_none.mp hnone r hr (by simpa using hkey)
    · cases hmoved : store.transitionFromArgs scope attemptId args with
      | error e =>
        rw [hmoved] at h
        cases h
      | ok answer =>
        obtain ⟨moved, updated⟩ := answer
        rw [hmoved] at h
        obtain ⟨rfl, rfl⟩ := Prod.mk.inj (Except.ok.inj h)
        obtain ⟨transition, htransition⟩ := transitionFromArgs_ok hmoved
        exact ⟨moved, transition, htransition, rfl⟩

theorem transition_responses {transition : DetailTransition}
    (h : store.transitionDetailAttempt scope attemptId transition = .ok (store', row)) :
    store'.responses = store.responses := by
  obtain ⟨old, -, -, -, hlegal, rfl, -⟩ := transitionDetailAttempt_ok_iff.mp h
  rfl

/-- **One call** extends the ledger, and forgets no response. -/
theorem LedgerCall.execute_extends (call : LedgerCall) (store : LiepinStore) :
    Extends store (call.execute store).2 ∧
      store.responses <+: (call.execute store).2.responses := by
  unfold LedgerCall.execute
  cases hbody : call.body store with
  | error e => exact ⟨Extends.refl store, List.prefix_rfl⟩
  | ok answer =>
    obtain ⟨store', row⟩ := answer
    dsimp only
    cases call with
    | reserve reservation attemptId =>
      obtain ⟨hrows, hresponses, -⟩ := reserveDetailAttempt_spec hbody
      exact ⟨extends_of_rows hrows, hresponses ▸ List.prefix_rfl⟩
    | transition scope attemptId args =>
      obtain ⟨transition, htransition⟩ := transitionFromArgs_ok hbody
      exact ⟨transitionDetailAttempt_extends htransition,
        transition_responses htransition ▸ List.prefix_rfl⟩
    | workerResponse scope attemptId workerResponseId args =>
      rcases applyFromArgs_ok hbody with ⟨-, rfl⟩ | ⟨-, moved, transition, htransition, rfl⟩
      · exact ⟨Extends.refl _, List.prefix_rfl⟩
      · have hmoved := transitionDetailAttempt_extends htransition
        refine ⟨hmoved, ?_⟩
        rw [← transition_responses htransition]
        exact List.prefix_append _ _

theorem LedgerCall.takesEffect_workerResponse
    (h : (LedgerCall.workerResponse scope attemptId workerResponseId args).TakesEffect store) :
    ¬store.HasApplied scope workerResponseId ∧
      ((LedgerCall.workerResponse scope attemptId workerResponseId args).execute
        store).2.HasApplied scope workerResponseId := by
  unfold LedgerCall.TakesEffect LedgerCall.execute at h
  unfold LedgerCall.execute
  cases hbody : (LedgerCall.workerResponse scope attemptId workerResponseId args).body store with
  | error e =>
    rw [hbody] at h
    exact absurd rfl h
  | ok answer =>
    obtain ⟨store', row⟩ := answer
    rw [hbody] at h
    rcases applyFromArgs_ok hbody with ⟨-, rfl⟩ | ⟨hnew, moved, transition, -, rfl⟩
    · exact absurd rfl h
    · exact ⟨hnew, _, List.mem_append_right _ (List.mem_singleton_self _), rfl, rfl⟩

end Execute

/-! ## 3. The budget -/

section Budget

open LiepinStore

variable {store store' : LiepinStore}

theorem terminal_of_consumed {state : DetailAttemptState} {consumption : DetailConsumptionState}
    (hlegal : consumption ∈ state.validConsumptionStates) (hcounts : consumption ≠ .notConsumed) :
    state.Terminal := by
  cases state <;>
    simp_all [DetailAttemptState.validConsumptionStates, DetailAttemptState.Terminal,
      DetailAttemptState.allowedTransitions]

/-- **The count of a budget** never goes down when the ledger is extended. -/
theorem LiepinStore.Extends.count_le (h : Extends store store') (key : BudgetKey) :
    store.countDetailBudgetConsumed key ≤ store'.countDetailBudgetConsumed key := by
  unfold countDetailBudgetConsumed
  rw [← List.length_map (f := fun row : LiepinDetailAttemptRow => row.attemptId),
    ← List.length_map (f := fun row : LiepinDetailAttemptRow => row.attemptId)]
  apply List.Subperm.length_le
  apply List.subperm_of_subset
  · exact store.nodup_attemptIds.sublist (List.filter_sublist.map _)
  · intro id hid
    obtain ⟨row, hrow, rfl⟩ := List.mem_map.mp hid
    obtain ⟨hmem, hcounts⟩ := List.mem_filter.mp hrow
    rw [decide_eq_true_eq] at hcounts
    obtain ⟨row', hrow', -, -, hterminal⟩ := h row.attemptId row (row_eq_some_iff.mpr ⟨hmem, rfl⟩)
    -- an attempt that counts is terminal, so it still is what it was
    obtain rfl := hterminal (terminal_of_consumed (store.legal row hmem) hcounts.2)
    have hmem' := (row_eq_some_iff.mp hrow').1
    exact List.mem_map_of_mem (List.mem_filter.mpr ⟨hmem', by simpa using hcounts⟩)

end Budget

/-! ## 4. Every run -/

section Runs

open LiepinStore

variable {store : LiepinStore} {calls : List LedgerCall}

theorem runCalls_append (first second : List LedgerCall) :
    store.runCalls (first ++ second) = (store.runCalls first).runCalls second :=
  List.foldl_append

theorem runCalls_extends (calls : List LedgerCall) (store : LiepinStore) :
    Extends store (store.runCalls calls) ∧
      store.responses <+: (store.runCalls calls).responses := by
  induction calls generalizing store with
  | nil => exact ⟨Extends.refl store, List.prefix_rfl⟩
  | cons call calls ih =>
    obtain ⟨hext, hresponses⟩ := call.execute_extends store
    obtain ⟨hext', hresponses'⟩ := ih (call.execute store).2
    exact ⟨hext.trans hext', hresponses.trans hresponses'⟩

/-- **Every run of the ledger.** Attempts have what goes with their states; a terminal attempt
    stays as it is; a budget's count never goes down; of all calls with one response id at
    most one takes effect; and a call that raises changes nothing. -/
theorem runCalls_spec (store : LiepinStore) (calls : List LedgerCall) :
    (∀ row ∈ (store.runCalls calls).attempts,
      row.consumptionState ∈ row.state.validConsumptionStates) ∧
    (∀ row ∈ store.attempts, row.state.Terminal → row ∈ (store.runCalls calls).attempts ∧
      (store.runCalls calls).row row.attemptId = some row) ∧
    (∀ key, store.countDetailBudgetConsumed key ≤
      (store.runCalls calls).countDetailBudgetConsumed key) ∧
    (∀ scope workerResponseId first second third attemptId attemptId' args args',
      calls = first ++ .workerResponse scope attemptId workerResponseId args :: second ++
        .workerResponse scope attemptId' workerResponseId args' :: third →
      (LedgerCall.workerResponse scope attemptId workerResponseId args).TakesEffect
        (store.runCalls first) →
      ¬(LedgerCall.workerResponse scope attemptId' workerResponseId args').TakesEffect
        (store.runCalls
          (first ++ .workerResponse scope attemptId workerResponseId args :: second))) ∧
    ∀ first call third e, calls = first ++ call :: third →
      (call.execute (store.runCalls first)).1 = .error e →
      (call.execute (store.runCalls first)).2 = store.runCalls first := by
  obtain ⟨hext, -⟩ := runCalls_extends calls store
  refine ⟨(store.runCalls calls).legal, ?_, hext.count_le, ?_, ?_⟩
  · intro row hrow hterminal
    obtain ⟨row', hrow', -, -, hsame⟩ := hext row.attemptId row (row_eq_some_iff.mpr ⟨hrow, rfl⟩)
    obtain rfl := hsame hterminal
    exact ⟨(row_eq_some_iff.mp hrow').1, hrow'⟩
  · intro scope workerResponseId first second third attemptId attemptId' args args' _ heffect
      hagain
    obtain ⟨-, r, hr, hkey⟩ := LedgerCall.takesEffect_workerResponse heffect
    obtain ⟨hnew, -⟩ := LedgerCall.takesEffect_workerResponse hagain
    apply hnew
    rw [runCalls_append]
    exact ⟨r, (runCalls_extends second _).2.subset hr, hkey⟩
  · intro first call third e _ hraised
    exact LedgerCall.execute_error hraised

end Runs

end SeekTalent

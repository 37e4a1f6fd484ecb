import SeekTalent.Liepin.DetailSpec

/-!
# When dispatched attempts are settled

A call that has contacted the worker should leave every attempt it sent in a terminal state,
and count it against the budget unless the worker said that nothing was consumed. Results
are applied one at a time, and a result that cannot be applied leaves its own attempt where
its diagnostics have brought it, and the attempts after it started.

`AnswerSettles` says which answers do no such thing, in terms of the answer, the response
ids recorded before, and the transition table. It is exact: `settlesDispatched_iff`.
-/

namespace SeekTalent

open LiepinStore

namespace DetailOpenCall

variable {call : DetailOpenCall} {store store' : LiepinStore} {sent : List LiepinDetailOpenRequest}
variable {worker : List LiepinDetailOpenRequest → WorkerAnswer}
variable {attempt : LiepinDetailAttemptRow} {state : DetailAttemptState}
variable {transition : DetailTransition} {result : LiepinDetailOpenResult}
variable {results : List LiepinDetailOpenResult} {rest : List LiepinDetailOpenResult}

/-! ## Which answers settle -/

def reachedState (diagnostics : LiepinDetailWorkerDiagnostics) : DetailAttemptState :=
  if diagnostics.payloadSeen then .detailPayloadSeen
  else if diagnostics.pageLoaded then .providerPageLoaded
  else .started

/-- A completed result has a candidate that can be mapped and recorded. -/
def Delivered (call : DetailOpenCall) (result : LiepinDetailOpenResult) : Prop :=
  result.status = .completed → ∃ detail mapped, result.candidate = some detail ∧
    call.mapDetail result detail = .ok mapped ∧ call.recordProviderReturn mapped = .ok ()

/-- The result has a response id of its own, its status is allowed after its diagnostics,
    and what it delivers is taken. -/
def AppliesCleanly (call : DetailOpenCall) (recordedIds : List String)
    (result : LiepinDetailOpenResult) : Prop :=
  result.workerResponseId ≠ "" ∧ result.workerResponseId ∉ recordedIds ∧
    (terminalStateForWorkerStatus result.status).1 ∈
      (reachedState result.diagnostics).allowedTransitions ∧
    Delivered call result

def LacksCandidate (result : LiepinDetailOpenResult) : Prop :=
  result.status = .completed ∧ result.candidate = none

/-- Every result applies cleanly; the last one may instead be completed without a
    candidate. -/
def ResultsSettle (call : DetailOpenCall) : List String → List LiepinDetailOpenResult → Prop
  | _, [] => True
  | recordedIds, [result] => AppliesCleanly call recordedIds result ∨ LacksCandidate result
  | recordedIds, result :: next :: rest =>
    AppliesCleanly call recordedIds result ∧
      ResultsSettle call (recordedIds ++ [result.workerResponseId]) (next :: rest)

def AnswerSettles (call : DetailOpenCall) (recordedIds keys : List String) : WorkerAnswer → Prop
  | .cancelled => False
  | .exception _ => True
  | .response results => KeysMatch keys results → ResultsSettle call recordedIds results

/-- The worker says that the request with this key has consumed nothing. -/
def ReportedUnconsumed (answer : WorkerAnswer) (key : String) : Prop :=
  match answer with
  | .response results => ∃ result ∈ results, result.idempotencyKey = key ∧
      result.status ∈ [.failedBeforeConsumption, .blockedByRiskControl]
  | _ => False

/-- The attempt of a request item is terminal, and counted by `countDetailBudgetConsumed`
    unless the worker said that it consumed nothing. -/
def Settled (call : DetailOpenCall) (answer : WorkerAnswer) (store : LiepinStore)
    (item : LiepinDetailOpenRequestItem) : Prop :=
  ∃ row, store.row item.attemptId = some row ∧ row.state.Terminal ∧
    (¬ReportedUnconsumed answer item.idempotencyKey → row.CountsAgainst call.budgetKey)

def recordedIds (store : LiepinStore) (scope : LiepinScope) : List String :=
  (store.responses.filter (·.scope = scope)).map (·.workerResponseId)

/-! ## Single operations -/

structure Moved (call : DetailOpenCall) (attempt : LiepinDetailAttemptRow)
    (state : DetailAttemptState) (store store' : LiepinStore) : Prop where
  at_state : At call store' attempt state
  others : ∀ id, id ≠ attempt.attemptId → store'.row id = store.row id

theorem transition_allowed (transition : DetailTransition) (hat : At call store attempt state)
    (hallowed : transition.state ∈ state.allowedTransitions)
    (hpair : transition.consumptionState ∈ transition.state.validConsumptionStates) :
    ∃ store' updated, store.transitionDetailAttempt call.scope attempt.attemptId transition =
      .ok (store', updated) ∧ Moved call attempt transition.state store store' ∧
      store'.responses = store.responses := by
  obtain ⟨row, hrow, hb, rfl⟩ := hat
  refine ⟨store.update attempt.attemptId transition hpair, row.set transition,
    transitionDetailAttempt_ok_iff.mpr ⟨row, hrow, congrArg BudgetKey.scope hb, hallowed, hpair,
      rfl, rfl⟩, ⟨⟨row.set transition, ?_, hb, rfl⟩, fun id hid => ?_⟩, rfl⟩
  · rw [row_update, hrow]
    simp
  · rw [row_update, if_neg hid]

theorem transition_denied (hat : At call store attempt state)
    (hdenied : transition.state ∉ state.allowedTransitions) :
    ∃ e, store.transitionDetailAttempt call.scope attempt.attemptId transition = .error e := by
  cases h : store.transitionDetailAttempt call.scope attempt.attemptId transition with
  | error e => exact ⟨e, rfl⟩
  | ok r =>
    obtain ⟨row, hrow, -, hallowed, -⟩ := transitionDetailAttempt_ok_iff.mp h
    obtain ⟨row', hrow', -, rfl⟩ := hat
    rw [hrow] at hrow'
    obtain rfl := Option.some.inj hrow'
    exact absurd hallowed hdenied

theorem run_transition (worker : List LiepinDetailOpenRequest → WorkerAnswer)
    (sent : List LiepinDetailOpenRequest) (transition : DetailTransition)
    (hat : At call store attempt state)
    (hallowed : transition.state ∈ state.allowedTransitions)
    (hpair : transition.consumptionState ∈ transition.state.validConsumptionStates) :
    ∃ store', Proc.run worker (call.transition transition attempt) store sent =
        ⟨store', sent, .ok ()⟩ ∧
      Moved call attempt transition.state store store' ∧ store'.responses = store.responses := by
  obtain ⟨store', updated, hop, hmoved⟩ := transition_allowed transition hat hallowed hpair
  refine ⟨store', ?_, hmoved⟩
  unfold DetailOpenCall.transition
  rw [Proc.run_bind, Proc.run_atomically, hop]
  rfl

def PathAllowed : DetailAttemptState → List DetailTransition → Prop
  | _, [] => True
  | state, transition :: rest =>
    transition.state ∈ state.allowedTransitions ∧
      transition.consumptionState ∈ transition.state.validConsumptionStates ∧
      PathAllowed transition.state rest

theorem run_transitions (worker : List LiepinDetailOpenRequest → WorkerAnswer)
    (sent : List LiepinDetailOpenRequest) {transitions : List DetailTransition}
    (hat : At call store attempt state)
    (hpath : PathAllowed state transitions) :
    ∃ store', Proc.run worker (Proc.forEach (fun t => call.transition t attempt) transitions)
        store sent = ⟨store', sent, .ok ()⟩ ∧
      Moved call attempt (transitions.foldl (fun _ t => t.state) state) store store' ∧
      store'.responses = store.responses := by
  induction transitions generalizing store state with
  | nil => exact ⟨store, rfl, ⟨hat, fun _ _ => rfl⟩, rfl⟩
  | cons transition rest ih =>
    obtain ⟨hallowed, hpair, hpath⟩ := hpath
    obtain ⟨store₁, hrun₁, hmoved₁, hresp₁⟩ := run_transition worker sent transition hat hallowed hpair
    obtain ⟨store₂, hrun₂, hmoved₂, hresp₂⟩ := ih hmoved₁.at_state hpath
    refine ⟨store₂, ?_, ⟨hmoved₂.at_state, fun id hid =>
      (hmoved₂.others id hid).trans (hmoved₁.others id hid)⟩, hresp₂.trans hresp₁⟩
    unfold Proc.forEach
    rw [Proc.run_bind, hrun₁]
    exact hrun₂

theorem run_diagnosticTransitions (worker : List LiepinDetailOpenRequest → WorkerAnswer)
    (sent : List LiepinDetailOpenRequest) (result : LiepinDetailOpenResult)
    (hat : At call store attempt .started) :
    ∃ store', Proc.run worker (Proc.forEach (fun t => call.transition t attempt)
        (diagnosticTransitions result)) store sent = ⟨store', sent, .ok ()⟩ ∧
      Moved call attempt (reachedState result.diagnostics) store store' ∧
      store'.responses = store.responses := by
  have hpath : PathAllowed .started (diagnosticTransitions result) := by
    unfold diagnosticTransitions
    cases result.diagnostics.pageLoaded <;> cases result.diagnostics.payloadSeen <;>
      simp [PathAllowed, DetailAttemptState.allowedTransitions,
        DetailAttemptState.validConsumptionStates]
  have hlast : (diagnosticTransitions result).foldl (fun _ t => t.state) .started =
      reachedState result.diagnostics := by
    unfold diagnosticTransitions reachedState
    cases result.diagnostics.pageLoaded <;> cases result.diagnostics.payloadSeen <;> rfl
  rw [← hlast]
  exact run_transitions worker sent hat hpath

/-! ## One result -/

theorem run_applyStatus_clean (worker : List LiepinDetailOpenRequest → WorkerAnswer)
    (sent : List LiepinDetailOpenRequest) (hat : At call store attempt state)
    (hid : result.workerResponseId ≠ "")
    (hnew : result.workerResponseId ∉ recordedIds store call.scope)
    (hallowed : (terminalStateForWorkerStatus result.status).1 ∈ state.allowedTransitions) :
    ∃ store', Proc.run worker (call.applyStatus attempt result) store sent =
        ⟨store', sent, .ok ()⟩ ∧
      Moved call attempt (terminalStateForWorkerStatus result.status).1 store store' ∧
      recordedIds store' call.scope =
        recordedIds store call.scope ++ [result.workerResponseId] := by
  have hnone : (store.responses.find? fun r =>
      r.scope = call.scope ∧ r.workerResponseId = result.workerResponseId) = none := by
    rw [List.find?_eq_none]
    intro r hr hmatch
    have hmatch : r.scope = call.scope ∧ r.workerResponseId = result.workerResponseId := by
      simpa using hmatch
    exact hnew (List.mem_map.mpr ⟨r, List.mem_filter.mpr ⟨hr, by simpa using hmatch.1⟩, hmatch.2⟩)
  have hpair : (terminalStateForWorkerStatus result.status).2 ∈
      (terminalStateForWorkerStatus result.status).1.validConsumptionStates := by
    cases result.status <;> decide
  obtain ⟨store₁, updated, hop, hmoved, hresp⟩ :=
    transition_allowed ⟨(terminalStateForWorkerStatus result.status).1,
      (terminalStateForWorkerStatus result.status).2, some result.workerCommandId,
      result.rawEvidenceRef⟩ hat hallowed hpair
  refine ⟨{ store₁ with responses := store₁.responses ++
      [⟨call.scope, result.workerResponseId, attempt.attemptId⟩] }, ?_,
    ⟨hmoved.at_state, hmoved.others⟩, ?_⟩
  · unfold applyStatus
    rw [Proc.run_bind, Proc.run_atomically]
    unfold applyDetailWorkerResponse
    rw [if_neg hid, hnone]
    dsimp only
    rw [hop]
    rfl
  · simp [recordedIds, hresp]

theorem applyDetailWorkerResponse_unclean {updated : LiepinDetailAttemptRow}
    (hat : At call store attempt state)
    (hunclean : ¬(result.workerResponseId ≠ "" ∧
      result.workerResponseId ∉ recordedIds store call.scope ∧
      transition.state ∈ state.allowedTransitions))
    (hop : store.applyDetailWorkerResponse call.scope attempt.attemptId result.workerResponseId
      transition = .ok (store', updated)) : store' = store := by
  unfold applyDetailWorkerResponse at hop
  split at hop
  · cases hop
  · rename_i hid
    split at hop
    · split at hop
      · cases hop
      · split at hop
        · cases hop
        · exact (Prod.mk.inj (Except.ok.inj hop)).1.symm
    · rename_i hnone
      have hnew : result.workerResponseId ∉ recordedIds store call.scope := by
        intro hmem
        obtain ⟨r, hr, hrid⟩ := List.mem_map.mp hmem
        obtain ⟨hr, hscope⟩ := List.mem_filter.mp hr
        exact List.find?_eq_none.mp hnone r hr (by simpa using ⟨by simpa using hscope, hrid⟩)
      obtain ⟨e, herror⟩ := transition_denied hat
        (fun hallowed => hunclean ⟨hid, hnew, hallowed⟩)
      rw [herror] at hop
      cases hop

theorem run_applyStatus (worker : List LiepinDetailOpenRequest → WorkerAnswer)
    (sent : List LiepinDetailOpenRequest) (result : LiepinDetailOpenResult)
    (hat : At call store attempt state) :
    ∃ store' r, Proc.run worker (call.applyStatus attempt result) store sent =
        ⟨store', sent, r⟩ ∧
      ((result.workerResponseId ≠ "" ∧
          result.workerResponseId ∉ recordedIds store call.scope ∧
          (terminalStateForWorkerStatus result.status).1 ∈ state.allowedTransitions ∧
          r = .ok () ∧
          Moved call attempt (terminalStateForWorkerStatus result.status).1 store store' ∧
          recordedIds store' call.scope =
            recordedIds store call.scope ++ [result.workerResponseId]) ∨
        (¬(result.workerResponseId ≠ "" ∧
            result.workerResponseId ∉ recordedIds store call.scope ∧
            (terminalStateForWorkerStatus result.status).1 ∈ state.allowedTransitions) ∧
          store' = store)) := by
  by_cases hclean : result.workerResponseId ≠ "" ∧
      result.workerResponseId ∉ recordedIds store call.scope ∧
      (terminalStateForWorkerStatus result.status).1 ∈ state.allowedTransitions
  · obtain ⟨hid, hnew, hallowed⟩ := hclean
    obtain ⟨store', hrun, hmoved, hrec⟩ := run_applyStatus_clean worker sent hat hid hnew hallowed
    exact ⟨store', .ok (), hrun, .inl ⟨hid, hnew, hallowed, rfl, hmoved, hrec⟩⟩
  · unfold applyStatus
    rw [Proc.run_bind, Proc.run_atomically]
    split
    · rename_i store₁ sent₁ updated hmatch
      split at hmatch
      · rename_i store₂ updated₂ hop
        obtain ⟨rfl, rfl, -⟩ := Proc.Outcome.mk.inj hmatch
        exact ⟨store₂, .ok (), rfl, .inr ⟨hclean, applyDetailWorkerResponse_unclean hat hclean hop⟩⟩
      · cases hmatch
    · rename_i store₁ sent₁ e hmatch
      split at hmatch
      · cases hmatch
      · obtain ⟨rfl, rfl, -⟩ := Proc.Outcome.mk.inj hmatch
        exact ⟨store, .error e, rfl, .inr ⟨hclean, rfl⟩⟩

theorem unknown_mem_reachedState {diagnostics : LiepinDetailWorkerDiagnostics} :
    .unknown ∈ (reachedState diagnostics).allowedTransitions := by
  unfold reachedState
  split
  · decide
  · split <;> decide

theorem possiblyConsumed_mem_unknown : DetailConsumptionState.possiblyConsumed ∈
    DetailAttemptState.unknown.validConsumptionStates := by decide

theorem reachedState_not_terminal {diagnostics : LiepinDetailWorkerDiagnostics} :
    ¬(reachedState diagnostics).Terminal := by
  unfold reachedState
  split
  · decide
  · split <;> decide

/-- How a result leaves its attempt. -/
inductive Applied (call : DetailOpenCall) (attempt : LiepinDetailAttemptRow)
    (result : LiepinDetailOpenResult) (store store' : LiepinStore) :
    Except String (Option LiepinMappedCandidate) → Prop
  | clean {mapped} (hclean : AppliesCleanly call (recordedIds store call.scope) result)
      (hat : At call store' attempt (terminalStateForWorkerStatus result.status).1)
      (hrec : recordedIds store' call.scope =
        recordedIds store call.scope ++ [result.workerResponseId]) :
      Applied call attempt result store store' (.ok mapped)
  | noCandidate {e} (hlacks : LacksCandidate result) (hat : At call store' attempt .unknown) :
      Applied call attempt result store store' (.error e)
  | stuck {r} (hunclean : ¬AppliesCleanly call (recordedIds store call.scope) result)
      (hcandidate : ¬LacksCandidate result)
      (hat : ∃ state, At call store' attempt state ∧ ¬state.Terminal) :
      Applied call attempt result store store' r

theorem not_appliesCleanly_of_lacksCandidate {recorded : List String} (h : LacksCandidate result) :
    ¬AppliesCleanly call recorded result := by
  intro hclean
  obtain ⟨detail, mapped, hcandidate, -⟩ := hclean.2.2.2 h.1
  rw [h.2] at hcandidate
  cases hcandidate

/-- **One result**, from a started attempt. -/
theorem run_applyWorkerDetailResult (worker : List LiepinDetailOpenRequest → WorkerAnswer)
    (sent : List LiepinDetailOpenRequest) (result : LiepinDetailOpenResult)
    (hat : At call store attempt .started) :
    ∃ store' r, Proc.run worker (call.applyWorkerDetailResult attempt result) store sent =
        ⟨store', sent, r⟩ ∧
      (∀ id, id ≠ attempt.attemptId → store'.row id = store.row id) ∧
      Applied call attempt result store store' r := by
  obtain ⟨store₁, hrun₁, hmoved₁, hresp₁⟩ := run_diagnosticTransitions worker sent result hat
  have hrec₁ : recordedIds store₁ call.scope = recordedIds store call.scope := by
    simp [recordedIds, hresp₁]
  have hstuck : ∃ state, At call store₁ attempt state ∧ ¬state.Terminal :=
    ⟨_, hmoved₁.at_state, reachedState_not_terminal⟩
  unfold applyWorkerDetailResult
  rw [Proc.run_bind, hrun₁]
  dsimp only
  obtain ⟨store₂, r, hrun₂, hcases⟩ := run_applyStatus worker sent result hmoved₁.at_state
  rw [hrec₁] at hcases
  -- what the last step, recording the status, makes of it, once the rest has gone through
  have hlast : Delivered call result → ¬LacksCandidate result → ∀ mapped,
      ∃ store' r, Proc.run worker (do
          call.applyStatus attempt result
          pure mapped : DetailProc (Option LiepinMappedCandidate)) store₁ sent =
          ⟨store', sent, r⟩ ∧
        (∀ id, id ≠ attempt.attemptId → store'.row id = store.row id) ∧
        Applied call attempt result store store' r := by
    intro hdelivered hcandidate mapped
    rw [Proc.run_bind, hrun₂]
    rcases hcases with ⟨hid, hnew, hallowed, rfl, hmoved₂, hrec₂⟩ | ⟨hunclean, rfl⟩
    · refine ⟨store₂, .ok mapped, rfl, fun id hne =>
        (hmoved₂.others id hne).trans (hmoved₁.others id hne), ?_⟩
      exact .clean ⟨hid, hnew, hallowed, hdelivered⟩ hmoved₂.at_state hrec₂
    · have hunclean' : ¬AppliesCleanly call (recordedIds store call.scope) result :=
        fun h => hunclean ⟨h.1, h.2.1, h.2.2.1⟩
      cases r with
      | ok _ => exact ⟨_, _, rfl, hmoved₁.others, .stuck hunclean' hcandidate hstuck⟩
      | error e => exact ⟨_, _, rfl, hmoved₁.others, .stuck hunclean' hcandidate hstuck⟩
  split
  · rename_i hstatus
    unfold applyCompleted
    cases hcandidate : result.candidate with
    | none =>
      obtain ⟨store₃, hrun₃, hmoved₃, -⟩ := run_transition worker sent
        { state := .unknown, consumptionState := .possiblyConsumed,
          workerCommandId := some result.workerCommandId,
          rawEvidenceRef := some ((result.rawEvidenceRef.filter (· ≠ "")).getD
            "worker:invalid-completed-detail-result-after-dispatch") }
        hmoved₁.at_state unknown_mem_reachedState possiblyConsumed_mem_unknown
      dsimp only
      rw [Proc.run_bind, hrun₃]
      exact ⟨store₃, _, rfl, fun id hne =>
        (hmoved₃.others id hne).trans (hmoved₁.others id hne),
        .noCandidate ⟨hstatus, hcandidate⟩ hmoved₃.at_state⟩
    | some detail =>
      have hhas : ¬LacksCandidate result := fun h => by
        rw [h.2] at hcandidate
        cases hcandidate
      have hundelivered : ¬Delivered call result → ∀ e,
          ∃ store' r, (⟨store₁, sent, .error e⟩ : Proc.Outcome _ _ _ _) = ⟨store', sent, r⟩ ∧
            (∀ id, id ≠ attempt.attemptId → store'.row id = store.row id) ∧
            Applied call attempt result store store' r := fun hnot e =>
        ⟨store₁, .error e, rfl, hmoved₁.others,
          .stuck (fun h => hnot h.2.2.2) hhas hstuck⟩
      dsimp only
      split
      · rename_i e hmap
        refine hundelivered (fun hdel => ?_) e
        obtain ⟨detail', mapped, hc, hm, -⟩ := hdel hstatus
        rw [hcandidate] at hc
        obtain rfl := Option.some.inj hc
        rw [hmap] at hm
        cases hm
      · rename_i mapped hmap
        split
        · rename_i e hrecord
          refine hundelivered (fun hdel => ?_) e
          obtain ⟨detail', mapped', hc, hm, hr⟩ := hdel hstatus
          rw [hcandidate] at hc
          obtain rfl := Option.some.inj hc
          rw [hmap] at hm
          obtain rfl := Except.ok.inj hm
          rw [hrecord] at hr
          cases hr
        · rename_i hrecord
          exact hlast (fun _ => ⟨detail, mapped, hcandidate, hmap, hrecord⟩) hhas (some mapped)
  · rename_i hstatus
    exact hlast (fun h => absurd h hstatus) (fun h => hstatus h.1) none

/-! ## All results -/

/-- A result's attempt is terminal, and counted unless the result says that nothing was
    consumed. -/
def AttemptSettled (call : DetailOpenCall) (store : LiepinStore)
    (attempt : LiepinDetailAttemptRow) (result : LiepinDetailOpenResult) : Prop :=
  ∃ row, store.row attempt.attemptId = some row ∧ row.state.Terminal ∧
    (result.status ∉ [.failedBeforeConsumption, .blockedByRiskControl] →
      row.CountsAgainst call.budgetKey)

theorem countsAgainst_of_at {row : LiepinDetailAttemptRow} (hrow : row ∈ store.attempts)
    (hkey : row.budgetKey = call.budgetKey)
    (hstate : row.state ∈ [.completed, .failedAfterPossibleConsumption, .unknown]) :
    row.CountsAgainst call.budgetKey := by
  refine ⟨hkey, fun hnot => ?_⟩
  have hlegal := store.legal row hrow
  rw [hnot] at hlegal
  revert hlegal hstate
  cases row.state <;> decide

theorem attemptSettled_of_status
    (hat : At call store attempt (terminalStateForWorkerStatus result.status).1) :
    AttemptSettled call store attempt result := by
  obtain ⟨row, hrow, hkey, hstate⟩ := hat
  refine ⟨row, hrow, ?_, fun hstatus => ?_⟩
  · rw [hstate]
    cases result.status <;> decide
  · refine countsAgainst_of_at (row_eq_some_iff.mp hrow).1 hkey ?_
    rw [hstate]
    revert hstatus
    cases result.status <;> decide

theorem attemptSettled_of_unknown (hat : At call store attempt .unknown) :
    AttemptSettled call store attempt result := by
  obtain ⟨row, hrow, hkey, hstate⟩ := hat
  refine ⟨row, hrow, by rw [hstate]; decide, fun _ => ?_⟩
  exact countsAgainst_of_at (row_eq_some_iff.mp hrow).1 hkey (by rw [hstate]; decide)

theorem not_attemptSettled_of_at (result : LiepinDetailOpenResult) (hat : At call store attempt state) (hopen : ¬state.Terminal) :
    ¬AttemptSettled call store attempt result := by
  intro hsettled
  obtain ⟨row, hrow, -, rfl⟩ := hat
  obtain ⟨row', hrow', hterm, -⟩ := hsettled
  rw [hrow] at hrow'
  obtain rfl := Option.some.inj hrow'
  exact hopen hterm

theorem AttemptSettled.congr (h : store'.row attempt.attemptId = store.row attempt.attemptId) :
    AttemptSettled call store' attempt result ↔ AttemptSettled call store attempt result := by
  unfold AttemptSettled
  rw [h]

theorem At.congr (h : store'.row attempt.attemptId = store.row attempt.attemptId)
    (hat : At call store attempt state) : At call store' attempt state := by
  unfold At
  rw [h]
  exact hat

structure ResultsReady (call : DetailOpenCall) (prepared : Prepared) (store : LiepinStore)
    (results : List LiepinDetailOpenResult) : Prop where
  found : ∀ result ∈ results, ∃ attempt, prepared.attemptByKey result.idempotencyKey =
    some attempt ∧ At call store attempt .started
  distinct : results.Pairwise fun r r' => ∀ a a',
    prepared.attemptByKey r.idempotencyKey = some a →
    prepared.attemptByKey r'.idempotencyKey = some a' → a.attemptId ≠ a'.attemptId

def AllSettled (call : DetailOpenCall) (prepared : Prepared) (store : LiepinStore)
    (results : List LiepinDetailOpenResult) : Prop :=
  ∀ result ∈ results, ∀ attempt, prepared.attemptByKey result.idempotencyKey = some attempt →
    AttemptSettled call store attempt result

theorem allSettled_cons {prepared : Prepared}
    (hfound : prepared.attemptByKey result.idempotencyKey = some attempt) :
    AllSettled call prepared store (result :: rest) ↔
      AttemptSettled call store attempt result ∧ AllSettled call prepared store rest := by
  unfold AllSettled
  rw [List.forall_mem_cons]
  constructor
  · intro h
    exact ⟨h.1 attempt hfound, h.2⟩
  · intro h
    refine ⟨fun a ha => ?_, h.2⟩
    rw [hfound] at ha
    obtain rfl := Option.some.inj ha
    exact h.1

theorem run_applyResults_ok {prepared : Prepared}
    {mapped : Option LiepinMappedCandidate}
    (hfound : prepared.attemptByKey result.idempotencyKey = some attempt)
    (hrun : Proc.run worker (call.applyWorkerDetailResult attempt result) store sent =
      ⟨store', sent, .ok mapped⟩) :
    (Proc.run worker (call.applyResults prepared (result :: rest)) store sent).store =
      (Proc.run worker (call.applyResults prepared rest) store' sent).store := by
  rw [applyResults, hfound]
  dsimp only
  rw [Proc.run_bind, hrun]
  exact (Proc.run_bind_pure _).1

theorem run_applyResults_error {prepared : Prepared}
    {e : String} (hfound : prepared.attemptByKey result.idempotencyKey = some attempt)
    (hrun : Proc.run worker (call.applyWorkerDetailResult attempt result) store sent =
      ⟨store', sent, .error e⟩) :
    (Proc.run worker (call.applyResults prepared (result :: rest)) store sent).store =
      store' := by
  rw [applyResults, hfound]
  dsimp only
  rw [Proc.run_bind, hrun]

/-- **All results**, one after another: the attempts are settled exactly when the results
    settle. -/
theorem run_applyResults (worker : List LiepinDetailOpenRequest → WorkerAnswer)
    (sent : List LiepinDetailOpenRequest) {prepared : Prepared}
    (hready : ResultsReady call prepared store results) :
    (∀ id, (∀ result ∈ results, ∀ a, prepared.attemptByKey result.idempotencyKey = some a →
        a.attemptId ≠ id) →
      (Proc.run worker (call.applyResults prepared results) store sent).store.row id =
        store.row id) ∧
    (AllSettled call prepared
        (Proc.run worker (call.applyResults prepared results) store sent).store results ↔
      ResultsSettle call (recordedIds store call.scope) results) := by
  induction results generalizing store sent with
  | nil => exact ⟨fun _ _ => rfl, by simp [AllSettled, ResultsSettle]⟩
  | cons result rest ih =>
    obtain ⟨⟨attempt, hfound, hat⟩, hrestFound⟩ := List.forall_mem_cons.mp hready.found
    obtain ⟨hdiffer, hdistinct⟩ := List.pairwise_cons.mp hready.distinct
    obtain ⟨store₁, r, hrun₁, hothers, happlied⟩ :=
      run_applyWorkerDetailResult worker sent result hat
    -- the attempts of the results that are left are still started
    have hrest₁ : ResultsReady call prepared store₁ rest := by
      refine ⟨fun result' hresult' => ?_, hdistinct⟩
      obtain ⟨a, ha, hata⟩ := hrestFound result' hresult'
      exact ⟨a, ha, hata.congr (hothers _ (Ne.symm (hdiffer result' hresult' attempt a hfound ha)))⟩
    obtain ⟨hframe, hiff⟩ := ih sent hrest₁
    have hmine : (Proc.run worker (call.applyResults prepared rest) store₁ sent).store.row
        attempt.attemptId = store₁.row attempt.attemptId :=
      hframe _ fun result' hresult' a ha => Ne.symm (hdiffer result' hresult' attempt a hfound ha)
    have hframeAll : ∀ store₂ : LiepinStore, (∀ id,
        (∀ result' ∈ rest, ∀ a, prepared.attemptByKey result'.idempotencyKey = some a →
          a.attemptId ≠ id) → store₂.row id = store₁.row id) →
        ∀ id, (∀ result' ∈ result :: rest, ∀ a,
          prepared.attemptByKey result'.idempotencyKey = some a → a.attemptId ≠ id) →
        store₂.row id = store.row id := by
      intro store₂ h id hid
      obtain ⟨hid₁, hid₂⟩ := List.forall_mem_cons.mp hid
      exact (h id hid₂).trans (hothers id (Ne.symm (hid₁ attempt hfound)))
    cases happlied with
    | clean hclean hat₁ hrec =>
      rw [run_applyResults_ok hfound hrun₁]
      refine ⟨hframeAll _ hframe, ?_⟩
      rw [allSettled_cons hfound, hiff, hrec]
      have hsettled : AttemptSettled call
          (Proc.run worker (call.applyResults prepared rest) store₁ sent).store attempt result :=
        (AttemptSettled.congr hmine).mpr (attemptSettled_of_status hat₁)
      cases rest with
      | nil => simp [hsettled, ResultsSettle, hclean]
      | cons next rest => simp [hsettled, ResultsSettle, hclean]
    | noCandidate hlacks hat₁ =>
      rw [run_applyResults_error hfound hrun₁]
      refine ⟨hframeAll _ fun _ _ => rfl, ?_⟩
      rw [allSettled_cons hfound]
      have hsettled : AttemptSettled call store₁ attempt result := attemptSettled_of_unknown hat₁
      cases rest with
      | nil => simp [hsettled, ResultsSettle, hlacks, AllSettled]
      | cons next rest =>
        obtain ⟨a, ha, hata⟩ := hrest₁.found next (List.mem_cons_self ..)
        have hopen : ¬AllSettled call prepared store₁ (next :: rest) := fun h =>
          not_attemptSettled_of_at next hata (by decide) (h next (List.mem_cons_self ..) a ha)
        simp [hopen, ResultsSettle, not_appliesCleanly_of_lacksCandidate hlacks]
    | stuck hunclean hcandidate hat₁ =>
      obtain ⟨state, hat₁, hopen⟩ := hat₁
      have hfails : ¬ResultsSettle call (recordedIds store call.scope) (result :: rest) := by
        cases rest with
        | nil => exact fun h => h.elim hunclean hcandidate
        | cons next rest => exact fun h => hunclean h.1
      have hunsettled := not_attemptSettled_of_at result hat₁ hopen
      cases r with
      | ok mapped =>
        rw [run_applyResults_ok hfound hrun₁]
        refine ⟨hframeAll _ hframe, ?_⟩
        rw [allSettled_cons hfound, AttemptSettled.congr hmine]
        simp [hunsettled, hfails]
      | error e =>
        rw [run_applyResults_error hfound hrun₁]
        refine ⟨hframeAll _ fun _ _ => rfl, ?_⟩
        rw [allSettled_cons hfound]
        simp [hunsettled, hfails]

/-! ## The whole call -/

theorem run_markUnknown (worker : List LiepinDetailOpenRequest → WorkerAnswer)
    (sent : List LiepinDetailOpenRequest) (evidenceRef : String)
    {attempts : List LiepinDetailAttemptRow} (hnd : (attempts.map (·.attemptId)).Nodup)
    (hat : ∀ attempt ∈ attempts, At call store attempt .started) :
    ∃ store', Proc.run worker
        (Proc.forEach (call.transition (call.unknownTransition evidenceRef)) attempts) store sent =
        ⟨store', sent, .ok ()⟩ ∧
      (∀ id, id ∉ attempts.map (·.attemptId) → store'.row id = store.row id) ∧
      ∀ attempt ∈ attempts, At call store' attempt .unknown := by
  induction attempts generalizing store with
  | nil => exact ⟨store, rfl, fun _ _ => rfl, fun _ h => absurd h List.not_mem_nil⟩
  | cons attempt rest ih =>
    obtain ⟨hmine, hrest⟩ := List.forall_mem_cons.mp hat
    obtain ⟨hnew, hnd⟩ := List.nodup_cons.mp hnd
    obtain ⟨store₁, hrun₁, hmoved₁, -⟩ := run_transition worker sent
      (call.unknownTransition evidenceRef) hmine
      (show DetailAttemptState.unknown ∈ DetailAttemptState.started.allowedTransitions by decide)
      possiblyConsumed_mem_unknown
    obtain ⟨store₂, hrun₂, hframe, hat₂⟩ := ih hnd fun a ha =>
      (hrest a ha).congr (hmoved₁.others _ fun h => hnew (List.mem_map.mpr ⟨a, ha, h⟩))
    refine ⟨store₂, ?_, fun id hid => ?_, fun a ha => ?_⟩
    · unfold Proc.forEach
      rw [Proc.run_bind, hrun₁]
      exact hrun₂
    · rw [List.map_cons, List.mem_cons, not_or] at hid
      exact (hframe id hid.2).trans (hmoved₁.others id hid.1)
    · rcases List.mem_cons.mp ha with rfl | ha
      · exact hmoved₁.at_state.congr (hframe _ hnew)
      · exact hat₂ a ha

theorem KeysMatch.congr {keys keys' : List String}
    (h : ∀ key, key ∈ keys ↔ key ∈ keys') : KeysMatch keys results ↔ KeysMatch keys' results := by
  simp only [KeysMatch, h]

section Dispatched

variable {consumed : Nat} {prepared : Prepared} {answer : WorkerAnswer}

theorem Ready.item_of_dispatch (h : Ready call consumed prepared store)
    (hattempt : attempt ∈ prepared.dispatchAttempts) : ∃ item ∈ prepared.items,
      item.attemptId = attempt.attemptId ∧ item.idempotencyKey = attempt.idempotencyKey := by
  obtain ⟨item, hitem, hid⟩ := List.mem_map.mp
    (of_decide_eq_true (List.mem_filter.mp hattempt).2)
  obtain ⟨a, ha, haid, hakey⟩ := h.ofItem item hitem
  have hsame : a = attempt :=
    List.inj_on_of_nodup_map h.nodup ha hattempt (haid.trans hid)
  exact ⟨item, hitem, hid, by rw [← hakey, hsame]⟩

theorem Ready.keys_iff (h : Ready call consumed prepared store) (key : String) :
    key ∈ prepared.items.map (·.idempotencyKey) ↔
      key ∈ prepared.dispatchAttempts.map (·.idempotencyKey) := by
  constructor
  · intro hkey
    obtain ⟨item, hitem, rfl⟩ := List.mem_map.mp hkey
    obtain ⟨a, ha, -, hakey⟩ := h.ofItem item hitem
    exact List.mem_map.mpr ⟨a, ha, hakey⟩
  · intro hkey
    obtain ⟨a, ha, rfl⟩ := List.mem_map.mp hkey
    obtain ⟨item, hitem, -, hikey⟩ := h.item_of_dispatch ha
    exact List.mem_map.mpr ⟨item, hitem, hikey⟩

theorem settled_of_unknown (h : Ready call consumed prepared store)
    (hat : ∀ attempt ∈ prepared.dispatchAttempts, At call store' attempt .unknown) :
    ∀ item ∈ prepared.items, Settled call answer store' item := by
  intro item hitem
  obtain ⟨a, ha, hid, -⟩ := h.ofItem item hitem
  obtain ⟨row, hrow, hkey, hstate⟩ := hat a ha
  refine ⟨row, hid ▸ hrow, by rw [hstate]; decide, fun _ => ?_⟩
  exact countsAgainst_of_at (row_eq_some_iff.mp hrow).1 hkey (by rw [hstate]; decide)

theorem Ready.attemptByKey (h : Ready call consumed prepared store) {key : String}
    (hkey : key ∈ prepared.dispatchAttempts.map (·.idempotencyKey)) :
    ∃ a ∈ prepared.dispatchAttempts, a.idempotencyKey = key ∧ ∀ b,
      prepared.attemptByKey key = some b ↔ b = a := by
  obtain ⟨a, ha, rfl⟩ := List.mem_map.mp hkey
  have hnd := h.nodup_keys
  refine ⟨a, ha, rfl, fun b => ?_⟩
  have hrev : (prepared.dispatchAttempts.reverse.map (·.idempotencyKey)).Nodup := by
    rw [List.map_reverse]
    exact List.nodup_reverse.mpr hnd
  have hlookup : prepared.attemptByKey a.idempotencyKey = some b ↔
      b ∈ prepared.dispatchAttempts.reverse ∧ b.idempotencyKey = a.idempotencyKey :=
    Table.lookup_eq_some_iff hrev
  rw [hlookup, List.mem_reverse]
  constructor
  · intro hb
    exact List.inj_on_of_nodup_map hnd hb.1 ha hb.2
  · intro hb
    exact ⟨hb ▸ ha, congrArg _ hb⟩

theorem Ready.resultsReady (h : Ready call consumed prepared store)
    (hkeys : KeysMatch (prepared.dispatchAttempts.map (·.idempotencyKey)) results) :
    ResultsReady call prepared store results := by
  obtain ⟨hnd, hexpected, -⟩ := hkeys
  refine ⟨fun r hr => ?_, ?_⟩
  · obtain ⟨a, ha, -, hfound⟩ := h.attemptByKey (hexpected r hr)
    exact ⟨a, (hfound a).mpr rfl, h.started a ha⟩
  · have hpair : results.Pairwise fun r r' => r.idempotencyKey ≠ r'.idempotencyKey :=
      List.pairwise_map.mp hnd
    refine hpair.imp_of_mem ?_
    intro r r' hr hr' hne a a' ha ha' hsame
    obtain ⟨b, hb, hbkey, hfound⟩ := h.attemptByKey (hexpected r hr)
    obtain ⟨b', hb', hbkey', hfound'⟩ := h.attemptByKey (hexpected r' hr')
    obtain rfl := (hfound a).mp ha
    obtain rfl := (hfound' a').mp ha'
    obtain rfl := List.inj_on_of_nodup_map h.nodup hb hb' hsame
    exact hne (hbkey.symm.trans hbkey')

theorem Ready.settled_iff (h : Ready call consumed prepared store)
    (hkeys : KeysMatch (prepared.dispatchAttempts.map (·.idempotencyKey)) results) :
    (∀ item ∈ prepared.items, Settled call (.response results) store' item) ↔
      AllSettled call prepared store' results := by
  obtain ⟨hnd, hexpected, hall⟩ := hkeys
  constructor
  · intro hsettled r hr a ha
    obtain ⟨b, hb, hbkey, hfound⟩ := h.attemptByKey (hexpected r hr)
    obtain rfl := (hfound a).mp ha
    obtain ⟨item, hitem, hid, hikey⟩ := h.item_of_dispatch hb
    obtain ⟨row, hrow, hterm, hcounts⟩ := hsettled item hitem
    refine ⟨row, hid ▸ hrow, hterm, fun hstatus => hcounts ?_⟩
    intro hreported
    obtain ⟨r', hr', hkey', hstatus'⟩ := hreported
    have hsame : r' = r := List.inj_on_of_nodup_map hnd hr' hr
      (hkey'.trans (hikey.trans hbkey))
    exact hstatus (hsame ▸ hstatus')
  · intro hsettled item hitem
    obtain ⟨a, ha, hid, hakey⟩ := h.ofItem item hitem
    obtain ⟨r, hr, hrkey⟩ := List.mem_map.mp (hall _ (List.mem_map_of_mem ha))
    obtain ⟨b, hb, hbkey, hfound⟩ := h.attemptByKey (hexpected r hr)
    have hsame : b = a :=
      List.inj_on_of_nodup_map h.nodup_keys hb ha (hbkey.trans hrkey)
    obtain ⟨row, hrow, hterm, hcounts⟩ := hsettled r hr a ((hfound a).mpr hsame.symm)
    refine ⟨row, hid ▸ hrow, hterm, fun hnot => hcounts ?_⟩
    intro hstatus
    exact hnot ⟨r, hr, hrkey.trans hakey, hstatus⟩

/-- **The answer decides.** From a request that is ready, the items are settled exactly when
    the answer settles them. -/
theorem Ready.settle_iff (h : Ready call consumed prepared store) (hitems : prepared.items ≠ [])
    (worker : List LiepinDetailOpenRequest → WorkerAnswer)
    (sent : List LiepinDetailOpenRequest) :
    (∀ item ∈ prepared.items, Settled call answer
        (Proc.run worker (call.settle prepared answer) store sent).store item) ↔
      AnswerSettles call (recordedIds store call.scope)
        (prepared.items.map (·.idempotencyKey)) answer := by
  have hunknown : ∀ (evidenceRef e : String),
      ∀ item ∈ prepared.items, Settled call answer
        (Proc.run worker (do
          call.markUnknown prepared evidenceRef
          .raise e : DetailProc LiepinDetailOpenLoopResult) store sent).store item := by
    intro evidenceRef e
    obtain ⟨store', hrun, -, hat⟩ :=
      run_markUnknown worker sent evidenceRef h.nodup h.started
    rw [Proc.run_bind]
    unfold markUnknown
    rw [hrun]
    exact settled_of_unknown h hat
  cases answer with
  | cancelled =>
    simp only [AnswerSettles, iff_false]
    intro hsettled
    obtain ⟨item, hitem⟩ := List.exists_mem_of_ne_nil _ hitems
    obtain ⟨a, ha, hid, -⟩ := h.ofItem item hitem
    obtain ⟨row, hrow, -, hstate⟩ := h.started a ha
    obtain ⟨row', hrow', hterm, -⟩ := hsettled item hitem
    have hsame : store.row item.attemptId = some row' := hrow'
    rw [← hid, hrow] at hsame
    obtain rfl := Option.some.inj hsame
    rw [hstate] at hterm
    exact absurd hterm (by decide)
  | exception message =>
    simp only [AnswerSettles, iff_true]
    exact hunknown _ _
  | response results =>
    simp only [AnswerSettles, KeysMatch.congr h.keys_iff]
    unfold settle
    dsimp only
    split
    · rename_i hmismatch
      constructor
      · intro _ hmatch
        exact absurd hmatch hmismatch
      · intro _
        exact hunknown _ _
    · rename_i hmatch
      have hmatch := not_not.mp hmatch
      rw [(Proc.run_bind_pure _).1, h.settled_iff hmatch,
        (run_applyResults worker sent (h.resultsReady hmatch)).2]
      exact ⟨fun hr _ => hr, fun hr => hr hmatch⟩

end Dispatched

/-- **Settling what was dispatched.** In every call and for every worker, the dispatched
    attempts are terminal and counted as they should be exactly when the answer to the
    request settles them. -/
theorem settlesDispatched_iff (call : DetailOpenCall) (store : LiepinStore)
    (worker : List LiepinDetailOpenRequest → WorkerAnswer) :
    let outcome := Proc.run worker call.execute store []
    (∀ request ∈ outcome.sent, ∀ item ∈ request.requests,
      Settled call (worker outcome.sent) outcome.store item) ↔
    ∀ request ∈ outcome.sent, AnswerSettles call (recordedIds store call.scope)
      (request.requests.map (·.idempotencyKey)) (worker outcome.sent) := by
  intro outcome
  have hspec : Proc.Ensures (Preparing store [])
      (fun prepared store' _ => Ready call (store.countDetailBudgetConsumed call.budgetKey)
        prepared store') call.prepare store [] := prepare_spec
  obtain ⟨⟨hsent, -, hresp⟩, hready⟩ := hspec.run worker
  cases hprep : Proc.run worker call.prepare store [] with
  | mk store₁ sent₁ r =>
    rw [hprep] at hsent hresp hready
    obtain rfl : sent₁ = [] := hsent
    have hresponses : store₁.responses = store.responses := hresp
    cases r with
    | error e =>
      have hnone : outcome.sent = [] := by
        show (Proc.run worker call.execute store []).sent = []
        rw [execute, Proc.run_bind, hprep]
      simp [hnone]
    | ok prepared =>
      have hready := hready prepared rfl
      by_cases hitems : prepared.items = []
      · have hnone : outcome.sent = [] := by
          show (Proc.run worker call.execute store []).sent = []
          rw [execute, Proc.run_bind, hprep]
          simp [hitems]
        simp [hnone]
      · have hrun : outcome = Proc.run worker
            (call.settle prepared (worker [call.request prepared])) store₁
            [call.request prepared] := by
          show Proc.run worker call.execute store [] = _
          rw [execute, Proc.run_bind, hprep]
          simp only [hitems, if_false]
          rfl
        have hsettle : Proc.Ensures (Settling store₁ [call.request prepared]) (fun _ _ _ => True)
            (call.settle prepared (worker [call.request prepared])) store₁
            [call.request prepared] := settle_spec
        have hone : outcome.sent = [call.request prepared] := by
          rw [hrun]
          exact (hsettle.run worker).1.1
        have hrec : recordedIds store₁ call.scope = recordedIds store call.scope := by
          simp [recordedIds, hresponses]
        rw [hone]
        simp only [List.mem_singleton, forall_eq]
        rw [hrun, ← hrec]
        exact hready.settle_iff hitems worker _

end DetailOpenCall

def oneCardCall (candidateId attemptId : String) : DetailOpenCall :=
  { scope := ⟨"tenant", "workspace", "actor"⟩
    connectionId := "connection"
    providerAccountHash := "account"
    budgetDate := "2025-01-01"
    providerDayKey := "liepin:2025-01-01"
    timezone := "Asia/Shanghai"
    dailyDetailBudget := 1
    codec := ⟨fun payload => payload.idempotencyKey, fun secret payload => secret ++ payload⟩
    detailOpenApprovalSecret := "secret"
    cardCandidates := [{ candidateId, cardValueScore := 1 }]
    workerCommandId := "command"
    attemptIds := fun _ => attemptId
    mapDetail := fun _ detail => .ok
      ⟨{ resumeId := detail.syntheticCandidateFingerprint
         dedupKey := detail.syntheticCandidateFingerprint },
        ⟨"liepin", detail.syntheticCandidateFingerprint, ""⟩⟩
    recordProviderReturn := fun _ => .ok () }

/-- One result for the card, and what it says. -/
def oneResult (candidateId responseId : String) (status : DetailOpenStatus)
    (pageLoaded payloadSeen : Bool) : WorkerAnswer :=
  .response
    [{ idempotencyKey := "open:" ++ candidateId, status, workerResponseId := responseId,
       workerCommandId := "command", diagnostics := ⟨pageLoaded, payloadSeen⟩,
       candidate := some { syntheticCandidateFingerprint := "fingerprint" } }]

/-- A completed result whose page was loaded but whose payload was not seen: the table does
    not lead from the loaded page to completion, and the attempt stays where it is. -/
theorem completedWithoutPayload_leftBehind :
    ¬∀ request ∈ (Proc.run (fun _ => oneResult "c1" "response" .completed true false)
        (oneCardCall "c1" "detail_1").execute {} []).sent, ∀ item ∈ request.requests,
      DetailOpenCall.Settled (oneCardCall "c1" "detail_1")
        (oneResult "c1" "response" .completed true false)
        (Proc.run (fun _ => oneResult "c1" "response" .completed true false)
          (oneCardCall "c1" "detail_1").execute {} []).store item := by
  intro h
  have hsent : ∃ request ∈ (Proc.run (fun _ => oneResult "c1" "response" .completed true false)
      (oneCardCall "c1" "detail_1").execute {} []).sent, ∃ item ∈ request.requests,
      ((Proc.run (fun _ => oneResult "c1" "response" .completed true false)
        (oneCardCall "c1" "detail_1").execute {} []).store.row item.attemptId).map (·.state) =
      some .providerPageLoaded := by
    decide
  obtain ⟨request, hrequest, item, hitem, hstate⟩ := hsent
  obtain ⟨row, hrow, hterm, -⟩ := h request hrequest item hitem
  rw [hrow] at hstate
  obtain hstate : row.state = .providerPageLoaded := Option.some.inj hstate
  rw [hstate] at hterm
  exact absurd hterm (by decide)

end SeekTalent

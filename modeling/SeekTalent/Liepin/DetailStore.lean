import SeekTalent.Base.Table

/-!
# The ledger of detail attempts

`LiepinStore` keeps a row for every attempt to open a candidate's details, and the ids of
the worker responses it has applied. An attempt is reserved under an idempotency key, and
its state changes only along `DETAIL_ALLOWED_TRANSITIONS`; what it has consumed is tied to
its state. The budget of a day is what the attempts of the day have, or may have, consumed.

An operation is one database transaction: it answers the changed store, or raises and
changes nothing.
-/

namespace SeekTalent

inductive DetailAttemptState where
  | approvedNotStarted
  | started
  | providerPageLoaded
  | detailPayloadSeen
  | completed
  | blockedByRiskControl
  | failedBeforeConsumption
  | failedAfterPossibleConsumption
  | unknown
  deriving DecidableEq

inductive DetailConsumptionState where
  | notConsumed
  | consumed
  | possiblyConsumed
  | unknown
  deriving DecidableEq

namespace DetailAttemptState

def text : DetailAttemptState → String
  | approvedNotStarted => "approved_not_started"
  | started => "started"
  | providerPageLoaded => "provider_page_loaded"
  | detailPayloadSeen => "detail_payload_seen"
  | completed => "completed"
  | blockedByRiskControl => "blocked_by_risk_control"
  | failedBeforeConsumption => "failed_before_consumption"
  | failedAfterPossibleConsumption => "failed_after_possible_consumption"
  | unknown => "unknown"

/-- `DETAIL_ALLOWED_TRANSITIONS` -/
def allowedTransitions : DetailAttemptState → List DetailAttemptState
  | approvedNotStarted => [started, failedBeforeConsumption, unknown]
  | started =>
    [providerPageLoaded, detailPayloadSeen, completed, blockedByRiskControl,
      failedBeforeConsumption, failedAfterPossibleConsumption, unknown]
  | providerPageLoaded =>
    [detailPayloadSeen, blockedByRiskControl, failedAfterPossibleConsumption, unknown]
  | detailPayloadSeen => [completed, failedAfterPossibleConsumption, unknown]
  | completed => []
  | blockedByRiskControl => []
  | failedBeforeConsumption => []
  | failedAfterPossibleConsumption => []
  | unknown => []

def Terminal (state : DetailAttemptState) : Prop := state.allowedTransitions = []

instance (state : DetailAttemptState) : Decidable state.Terminal :=
  inferInstanceAs (Decidable (_ = []))

/-- `_valid_consumption_states_for_detail_state` -/
def validConsumptionStates : DetailAttemptState → List DetailConsumptionState
  | completed => [.consumed]
  | failedAfterPossibleConsumption => [.possiblyConsumed]
  | unknown => [.unknown, .possiblyConsumed]
  | _ => [.notConsumed]

end DetailAttemptState

def DetailConsumptionState.text : DetailConsumptionState → String
  | notConsumed => "not_consumed"
  | consumed => "consumed"
  | possiblyConsumed => "possibly_consumed"
  | unknown => "unknown"

/-- `_validate_detail_transition`. That both states are known is in their types. -/
def validateDetailTransition (currentState nextState : DetailAttemptState)
    (consumptionState : DetailConsumptionState) : Except String Unit :=
  if nextState ∉ currentState.allowedTransitions then
    .error ("invalid Liepin detail attempt transition: " ++ currentState.text ++ " -> " ++
      nextState.text)
  else if consumptionState ∉ nextState.validConsumptionStates then
    .error ("invalid Liepin detail state/consumption pair: " ++ nextState.text ++ " + " ++
      consumptionState.text)
  else if nextState = .completed ∧ consumptionState ≠ .consumed then
    .error "completed Liepin detail attempts must be consumed."
  else if nextState = .failedBeforeConsumption ∧ consumptionState ≠ .notConsumed then
    .error "pre-consumption Liepin detail failures must not consume budget."
  else if nextState = .failedAfterPossibleConsumption ∧ consumptionState ≠ .possiblyConsumed then
    .error "post-dispatch Liepin detail failures must be possibly consumed."
  else if nextState = .unknown ∧ consumptionState ∉ [.unknown, .possiblyConsumed] then
    .error "unknown Liepin detail attempts must use unknown or possibly_consumed consumption."
  else .ok ()

theorem validateDetailTransition_ok_iff {current next : DetailAttemptState}
    {consumption : DetailConsumptionState} :
    validateDetailTransition current next consumption = .ok () ↔
      next ∈ current.allowedTransitions ∧ consumption ∈ next.validConsumptionStates := by
  unfold validateDetailTransition
  by_cases hnext : next ∈ current.allowedTransitions
  · by_cases hpair : consumption ∈ next.validConsumptionStates
    · rw [if_neg (not_not.mpr hnext), if_neg (not_not.mpr hpair)]
      simp only [hnext, hpair, and_self, iff_true]
      revert hpair
      cases next <;> cases consumption <;> decide
    · simp [hnext, hpair]
  · simp [hnext]

structure LiepinScope where
  tenantId : String
  workspaceId : String
  actorId : String
  deriving DecidableEq

structure LiepinDetailAttemptRow where
  attemptId : String
  scope : LiepinScope
  providerAccountHash : String
  candidateProviderId : String
  idempotencyKey : String
  state : DetailAttemptState
  consumptionState : DetailConsumptionState
  workerCommandId : Option String := none
  rawEvidenceRef : Option String := none
  budgetDate : String
  providerDayKey : String
  timezone : String

structure LiepinDetailWorkerResponseRow where
  scope : LiepinScope
  workerResponseId : String
  attemptId : String

def LiepinDetailAttemptRow.reservationKey (row : LiepinDetailAttemptRow) :
    LiepinScope × String × String × String :=
  (row.scope, row.providerAccountHash, row.budgetDate, row.idempotencyKey)

/-- The store: the primary key and the unique constraint of the attempts, and that every
    attempt has a consumption state that goes with its state. -/
structure LiepinStore where
  attempts : List LiepinDetailAttemptRow := []
  responses : List LiepinDetailWorkerResponseRow := []
  nodup_attemptIds : (attempts.map (·.attemptId)).Nodup := by simp
  nodup_reservations : (attempts.map (·.reservationKey)).Nodup := by simp
  legal : ∀ row ∈ attempts, row.consumptionState ∈ row.state.validConsumptionStates := by simp

/-- The arguments of `reserve_detail_attempt`. -/
structure DetailReservation where
  scope : LiepinScope
  providerAccountHash : String
  candidateProviderId : String
  budgetDate : String
  providerDayKey : String
  timezone : String
  idempotencyKey : String

structure DetailTransition where
  state : DetailAttemptState
  consumptionState : DetailConsumptionState
  workerCommandId : Option String := none
  rawEvidenceRef : Option String := none

def DetailReservation.row (reservation : DetailReservation) (attemptId : String) :
    LiepinDetailAttemptRow :=
  { attemptId
    scope := reservation.scope
    providerAccountHash := reservation.providerAccountHash
    candidateProviderId := reservation.candidateProviderId
    idempotencyKey := reservation.idempotencyKey
    state := .approvedNotStarted
    consumptionState := .notConsumed
    budgetDate := reservation.budgetDate
    providerDayKey := reservation.providerDayKey
    timezone := reservation.timezone }

def LiepinDetailAttemptRow.set (row : LiepinDetailAttemptRow) (transition : DetailTransition) :
    LiepinDetailAttemptRow :=
  { row with
    state := transition.state
    consumptionState := transition.consumptionState
    workerCommandId := transition.workerCommandId.or row.workerCommandId
    rawEvidenceRef := transition.rawEvidenceRef.or row.rawEvidenceRef }

namespace LiepinStore

def row (store : LiepinStore) (attemptId : String) : Option LiepinDetailAttemptRow :=
  Table.lookup (·.attemptId) store.attempts attemptId

def fetchDetailAttempt (store : LiepinStore) (scope : LiepinScope) (attemptId : String) :
    Option LiepinDetailAttemptRow :=
  (store.row attemptId).filter (·.scope = scope)

def fetchDetailAttemptByKey (store : LiepinStore) (reservation : DetailReservation) :
    Option LiepinDetailAttemptRow :=
  store.attempts.find? (·.reservationKey = (reservation.row "").reservationKey)

def validateDetailReservationReplay (row : LiepinDetailAttemptRow)
    (reservation : DetailReservation) : Except String Unit :=
  let mismatchedFields :=
    (if row.candidateProviderId ≠ reservation.candidateProviderId then
      ["candidate_provider_id"] else []) ++
    (if row.providerDayKey ≠ reservation.providerDayKey then ["provider_day_key"] else []) ++
    (if row.timezone ≠ reservation.timezone then ["timezone"] else [])
  if mismatchedFields = [] then .ok ()
  else .error ("Liepin detail idempotency replay mismatch: " ++ ", ".intercalate mismatchedFields)

/-- `INSERT INTO liepin_detail_attempts` -/
def insert (store : LiepinStore) (reservation : DetailReservation) (attemptId : String)
    (hid : attemptId ∉ store.attempts.map (·.attemptId))
    (hkey : (reservation.row attemptId).reservationKey ∉ store.attempts.map (·.reservationKey)) :
    LiepinStore :=
  { store with
    attempts := store.attempts ++ [reservation.row attemptId]
    nodup_attemptIds := by
      rw [List.map_append, List.map_singleton]
      exact store.nodup_attemptIds.append (List.nodup_singleton _)
        (by simpa [DetailReservation.row] using hid)
    nodup_reservations := by
      rw [List.map_append, List.map_singleton]
      exact store.nodup_reservations.append (List.nodup_singleton _) (by simpa using hkey)
    legal := by
      intro row hrow
      rcases List.mem_append.mp hrow with hrow | hrow
      · exact store.legal row hrow
      · rw [List.mem_singleton.mp hrow]
        exact List.mem_singleton_self _ }

/-- `reserve_detail_attempt`; `attemptId` is the id drawn for a new row. -/
def reserveDetailAttempt (reservation : DetailReservation) (attemptId : String)
    (store : LiepinStore) : Except String (LiepinStore × LiepinDetailAttemptRow) :=
  if "" ∈ [reservation.providerAccountHash, reservation.candidateProviderId,
      reservation.budgetDate, reservation.providerDayKey, reservation.timezone,
      reservation.idempotencyKey] then
    .error "Liepin detail reservation requires account, candidate, day, timezone, and key."
  else match store.fetchDetailAttemptByKey reservation with
    | some existing =>
      match validateDetailReservationReplay existing reservation with
      | .ok () => .ok (store, existing)
      | .error e => .error e
    | none =>
      if h : attemptId ∉ store.attempts.map (·.attemptId) ∧
          (reservation.row attemptId).reservationKey ∉ store.attempts.map (·.reservationKey) then
        .ok (store.insert reservation attemptId h.1 h.2, reservation.row attemptId)
      else .error "UNIQUE constraint failed: liepin_detail_attempts.attempt_id"

/-- `UPDATE liepin_detail_attempts SET … WHERE attempt_id = ?` -/
def update (store : LiepinStore) (attemptId : String) (transition : DetailTransition)
    (hlegal : transition.consumptionState ∈ transition.state.validConsumptionStates) :
    LiepinStore :=
  { store with
    attempts := store.attempts.map fun row =>
      if row.attemptId = attemptId then row.set transition else row
    nodup_attemptIds := by
      have hids : (store.attempts.map fun row =>
          if row.attemptId = attemptId then row.set transition else row).map (·.attemptId) =
            store.attempts.map (·.attemptId) := by
        rw [List.map_map]
        refine List.map_congr_left fun row _ => ?_
        simp only [Function.comp_apply]
        split <;> rfl
      rw [hids]
      exact store.nodup_attemptIds
    nodup_reservations := by
      have hkeys : (store.attempts.map fun row =>
          if row.attemptId = attemptId then row.set transition else row).map (·.reservationKey) =
            store.attempts.map (·.reservationKey) := by
        rw [List.map_map]
        refine List.map_congr_left fun row _ => ?_
        simp only [Function.comp_apply]
        split <;> rfl
      rw [hkeys]
      exact store.nodup_reservations
    legal := by
      intro row hrow
      obtain ⟨old, hold, rfl⟩ := List.mem_map.mp hrow
      split
      · exact hlegal
      · exact store.legal old hold }

def updateDetailAttempt (store : LiepinStore) (row : LiepinDetailAttemptRow)
    (transition : DetailTransition) : Except String (LiepinStore × LiepinDetailAttemptRow) :=
  match h : validateDetailTransition row.state transition.state transition.consumptionState with
  | .ok () =>
    .ok (store.update row.attemptId transition (validateDetailTransition_ok_iff.mp h).2,
      row.set transition)
  | .error e => .error e

def transitionDetailAttempt (scope : LiepinScope) (attemptId : String)
    (transition : DetailTransition) (store : LiepinStore) :
    Except String (LiepinStore × LiepinDetailAttemptRow) :=
  match store.fetchDetailAttempt scope attemptId with
  | none => .error "Liepin detail attempt not found."
  | some row => store.updateDetailAttempt row transition

/-- `apply_detail_worker_response`: a response id takes effect once. -/
def applyDetailWorkerResponse (scope : LiepinScope) (attemptId workerResponseId : String)
    (transition : DetailTransition) (store : LiepinStore) :
    Except String (LiepinStore × LiepinDetailAttemptRow) :=
  if workerResponseId = "" then
    .error "Liepin detail worker response requires a response id."
  else
    match store.responses.find? fun r =>
        r.scope = scope ∧ r.workerResponseId = workerResponseId with
    | some duplicate =>
      if duplicate.attemptId ≠ attemptId then
        .error "Liepin detail worker response attempt mismatch."
      else match store.fetchDetailAttempt scope duplicate.attemptId with
        | none => .error "Liepin detail worker response references a missing attempt."
        | some row => .ok (store, row)
    | none =>
      match store.transitionDetailAttempt scope attemptId transition with
      | .error e => .error e
      | .ok (store, updated) =>
        .ok ({ store with responses := store.responses ++ [⟨scope, workerResponseId, attemptId⟩] },
          updated)

/-- Whose budget an attempt counts against. -/
structure BudgetKey where
  scope : LiepinScope
  providerAccountHash : String
  providerDayKey : String
  deriving DecidableEq

end LiepinStore

def LiepinDetailAttemptRow.budgetKey (row : LiepinDetailAttemptRow) : LiepinStore.BudgetKey :=
  ⟨row.scope, row.providerAccountHash, row.providerDayKey⟩

/-- The attempt has, or may have, consumed budget. -/
def LiepinDetailAttemptRow.CountsAgainst (row : LiepinDetailAttemptRow)
    (key : LiepinStore.BudgetKey) : Prop :=
  row.budgetKey = key ∧ row.consumptionState ≠ .notConsumed

instance (row : LiepinDetailAttemptRow) (key : LiepinStore.BudgetKey) :
    Decidable (row.CountsAgainst key) :=
  inferInstanceAs (Decidable (_ ∧ _))

def LiepinStore.countDetailBudgetConsumed (store : LiepinStore) (key : BudgetKey) : Nat :=
  (store.attempts.filter (·.CountsAgainst key)).length

/-! ## What the operations do -/

namespace LiepinStore

variable {store store' : LiepinStore} {scope : LiepinScope} {attemptId other : String}
variable {transition : DetailTransition} {row : LiepinDetailAttemptRow}

theorem row_eq_some_iff :
    store.row attemptId = some row ↔ row ∈ store.attempts ∧ row.attemptId = attemptId :=
  Table.lookup_eq_some_iff store.nodup_attemptIds

theorem row_update (hlegal : transition.consumptionState ∈ transition.state.validConsumptionStates) :
    (store.update attemptId transition hlegal).row other =
      if other = attemptId then (store.row other).map (·.set transition) else store.row other := by
  apply Option.ext
  intro x
  rw [row_eq_some_iff]
  constructor
  · intro h
    obtain ⟨hx, hid⟩ := h
    obtain ⟨old, hold, rfl⟩ := List.mem_map.mp hx
    by_cases ho : old.attemptId = attemptId
    · have hother : other = attemptId := by simpa [ho, LiepinDetailAttemptRow.set] using hid.symm
      have hrow : store.row other = some old := row_eq_some_iff.mpr ⟨hold, ho.trans hother.symm⟩
      simp [hother ▸ hrow, ho, hother]
    · have hid : old.attemptId = other := by simpa [ho] using hid
      have hother : other ≠ attemptId := hid ▸ ho
      have hrow : store.row other = some old := row_eq_some_iff.mpr ⟨hold, hid⟩
      simp [hrow, hother, ho]
  · intro h
    split at h
    · rename_i hother
      obtain ⟨old, hrow, rfl⟩ := Option.map_eq_some_iff.mp h
      obtain ⟨hold, hid⟩ := row_eq_some_iff.mp hrow
      exact ⟨List.mem_map.mpr ⟨old, hold, by simp [hid, hother]⟩, hid⟩
    · rename_i hother
      obtain ⟨hold, hid⟩ := row_eq_some_iff.mp h
      exact ⟨List.mem_map.mpr ⟨x, hold, by simp [hid, hother]⟩, hid⟩

theorem transitionDetailAttempt_ok_iff {updated : LiepinDetailAttemptRow} :
    store.transitionDetailAttempt scope attemptId transition = .ok (store', updated) ↔
      ∃ row, store.row attemptId = some row ∧ row.scope = scope ∧
        transition.state ∈ row.state.allowedTransitions ∧
        ∃ hlegal, store' = store.update attemptId transition hlegal ∧
          updated = row.set transition := by
  unfold transitionDetailAttempt fetchDetailAttempt
  cases hrow : store.row attemptId with
  | none => simp
  | some row =>
    have hid := (row_eq_some_iff.mp hrow).2
    by_cases hscope : row.scope = scope
    · simp only [Option.filter, hscope, decide_true, if_true, Option.some.injEq,
        updateDetailAttempt]
      split
      · rename_i hok
        obtain ⟨hnext, hpair⟩ := validateDetailTransition_ok_iff.mp hok
        constructor
        · intro h
          obtain ⟨rfl, rfl⟩ := Prod.mk.inj (Except.ok.inj h)
          exact ⟨row, rfl, hscope, hnext, hpair, by rw [hid], rfl⟩
        · intro h
          obtain ⟨_, rfl, -, -, _, rfl, rfl⟩ := h
          rw [hid]
      · rename_i e herror
        constructor
        · intro h
          cases h
        · intro h
          obtain ⟨_, rfl, -, hnext, hpair, -⟩ := h
          rw [validateDetailTransition_ok_iff.mpr ⟨hnext, hpair⟩] at herror
          cases herror
    · simp [Option.filter, hscope]

end LiepinStore

end SeekTalent

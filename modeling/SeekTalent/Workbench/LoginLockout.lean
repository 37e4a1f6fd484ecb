import SeekTalent.Workbench.Events

/-!
# Logins and their lockout

A login request reads the account, asks whether the address is locked out, has the password
compared, and records the attempt. Each of these is a step of its own, so that any number of
requests can be between two of them at once, and the lock check counts only what has been recorded.

`guesses_le_limit_of_run` is what keeps the guesses within the limit whatever the requests do
between each other's steps: a request is let in only while the failures recorded within the window,
together with the requests that have been let in and not recorded yet, are fewer than the limit. One
request after another, this is what the lock check says. Requests that check before any of them has
recorded are all let in (`six_guesses_at_once`).
-/

namespace SeekTalent

/-! ## 1. The requests -/

def LOGIN_LOCKOUT_FAILURE_LIMIT : Nat := 5

def LOGIN_LOCKOUT_WINDOW_SECONDS : Nat := 300

def MICROSECONDS : Nat := 1000000

def LOGIN_LOCKOUT_WINDOW : Nat := LOGIN_LOCKOUT_WINDOW_SECONDS * MICROSECONDS

structure WorkbenchLoginRequest where
  email : String
  password : String
  /-- the host of the client -/
  ipAddress : Option String

/-- What `get_user_for_login` answers about an account. -/
structure LoginRow where
  userId : String
  passwordHash : String
  disabled : Bool

structure LoginAttempt where
  email : String
  success : Bool
  reason : String
  userId : Option String
  ipAddress : Option String
  createdAt : Instant

/-- How far a request has come. -/
inductive LoginStage where
  /-- the account has been read -/
  | arrived
  | lockedOut
  | letIn
  /-- the password has been compared, at this time -/
  | compared (right : Bool) (time : Nat)
  | comparedLockedOut
  deriving DecidableEq

structure Login where
  request : WorkbenchLoginRequest
  loginRow : Option LoginRow
  stage : LoginStage

/-- A wrong password that was compared for a request that had been let in. -/
structure Guess where
  email : String
  ipAddress : Option String
  time : Nat

structure LoginState where
  /-- microseconds since the epoch -/
  now : Nat
  attempts : List LoginAttempt
  logins : List Login := []
  guesses : List Guess := []

inductive LoginAction where
  | wait (microseconds : Nat)
  /-- a request comes in, and reads its account -/
  | arrives (request : WorkbenchLoginRequest) (loginRow : Option LoginRow)
  | checks (i : Nat)
  | compares (i : Nat)
  /-- the request records its attempt, and answers -/
  | records (i : Nat)

section Login

variable (lower : String → String) (verifyPassword : String → String → Bool)

def normalizeEmail (email : String) : String := lower (Py.strip email)

@[irreducible] def safeEmail (email : String) : String :=
  nonemptyOr ((boundedText (some (normalizeEmail lower email)) 254).getD "") "unknown"

def safeIp (ipAddress : Option String) : Option String := boundedText ipAddress 64

def WorkbenchLoginRequest.key (request : WorkbenchLoginRequest) : String × Option String :=
  (safeEmail lower request.email, safeIp request.ipAddress)

def LoginAttempt.key (attempt : LoginAttempt) : String × Option String :=
  (attempt.email, attempt.ipAddress)

def Guess.key (guess : Guess) : String × Option String := (guess.email, guess.ipAddress)

def WorkbenchLoginRequest.guess (request : WorkbenchLoginRequest) (time : Nat) : Guess where
  email := safeEmail lower request.email
  ipAddress := safeIp request.ipAddress
  time

def LoginState.failedCount (state : LoginState) (key : String × Option String) : Nat :=
  let cutoff := (state.now - LOGIN_LOCKOUT_WINDOW) / MICROSECONDS
  state.attempts.countP fun attempt =>
    attempt.key = key ∧ attempt.success = false ∧ cutoff ≤ attempt.createdAt

def LoginState.isLoginLocked (state : LoginState) (email : String) (ipAddress : Option String) :
    Bool :=
  LOGIN_LOCKOUT_FAILURE_LIMIT ≤ state.failedCount (safeEmail lower email, safeIp ipAddress)

def WorkbenchLoginRequest.attempt (request : WorkbenchLoginRequest) (success : Bool)
    (reason : String) (userId : Option String) (createdAt : Instant) : LoginAttempt where
  email := safeEmail lower request.email
  success
  reason := nonemptyOr ((boundedText (some reason) 64).getD "") "unknown"
  userId
  ipAddress := safeIp request.ipAddress
  createdAt

def LoginState.recordLoginAttempt (state : LoginState) (request : WorkbenchLoginRequest)
    (success : Bool) (reason : String) (userId : Option String) : LoginState :=
  { state with
    attempts := state.attempts ++
      [request.attempt lower success reason userId (state.now / MICROSECONDS)] }

def DUMMY_PASSWORD_HASH : String :=
  "pbkdf2_sha256$310000$c2Vla3RhbGVudC1kdW1teS1zYWx0$6VeHlfY5RCCUDwlMvd4E95qKnsHmSP5fTM7FtMh0BI0="

def Login.passwordRight (login : Login) : Bool :=
  verifyPassword login.request.password
    ((login.loginRow.map (·.passwordHash)).getD DUMMY_PASSWORD_HASH)

/-- What `login` records of a request, once its password has been compared. -/
def Login.outcome (login : Login) (right : Bool) : Bool × String × Option String :=
  match login.loginRow with
  | none => (false, "invalid_credentials", none)
  | some row =>
    if row.disabled then (false, "disabled_user", some row.userId)
    else if right then (true, "success", some row.userId)
    else (false, "invalid_credentials", some row.userId)

/-- **One step** of some request, or of the clock. A session is made for a right password before
    the attempt is recorded; the table of the attempts does not take part in it. -/
def LoginState.step (state : LoginState) : LoginAction → Option LoginState
  | .wait microseconds => some { state with now := state.now + microseconds }
  | .arrives request loginRow =>
    some { state with logins := state.logins ++ [⟨request, loginRow, .arrived⟩] }
  | .checks i =>
    match state.logins[i]? with
    | some ⟨request, loginRow, .arrived⟩ =>
      let locked := state.isLoginLocked lower request.email request.ipAddress
      some { state with
        logins := state.logins.set i ⟨request, loginRow, if locked then .lockedOut else .letIn⟩ }
    | _ => none
  | .compares i =>
    match state.logins[i]? with
    | some ⟨request, loginRow, .lockedOut⟩ =>
      some { state with logins := state.logins.set i ⟨request, loginRow, .comparedLockedOut⟩ }
    | some ⟨request, loginRow, .letIn⟩ =>
      let right := Login.passwordRight verifyPassword ⟨request, loginRow, .letIn⟩
      some { state with
        logins := state.logins.set i ⟨request, loginRow, .compared right state.now⟩
        guesses :=
          if right then state.guesses
          else state.guesses ++ [request.guess lower state.now] }
    | _ => none
  | .records i =>
    match state.logins[i]? with
    | some ⟨request, loginRow, .comparedLockedOut⟩ =>
      some ({ state with logins := state.logins.eraseIdx i }.recordLoginAttempt lower request false
        "locked_out" (loginRow.map LoginRow.userId))
    | some ⟨request, loginRow, .compared right time⟩ =>
      let outcome := Login.outcome ⟨request, loginRow, .compared right time⟩ right
      some ({ state with logins := state.logins.eraseIdx i }.recordLoginAttempt lower request
        outcome.1 outcome.2.1 outcome.2.2)
    | _ => none

def LoginState.run (state : LoginState) (actions : List LoginAction) : Option LoginState :=
  actions.foldlM (LoginState.step lower verifyPassword) state

/-- The request has been let in, and has not recorded its attempt yet. -/
def Login.underWay (login : Login) : Bool :=
  match login.stage with
  | .letIn | .compared .. => true
  | _ => false

def LoginState.underWay (state : LoginState) (key : String × Option String) : Nat :=
  state.logins.countP fun login => login.request.key lower = key ∧ login.underWay

/-- **A careful step**: a request is let in only while the failures within the window and the
    requests under way are fewer than the limit. -/
def LoginState.Careful (state : LoginState) (action : LoginAction) : Prop :=
  ∀ i, action = .checks i → ∀ login ∈ state.logins[i]?,
    state.isLoginLocked lower login.request.email login.request.ipAddress = false →
      state.failedCount (login.request.key lower) + state.underWay lower (login.request.key lower) <
        LOGIN_LOCKOUT_FAILURE_LIMIT

/-- The guesses of one e-mail and address in the window from a time on. -/
def LoginState.guessesWithin (state : LoginState) (key : String × Option String) (start : Nat) :
    Nat :=
  state.guesses.countP fun guess =>
    guess.key = key ∧ start ≤ guess.time ∧ guess.time ≤ start + LOGIN_LOCKOUT_WINDOW

end Login

/-! ## 2. What the steps keep -/

section Steps

variable {lower : String → String} {verifyPassword : String → String → Bool}
variable {state state' : LoginState} {action : LoginAction} {actions : List LoginAction}
variable {login : Login} {i start : Nat} {key : String × Option String}
variable {before after : List Login}

theorem exists_split {α : Type} {xs : List α} {x : α} (h : xs[i]? = some x) :
    ∃ before after, xs = before ++ x :: after ∧ (∀ y, xs.set i y = before ++ y :: after) ∧
      xs.eraseIdx i = before ++ after := by
  obtain ⟨hlt, hx⟩ := List.getElem?_eq_some_iff.mp h
  refine ⟨xs.take i, xs.drop (i + 1), ?_, ?_, List.eraseIdx_eq_take_drop_succ ..⟩
  · rw [← hx, ← List.drop_eq_getElem_cons hlt, List.take_append_drop]
  · intro y
    rw [List.set_eq_take_append_cons_drop, if_pos hlt]

def Login.at (login : Login) (stage : LoginStage) : Login := { login with stage }

/-- What a step does to the table, the requests and the guesses. -/
inductive LoginStep (lower : String → String) : LoginState → LoginState → Prop where
  | wait (state : LoginState) (microseconds : Nat) :
    LoginStep lower state { state with now := state.now + microseconds }
  | arrives (state : LoginState) (login : Login) :
    LoginStep lower state { state with logins := state.logins ++ [login.at .arrived] }
  | lockedOut (state : LoginState) (before after : List Login) (login : Login)
      (hlogins : state.logins = before ++ login.at .arrived :: after) :
    LoginStep lower state { state with logins := before ++ login.at .lockedOut :: after }
  | letIn (state : LoginState) (before after : List Login) (login : Login)
      (hlogins : state.logins = before ++ login.at .arrived :: after)
      (hcareful : state.failedCount (login.request.key lower) +
        state.underWay lower (login.request.key lower) < LOGIN_LOCKOUT_FAILURE_LIMIT) :
    LoginStep lower state { state with logins := before ++ login.at .letIn :: after }
  | comparedLockedOut (state : LoginState) (before after : List Login) (login : Login)
      (hlogins : state.logins = before ++ login.at .lockedOut :: after) :
    LoginStep lower state { state with logins := before ++ login.at .comparedLockedOut :: after }
  | right (state : LoginState) (before after : List Login) (login : Login)
      (hlogins : state.logins = before ++ login.at .letIn :: after) :
    LoginStep lower state
      { state with logins := before ++ login.at (.compared true state.now) :: after }
  | guessed (state : LoginState) (before after : List Login) (login : Login) (guess : Guess)
      (hlogins : state.logins = before ++ login.at .letIn :: after)
      (hkey : guess.key = login.request.key lower) (htime : guess.time = state.now) :
    LoginStep lower state
      { state with
        logins := before ++ login.at (.compared false state.now) :: after
        guesses := state.guesses ++ [guess] }
  | recorded (state : LoginState) (before after : List Login) (login : Login)
      (attempt : LoginAttempt) (hlogins : state.logins = before ++ login :: after)
      (hkey : attempt.key = login.request.key lower)
      (htime : attempt.createdAt = state.now / MICROSECONDS)
      (hwrong : ∀ time, login.stage = .compared false time → attempt.success = false) :
    LoginStep lower state
      { state with logins := before ++ after, attempts := state.attempts ++ [attempt] }

theorem outcome_wrong : (login.outcome false).1 = false := by
  unfold Login.outcome
  split
  · rfl
  · split <;> simp

/-- **What a careful step does.** -/
theorem loginStep_of_step (h : state.step lower verifyPassword action = some state')
    (hcareful : state.Careful lower action) : LoginStep lower state state' := by
  cases action with
  | wait microseconds =>
    cases h
    exact .wait state microseconds
  | arrives request loginRow =>
    cases h
    exact .arrives state ⟨request, loginRow, .arrived⟩
  | checks i =>
    simp only [LoginState.step] at h
    split at h
    · rename_i request loginRow hfound
      obtain ⟨before, after, hlogins, hset, -⟩ := exists_split hfound
      have hstep := hcareful i rfl ⟨request, loginRow, .arrived⟩ hfound
      rw [hset] at h
      split at h
      · cases h
        exact .lockedOut state before after ⟨request, loginRow, .arrived⟩ hlogins
      · rename_i hunlocked
        cases h
        exact .letIn state before after ⟨request, loginRow, .arrived⟩ hlogins
          (hstep (by simpa using hunlocked))
    · cases h
  | compares i =>
    simp only [LoginState.step] at h
    split at h
    · rename_i request loginRow hfound
      obtain ⟨before, after, hlogins, hset, -⟩ := exists_split hfound
      rw [hset] at h
      cases h
      exact .comparedLockedOut state before after ⟨request, loginRow, .lockedOut⟩ hlogins
    · rename_i request loginRow hfound
      obtain ⟨before, after, hlogins, hset, -⟩ := exists_split hfound
      rw [hset] at h
      cases hright : Login.passwordRight verifyPassword ⟨request, loginRow, .letIn⟩ with
      | true =>
        simp only [hright, if_true] at h
        obtain rfl := Option.some.inj h
        exact .right state before after ⟨request, loginRow, .letIn⟩ hlogins
      | false =>
        simp only [hright, Bool.false_eq_true, if_false] at h
        obtain rfl := Option.some.inj h
        exact .guessed state before after ⟨request, loginRow, .letIn⟩
          (request.guess lower state.now) hlogins rfl rfl
    · cases h
  | records i =>
    simp only [LoginState.step] at h
    split at h
    · rename_i request loginRow hfound
      obtain ⟨before, after, hlogins, -, herase⟩ := exists_split hfound
      rw [herase] at h
      obtain rfl := Option.some.inj h
      refine .recorded state before after ⟨request, loginRow, .comparedLockedOut⟩
        (request.attempt lower _ _ _ _) hlogins rfl rfl ?_
      intro _ hstage
      cases hstage
    · rename_i request loginRow right time hfound
      obtain ⟨before, after, hlogins, -, herase⟩ := exists_split hfound
      rw [herase] at h
      obtain rfl := Option.some.inj h
      refine .recorded state before after ⟨request, loginRow, .compared right time⟩
        (request.attempt lower _ _ _ _) hlogins rfl rfl ?_
      intro _ hstage
      obtain ⟨rfl, -⟩ := LoginStage.compared.inj hstage
      exact outcome_wrong
    · cases h

def Login.guessedFrom (start : Nat) (login : Login) : Bool :=
  match login.stage with
  | .compared right time => !right && start ≤ time
  | _ => false

def Login.isLetIn (login : Login) : Bool := login.stage = .letIn

def LoginState.guessesFrom (state : LoginState) (key : String × Option String) (start : Nat) : Nat :=
  state.guesses.countP fun guess => guess.key = key ∧ start ≤ guess.time

def LoginState.failuresFrom (state : LoginState) (key : String × Option String)
    (start : Instant) : Nat :=
  state.attempts.countP fun attempt =>
    attempt.key = key ∧ attempt.success = false ∧ start ≤ attempt.createdAt

variable (lower) in
def LoginState.countLogins (state : LoginState) (key : String × Option String)
    (p : Login → Bool) : Nat :=
  state.logins.countP fun login => login.request.key lower = key ∧ p login

variable (lower) in
/-- **The invariant**, for one e-mail and address. Since the last time a request was let in, the
    guesses in reach of its window and the requests that may still guess are within the limit. -/
structure Limited (key : String × Option String) (state : LoginState) : Prop where
  accounted : ∀ start, state.guessesFrom key start ≤
    state.failuresFrom key (start / MICROSECONDS) +
      state.countLogins lower key (·.guessedFrom start)
  past : ∀ login ∈ state.logins, ∀ start, login.guessedFrom start → start ≤ state.now
  limited : ∃ last ≤ state.now, (∀ start, last ≤ start + LOGIN_LOCKOUT_WINDOW →
      state.guessesFrom key start + state.countLogins lower key (·.isLetIn) ≤
        LOGIN_LOCKOUT_FAILURE_LIMIT) ∧
    ∀ start, start + LOGIN_LOCKOUT_WINDOW < last →
      state.guessesWithin key start ≤ LOGIN_LOCKOUT_FAILURE_LIMIT

theorem Limited.guessesWithin_le (h : Limited lower key state) :
    state.guessesWithin key start ≤ LOGIN_LOCKOUT_FAILURE_LIMIT := by
  obtain ⟨last, -, hnear, hfar⟩ := h.limited
  by_cases hstart : last ≤ start + LOGIN_LOCKOUT_WINDOW
  · have hle : state.guessesWithin key start ≤ state.guessesFrom key start := by
      unfold LoginState.guessesWithin LoginState.guessesFrom
      apply List.countP_mono_left
      intro guess _ hguess
      simp only [decide_eq_true_eq] at hguess ⊢
      exact ⟨hguess.1, hguess.2.1⟩
    have := hnear start hstart
    omega
  · exact hfar start (by omega)

theorem countLogins_split {p : Login → Bool}
    (h : state.logins = before ++ login :: after) :
    state.countLogins lower key p =
      before.countP (fun login => login.request.key lower = key ∧ p login) +
        after.countP (fun login => login.request.key lower = key ∧ p login) +
          if login.request.key lower = key ∧ p login = true then 1 else 0 := by
  unfold LoginState.countLogins
  rw [h, List.countP_append, List.countP_cons]
  simp only [decide_eq_true_eq]
  omega

theorem countLogins_taken {p : Login → Bool}
    (h : state.logins = before ++ after) :
    state.countLogins lower key p =
      before.countP (fun login => login.request.key lower = key ∧ p login) +
        after.countP (fun login => login.request.key lower = key ∧ p login) := by
  unfold LoginState.countLogins
  rw [h, List.countP_append]

theorem countLogins_le_underWay :
    state.countLogins lower key (·.guessedFrom start) + state.countLogins lower key (·.isLetIn) ≤
      state.underWay lower key := by
  unfold LoginState.countLogins LoginState.underWay
  induction state.logins with
  | nil => simp
  | cons login logins ih =>
    rw [List.countP_cons, List.countP_cons, List.countP_cons]
    dsimp only at ih ⊢
    have hone : (if decide (login.request.key lower = key ∧ login.guessedFrom start = true) = true
          then 1 else 0) +
        (if decide (login.request.key lower = key ∧ login.isLetIn = true) = true then 1 else 0) ≤
        if decide (login.request.key lower = key ∧ login.underWay = true) = true then 1 else 0 := by
      unfold Login.guessedFrom Login.isLetIn Login.underWay
      by_cases hkey : login.request.key lower = key
      · cases login.stage <;> simp [hkey]
        split <;> simp
      · simp [hkey]
    omega

theorem Limited.quiet (h : Limited lower key state) (hnow : state.now ≤ state'.now)
    (hguesses : state'.guesses = state.guesses)
    (hkept : ∀ start, state.failuresFrom key (start / MICROSECONDS) +
        state.countLogins lower key (·.guessedFrom start) ≤
      state'.failuresFrom key (start / MICROSECONDS) +
        state'.countLogins lower key (·.guessedFrom start))
    (hletIn : state'.countLogins lower key (·.isLetIn) ≤ state.countLogins lower key (·.isLetIn))
    (hpast : ∀ login ∈ state'.logins, login ∈ state.logins ∨
      ∀ start, login.guessedFrom start → start ≤ state'.now) : Limited lower key state' := by
  obtain ⟨last, hlast, hnear, hfar⟩ := h.limited
  have hfrom : ∀ start, state'.guessesFrom key start = state.guessesFrom key start := by
    intro start
    unfold LoginState.guessesFrom
    rw [hguesses]
  refine ⟨fun start => ?_, fun login hlogin start hguess => ?_, last, by omega, ?_, ?_⟩
  · rw [hfrom]
    exact Nat.le_trans (h.accounted start) (hkept start)
  · rcases hpast login hlogin with hold | hnew
    · exact Nat.le_trans (h.past login hold start hguess) hnow
    · exact hnew start hguess
  · intro start hstart
    rw [hfrom]
    exact Nat.le_trans (Nat.add_le_add_left hletIn _) (hnear start hstart)
  · intro start hstart
    have hwithin : state'.guessesWithin key start = state.guessesWithin key start := by
      unfold LoginState.guessesWithin
      rw [hguesses]
    rw [hwithin]
    exact hfar start hstart

@[simp] theorem request_at {stage : LoginStage} : (login.at stage).request = login.request := rfl

@[simp] theorem stage_at {stage : LoginStage} : (login.at stage).stage = stage := rfl

theorem mem_restaged {stage stage' : LoginStage} {other : Login}
    (hlogins : state.logins = before ++ login.at stage :: after)
    (hmem : other ∈ before ++ login.at stage' :: after) :
    other ∈ state.logins ∨ other = login.at stage' := by
  rw [hlogins]
  rcases List.mem_append.mp hmem with hmem | hmem
  · exact .inl (List.mem_append_left _ hmem)
  · rcases List.mem_cons.mp hmem with hmem | hmem
    · exact .inr hmem
    · exact .inl (List.mem_append_right _ (List.mem_cons_of_mem _ hmem))

theorem Limited.restaged (h : Limited lower key state)
    {stage stage' : LoginStage} (hlogins : state.logins = before ++ login.at stage :: after)
    (hguessed : ∀ start, (login.at stage').guessedFrom start = false ∧
      (login.at stage).guessedFrom start = false)
    (hletIn : (login.at stage').isLetIn = false) :
    Limited lower key { state with logins := before ++ login.at stage' :: after } := by
  refine h.quiet (Nat.le_refl _) rfl (fun start => ?_) ?_ fun other hother => ?_
  · rw [countLogins_split hlogins, countLogins_split rfl, (hguessed start).1, (hguessed start).2]
    exact Nat.le_refl _
  · rw [countLogins_split hlogins, countLogins_split rfl, hletIn]
    simp
  · rcases mem_restaged hlogins hother with hold | rfl
    · exact .inl hold
    · refine .inr fun start hguess => ?_
      rw [(hguessed start).1] at hguess
      cases hguess

theorem failuresFrom_mono {start' : Nat} (h : start' ≤ start) :
    state.failuresFrom key start ≤ state.failuresFrom key start' := by
  unfold LoginState.failuresFrom
  apply List.countP_mono_left
  intro attempt _ hattempt
  simp only [decide_eq_true_eq] at hattempt ⊢
  exact ⟨hattempt.1, hattempt.2.1, Nat.le_trans h hattempt.2.2⟩

theorem Limited.letIn (h : Limited lower key state)
    (hlogins : state.logins = before ++ login.at .arrived :: after)
    (hcareful : login.request.key lower = key →
      state.failedCount key + state.underWay lower key < LOGIN_LOCKOUT_FAILURE_LIMIT) :
    Limited lower key { state with logins := before ++ login.at .letIn :: after } := by
  by_cases hkey : login.request.key lower = key
  · have hguessed : ∀ start, { state with
          logins := before ++ login.at .letIn :: after }.countLogins lower key
            (·.guessedFrom start) = state.countLogins lower key (·.guessedFrom start) := by
      intro start
      rw [countLogins_split hlogins, countLogins_split rfl]
      rfl
    have hletIn : { state with
          logins := before ++ login.at .letIn :: after }.countLogins lower key (·.isLetIn) =
        state.countLogins lower key (·.isLetIn) + 1 := by
      rw [countLogins_split hlogins, countLogins_split rfl]
      simp [hkey, Login.isLetIn]
    refine ⟨fun start => ?_, ?_, state.now, Nat.le_refl _, ?_, fun start _ => h.guessesWithin_le⟩
    · rw [hguessed]
      exact h.accounted start
    · intro other hother start hguess
      rcases mem_restaged hlogins hother with hold | rfl
      · exact h.past other hold start hguess
      · cases hguess
    · intro start hstart
      -- the lock check has counted every guess of this window that has been recorded
      have hcutoff : (state.now - LOGIN_LOCKOUT_WINDOW) / MICROSECONDS ≤ start / MICROSECONDS :=
        Nat.div_le_div_right (by omega)
      have hcounted : state.failuresFrom key (start / MICROSECONDS) ≤ state.failedCount key :=
        failuresFrom_mono hcutoff
      have haccounted := h.accounted start
      have hunderWay := @countLogins_le_underWay lower state start key
      have hlimit := hcareful hkey
      show state.guessesFrom key start + _ ≤ _
      rw [hletIn]
      omega
  · -- the count is that of another e-mail or address
    have hother : ∀ p : Login → Bool, { state with
          logins := before ++ login.at .letIn :: after }.countLogins lower key p =
        state.countLogins lower key p := by
      intro p
      rw [countLogins_split hlogins, countLogins_split rfl]
      simp [hkey]
    refine h.quiet (Nat.le_refl _) rfl (fun start => ?_) (Nat.le_of_eq (hother _)) fun other hmem => ?_
    · rw [hother]
      exact Nat.le_refl _
    · rcases mem_restaged hlogins hmem with hold | rfl
      · exact .inl hold
      · refine .inr fun _ hguess => ?_
        cases hguess

theorem Limited.guessed (h : Limited lower key state) {guess : Guess}
    (hlogins : state.logins = before ++ login.at .letIn :: after)
    (hkey : guess.key = login.request.key lower) (htime : guess.time = state.now) :
    Limited lower key
      { state with
        logins := before ++ login.at (.compared false state.now) :: after
        guesses := state.guesses ++ [guess] } := by
  obtain ⟨last, hlast, hnear, hfar⟩ := h.limited
  have hfrom : ∀ start, { state with
        logins := before ++ login.at (.compared false state.now) :: after
        guesses := state.guesses ++ [guess] }.guessesFrom key start =
      state.guessesFrom key start +
        if login.request.key lower = key ∧ start ≤ state.now then 1 else 0 := by
    intro start
    simp [LoginState.guessesFrom, List.countP_append, List.countP_cons, hkey, htime]
  have hguessed : ∀ start, { state with
        logins := before ++ login.at (.compared false state.now) :: after
        guesses := state.guesses ++ [guess] }.countLogins lower key (·.guessedFrom start) =
      state.countLogins lower key (·.guessedFrom start) +
        if login.request.key lower = key ∧ start ≤ state.now then 1 else 0 := by
    intro start
    rw [countLogins_split hlogins, countLogins_split rfl]
    simp [Login.guessedFrom]
  have hletIn : { state with
        logins := before ++ login.at (.compared false state.now) :: after
        guesses := state.guesses ++ [guess] }.countLogins lower key (·.isLetIn) +
          (if login.request.key lower = key then 1 else 0) =
      state.countLogins lower key (·.isLetIn) := by
    rw [countLogins_split hlogins, countLogins_split rfl]
    simp [Login.isLetIn]
  refine ⟨fun start => ?_, ?_, last, hlast, ?_, ?_⟩
  · rw [hfrom, hguessed, ← Nat.add_assoc]
    exact Nat.add_le_add_right (h.accounted start) _
  · intro other hother start hguess
    rcases mem_restaged hlogins hother with hold | rfl
    · exact h.past other hold start hguess
    · simpa [Login.guessedFrom] using hguess
  · intro start hstart
    -- the request counted as one that may guess, and now its guess counts
    have hlimit := hnear start hstart
    rw [hfrom]
    split
    · rename_i hboth
      rw [if_pos hboth.1] at hletIn
      omega
    · omega
  · intro start hstart
    -- the window was over when a request was let in for the last time
    refine Nat.le_trans (Nat.le_of_eq ?_) (hfar start hstart)
    have hlate : ¬state.now ≤ start + LOGIN_LOCKOUT_WINDOW := by omega
    simp [LoginState.guessesWithin, List.countP_append, htime, hlate]

theorem Limited.recorded (h : Limited lower key state)
    {attempt : LoginAttempt} (hlogins : state.logins = before ++ login :: after)
    (hkey : attempt.key = login.request.key lower)
    (htime : attempt.createdAt = state.now / MICROSECONDS)
    (hwrong : ∀ time, login.stage = .compared false time → attempt.success = false) :
    Limited lower key
      { state with logins := before ++ after, attempts := state.attempts ++ [attempt] } := by
  refine h.quiet (Nat.le_refl _) rfl (fun start => ?_) ?_ fun other hother => ?_
  · have hfailures : { state with
          logins := before ++ after
          attempts := state.attempts ++ [attempt] }.failuresFrom key (start / MICROSECONDS) =
        state.failuresFrom key (start / MICROSECONDS) +
          if attempt.key = key ∧ attempt.success = false ∧
            start / MICROSECONDS ≤ attempt.createdAt then 1 else 0 := by
      simp [LoginState.failuresFrom, List.countP_append, List.countP_cons]
    rw [hfailures, countLogins_split hlogins, countLogins_taken rfl]
    by_cases hcounted : login.request.key lower = key ∧ login.guessedFrom start = true
    · -- the guess was not earlier than `start`, and so its attempt is not
      have hpast : start ≤ state.now := h.past login (by simp [hlogins]) start hcounted.2
      have hguess := hcounted.2
      unfold Login.guessedFrom at hguess
      split at hguess
      · rename_i right time hstage
        obtain ⟨hright, -⟩ := Bool.and_eq_true_iff.mp hguess
        obtain rfl : right = false := by simpa using hright
        rw [if_pos hcounted, if_pos ⟨hkey.trans hcounted.1, hwrong time hstage,
          htime ▸ Nat.div_le_div_right hpast⟩]
        omega
      · cases hguess
    · rw [if_neg hcounted]
      omega
  · rw [countLogins_split hlogins, countLogins_taken rfl]
    omega
  · refine .inl ?_
    rw [hlogins]
    rcases List.mem_append.mp hother with hother | hother
    · exact List.mem_append_left _ hother
    · exact List.mem_append_right _ (List.mem_cons_of_mem _ hother)

/-- **One careful step.** -/
theorem Limited.step (h : Limited lower key state) (hstep : LoginStep lower state state') :
    Limited lower key state' := by
  cases hstep with
  | wait microseconds =>
    exact h.quiet (Nat.le_add_right ..) rfl (fun _ => Nat.le_refl _) (Nat.le_refl _)
      fun _ hmem => .inl hmem
  | arrives login =>
    have hcount : ∀ p : Login → Bool, p (login.at .arrived) = false →
        { state with logins := state.logins ++ [login.at .arrived] }.countLogins lower key p =
          state.countLogins lower key p := by
      intro p hp
      simp [LoginState.countLogins, List.countP_append, hp]
    refine h.quiet (Nat.le_refl _) rfl (fun start => ?_) (Nat.le_of_eq (hcount _ rfl)) ?_
    · rw [hcount _ rfl]
      exact Nat.le_refl _
    · intro other hother
      rcases List.mem_append.mp hother with hother | hother
      · exact .inl hother
      · rw [List.mem_singleton.mp hother]
        refine .inr fun _ hguess => ?_
        cases hguess
  | lockedOut before after login hlogins => exact h.restaged hlogins (fun _ => ⟨rfl, rfl⟩) rfl
  | letIn before after login hlogins hcareful => exact h.letIn hlogins fun hkey => hkey ▸ hcareful
  | comparedLockedOut before after login hlogins =>
    exact h.restaged hlogins (fun _ => ⟨rfl, rfl⟩) rfl
  | right before after login hlogins =>
    exact h.restaged hlogins (fun _ => ⟨rfl, rfl⟩) rfl
  | guessed before after login guess hlogins hkey htime => exact h.guessed hlogins hkey htime
  | recorded before after login attempt hlogins hkey htime hwrong =>
    exact h.recorded hlogins hkey htime hwrong

/-! ## 3. Runs -/

theorem limited_of_idle (hlogins : state.logins = []) (hguesses : state.guesses = []) :
    Limited lower key state := by
  refine ⟨fun start => ?_, ?_, 0, Nat.zero_le _, fun start _ => ?_, fun start _ => ?_⟩
  · simp [LoginState.guessesFrom, hguesses]
  · simp [hlogins]
  · simp [LoginState.guessesFrom, LoginState.countLogins, hlogins, hguesses]
  · simp [LoginState.guessesWithin, hguesses]

theorem run_concat : state.run lower verifyPassword (actions ++ [action]) =
    (state.run lower verifyPassword actions).bind (·.step lower verifyPassword action) := by
  unfold LoginState.run
  simp only [List.foldlM_append, List.foldlM_cons, List.foldlM_nil, bind_pure]
  rfl

/-- **Every run**: where each step is careful, no window has more wrong guesses than the limit, for
    any e-mail and any address. -/
theorem guesses_le_limit_of_run (lower : String → String) (verifyPassword : String → String → Bool)
    (attempts : List LoginAttempt) (now : Nat) (actions : List LoginAction)
    (hcareful : ∀ before action after, actions = before ++ action :: after →
      ∀ state ∈ ({ now, attempts } : LoginState).run lower verifyPassword before,
        state.Careful lower action) :
    ∀ before after, actions = before ++ after →
      ∀ state ∈ ({ now, attempts } : LoginState).run lower verifyPassword before,
        ∀ key start, state.guessesWithin key start ≤ LOGIN_LOCKOUT_FAILURE_LIMIT := by
  have hrun : ∀ key before after, actions = before ++ after →
      ∀ state ∈ ({ now, attempts } : LoginState).run lower verifyPassword before,
        Limited lower key state := by
    intro key before
    induction before using List.reverseRecOn with
    | nil =>
      intro after _ state hstate
      obtain rfl := Option.some.inj hstate
      exact limited_of_idle rfl rfl
    | append_singleton before action ih =>
      intro after hactions state hstate
      rw [List.append_assoc, List.singleton_append] at hactions
      rw [run_concat] at hstate
      obtain ⟨earlier, hearlier, hstep⟩ := Option.bind_eq_some_iff.mp hstate
      exact (ih (action :: after) hactions earlier hearlier).step
        (loginStep_of_step hstep (hcareful before action after hactions earlier hearlier))
  intro before after hactions state hstate key start
  exact (hrun key before after hactions state hstate).guessesWithin_le

end Steps

/-! ## 4. Guesses at once -/

def sampleLoginRequest : WorkbenchLoginRequest :=
  { email := "admin@example.com", password := "guess", ipAddress := some "10.0.0.1" }

def sampleLoginRow : LoginRow :=
  { userId := "user_1", passwordHash := "correct horse", disabled := false }

/-- Six requests that come in and check before the first has its password compared. -/
def sixAtOnce : List LoginAction :=
  List.replicate 6 (.arrives sampleLoginRequest (some sampleLoginRow)) ++
    (List.range 6).map .checks ++ (List.range 6).map .compares

/-- Six wrong passwords are compared within the window, where the limit is five. -/
theorem six_guesses_at_once : ∃ state ∈ ({ now := 10 ^ 15, attempts := [] } : LoginState).run id
    (fun password passwordHash => password = passwordHash) sixAtOnce,
    LOGIN_LOCKOUT_FAILURE_LIMIT <
      state.guessesWithin (sampleLoginRequest.key id) (10 ^ 15) := by
  decide +kernel

def oneLogin : List LoginAction :=
  [.arrives sampleLoginRequest (some sampleLoginRow), .checks 0, .compares 0, .records 0]

instance (state : LoginState) (action : LoginAction) : Decidable (state.Careful id action) :=
  match action with
  | .checks i =>
    decidable_of_iff (∀ login ∈ state.logins[i]?,
      state.isLoginLocked id login.request.email login.request.ipAddress = false →
        state.failedCount (login.request.key id) + state.underWay id (login.request.key id) <
          LOGIN_LOCKOUT_FAILURE_LIMIT)
      ⟨fun h _ hi => LoginAction.checks.inj hi ▸ h, fun h => h i rfl⟩
  | .wait _ | .arrives _ _ | .compares _ | .records _ =>
    isTrue fun _ h => by cases h

theorem oneLogin_careful (before : List LoginAction) (action : LoginAction)
    (after : List LoginAction) (h : oneLogin = before ++ action :: after) :
    ∀ state ∈ ({ now := 10 ^ 15, attempts := [] } : LoginState).run id
      (fun password passwordHash => password = passwordHash) before, state.Careful id action := by
  rcases before with _ | ⟨_, _ | ⟨_, _ | ⟨_, _ | ⟨_, before⟩⟩⟩⟩ <;>
    simp only [oneLogin, List.nil_append, List.cons_append, List.cons.injEq] at h
  · obtain ⟨rfl, -⟩ := h
    decide
  · obtain ⟨rfl, rfl, -⟩ := h
    decide +kernel
  · obtain ⟨rfl, rfl, rfl, -⟩ := h
    decide
  · obtain ⟨rfl, rfl, rfl, rfl, -⟩ := h
    decide
  · simp at h

theorem guesses_le_limit_of_oneLogin :
    (({ now := 10 ^ 15, attempts := [] } : LoginState).run id
        (fun password passwordHash => password = passwordHash) oneLogin).isSome ∧
      ∀ before after, oneLogin = before ++ after →
        ∀ state ∈ ({ now := 10 ^ 15, attempts := [] } : LoginState).run id
          (fun password passwordHash => password = passwordHash) before,
          ∀ key start, state.guessesWithin key start ≤ LOGIN_LOCKOUT_FAILURE_LIMIT :=
  ⟨by decide +kernel, guesses_le_limit_of_run id (fun password passwordHash => password = passwordHash)
    [] (10 ^ 15) oneLogin oneLogin_careful⟩

end SeekTalent

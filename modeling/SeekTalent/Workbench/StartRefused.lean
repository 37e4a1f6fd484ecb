import SeekTalent.Base.Commit
import SeekTalent.Workbench.JobInvariant

/-!
# A start that is refused

A Liepin run is not started without a connection. `start_source_run_job` marks the run as blocked,
with a warning, and raises in the same transaction: the mark is rolled back with it, and a run that
did not wait for a login before does not wait for one after.
-/

namespace SeekTalent

open Stateful (exec transaction)

/-- The tables with the warning columns of the source runs: a code and a message, or neither. -/
structure WarnedStore where
  store : WorkbenchStore := {}
  warnings : String → Option (String × String) := fun _ => none

/-- `LIEPIN_BROWSER_LOGIN_REQUIRED_CODE` and `LIEPIN_BROWSER_LOGIN_REQUIRED_MESSAGE` -/
def liepinBrowserLoginRequired : String × String :=
  ("liepin_browser_login_required",
    "请在本机 Chrome 登录猎聘并保持会话有效，系统会在检索时使用该登录态。")

namespace WarnedStore

variable {s s' : WarnedStore} {user : WorkbenchUser} {sessionId sourceRunId : String}

/-! ## 1. The call -/

/-- `SET warning_code = ?, warning_message = ?` -/
def warn (s : WarnedStore) (sourceRunId : String) (warning : Option (String × String)) :
    WarnedStore :=
  { s with warnings := Function.update s.warnings sourceRunId warning }

theorem sourceRunId_blocked (run : SourceRunRow) :
    { run with status := .blocked, authState := .loginRequired : SourceRunRow }.sourceRunId =
      run.sourceRunId :=
  rfl

/-- `SET status = 'blocked', auth_state = 'login_required', …` -/
def blockForLogin (sourceRunId : String) (s : WarnedStore) : WarnedStore :=
  { s with
    store := s.store.updateSourceRun sourceRunId
      (fun run => { run with status := .blocked, authState := .loginRequired })
      sourceRunId_blocked }.warn
    sourceRunId (some liepinBrowserLoginRequired)

/-- The run is one for Liepin, and its user has no connection that is connected. -/
def Unconnected (store : WorkbenchStore) (user : WorkbenchUser) (run : SourceRunRow) : Prop :=
  run.sourceKind = .liepin ∧
    (store.liepinConnectionForUser user).any (·.status = .connected) = false

instance (store : WorkbenchStore) (user : WorkbenchUser) (run : SourceRunRow) :
    Decidable (Unconnected store user run) :=
  inferInstanceAs (Decidable (_ ∧ _))

def isNew : Option (SourceRunRow × SourceRunJobRow × Bool) → Bool
  | some (_, _, new) => new
  | none => false

/-- What follows where the run is not refused; nothing of it writes before it raises. -/
def startConnected (user : WorkbenchUser) (sessionId sourceRunId : String)
    (idempotencyKey : Option String) (jobId : String) (now : Instant) :
    Stateful.Run WarnedStore WorkbenchError (Option (SourceRunRow × SourceRunJobRow × Bool)) := do
  let s ← get
  match WorkbenchStore.startSourceRunJob user sessionId sourceRunId idempotencyKey jobId now
      s.store with
  | .error error => throw error
  | .ok (store, answer) =>
    let started := { s with store }
    set (if isNew answer then started.warn sourceRunId none else started)
    return answer

/-- The body of the transaction of `start_source_run_job`. -/
def startBody (user : WorkbenchUser) (sessionId sourceRunId : String)
    (idempotencyKey : Option String) (jobId : String) (now : Instant) :
    Stateful.Run WarnedStore WorkbenchError (Option (SourceRunRow × SourceRunJobRow × Bool)) := do
  let s ← get
  match s.store.sourceRunForUser user sessionId sourceRunId with
  | none => return none
  | some run =>
    if Unconnected s.store user run then
      modify (blockForLogin sourceRunId)
      throw (.permissionError "liepin_connection_not_connected")
    else startConnected user sessionId sourceRunId idempotencyKey jobId now

/-- `start_source_run_job`, after it has reconciled the running jobs. -/
def startSourceRunJob (user : WorkbenchUser) (sessionId sourceRunId : String)
    (idempotencyKey : Option String) (jobId : String) (now : Instant) :
    Stateful.Run WarnedStore WorkbenchError (Option (SourceRunRow × SourceRunJobRow × Bool)) :=
  transaction (startBody user sessionId sourceRunId idempotencyKey jobId now)

section Call

variable {idempotencyKey : Option String} {jobId : String} {now : Instant} {run : SourceRunRow}

theorem exec_startBody_of_unconnected
    (hrun : s.store.sourceRunForUser user sessionId sourceRunId = some run)
    (hunconnected : Unconnected s.store user run) :
    exec (startBody user sessionId sourceRunId idempotencyKey jobId now) s =
      (.error (.permissionError "liepin_connection_not_connected"), blockForLogin sourceRunId s) := by
  unfold startBody
  rw [Stateful.exec_bind, Stateful.exec_get]
  simp only [hrun, if_pos hunconnected]
  rfl

theorem startSourceRunJob_of_unconnected {store : WorkbenchStore}
    (hrun : store.sourceRunForUser user sessionId sourceRunId = some run)
    (hunconnected : Unconnected store user run) :
    WorkbenchStore.startSourceRunJob user sessionId sourceRunId idempotencyKey jobId now store =
      .error (.permissionError "liepin_connection_not_connected") := by
  unfold WorkbenchStore.startSourceRunJob
  simp only [hrun, WorkbenchStore.authStateForStart, hunconnected.1, hunconnected.2]
  rfl

theorem exec_startConnected_of_error {error : WorkbenchError}
    (h : WorkbenchStore.startSourceRunJob user sessionId sourceRunId idempotencyKey jobId now s.store =
      .error error) :
    exec (startConnected user sessionId sourceRunId idempotencyKey jobId now) s = (.error error, s) := by
  unfold startConnected
  rw [Stateful.exec_bind, Stateful.exec_get]
  simp only [h]
  rfl

theorem exec_startConnected_of_ok {store : WorkbenchStore}
    {answer : Option (SourceRunRow × SourceRunJobRow × Bool)}
    (h : WorkbenchStore.startSourceRunJob user sessionId sourceRunId idempotencyKey jobId now s.store =
      .ok (store, answer)) :
    exec (startConnected user sessionId sourceRunId idempotencyKey jobId now) s = (.ok answer,
      if isNew answer then { s with store }.warn sourceRunId none else { s with store }) := by
  unfold startConnected
  rw [Stateful.exec_bind, Stateful.exec_get]
  simp only [h]
  rfl

theorem exec_startBody_of_connected
    (hrun : s.store.sourceRunForUser user sessionId sourceRunId = some run)
    (hconnected : ¬Unconnected s.store user run) :
    exec (startBody user sessionId sourceRunId idempotencyKey jobId now) s =
      exec (startConnected user sessionId sourceRunId idempotencyKey jobId now) s := by
  unfold startBody
  rw [Stateful.exec_bind, Stateful.exec_get]
  simp only [hrun, if_neg hconnected]

theorem exec_startSourceRunJob :
    (exec (startSourceRunJob user sessionId sourceRunId idempotencyKey jobId now) s).1 =
        (WorkbenchStore.startSourceRunJob user sessionId sourceRunId idempotencyKey jobId now
          s.store).map (·.2) ∧
      ∀ store answer, WorkbenchStore.startSourceRunJob user sessionId sourceRunId idempotencyKey
          jobId now s.store = .ok (store, answer) →
        (exec (startSourceRunJob user sessionId sourceRunId idempotencyKey jobId now) s).2.store =
          store := by
  unfold startSourceRunJob
  cases hrun : s.store.sourceRunForUser user sessionId sourceRunId with
  | none =>
    have hbody : exec (startBody user sessionId sourceRunId idempotencyKey jobId now) s =
        (.ok none, s) := by
      unfold startBody
      rw [Stateful.exec_bind, Stateful.exec_get]
      simp only [hrun]
      rfl
    have hcall : WorkbenchStore.startSourceRunJob user sessionId sourceRunId idempotencyKey jobId now
        s.store = .ok (s.store, none) := by
      unfold WorkbenchStore.startSourceRunJob
      rw [hrun]
    rw [Stateful.exec_transaction_of_ok hbody, hcall]
    refine ⟨rfl, ?_⟩
    intro store answer hok
    cases hok
    rfl
  | some run =>
    by_cases hunconnected : Unconnected s.store user run
    · rw [Stateful.exec_transaction_of_error (exec_startBody_of_unconnected hrun hunconnected),
        startSourceRunJob_of_unconnected hrun hunconnected]
      refine ⟨rfl, ?_⟩
      intro store answer hok
      cases hok
    · cases hcall : WorkbenchStore.startSourceRunJob user sessionId sourceRunId idempotencyKey jobId
          now s.store with
      | error error =>
        have hbody := (exec_startBody_of_connected hrun hunconnected).trans
          (exec_startConnected_of_error hcall)
        rw [Stateful.exec_transaction_of_error hbody]
        refine ⟨rfl, ?_⟩
        intro store answer hok
        cases hok
      | ok left =>
        obtain ⟨store, answer⟩ := left
        have hbody := (exec_startBody_of_connected hrun hunconnected).trans
          (exec_startConnected_of_ok hcall)
        rw [Stateful.exec_transaction_of_ok hbody]
        refine ⟨rfl, ?_⟩
        intro store' answer' hok
        cases hok
        dsimp only
        split <;> rfl

theorem unconnected_of_refused
    (h : WorkbenchStore.startSourceRunJob user sessionId sourceRunId idempotencyKey jobId now
      s.store = .error (.permissionError "liepin_connection_not_connected")) :
    ∃ run, s.store.sourceRunForUser user sessionId sourceRunId = some run ∧
      Unconnected s.store user run := by
  unfold WorkbenchStore.startSourceRunJob at h
  split at h
  · cases h
  rename_i run hrun
  refine ⟨run, hrun, ?_⟩
  cases hauth : s.store.authStateForStart user run with
  | error error =>
    unfold WorkbenchStore.authStateForStart at hauth
    split at hauth
    · cases hauth
    rename_i hkind
    split at hauth
    · cases hauth
    · rename_i hconnected
      exact ⟨hkind, eq_false_of_ne_true hconnected⟩
  | ok authState =>
    rw [hauth] at h
    -- what else is raised says something else
    dsimp only [bind, Except.bind] at h
    split at h
    · cases h
    split at h
    · simp at h
    split at h
    · cases h
    split at h
    · cases h
    unfold insertOrRaise at h
    split at h
    · rename_i hinsert
      split at hinsert
      · cases hinsert
      · cases hinsert
        cases h
    · cases h

end Call

/-! ## 2. Runs that wait for a login -/

/-- The run is blocked until its user logs in, and says so. -/
def AwaitsLogin (s : WarnedStore) (sourceRunId : String) : Prop :=
  (∃ run, s.store.sourceRuns.lookup sourceRunId = some run ∧ run.status = .blocked ∧
    run.authState = .loginRequired) ∧
  s.warnings sourceRunId = some liepinBrowserLoginRequired

def RequeuedByLogin (store : WorkbenchStore) (user : WorkbenchUser) (sourceRunId : String) : Prop :=
  ∀ connectionId accountHash gate row store' answer, store.connectionOfUser user connectionId = some row →
    WorkbenchStore.markLiepinConnectionConnected user connectionId accountHash gate store =
      .ok (store', answer) →
    ∃ run, store'.sourceRuns.lookup sourceRunId = some run ∧ run.status = .queued

/-- The run is one that a refusal leaves alone: it is running, or it is over. -/
def LeftAlone (store : WorkbenchStore) (sourceRunId : String) : Prop :=
  ∃ run, store.sourceRuns.lookup sourceRunId = some run ∧
    (run.status = .running ∨ run.status.Terminal)

theorem AwaitsLogin.requeued {run : SourceRunRow} (h : s.AwaitsLogin sourceRunId)
    (hrun : s.store.sourceRunForUser user sessionId sourceRunId = some run)
    (hkind : run.sourceKind = .liepin) : RequeuedByLogin s.store user sourceRunId := by
  intro connectionId accountHash gate row store' answer hrow hok
  obtain ⟨run', hlookup', hblocked, hlogin⟩ := h.1
  obtain ⟨hlookup, hscope⟩ := Option.filter_eq_some_iff.mp hrun
  obtain ⟨-, hworkspace, huser, -⟩ := of_decide_eq_true hscope
  obtain rfl := Option.some.inj (hlookup.symm.trans hlookup')
  unfold WorkbenchStore.markLiepinConnectionConnected at hok
  simp only [hrow] at hok
  obtain ⟨rfl, -⟩ := Prod.mk.inj (Except.ok.inj hok)
  refine ⟨WorkbenchStore.requeueSourceRun run, ?_, rfl⟩
  show (s.store.sourceRuns.update _ WorkbenchStore.requeueSourceRun
    WorkbenchStore.requeueSourceRun_sourceRunId).lookup sourceRunId = _
  rw [Keyed.lookup_update, hlookup, Option.map_some, if_pos]
  simp [hworkspace, huser, hkind, hblocked, hlogin]

/-- A refusal of the run leaves it waiting for a login, which puts it back into the queue, unless
    it is one to leave alone. -/
def RefusalBlocks (s : WarnedStore) (user : WorkbenchUser) (sessionId sourceRunId : String)
    (idempotencyKey : Option String) (jobId : String) (now : Instant) : Prop :=
  ∀ s', exec (startSourceRunJob user sessionId sourceRunId idempotencyKey jobId now) s =
      (.error (.permissionError "liepin_connection_not_connected"), s') →
    LeftAlone s.store sourceRunId ∨
      (s'.AwaitsLogin sourceRunId ∧ RequeuedByLogin s'.store user sourceRunId)

/-- The call refuses the run for its connection. -/
def Refuses (s : WarnedStore) (user : WorkbenchUser) (sessionId sourceRunId : String) : Prop :=
  ∃ run, s.store.sourceRunForUser user sessionId sourceRunId = some run ∧
    Unconnected s.store user run

theorem refuses_of_raised {idempotencyKey : Option String} {jobId : String} {now : Instant}
    (h : exec (startSourceRunJob user sessionId sourceRunId idempotencyKey jobId now) s =
      (.error (.permissionError "liepin_connection_not_connected"), s')) :
    s.Refuses user sessionId sourceRunId := by
  have hanswer : Except.error (.permissionError "liepin_connection_not_connected") =
      (WorkbenchStore.startSourceRunJob user sessionId sourceRunId idempotencyKey jobId now
        s.store).map (·.2) := by
    rw [← exec_startSourceRunJob.1, h]
  apply unconnected_of_refused
  cases hcall : WorkbenchStore.startSourceRunJob user sessionId sourceRunId idempotencyKey jobId now
      s.store with
  | error error =>
    rw [hcall] at hanswer
    rw [Except.error.inj hanswer]
  | ok left =>
    rw [hcall] at hanswer
    cases hanswer

/-- **A refusal blocks its run** exactly if the run was to be left alone, or waited for a login
    already: what the call writes is undone by what it raises. -/
theorem refusalBlocks_iff (s : WarnedStore) (user : WorkbenchUser) (sessionId sourceRunId : String)
    (idempotencyKey : Option String) (jobId : String) (now : Instant) :
    s.RefusalBlocks user sessionId sourceRunId idempotencyKey jobId now ↔
      (s.Refuses user sessionId sourceRunId →
        LeftAlone s.store sourceRunId ∨ s.AwaitsLogin sourceRunId) := by
  constructor
  · intro h hrefuses
    obtain ⟨run, hrun, hunconnected⟩ := hrefuses
    have hraised : exec (startSourceRunJob user sessionId sourceRunId idempotencyKey jobId now) s =
        (.error (.permissionError "liepin_connection_not_connected"), s) :=
      Stateful.exec_transaction_of_error (exec_startBody_of_unconnected hrun hunconnected)
    rcases h s hraised with hleft | ⟨hawaits, -⟩
    · exact .inl hleft
    · exact .inr hawaits
  · intro h s' hraised
    obtain rfl := Stateful.unchanged_of_raised hraised
    obtain ⟨run, hrun, hunconnected⟩ := refuses_of_raised hraised
    rcases h ⟨run, hrun, hunconnected⟩ with hleft | hawaits
    · exact .inl hleft
    · exact .inr ⟨hawaits, hawaits.requeued hrun hunconnected.1⟩

end WarnedStore

namespace Workbench

open WarnedStore

/-- A session is made while its user is logged in, and then the user is not. -/
def loggedOut : List WorkbenchCall :=
  [.getOrCreateLiepinSourceConnection sampleUser "cx",
    .markLiepinConnectionConnectedWithoutSourceRuns sampleUser "cx" (some "account") none,
    .createWorkbenchSession sampleSession [(.liepin, "r")],
    .markLiepinConnectionLoginRequired sampleUser "cx" none]

theorem runs_loggedOut : Runs .ascii {} loggedOut :=
  runs_cons trivial (runs_cons trivial (runs_cons trivial (runs_cons trivial (runs_nil _))))

/-- The refused run stays queued, without a job, whatever its warnings. -/
theorem not_refusalBlocks :
    ¬∀ calls, Runs .ascii {} calls → ∀ warnings user sessionId sourceRunId idempotencyKey jobId now,
      RefusalBlocks ⟨(run .ascii {} calls).store, warnings⟩ user sessionId sourceRunId idempotencyKey
        jobId now := by
  intro h
  let s : WarnedStore := { store := (run .ascii {} loggedOut).store }
  have hstatus : (s.store.sourceRuns.lookup "r").map (·.status) = some .queued := by
    decide
  have hrefuses : s.Refuses sampleUser "s" "r" := by
    have hfound : (s.store.sourceRunForUser sampleUser "s" "r").map (·.sourceKind) =
        some .liepin := by
      decide
    have hconnection : (s.store.liepinConnectionForUser sampleUser).any
        (·.status = .connected) = false := by
      decide
    obtain ⟨run, hrun, hkind⟩ := Option.map_eq_some_iff.mp hfound
    exact ⟨run, hrun, hkind, hconnection⟩
  obtain ⟨run₀, hrun₀, hunconnected⟩ := hrefuses
  have hraised : exec (startSourceRunJob sampleUser "s" "r" none "j" 2) s =
      (.error (.permissionError "liepin_connection_not_connected"), s) :=
    Stateful.exec_transaction_of_error (exec_startBody_of_unconnected hrun₀ hunconnected)
  obtain ⟨queued, hqueued, hsame⟩ := Option.map_eq_some_iff.mp hstatus
  rcases h loggedOut runs_loggedOut _ sampleUser "s" "r" none "j" 2 s hraised with hleft | ⟨hawaits, -⟩
  · obtain ⟨run₁, hrun₁, hover⟩ := hleft
    obtain rfl := Option.some.inj (hqueued.symm.trans hrun₁)
    simp [hsame, SourceRunStatus.Terminal] at hover
  · obtain ⟨⟨run₁, hrun₁, hblocked, -⟩, -⟩ := hawaits
    obtain rfl := Option.some.inj (hqueued.symm.trans hrun₁)
    rw [hsame] at hblocked
    cases hblocked

end Workbench

end SeekTalent

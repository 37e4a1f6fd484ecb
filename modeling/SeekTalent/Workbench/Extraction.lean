import SeekTalent.Workbench.Approval

/-!
# Requirements that are extracted in the background

A thread of the runner prepares the triage of a session: it looks whether the triage has input,
asks a model for the requirements, and writes what comes back. The look and the write are two
transactions, and anything can be committed between them. What is committed by the user is safe
as long as it is not committed there, and as long as a look that finds no input finds a draft
that the user has not written (`run_safe_of_undisturbed`).
-/

namespace SeekTalent

open Stateful (Since since_snoc not_since_nil)

/-! ## 1. The runner -/

/-- How far a thread is: it is there, it waits for the requirements, or it is done and still
    lives. -/
inductive ExtractionPhase where
  | started
  | extracting
  | ending
  deriving DecidableEq

/-- A thread that executes `_execute_requirement_triage`. -/
structure ExtractionThread where
  user : WorkbenchUser
  phase : ExtractionPhase
  deriving DecidableEq

/-- The workbench, with what the runner knows of its threads. -/
structure TriageRunner where
  bench : Workbench := {}
  /-- The calls of `start_requirement_triage` that have found no input, and wait for the lock. -/
  requests : List (WorkbenchUser × String) := []
  /-- `_triage_threads`, as far as they are alive -/
  threads : String → Option ExtractionThread := fun _ => none

/-- The session is the user's, and its triage has no input. The reading reconciles expired jobs
    first, which is a transaction of its own. -/
def WorkbenchStore.lacksInput (store : WorkbenchStore) (user : WorkbenchUser) (sessionId : String) :
    Bool :=
  store.sessionExistsForUser user sessionId &&
    (store.triages.lookup sessionId).any fun triage => !triageHasInput triage

/-- What may happen next: any transaction of the workbench, or a step of the runner. -/
inductive TriageEvent where
  | call (call : WorkbenchCall)
  /-- `start_requirement_triage`, up to the lock -/
  | request (user : WorkbenchUser) (sessionId : String)
  /-- `start_requirement_triage`, under the lock -/
  | start (user : WorkbenchUser) (sessionId : String)
  /-- `_execute_requirement_triage`, up to the extraction -/
  | check (sessionId : String)
  /-- The extraction answers, or raises. -/
  | finish (sessionId : String) (extracted : Option TriageCriteria)
  | terminate (sessionId : String)

namespace TriageRunner

open WorkbenchStore

def setThread (runner : TriageRunner) (sessionId : String) (thread : Option ExtractionThread) :
    TriageRunner :=
  { runner with threads := Function.update runner.threads sessionId thread }

def writeExtracted (lib : WorkbenchLibrary) (bench : Workbench) (user : WorkbenchUser)
    (sessionId : String) : Option TriageCriteria → Workbench
  | none => bench
  | some criteria => bench.step lib (.updateRequirementTriage user sessionId criteria)

/-- One event; one that cannot happen changes nothing. -/
def step (lib : WorkbenchLibrary) (runner : TriageRunner) : TriageEvent → TriageRunner
  | .call call => { runner with bench := runner.bench.step lib call }
  | .request user sessionId =>
    if runner.bench.store.lacksInput user sessionId then
      { runner with requests := (user, sessionId) :: runner.requests }
    else runner
  | .start user sessionId =>
    if (user, sessionId) ∈ runner.requests then
      let runner := { runner with requests := runner.requests.erase (user, sessionId) }
      match runner.threads sessionId with
      | some _ => runner
      | none => runner.setThread sessionId (some ⟨user, .started⟩)
    else runner
  | .check sessionId =>
    match runner.threads sessionId with
    | some ⟨user, .started⟩ =>
      let lacks := runner.bench.store.lacksInput user sessionId
      runner.setThread sessionId (some ⟨user, if lacks then .extracting else .ending⟩)
    | _ => runner
  | .finish sessionId extracted =>
    match runner.threads sessionId with
    | some ⟨user, .extracting⟩ =>
      let bench := writeExtracted lib runner.bench user sessionId extracted
      { runner with bench }.setThread sessionId (some ⟨user, .ending⟩)
    | _ => runner
  | .terminate sessionId =>
    match runner.threads sessionId with
    | some ⟨_, .ending⟩ => runner.setThread sessionId none
    | _ => runner

def run (lib : WorkbenchLibrary) (events : List TriageEvent) : TriageRunner :=
  events.foldl (step lib) {}

/-! ## 2. What the user writes, and what replaces it -/

/-- The user's transaction edits the triage of the session, or approves it. -/
def Touches (sessionId : String) (runner : TriageRunner) : TriageEvent → Prop
  | .call call => Workbench.Edits sessionId runner.bench call ∨
      ∃ criteria, Workbench.Approves sessionId criteria runner.bench call
  | _ => False

def Starts (sessionId : String) (runner : TriageRunner) : TriageEvent → Prop
  | .start user id => id = sessionId ∧ (user, id) ∈ runner.requests ∧ runner.threads id = none
  | _ => False

/-- The thread of the session finds no input, and goes on to the extraction. -/
def Passes (sessionId : String) (runner : TriageRunner) : TriageEvent → Prop
  | .check id => id = sessionId ∧ ∃ user, runner.threads id = some ⟨user, .started⟩ ∧
      runner.bench.store.lacksInput user id = true
  | _ => False

def Replaces (sessionId : String) (runner : TriageRunner) : TriageEvent → Prop
  | .finish id extracted => id = sessionId ∧ ∃ user criteria, extracted = some criteria ∧
      runner.threads id = some ⟨user, .extracting⟩ ∧
      runner.bench.store.sessionExistsForUser user id = true
  | _ => False

/-- The thread of the session is between its look at the triage and its write. -/
def Extracting (runner : TriageRunner) (sessionId : String) : Prop :=
  ∃ user, runner.threads sessionId = some ⟨user, .extracting⟩

def Approved (runner : TriageRunner) (sessionId : String) : Prop :=
  ∃ triage, runner.bench.store.triages.lookup sessionId = some triage ∧ triage.status = .approved

def TouchedSinceStart (lib : WorkbenchLibrary) (sessionId : String) (events : List TriageEvent) :
    Prop :=
  Since (step lib) {} (Touches sessionId) (fun runner event => ¬Starts sessionId runner event) events

/-- Nothing that is extracted replaces a triage that the user has edited or approved since the
    thread was started, or that is approved. -/
def Safe (lib : WorkbenchLibrary) (events : List TriageEvent) : Prop :=
  ∀ first event rest sessionId, events = first ++ event :: rest →
    Replaces sessionId (run lib first) event →
    ¬TouchedSinceStart lib sessionId first ∧ ¬(run lib first).Approved sessionId

/-- The event is a commit of the user between a thread's look and its write, or a look that
    finds no input in a triage that the user has touched since the start, or approved. -/
def Disturbs (lib : WorkbenchLibrary) (events : List TriageEvent) (sessionId : String)
    (event : TriageEvent) : Prop :=
  Touches sessionId (run lib events) event ∧ (run lib events).Extracting sessionId ∨
  Passes sessionId (run lib events) event ∧
    (TouchedSinceStart lib sessionId events ∨ (run lib events).Approved sessionId)

def Undisturbed (lib : WorkbenchLibrary) (events : List TriageEvent) : Prop :=
  ∀ first event rest, events = first ++ event :: rest →
    ∀ sessionId, ¬Disturbs lib first sessionId event

/-! ## 3. What one event does -/

variable {lib : WorkbenchLibrary} {runner : TriageRunner} {events : List TriageEvent}
variable {event : TriageEvent} {sessionId id : String}

theorem run_snoc : run lib (events ++ [event]) = step lib (run lib events) event := by
  simp [run]

theorem threads_setThread {thread : Option ExtractionThread} :
    (runner.setThread sessionId thread).threads id =
      if id = sessionId then thread else runner.threads id := by
  simp [setThread, Function.update_apply]

@[simp] theorem bench_setThread {thread : Option ExtractionThread} :
    (runner.setThread sessionId thread).bench = runner.bench := rfl

/-- **The bench moves by transactions**: those of the users and workers, and the updates of
    threads that have something to write. -/
theorem step_bench (lib : WorkbenchLibrary) (runner : TriageRunner) (event : TriageEvent) :
    (step lib runner event).bench = runner.bench ∨
    (∃ call, event = .call call ∧ (step lib runner event).bench = runner.bench.step lib call) ∨
    ∃ user id criteria, event = .finish id (some criteria) ∧
      runner.threads id = some ⟨user, .extracting⟩ ∧
      (step lib runner event).bench =
        runner.bench.step lib (.updateRequirementTriage user id criteria) := by
  cases event with
  | call call => exact .inr (.inl ⟨call, rfl, rfl⟩)
  | request user id =>
    left
    unfold step
    dsimp only
    split <;> rfl
  | start user id =>
    left
    unfold step
    dsimp only
    split
    · split <;> rfl
    · rfl
  | check id =>
    left
    unfold step
    dsimp only
    split <;> rfl
  | finish id extracted =>
    cases hthread : runner.threads id with
    | none =>
      left
      simp [step, hthread]
    | some thread =>
      obtain ⟨user, phase⟩ := thread
      cases phase with
      | extracting =>
        cases extracted with
        | none =>
          left
          simp [step, hthread, writeExtracted]
        | some criteria =>
          refine .inr (.inr ⟨user, id, criteria, rfl, hthread, ?_⟩)
          simp [step, hthread, writeExtracted]
      | _ =>
        left
        simp [step, hthread]
  | terminate id =>
    left
    unfold step
    dsimp only
    split <;> rfl

/-- **Who extracts after an event**: the threads that did, and one that has just looked. -/
theorem step_extracting {user : WorkbenchUser}
    (h : (step lib runner event).threads sessionId = some ⟨user, .extracting⟩) :
    runner.threads sessionId = some ⟨user, .extracting⟩ ∧
      (∀ extracted, event ≠ .finish sessionId extracted) ∨
    Passes sessionId runner event ∧ runner.bench.store.sessionExistsForUser user sessionId = true ∧
      (step lib runner event).bench = runner.bench := by
  cases event with
  | call call => exact .inl ⟨h, fun _ => by simp⟩
  | request user' id =>
    left
    refine ⟨?_, fun _ => by simp⟩
    unfold step at h
    dsimp only at h
    split at h <;> exact h
  | start user' id =>
    left
    refine ⟨?_, fun _ => by simp⟩
    unfold step at h
    dsimp only at h
    split at h
    · split at h
      · exact h
      · rw [threads_setThread] at h
        split at h
        · cases h
        · exact h
    · exact h
  | check id =>
    unfold step at h ⊢
    dsimp only at h ⊢
    split at h
    · rename_i user' hthread
      rw [threads_setThread] at h
      split at h
      · rename_i hid
        subst hid
        right
        cases hlacks : runner.bench.store.lacksInput user' sessionId with
        | false =>
          rw [hlacks] at h
          cases h
        | true =>
          rw [hlacks] at h
          cases h
          refine ⟨⟨rfl, _, hthread, hlacks⟩, ?_, rfl⟩
          exact (Bool.and_eq_true_iff.mp hlacks).1
      · exact .inl ⟨h, fun _ => by simp⟩
    · exact .inl ⟨h, fun _ => by simp⟩
  | finish id extracted =>
    left
    unfold step at h
    dsimp only at h
    split at h
    · rename_i user' hthread
      rw [threads_setThread] at h
      split at h
      · cases h
      · rename_i hid
        refine ⟨h, ?_⟩
        intro _ hevent
        cases hevent
        exact hid rfl
    · rename_i hthread
      refine ⟨h, ?_⟩
      intro _ hevent
      cases hevent
      exact hthread user h
  | terminate id =>
    left
    refine ⟨?_, fun _ => by simp⟩
    unfold step at h
    dsimp only at h
    split at h
    · rw [threads_setThread] at h
      split at h
      · cases h
      · exact h
    · exact h

theorem step_triageOwned (h : runner.bench.store.TriageOwned) :
    (step lib runner event).bench.store.TriageOwned := by
  rcases step_bench lib runner event with hsame | ⟨call, -, hcall⟩ |
    ⟨user, id, criteria, -, -, hcall⟩
  · rw [hsame]
    exact h
  · rw [hcall]
    exact Workbench.step_owned h
  · rw [hcall]
    exact Workbench.step_owned h

theorem sessionExistsForUser_step {bench : Workbench} {call : WorkbenchCall} {user : WorkbenchUser}
    (h : bench.store.sessionExistsForUser user sessionId = true) :
    (bench.step lib call).store.sessionExistsForUser user sessionId = true := by
  unfold sessionExistsForUser at h ⊢
  obtain ⟨session, hsession, howner⟩ := (Option.any_eq_true ..).mp h
  rw [Workbench.step_session hsession]
  exact howner

theorem not_approved_step {call : WorkbenchCall} {bench : Workbench} {triage : RequirementTriageRow}
    (howned : bench.store.TriageOwned)
    (happroves : ∀ criteria, ¬Workbench.Approves sessionId criteria bench call)
    (h : ∀ triage, bench.store.triages.lookup sessionId = some triage → triage.status ≠ .approved)
    (htriage : (bench.step lib call).store.triages.lookup sessionId = some triage) :
    triage.status ≠ .approved := by
  cases hbefore : bench.store.triages.lookup sessionId with
  | none =>
    rw [Workbench.step_triage_new hbefore htriage]
    simp
  | some before =>
    obtain ⟨moved, hmoved, hmove⟩ := Workbench.step_triage lib call howned hbefore
    obtain rfl := Option.some.inj (htriage.symm.trans hmoved)
    cases hmove with
    | kept => exact h _ hbefore
    | edited _ hdraft =>
      rw [hdraft]
      simp
    | approved happroved => exact absurd happroved (happroves _)

theorem not_approved_event (howned : runner.bench.store.TriageOwned)
    (htouches : ¬Touches sessionId runner event) (h : ¬runner.Approved sessionId) :
    ¬(step lib runner event).Approved sessionId := by
  have hbefore : ∀ triage, runner.bench.store.triages.lookup sessionId = some triage →
      triage.status ≠ .approved := by
    intro triage htriage happroved
    exact h ⟨triage, htriage, happroved⟩
  intro happroved
  obtain ⟨triage, htriage, happroved⟩ := happroved
  revert happroved
  rcases step_bench lib runner event with hsame | ⟨call, rfl, hcall⟩ | ⟨user, id, criteria, -, -, hcall⟩
  · rw [hsame] at htriage
    exact hbefore triage htriage
  · rw [hcall] at htriage
    refine not_approved_step howned ?_ hbefore htriage
    intro criteria happroves
    exact htouches (.inr ⟨criteria, happroves⟩)
  · rw [hcall] at htriage
    refine not_approved_step howned ?_ hbefore htriage
    intro _ happroves
    exact happroves

/-! ## 4. Every run -/

structure Sound (lib : WorkbenchLibrary) (events : List TriageEvent) : Prop where
  owned : (run lib events).bench.store.TriageOwned
  exists_of_extracting : ∀ sessionId user,
    (run lib events).threads sessionId = some ⟨user, .extracting⟩ →
    (run lib events).bench.store.sessionExistsForUser user sessionId = true

theorem run_sound (lib : WorkbenchLibrary) (events : List TriageEvent) : Sound lib events := by
  induction events using List.reverseRecOn with
  | nil =>
    refine ⟨?_, ?_⟩
    · intro id session hsession
      cases hsession
    · intro sessionId user hthread
      cases hthread
  | append_singleton events event ih =>
    refine ⟨?_, ?_⟩
    · rw [run_snoc]
      exact step_triageOwned ih.owned
    · intro sessionId user hthread
      rw [run_snoc] at hthread ⊢
      rcases step_extracting hthread with ⟨hbefore, -⟩ | ⟨-, hexists, hbench⟩
      · have hexists := ih.exists_of_extracting sessionId user hbefore
        rcases step_bench lib (run lib events) event with hsame |
          ⟨call, -, hcall⟩ | ⟨_, _, _, -, -, hcall⟩
        · rw [hsame]
          exact hexists
        · rw [hcall]
          exact sessionExistsForUser_step hexists
        · rw [hcall]
          exact sessionExistsForUser_step hexists
      · rw [hbench]
        exact hexists

theorem Undisturbed.snoc (h : Undisturbed lib (events ++ [event])) :
    Undisturbed lib events ∧ ∀ sessionId, ¬Disturbs lib events sessionId event := by
  constructor
  · intro first next rest hevents
    exact h first next (rest ++ [event]) (by simp [hevents])
  · exact h events event [] rfl

theorem not_touches_of_passes (h : Passes sessionId runner event) :
    ¬Touches sessionId runner event := by
  cases event with
  | check => exact id
  | _ => exact absurd h id

/-- **What extracts in an undisturbed run** is about a draft that the user has not touched. -/
theorem run_untouched (h : Undisturbed lib events)
    (hextracting : (run lib events).Extracting sessionId) :
    ¬TouchedSinceStart lib sessionId events ∧ ¬(run lib events).Approved sessionId := by
  obtain ⟨user, hthread⟩ := hextracting
  induction events using List.reverseRecOn generalizing user with
  | nil => cases hthread
  | append_singleton events event ih =>
    obtain ⟨hevents, hundisturbed⟩ := h.snoc
    have howned := (run_sound lib events).owned
    rw [run_snoc] at hthread ⊢
    rcases step_extracting hthread with ⟨hbefore, hevent⟩ | ⟨hpasses, -, hbench⟩
    · -- the thread has looked before: the event does not touch the triage
      obtain ⟨huntouched, hunapproved⟩ := ih hevents user hbefore
      have htouches : ¬Touches sessionId (run lib events) event := by
        intro htouches
        exact hundisturbed sessionId (.inl ⟨htouches, user, hbefore⟩)
      refine ⟨?_, ?_⟩
      · intro htouched
        rcases since_snoc.mp htouched with htouched | ⟨htouched, -⟩
        · exact htouches htouched
        · exact huntouched htouched
      · exact not_approved_event howned htouches hunapproved
    · -- the thread has just looked
      have hguard := hundisturbed sessionId
      refine ⟨?_, ?_⟩
      · intro htouched
        rcases since_snoc.mp htouched with htouched | ⟨htouched, -⟩
        · exact not_touches_of_passes hpasses htouched
        · exact hguard (.inr ⟨hpasses, .inl htouched⟩)
      · intro happroved
        apply hguard
        unfold Approved at happroved
        rw [hbench] at happroved
        exact .inr ⟨hpasses, .inr happroved⟩

theorem safe_of_undisturbed (h : Undisturbed lib events) : Safe lib events := by
  intro first event rest sessionId hevents hreplaces
  have hfirst : Undisturbed lib first := by
    intro before next after hsplit
    exact h before next (after ++ event :: rest) (by simp [hevents, hsplit])
  cases event with
  | finish id extracted =>
    obtain ⟨rfl, user, criteria, -, hthread, -⟩ := hreplaces
    exact run_untouched hfirst ⟨user, hthread⟩
  | _ => exact absurd hreplaces id

theorem undisturbed_of_untouched (h : ∀ first event rest, events = first ++ event :: rest →
    ∀ sessionId, ¬Touches sessionId (run lib first) event) : Undisturbed lib events := by
  have hbegin : ∀ first rest, events = first ++ rest → ∀ sessionId,
      ¬TouchedSinceStart lib sessionId first ∧ ¬(run lib first).Approved sessionId := by
    intro first
    induction first using List.reverseRecOn with
    | nil =>
      intro rest _ sessionId
      refine ⟨not_since_nil, ?_⟩
      intro happroved
      obtain ⟨triage, htriage, -⟩ := happroved
      cases htriage
    | append_singleton first event ih =>
      intro rest hevents sessionId
      rw [List.append_assoc, List.singleton_append] at hevents
      obtain ⟨huntouched, hunapproved⟩ := ih _ hevents sessionId
      have htouches := h first event rest hevents sessionId
      refine ⟨?_, ?_⟩
      · intro htouched
        rcases since_snoc.mp htouched with htouched | ⟨htouched, -⟩
        · exact htouches htouched
        · exact huntouched htouched
      · rw [run_snoc]
        exact not_approved_event (run_sound lib first).owned htouches hunapproved
  intro first event rest hevents sessionId hdisturbs
  obtain ⟨huntouched, hunapproved⟩ := hbegin first (event :: rest) hevents sessionId
  rcases hdisturbs with ⟨htouches, -⟩ | ⟨-, htouched | happroved⟩
  · exact h first event rest hevents sessionId htouches
  · exact huntouched htouched
  · exact hunapproved happroved

theorem not_safe_of_disturbs (h : Disturbs lib events sessionId event) (criteria : TriageCriteria) :
    ¬Safe lib (events ++ [event, .finish sessionId (some criteria)]) := by
  have hafter : ∃ user, (step lib (run lib events) event).threads sessionId =
      some ⟨user, .extracting⟩ ∧ (TouchedSinceStart lib sessionId (events ++ [event]) ∨
        (step lib (run lib events) event).Approved sessionId) := by
    rcases h with ⟨htouches, user, hthread⟩ | ⟨hpasses, htouched⟩
    · refine ⟨user, ?_, .inl (since_snoc.mpr (.inl htouches))⟩
      cases event with
      | call call => exact hthread
      | _ => exact absurd htouches id
    · cases event with
      | check id =>
        obtain ⟨rfl, user, hthread, hlacks⟩ := hpasses
        refine ⟨user, by simp [step, hthread, hlacks, threads_setThread], ?_⟩
        rcases htouched with htouched | ⟨triage, htriage, happroved⟩
        · exact .inl (since_snoc.mpr (.inr ⟨htouched, fun h => h⟩))
        · right
          refine ⟨triage, ?_, happroved⟩
          simp [step, hthread, htriage]
      | _ => exact absurd hpasses id
  obtain ⟨user, hthread, htouched⟩ := hafter
  intro hsafe
  rw [← run_snoc] at hthread htouched
  have hexists := (run_sound lib (events ++ [event])).exists_of_extracting sessionId user hthread
  have hreplaces : Replaces sessionId (run lib (events ++ [event]))
      (.finish sessionId (some criteria)) := ⟨rfl, user, criteria, rfl, hthread, hexists⟩
  obtain ⟨huntouched, hunapproved⟩ := hsafe (events ++ [event]) _ [] sessionId (by simp) hreplaces
  rcases htouched with htouched | happroved
  · exact huntouched htouched
  · exact hunapproved happroved

/-- **When what is extracted is safe**: in every undisturbed run nothing that the user has written
    or approved is replaced; and a disturbance is all it takes, for where one happens the
    extraction has only to come to its end. -/
theorem run_safe_of_undisturbed :
    (∀ events, Undisturbed lib events → Safe lib events) ∧
    ∀ events event sessionId, Disturbs lib events sessionId event →
      ∀ criteria, ¬Safe lib (events ++ [event, .finish sessionId (some criteria)]) :=
  ⟨fun _ => safe_of_undisturbed, fun _ _ _ => not_safe_of_disturbs⟩

/-- A thread that looks at the new session's triage. -/
def sampleEvents : List TriageEvent :=
  [.call (.createWorkbenchSession sampleSession [(.cts, "r")]), .request sampleUser "s",
    .start sampleUser "s", .check "s"]

theorem extracting_sampleEvents : (run .ascii sampleEvents).Extracting "s" :=
  ⟨sampleUser, by decide⟩

/-- What is extracted is written, as the user has not touched the triage. -/
theorem run_safe_of_undisturbed_sample :
    Safe .ascii (sampleEvents ++ [.finish "s" (some sampleCriteria)]) := by
  apply run_safe_of_undisturbed.1
  apply undisturbed_of_untouched
  intro first event rest hevents sessionId htouches
  have hmem : event ∈ sampleEvents ++ [.finish "s" (some sampleCriteria)] := by
    rw [hevents]
    simp
  cases event with
  | call call =>
    cases call with
    | createWorkbenchSession => simp [Touches, Workbench.Edits, Workbench.Approves] at htouches
    | _ => simp [sampleEvents] at hmem
  | _ => exact htouches

/-- The user writes what is wanted while it is being extracted. -/
theorem not_safe_sampleEvents : ¬∀ events, Safe .ascii events := by
  intro h
  have hdisturbs : Disturbs .ascii sampleEvents "s"
      (.call (.updateRequirementTriage sampleUser "s" sampleCriteria)) :=
    .inl ⟨.inl ⟨rfl, by decide⟩, extracting_sampleEvents⟩
  exact not_safe_of_disturbs hdisturbs { mustHaves := ["Go"] } (h _)

end TriageRunner

end SeekTalent

import SeekTalent.Base.JobLog

/-!
# The browser tools of the agent

Each tool call of the extension runs a helper process, and several may run at once. What may be
done next is kept in four variables of the module, which are changed when a call is made and again
when its helper ends. A page is changed only after it has been looked at: `stateReady`. The
variable says that a look has *ended* since the last change was *begun*; that nothing was changing
while the page was looked at holds only if the two take turns (`extension_guarded`).
-/

namespace SeekTalent

namespace PiAgent

inductive BrowserAction where
  | status
  | capabilities
  | searchCards
  | openLiepinTab
  | state
  | getUrl
  | find
  | fill
  | click
  | scroll
  | waitTime
  deriving DecidableEq

namespace BrowserAction

/-- `MUTATING_ACTIONS` -/
def Mutating (action : BrowserAction) : Prop := action ∈ [fill, click, scroll]

def BeginsTask (action : BrowserAction) : Prop := action ∈ [openLiepinTab, searchCards]

def Counted (action : BrowserAction) : Prop := action ∉ [status, capabilities, searchCards]

def EndsWithPage (action : BrowserAction) : Prop :=
  action ∉ [status, capabilities, state, getUrl, searchCards]

def Changes (action : BrowserAction) : Prop := action.Mutating ∨ action.BeginsTask

instance (action : BrowserAction) : Decidable action.Mutating := inferInstanceAs (Decidable (_ ∈ _))

instance (action : BrowserAction) : Decidable action.BeginsTask := inferInstanceAs (Decidable (_ ∈ _))

instance (action : BrowserAction) : Decidable action.Counted := inferInstanceAs (Decidable (_ ∉ _))

instance (action : BrowserAction) : Decidable action.EndsWithPage :=
  inferInstanceAs (Decidable (_ ∉ _))

instance (action : BrowserAction) : Decidable action.Changes := inferInstanceAs (Decidable (_ ∨ _))

end BrowserAction

open BrowserAction

/-! ## 1. The extension -/

structure ExtensionState where
  actionCount : Nat := 0
  terminalReason : Option String := none
  stateReady : Bool := false
  allowedClickRefs : List String := []

/-- What `JSON.parse` makes of the text of a helper: it throws, or it is `null`, or a value of
    which the members are read. -/
inductive HelperText where
  | malformed
  | null
  | value (ok terminal : Bool) (safeReasonCode : Option String)
      (allowedClickRefs : Option (List String))
  deriving DecidableEq

def HelperText.Fresh : HelperText → Prop
  | .value true false _ _ => True
  | _ => False

/-- What a call that starts no helper is answered, apart from the counts and the manifest of
    capabilities. -/
structure ToolRefusal where
  ok : Bool
  action : BrowserAction
  safeReasonCode : String
  safeMessage : Option String := none

/-- How a call goes on: it is answered, or a helper is started, which is told the allowed refs if
    it is to click. -/
inductive Dispatch where
  | answered (payload : ToolRefusal)
  | spawned (allowedClickRefs : Option (List String))

/-- What `updateStateFromPayload` does for a helper that has opened the tab. -/
def updateAfterOpen (s : ExtensionState) : ExtensionState :=
  { s with stateReady := false, terminalReason := none, allowedClickRefs := [] }

/-- What `updateStateFromPayload` does where something is thrown. -/
def updateAfterThrow (s : ExtensionState) : ExtensionState :=
  { s with stateReady := false, allowedClickRefs := [] }

def updateStateFromPayload (action : BrowserAction) (text : HelperText) (s : ExtensionState) :
    ExtensionState :=
  match text with
  | .malformed => updateAfterThrow s
  | .null =>
    if action = .openLiepinTab then updateAfterOpen s
    -- a member of `null` is read
    else if action = .state then updateAfterThrow s
    else s
  | .value ok terminal safeReasonCode allowedClickRefs =>
    if action = .openLiepinTab then updateAfterOpen s
    else if action = .state then
      { s with
        stateReady := ok && !terminal
        terminalReason := if terminal then safeReasonCode else none
        allowedClickRefs := if ok then allowedClickRefs.getD [] else [] }
    else s

/-- The start of `runAction`: a task that begins forgets the one before. -/
def beginTask (action : BrowserAction) (s : ExtensionState) : ExtensionState :=
  if action.BeginsTask then {} else s

def endedBy (action : BrowserAction) (s : ExtensionState) : Option String :=
  if action.EndsWithPage then s.terminalReason.filter (· ≠ "") else none

def countAction (action : BrowserAction) (s : ExtensionState) : ExtensionState :=
  if action.Counted then { s with actionCount := s.actionCount + 1 } else s

/-- What a call that changes the page makes of the last look at it. -/
def spend (action : BrowserAction) (s : ExtensionState) : ExtensionState :=
  if action.Mutating then
    { s with
      stateReady := false
      allowedClickRefs := if action = .click then s.allowedClickRefs else [] }
  else s

/-- `runAction`, up to the start of the helper. -/
def runAction (maxActions : Nat) (action : BrowserAction) (s : ExtensionState) :
    ExtensionState × Dispatch :=
  if action = .capabilities then (s, .answered ⟨true, action, "configured", none⟩)
  else
    let s := beginTask action s
    match endedBy action s with
    | some reason => (s, .answered ⟨false, action, reason, none⟩)
    | none =>
      if action.Mutating ∧ s.stateReady = false then
        (s, .answered ⟨false, action, "liepin_opencli_malformed_state",
          some "requires a fresh non-terminal state"⟩)
      else
        let s := countAction action s
        if action.Counted ∧ maxActions < s.actionCount then
          (s, .answered ⟨false, action, "liepin_opencli_budget_exhausted", none⟩)
        else
          let s := spend action s
          (s, .spawned (if action = .click then some s.allowedClickRefs else none))

/-! ## 2. Calls and helpers, interleaved -/

/-- A helper starts, or ends with a text: its own, or that of a timeout or another failure. -/
abbrev HelperLog := List (JobEntry BrowserAction HelperText)

structure ExtensionProcess where
  state : ExtensionState := {}
  helpers : Nat := 0
  log : HelperLog := []

/-- A tool is called, or a helper ends. -/
inductive ExtensionEvent where
  | call (action : BrowserAction)
  | ended (helper : Nat) (text : HelperText)

namespace ExtensionProcess

/-- One turn of the event loop. A helper that has ended is `settled`: its later events are
    ignored. -/
def step (maxActions : Nat) (process : ExtensionProcess) : ExtensionEvent → ExtensionProcess
  | .call action =>
    match runAction maxActions action process.state with
    | (state, .answered _) => { process with state }
    | (state, .spawned _) =>
      { state
        helpers := process.helpers + 1
        log := process.log ++ [.started process.helpers action] }
  | .ended helper text =>
    match JobLog.jobOf process.log helper with
    | none => process
    | some action =>
      if JobLog.hasFinished process.log helper then process
      else
        { process with
          state := updateStateFromPayload action text process.state
          log := process.log ++ [.finished helper text] }

def run (maxActions : Nat) (process : ExtensionProcess) (events : List ExtensionEvent) :
    ExtensionProcess :=
  events.foldl (step maxActions) process

end ExtensionProcess

/-! ## 3. What a call does -/

section Calls

variable {maxActions : Nat} {action : BrowserAction} {s s' : ExtensionState} {text : HelperText}

theorem BrowserAction.Mutating.not_beginsTask (h : action.Mutating) : ¬action.BeginsTask := by
  intro hbegins
  simp only [Mutating, BeginsTask, List.mem_cons, List.not_mem_nil, or_false] at h hbegins
  rcases hbegins with rfl | rfl <;> simp at h

@[simp] theorem beginTask_stateReady : (beginTask action s).stateReady = true ↔
    s.stateReady = true ∧ ¬action.BeginsTask := by
  unfold beginTask
  split
  · rename_i hbegins
    simp [hbegins]
  · rename_i hbegins
    simp [hbegins]

@[simp] theorem beginTask_actionCount : (beginTask action s).actionCount =
    if action.BeginsTask then 0 else s.actionCount := by
  unfold beginTask
  split
  · rfl
  · rfl

@[simp] theorem countAction_stateReady : (countAction action s).stateReady = s.stateReady := by
  unfold countAction
  split
  · rfl
  · rfl

@[simp] theorem countAction_actionCount : (countAction action s).actionCount =
    s.actionCount + if action.Counted then 1 else 0 := by
  unfold countAction
  split
  · rfl
  · rfl

@[simp] theorem spend_stateReady : (spend action s).stateReady = true ↔
    s.stateReady = true ∧ ¬action.Mutating := by
  unfold spend
  split
  · rename_i hmutating
    simp [hmutating]
  · rename_i hmutating
    simp [hmutating]

@[simp] theorem spend_actionCount : (spend action s).actionCount = s.actionCount := by
  unfold spend
  split
  · rfl
  · rfl

theorem endedBy_beginTask (hbegins : action.BeginsTask) : endedBy action (beginTask action s) = none := by
  unfold endedBy beginTask
  rw [if_pos hbegins]
  simp

/-- **A call that is answered at once** makes nothing ready, and starts to count anew only where
    nothing may be done at all. -/
theorem runAction_answered {payload : ToolRefusal}
    (h : runAction maxActions action s = (s', .answered payload)) :
    (s'.stateReady = true → s.stateReady = true) ∧
      (s.actionCount ≤ s'.actionCount ∨ maxActions = 0) := by
  unfold runAction at h
  split at h
  · cases h
    exact ⟨id, .inl (Nat.le_refl _)⟩
  dsimp only at h
  split at h
  · rename_i reason hended
    cases h
    refine ⟨fun hready => (beginTask_stateReady.mp hready).1, .inl ?_⟩
    have hbegins : ¬action.BeginsTask := by
      intro hbegins
      rw [endedBy_beginTask hbegins] at hended
      cases hended
    simp [hbegins]
  · split at h
    · rename_i hrefused
      cases h
      refine ⟨fun hready => (beginTask_stateReady.mp hready).1, .inl ?_⟩
      simp [hrefused.1.not_beginsTask]
    · split at h
      · rename_i hexhausted
        cases h
        obtain ⟨hcounted, hmax⟩ := hexhausted
        rw [countAction_actionCount, beginTask_actionCount] at hmax
        constructor
        · intro hready
          rw [countAction_stateReady] at hready
          exact (beginTask_stateReady.mp hready).1
        · rw [countAction_actionCount, beginTask_actionCount]
          split
          · rename_i hbegins
            rw [if_pos hbegins, if_pos hcounted] at hmax
            exact .inr (by omega)
          · exact .inl (Nat.le_add_right _ _)
      · cases h

structure Spawns (maxActions : Nat) (action : BrowserAction) (s s' : ExtensionState) : Prop where
  ready : action.Mutating → s.stateReady = true
  kept : s'.stateReady = true → s.stateReady = true ∧ ¬action.Changes
  count : s'.actionCount = (if action.BeginsTask then 0 else s.actionCount) +
    if action.Counted then 1 else 0
  budget : action.Counted → s'.actionCount ≤ maxActions

theorem runAction_spawned {allowedClickRefs : Option (List String)}
    (h : runAction maxActions action s = (s', .spawned allowedClickRefs)) :
    Spawns maxActions action s s' := by
  unfold runAction at h
  split at h
  · cases h
  dsimp only at h
  split at h
  · cases h
  · split at h
    · cases h
    rename_i hready
    split at h
    · cases h
    rename_i hbudget
    cases h
    refine ⟨?_, ?_, ?_, ?_⟩
    · intro hmutating
      by_contra hstale
      apply hready
      refine ⟨hmutating, ?_⟩
      rw [Bool.eq_false_iff]
      intro hbegun
      exact hstale (beginTask_stateReady.mp hbegun).1
    · intro hkept
      obtain ⟨hkept, hmutating⟩ := spend_stateReady.mp hkept
      rw [countAction_stateReady] at hkept
      obtain ⟨hkept, hbegins⟩ := beginTask_stateReady.mp hkept
      refine ⟨hkept, ?_⟩
      intro hchanges
      rcases hchanges with h | h
      · exact hmutating h
      · exact hbegins h
    · rw [spend_actionCount, countAction_actionCount, beginTask_actionCount]
    · intro hcounted
      rw [spend_actionCount]
      exact Nat.le_of_not_lt fun hmax => hbudget ⟨hcounted, hmax⟩

/-- **Only a look makes ready**: a state call whose helper has seen a page that is not terminal. -/
theorem update_stateReady (h : (updateStateFromPayload action text s).stateReady = true) :
    (action = .state ∧ text.Fresh) ∨ s.stateReady = true := by
  unfold updateStateFromPayload at h
  split at h
  · cases h
  · split at h
    · cases h
    · split at h
      · cases h
      · exact .inr h
  · split at h
    · cases h
    · split at h
      · rename_i ok terminal _ _ _ hstate
        refine .inl ⟨hstate, ?_⟩
        cases ok <;> cases terminal <;> simp_all [HelperText.Fresh]
      · exact .inr h

theorem update_actionCount : (updateStateFromPayload action text s).actionCount = s.actionCount := by
  unfold updateStateFromPayload
  split
  · rfl
  · split
    · rfl
    · split
      · rfl
      · rfl
  · split
    · rfl
    · split
      · rfl
      · rfl

end Calls

/-! ## 4. What a log shows -/

def countedStart : JobEntry BrowserAction HelperText → Bool
  | .started _ action => action.Counted
  | .finished _ _ => false

def taskStart : JobEntry BrowserAction HelperText → Bool
  | .started _ action => action.BeginsTask
  | .finished _ _ => false

/-- Before each helper that changes the page, a look at the page was *begun* after all that may
    have changed it had ended. -/
def LookedBetween (log : HelperLog) : Prop :=
  ∀ before helper action after, log = before ++ .started helper action :: after → action.Mutating →
    ∃ first look middle text, before = first ++ .started look .state :: middle ∧
      text.Fresh ∧ .finished look text ∈ middle ∧
      ∀ helper' action', .started helper' action' ∈ before → action'.Changes →
        ∃ text', .finished helper' text' ∈ first

def LookEnded (log : HelperLog) : Prop :=
  ∃ first look text middle, log = first ++ .finished look text :: middle ∧ text.Fresh ∧
    .started look .state ∈ first ∧
    ∀ helper action, .started helper action ∈ middle → ¬action.Changes

/-- Before each helper that changes the page, a look at it has ended. -/
def LookedBefore (log : HelperLog) : Prop :=
  ∀ before helper action after, log = before ++ .started helper action :: after → action.Mutating →
    LookEnded before

/-- Between two starts of helpers that begin a task, at most `maxActions` helpers that count are
    started, the first of the two included. -/
def BudgetPerTask (maxActions : Nat) (log : HelperLog) : Prop :=
  ∀ first task rest, log = first ++ task ++ rest →
    (∀ entry ∈ task.tail, taskStart entry = false) → task.countP countedStart ≤ maxActions

def LooksTakeTurns (log : HelperLog) : Prop :=
  JobLog.TakeTurns log (fun action => action = .state) Changes

def countEntry (count : Nat) (entry : JobEntry BrowserAction HelperText) : Nat :=
  (if taskStart entry then 0 else count) + (if countedStart entry then 1 else 0)

def sinceTask (log : HelperLog) : Nat := log.foldl countEntry 0

theorem sinceTask_snoc (log : HelperLog) (entry : JobEntry BrowserAction HelperText) :
    sinceTask (log ++ [entry]) = countEntry (sinceTask log) entry := by
  simp [sinceTask]

theorem le_countEntry {count : Nat} {entry : JobEntry BrowserAction HelperText}
    (h : taskStart entry = false) :
    countEntry count entry = count + if countedStart entry then 1 else 0 := by
  simp [countEntry, h]

theorem countP_le_sinceTask {first task : HelperLog}
    (htask : ∀ entry ∈ task.tail, taskStart entry = false) :
    task.countP countedStart ≤ sinceTask (first ++ task) := by
  induction task using List.reverseRecOn with
  | nil => exact Nat.zero_le _
  | append_singleton task entry ih =>
    rw [← List.append_assoc, sinceTask_snoc, List.countP_append, List.countP_singleton]
    cases task with
    | nil =>
      rw [List.countP_nil, Nat.zero_add]
      exact Nat.le_add_left _ _
    | cons head task =>
      rw [le_countEntry (htask entry (by simp))]
      apply Nat.add_le_add_right
      apply ih
      intro entry' hentry'
      apply htask entry'
      exact List.mem_append_left _ hentry'

theorem budgetPerTask_of_sinceTask {maxActions : Nat} {log : HelperLog}
    (h : ∀ first rest, log = first ++ rest → sinceTask first ≤ maxActions) :
    BudgetPerTask maxActions log := by
  intro first task rest hlog htask
  exact Nat.le_trans (countP_le_sinceTask htask) (h (first ++ task) rest hlog)

theorem LookEnded.snoc {log : HelperLog} {entry : JobEntry BrowserAction HelperText} (h : LookEnded log)
    (hentry : ∀ helper action, entry = .started helper action → ¬action.Changes) :
    LookEnded (log ++ [entry]) := by
  obtain ⟨first, look, text, middle, rfl, hfresh, hstarted, hmiddle⟩ := h
  refine ⟨first, look, text, middle ++ [entry], by simp, hfresh, hstarted, ?_⟩
  intro helper action hmem
  rcases List.mem_append.mp hmem with hold | hnew
  · exact hmiddle helper action hold
  · exact hentry helper action (List.mem_singleton.mp hnew).symm

/-- **Where looks and changes take turns**, a look that has ended was begun after the last change
    had ended. -/
theorem LookedBefore.between {log : HelperLog} (h : LookedBefore log) (hsound : JobLog.Sound log)
    (hturns : LooksTakeTurns log) : LookedBetween log := by
  intro before helper action after hlog hmutating
  obtain ⟨first, look, text, middle, rfl, hfresh, hstarted, hmiddle⟩ :=
    h before helper action after hlog hmutating
  obtain ⟨begun, during, rfl⟩ := List.append_of_mem hstarted
  refine ⟨begun, look, during ++ .finished look text :: middle, text, by simp, hfresh, by simp, ?_⟩
  intro helper' action' hmem hchanges
  rcases List.mem_append.mp hmem with hold | hnew
  · have hsplit : log = begun ++ .started look .state :: during ++
        .finished look text :: (middle ++ .started helper action :: after) := by
      rw [hlog]
      simp
    rw [hsplit] at hsound hturns
    refine hsound.finished_before hturns rfl hchanges ?_ hold
    simp [Changes, Mutating, BeginsTask]
  · rcases List.mem_cons.mp hnew with hsame | hlater
    · cases hsame
    · exact absurd hchanges (hmiddle helper' action' hlater)

/-! ## 5. Every run -/

namespace ExtensionProcess

/-- What holds of the process after every event. -/
structure Guarded (maxActions : Nat) (process : ExtensionProcess) : Prop where
  sound : JobLog.Sound process.log
  ids : ∀ entry ∈ process.log, JobLog.entryId entry < process.helpers
  ready : process.state.stateReady = true → LookEnded process.log
  looked : LookedBefore process.log
  count : sinceTask process.log ≤ process.state.actionCount
  budget : ∀ first rest, process.log = first ++ rest → sinceTask first ≤ maxActions

theorem guarded_start (maxActions : Nat) : Guarded maxActions {} where
  sound := JobLog.sound_nil
  ids := by simp
  ready := by simp
  looked := by
    intro before helper action after hlog
    cases before <;> cases hlog
  count := by simp [sinceTask]
  budget := by
    intro first rest hlog
    cases first with
    | nil => exact Nat.zero_le _
    | cons _ _ => cases hlog

variable {maxActions : Nat} {process : ExtensionProcess}

theorem Guarded.call (h : Guarded maxActions process) (action : BrowserAction) :
    Guarded maxActions (step maxActions process (.call action)) := by
  unfold step
  dsimp only
  split
  · rename_i state payload hanswered
    obtain ⟨hready, hcount⟩ := runAction_answered hanswered
    refine ⟨h.sound, h.ids, fun hr => h.ready (hready hr), h.looked, ?_, h.budget⟩
    rcases hcount with hcount | hzero
    · exact Nat.le_trans h.count hcount
    · have hnone := h.budget process.log [] (by simp)
      rw [hzero] at hnone
      exact Nat.le_trans hnone (Nat.zero_le _)
  · rename_i state refs hspawned
    have hspawns := runAction_spawned hspawned
    have hcountEntry : sinceTask (process.log ++ [.started process.helpers action]) ≤
        state.actionCount := by
      rw [sinceTask_snoc, hspawns.count]
      show (if decide action.BeginsTask = true then 0 else sinceTask process.log) +
        (if decide action.Counted = true then 1 else 0) ≤ _
      simp only [decide_eq_true_eq]
      apply Nat.add_le_add_right
      split
      · exact Nat.le_refl 0
      · exact h.count
    refine ⟨?_, ?_, ?_, ?_, hcountEntry, ?_⟩
    · apply h.sound.start
      intro entry hentry
      exact Nat.ne_of_lt (h.ids entry hentry)
    · intro entry hentry
      rcases List.mem_append.mp hentry with hold | hnew
      · exact Nat.lt_succ_of_lt (h.ids entry hold)
      · obtain rfl := List.mem_singleton.mp hnew
        exact Nat.lt_succ_self _
    · intro hready
      obtain ⟨hready, hchanges⟩ := hspawns.kept hready
      apply (h.ready hready).snoc
      intro helper action' hentry
      cases hentry
      exact hchanges
    · intro before helper action' after hlog hmutating
      rcases JobLog.snoc_eq_split hlog with ⟨rfl, hentry, -⟩ | ⟨after', -, hlog⟩
      · cases hentry
        exact h.ready (hspawns.ready hmutating)
      · exact h.looked before helper action' after' hlog hmutating
    · intro first rest hlog
      rcases JobLog.snoc_eq_append hlog with rfl | ⟨rest', hlog⟩
      · by_cases hcounted : action.Counted
        · exact Nat.le_trans hcountEntry (hspawns.budget hcounted)
        · rw [sinceTask_snoc]
          show (if decide action.BeginsTask = true then 0 else sinceTask process.log) +
            (if decide action.Counted = true then 1 else 0) ≤ _
          simp only [decide_eq_true_eq, if_neg hcounted, Nat.add_zero]
          split
          · exact Nat.zero_le _
          · exact h.budget process.log [] (by simp)
      · exact h.budget first rest' hlog

theorem Guarded.ended (h : Guarded maxActions process) (helper : Nat) (text : HelperText) :
    Guarded maxActions (step maxActions process (.ended helper text)) := by
  unfold step
  dsimp only
  split
  · exact h
  rename_i action hjob
  split
  · exact h
  rename_i hsettled
  have hstarted := JobLog.started_of_jobOf hjob
  have hrunning := JobLog.not_finished (Bool.eq_false_iff.mpr hsettled)
  have hcount : sinceTask (process.log ++ [.finished helper text]) = sinceTask process.log := by
    rw [sinceTask_snoc]
    rfl
  refine ⟨h.sound.finish hrunning, ?_, ?_, ?_, ?_, ?_⟩
  · intro entry hentry
    rcases List.mem_append.mp hentry with hold | hnew
    · exact h.ids entry hold
    · obtain rfl := List.mem_singleton.mp hnew
      exact h.ids (.started helper action) hstarted
  · intro hready
    rcases update_stateReady hready with ⟨rfl, hfresh⟩ | hready
    · exact ⟨process.log, helper, text, [], rfl, hfresh, hstarted, by simp⟩
    · apply (h.ready hready).snoc
      intro helper' action' hentry
      cases hentry
  · intro before helper' action' after hlog hmutating
    rcases JobLog.snoc_eq_split hlog with ⟨-, hentry, -⟩ | ⟨after', -, hlog⟩
    · cases hentry
    · exact h.looked before helper' action' after' hlog hmutating
  · rw [hcount, update_actionCount]
    exact h.count
  · intro first rest hlog
    rcases JobLog.snoc_eq_append hlog with rfl | ⟨rest', hlog⟩
    · rw [hcount]
      exact h.budget process.log [] (by simp)
    · exact h.budget first rest' hlog

/-- **Every event** keeps the process guarded. -/
theorem Guarded.step (h : Guarded maxActions process) (event : ExtensionEvent) :
    Guarded maxActions (step maxActions process event) := by
  cases event with
  | call action => exact h.call action
  | ended helper text => exact h.ended helper text

theorem run_guarded (maxActions : Nat) (events : List ExtensionEvent) :
    Guarded maxActions (run maxActions {} events) := by
  induction events using List.reverseRecOn with
  | nil => exact guarded_start maxActions
  | append_singleton events event ih =>
    unfold run at ih ⊢
    rw [List.foldl_append]
    exact ih.step event

end ExtensionProcess

open ExtensionProcess

/-- **Every run** of the extension: before the page is changed a look at it has ended; if looks and
    changes take turns, the look was begun after everything before it had ended; and no task
    starts more helpers than it may. -/
theorem extension_guarded (maxActions : Nat) (events : List ExtensionEvent) :
    LookedBefore (run maxActions {} events).log ∧
      (LooksTakeTurns (run maxActions {} events).log →
        LookedBetween (run maxActions {} events).log) ∧
      BudgetPerTask maxActions (run maxActions {} events).log := by
  have h := run_guarded maxActions events
  exact ⟨h.looked, h.looked.between h.sound, budgetPerTask_of_sinceTask h.budget⟩

def samplePage : HelperText := .value true false none none

def lateLook : List ExtensionEvent :=
  [.call .openLiepinTab, .ended 0 samplePage, .call .state, .ended 1 samplePage, .call .state,
    .call .click, .ended 3 samplePage, .ended 2 samplePage, .call .fill]

def lookStart : JobEntry BrowserAction HelperText → Bool
  | .started _ action => action = .state
  | .finished _ _ => false

def twoTasks : List ExtensionEvent :=
  [.call .openLiepinTab, .ended 0 samplePage, .call .openLiepinTab]

/-- A late look lets a page be changed that was not looked at, and a new task starts its budget
    anew. -/
theorem not_extension_guarded :
    (¬∀ events, LookedBetween (run 80 {} events).log) ∧
      ¬∀ events, (run 1 {} events).log.countP countedStart ≤ 1 := by
  constructor
  · intro h
    let before : HelperLog :=
      [.started 0 .openLiepinTab, .finished 0 samplePage, .started 1 .state, .finished 1 samplePage,
        .started 2 .state, .started 3 .click, .finished 3 samplePage, .finished 2 samplePage]
    have hlog : (run 80 {} lateLook).log = before ++ .started 4 .fill :: [] := by
      decide
    obtain ⟨first, look, middle, text, hbefore, -, -, hended⟩ := h lateLook before 4 .fill [] hlog
      (by decide)
    obtain ⟨text', hfinished⟩ := hended 3 .click (by decide) (by decide)
    -- no look was begun after the click had ended
    have hnone : before.Pairwise fun x y => JobLog.hasFinished [x] 3 = true → lookStart y = false := by
      decide
    rw [hbefore, List.pairwise_append] at hnone
    have hlook := hnone.2.2 _ hfinished (.started look .state) List.mem_cons_self rfl
    cases hlook
  · intro h
    have htwo := h twoTasks
    have hlog : (run 1 {} twoTasks).log.countP countedStart = 2 := by
      decide
    rw [hlog] at htwo
    omega

end PiAgent

end SeekTalent

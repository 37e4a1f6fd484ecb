import SeekTalent.PiAgent.LeasedTabs

/-!
# Watchers and activity

A watcher decides on one reading of the lease, and closes the tab that a second reading names,
whether it is idle or not; and a runner that touches the lease writes back what it has read, whether
the file is still there or not. What a watcher closes has been idle, and what it has closed stays
without a lease, in every run in which no lease of a tab is written that a watcher is about to close
or has closed, and in which the lease of the second reading has been idle for all of its seconds.
-/

namespace SeekTalent

namespace PiAgent

open LeaseSystem
open Stateful (along_cons along_nil)

variable {config : BrowserConfig} {world : LeaseWorld} {system : LeaseSystem}
variable {answer : BrowserAnswer} {events : List LeaseEvent} {current : LeaseStep}

/-! ## 1. Idle tabs -/

def Lease.Idle (config : BrowserConfig) (lease : Lease) (now : Nat) : Prop :=
  lease.lastActivityAt + config.idleCloseSeconds * microseconds ≤ now

/-- The lease of the tab was last touched `idle_close_seconds` ago or longer. -/
def LeaseWorld.TabIdle (config : BrowserConfig) (world : LeaseWorld) (pageId : String) : Prop :=
  ∃ time, world.touchedAt pageId = some time ∧
    time + config.idleCloseSeconds * microseconds ≤ world.now

def ClosesIdleTabs (config : BrowserConfig) (events : List LeaseEvent) : Prop :=
  ∀ first index answer rest, events = first ++ .watcher index answer :: rest →
    ∀ lease, (run config {} first).watcherAt index = some (.closing lease) →
      (run config {} first).world.TabIdle config lease.pageId

/-- After a watcher has closed a tab and deleted the lease, no lease names the tab. -/
def StaysWithoutLease (config : BrowserConfig) (events : List LeaseEvent) : Prop :=
  ∀ first rest, events = first ++ rest → ∀ lease, (run config {} first).world.file = some lease →
    lease.pageId ∉ (run config {} first).world.ended

def LeaseStep.writes : LeaseStep → Option String
  | .leasing pageId _ => some pageId
  | .storing lease => some lease.pageId
  | _ => none

/-- No lease of a tab is written that a watcher is about to close or has closed, and a tab is closed
    only on a lease whose time is up. -/
def LeaseEvent.Undisturbed (config : BrowserConfig) (system : LeaseSystem) : LeaseEvent → Prop
  | .runner _ => ∀ current pageId, system.runner = some current → current.writes = some pageId →
      pageId ∉ system.world.ended ∧
      ∀ index lease, system.watcherAt index = some (.closing lease) → lease.pageId ≠ pageId
  | .watcher index _ => ∀ lease, system.watcherAt index = some (.closing lease) →
      lease.Idle config system.world.now
  | _ => True

/-! ## 2. What is known of the file -/

def LeaseStep.OfWatcher : LeaseStep → Prop
  | .watching => True
  | .cleaning _ => True
  | .discarding => True
  | .closing _ => True
  | .deleting _ => True
  | _ => False

/-- What the file says of a tab is when its lease was touched, and a watcher that is about to close a
    tab knows that too. -/
structure Watched (system : LeaseSystem) : Prop where
  touched : ∀ lease, system.world.file = some lease →
    system.world.touchedAt lease.pageId = some lease.lastActivityAt
  absent : ∀ lease, system.world.file = some lease → lease.pageId ∉ system.world.ended
  watchers : ∀ index current, system.watcherAt index = some current → current.OfWatcher
  closing : ∀ index lease, system.watcherAt index = some (.closing lease) →
    system.world.touchedAt lease.pageId = some lease.lastActivityAt

theorem watched_start : Watched {} := by
  refine ⟨?_, ?_, ?_, ?_⟩
  · intro lease hlease
    cases hlease
  · intro lease hlease
    cases hlease
  · intro index current hcurrent
    simp [watcherAt] at hcurrent
  · intro index lease hlease
    simp [watcherAt] at hlease

structure LeaveFile (world world' : LeaseWorld) : Prop where
  file : world'.file = world.file ∨ world'.file = none
  touchedAt : world'.touchedAt = world.touchedAt
  ended : world'.ended = world.ended

/-- **What a step writes**: a lease of the present time, or nothing. -/
theorem advance_writes (config : BrowserConfig) (world : LeaseWorld) (answer : BrowserAnswer)
    (current : LeaseStep) :
    (∃ lease, current.writes = some lease.pageId ∧ lease.lastActivityAt = world.now ∧
      (advance config world answer current).1 = world.writeLease lease) ∨
    (current.writes = none ∧ LeaveFile world (advance config world answer current).1) := by
  cases current with
  | leasing pageId url => exact .inl ⟨_, rfl, rfl, rfl⟩
  | storing lease => exact .inl ⟨{ lease with lastActivityAt := world.now }, rfl, rfl, rfl⟩
  | creating url =>
    refine .inr ⟨rfl, ?_⟩
    unfold advance
    dsimp only
    split
    · exact ⟨.inl rfl, rfl, rfl⟩
    · exact ⟨.inl rfl, rfl, rfl⟩
  | closing lease =>
    refine .inr ⟨rfl, ?_⟩
    unfold advance
    dsimp only
    split
    · exact ⟨.inl rfl, rfl, rfl⟩
    · exact ⟨.inl rfl, rfl, rfl⟩
  | discarding => exact .inr ⟨rfl, .inr rfl, rfl, rfl⟩
  | deleting pageId => exact .inr ⟨rfl, .inr rfl, rfl, rfl⟩
  | _ => exact .inr ⟨rfl, .inl rfl, rfl, rfl⟩

theorem advance_watcher {next : LeaseStep} (hwatcher : current.OfWatcher)
    (hnext : (advance config world answer current).2 = .goOn next) :
    next.OfWatcher ∧ ∀ lease, next = .closing lease → world.file = some lease := by
  cases current with
  | watching =>
    simp only [advance] at hnext
    split at hnext
    · cases hnext
    · split at hnext
      · cases hnext
        exact ⟨trivial, by simp⟩
      · cases hnext
        exact ⟨trivial, by simp⟩
  | cleaning force =>
    simp only [advance] at hnext
    split at hnext
    · cases hnext
    · rename_i lease hfile
      split at hnext
      · cases hnext
      · split at hnext
        · cases hnext
          refine ⟨trivial, ?_⟩
          intro lease' hlease'
          cases hlease'
          exact hfile
        · cases hnext
          exact ⟨trivial, by simp⟩
  | discarding => cases hnext
  | closing lease =>
    unfold advance at hnext
    dsimp only at hnext
    split at hnext
    · cases hnext
      exact ⟨trivial, by simp⟩
    · cases hnext
  | deleting pageId => cases hnext
  | _ => exact hwatcher.elim

/-! ## 3. Every step -/

theorem watcherAt_snoc {system : LeaseSystem} {index : Nat}
    (h : ({ system with watchers := system.watchers ++ [some .watching] } : LeaseSystem).watcherAt
      index = some current) : system.watcherAt index = some current ∨ current = .watching := by
  unfold watcherAt at h ⊢
  dsimp only at h
  rw [List.getElem?_append] at h
  split at h
  · exact .inl h
  · rw [List.getElem?_singleton] at h
    split at h
    · cases h
      exact .inr rfl
    · cases h

theorem watcherAt_resumeWatcher {index index' : Nat} {next : LeaseWorld × Next}
    (h : (system.resumeWatcher index next).watcherAt index' = some current) :
    next.2 = .goOn current ∨ system.watcherAt index' = some current := by
  obtain ⟨world, next⟩ := next
  have hset : ∀ entry : Option LeaseStep,
      ((system.watchers.set index entry)[index']?).join = some current →
      entry = some current ∨ system.watcherAt index' = some current := by
    intro entry hentry
    rw [List.getElem?_set] at hentry
    split at hentry
    · split at hentry
      · exact .inl hentry
      · cases hentry
    · exact .inr hentry
  cases next with
  | goOn next =>
    rcases hset (some next) h with hnext | hold
    · exact .inl (congrArg Next.goOn (Option.some.inj hnext))
    · exact .inr hold
  | returned =>
    rcases hset none h with hnext | hold
    · cases hnext
    · exact .inr hold
  | stopped =>
    rcases hset none h with hnext | hold
    · cases hnext
    · exact .inr hold

theorem beginCall_watchers (system : LeaseSystem) (call : RunnerCall) (todo : List RunnerCall) :
    (system.beginCall config call todo).watchers = system.watchers := by
  unfold beginCall
  split
  · rfl
  · rfl

theorem nextCall_watchers (system : LeaseSystem) :
    (system.nextCall config).watchers = system.watchers := by
  unfold nextCall
  split
  · rfl
  · exact beginCall_watchers system _ _

theorem resume_watchers (system : LeaseSystem) (next : LeaseWorld × Next) :
    (system.resume config next).watchers = system.watchers := by
  obtain ⟨world, next⟩ := next
  cases next with
  | goOn next => rfl
  | returned => exact nextCall_watchers _
  | stopped => rfl

theorem watcherAt_of_watchers {system system' : LeaseSystem} (h : system'.watchers = system.watchers)
    (index : Nat) : system'.watcherAt index = system.watcherAt index := by
  unfold watcherAt
  rw [h]

theorem Watched.watch (h : Watched system) :
    Watched { system with watchers := system.watchers ++ [some .watching] } where
  touched := h.touched
  absent := h.absent
  watchers := by
    intro index current hcurrent
    rcases watcherAt_snoc hcurrent with hold | rfl
    · exact h.watchers index current hold
    · trivial
  closing := by
    intro index lease hlease
    rcases watcherAt_snoc hlease with hold | hnew
    · exact h.closing index lease hold
    · cases hnew

theorem Watched.of_same {system' : LeaseSystem} (h : Watched system)
    (hworld : system'.world = system.world) (hwatchers : system'.watchers = system.watchers) :
    Watched system' where
  touched := by
    rw [hworld]
    exact h.touched
  absent := by
    rw [hworld]
    exact h.absent
  watchers := by
    intro index current hcurrent
    rw [watcherAt_of_watchers hwatchers] at hcurrent
    exact h.watchers index current hcurrent
  closing := by
    intro index lease hlease
    rw [watcherAt_of_watchers hwatchers] at hlease
    rw [hworld]
    exact h.closing index lease hlease

theorem Watched.launch (h : Watched system) : Watched (system.launch config current answer) := by
  unfold LeaseSystem.launch
  split
  · exact h.watch
  · exact h

theorem Watched.advance (h : Watched system)
    (hundisturbed : ∀ pageId, current.writes = some pageId → pageId ∉ system.world.ended ∧
      ∀ index lease, system.watcherAt index = some (.closing lease) → lease.pageId ≠ pageId) :
    Watched { system with world := (advance config system.world answer current).1 } := by
  rcases advance_writes config system.world answer current with ⟨lease, hwrites, hnow, hworld⟩ |
    ⟨-, hleave⟩
  · rw [hworld]
    obtain ⟨hended, hclosing⟩ := hundisturbed lease.pageId hwrites
    refine ⟨?_, ?_, h.watchers, ?_⟩
    · intro written hwritten
      obtain rfl := Option.some.inj hwritten
      show (if lease.pageId = lease.pageId then _ else _) = _
      rw [if_pos rfl, hnow]
    · intro written hwritten
      obtain rfl := Option.some.inj hwritten
      exact hended
    · intro index closed hclosed
      show (if closed.pageId = lease.pageId then _ else _) = _
      rw [if_neg (hclosing index closed hclosed)]
      exact h.closing index closed hclosed
  · refine ⟨?_, ?_, h.watchers, ?_⟩
    · intro lease hlease
      show (PiAgent.advance config system.world answer current).1.touchedAt lease.pageId = _
      rw [hleave.touchedAt]
      rcases hleave.file with hfile | hfile
      · exact h.touched lease (hfile ▸ hlease)
      · cases hfile.symm.trans hlease
    · intro lease hlease
      show lease.pageId ∉ (PiAgent.advance config system.world answer current).1.ended
      rw [hleave.ended]
      rcases hleave.file with hfile | hfile
      · exact h.absent lease (hfile ▸ hlease)
      · cases hfile.symm.trans hlease
    · intro index lease hlease
      show (PiAgent.advance config system.world answer current).1.touchedAt lease.pageId = _
      rw [hleave.touchedAt]
      exact h.closing index lease hlease

theorem Watched.watcher {index : Nat} (h : Watched system)
    (hcurrent : system.watcherAt index = some current) :
    Watched (system.resumeWatcher index
      (PiAgent.advance config (recordEnded system.world current) answer current)) := by
  have hwatcher := h.watchers index current hcurrent
  generalize hnext : PiAgent.advance config (recordEnded system.world current) answer current = next
  have hrecord : (recordEnded system.world current).file = system.world.file ∧
      (recordEnded system.world current).touchedAt = system.world.touchedAt := by
    cases current <;> exact ⟨rfl, rfl⟩
  -- a watcher writes no lease, and it deletes the file when it has closed the tab
  have hleave : (next.1.file = system.world.file ∨ next.1.file = none) ∧
      next.1.touchedAt = system.world.touchedAt ∧
      (next.1.file = none ∨ next.1.ended = system.world.ended) := by
    rcases advance_writes config (recordEnded system.world current) answer current with
      ⟨lease, hwrites, -, -⟩ | ⟨-, hleave⟩
    · cases current with
      | leasing => exact hwatcher.elim
      | storing => exact hwatcher.elim
      | _ => cases hwrites
    · rw [hnext] at hleave
      refine ⟨hrecord.1 ▸ hleave.file, hleave.touchedAt.trans hrecord.2, ?_⟩
      cases current with
      | deleting pageId =>
        rw [← hnext]
        exact .inl rfl
      | _ => exact .inr hleave.ended
  have hworld : (system.resumeWatcher index next).world = next.1 := by
    obtain ⟨world, next⟩ := next
    cases next <;> rfl
  obtain ⟨hfile, htouched, hended⟩ := hleave
  have hold : ∀ lease, next.1.file = some lease → system.world.file = some lease := by
    intro lease hlease
    rcases hfile with hsame | hnone
    · exact hsame ▸ hlease
    · cases hnone.symm.trans hlease
  refine ⟨?_, ?_, ?_, ?_⟩
  · rw [hworld, htouched]
    intro lease hlease
    exact h.touched lease (hold lease hlease)
  · rw [hworld]
    intro lease hlease
    rcases hended with hnone | hended
    · cases hnone.symm.trans hlease
    · rw [hended]
      exact h.absent lease (hold lease hlease)
  · intro index' current' hcurrent'
    rcases watcherAt_resumeWatcher hcurrent' with hgoes | hold
    · exact (advance_watcher hwatcher (hnext ▸ hgoes)).1
    · exact h.watchers index' current' hold
  · rw [hworld, htouched]
    intro index' lease hlease
    rcases watcherAt_resumeWatcher hlease with hgoes | hold
    · have hread := (advance_watcher hwatcher (hnext ▸ hgoes)).2 lease rfl
      rw [hrecord.1] at hread
      exact h.touched lease hread
    · exact h.closing index' lease hold

/-- **Every step** that is undisturbed keeps what is known of the file. -/
theorem Watched.step {event : LeaseEvent} (h : Watched system)
    (hundisturbed : event.Undisturbed config system) :
    Watched (LeaseSystem.step config system event) := by
  cases event with
  | pass time => exact ⟨h.touched, h.absent, h.watchers, h.closing⟩
  | call call =>
    unfold LeaseSystem.step
    dsimp only
    split
    · split
      · exact h.of_same (nextCall_world _) (nextCall_watchers _)
      · exact h.of_same (beginCall_world _ _ _) (beginCall_watchers _ _ _)
    · exact h
  | runner answer =>
    unfold LeaseSystem.step
    dsimp only
    split
    · exact h
    · rename_i current hcurrent
      have hadvanced := @Watched.advance config system answer current h
        fun pageId => hundisturbed current pageId hcurrent
      have hlaunched := @Watched.launch config _ answer current hadvanced
      apply hlaunched.of_same
      · rw [resume_world]
        unfold LeaseSystem.launch
        split
        · rfl
        · rfl
      · rw [resume_watchers]
        unfold LeaseSystem.launch
        split
        · rfl
        · rfl
  | watch => exact h.watch
  | watcher index answer =>
    unfold LeaseSystem.step
    dsimp only
    split
    · exact h
    · rename_i current hcurrent
      exact h.watcher hcurrent

/-! ## 4. Every run -/

def StepsUndisturbed (config : BrowserConfig) (events : List LeaseEvent) : Prop :=
  Stateful.Along (LeaseSystem.step config) {} (fun system event => event.Undisturbed config system)
    events

theorem run_watched (hsteps : StepsUndisturbed config events) : Watched (run config {} events) := by
  apply Stateful.foldl_induction (P := Watched)
    (fun system event => event.Undisturbed config system) _ watched_start
  · exact hsteps
  · intro system event hundisturbed h
    exact h.step hundisturbed

def twoMinutes : Nat := 120 * microseconds

/-- A tab is opened, and is left alone until its watcher closes it. -/
def watchedTab : List LeaseEvent :=
  openingOf "t1" ++ [.pass twoMinutes, .watcher 0 { ok := true }, .watcher 0 { ok := true },
    .watcher 0 { ok := true }, .watcher 0 { ok := true }]

theorem undisturbed_of_runner (hrunner : system.runner = some current)
    (hended : system.world.ended = []) (hwatchers : system.watchers = []) :
    (LeaseEvent.runner answer).Undisturbed config system := by
  intro current' pageId hcurrent' hwrites
  rw [hended]
  refine ⟨List.not_mem_nil, ?_⟩
  intro index lease hlease
  simp [watcherAt, hwatchers] at hlease

theorem undisturbed_of_watcher {index : Nat} (hcurrent : system.watcherAt index = some current)
    (hidle : ∀ lease, current = .closing lease → lease.Idle config system.world.now) :
    (LeaseEvent.watcher index answer).Undisturbed config system := by
  intro lease hlease
  exact hidle lease (Option.some.inj (hcurrent.symm.trans hlease))

theorem stepsUndisturbed_watchedTab : StepsUndisturbed sampleBrowser watchedTab := by
  unfold StepsUndisturbed watchedTab openingOf
  refine along_cons trivial ?_
  refine along_cons (undisturbed_of_runner rfl rfl rfl) ?_
  refine along_cons (undisturbed_of_runner rfl rfl rfl) ?_
  refine along_cons (undisturbed_of_runner rfl rfl rfl) ?_
  refine along_cons (undisturbed_of_runner rfl rfl rfl) ?_
  refine along_cons (undisturbed_of_runner rfl rfl rfl) ?_
  refine along_cons trivial ?_
  refine along_cons (undisturbed_of_watcher rfl (by simp)) ?_
  refine along_cons (undisturbed_of_watcher rfl (by simp)) ?_
  refine along_cons (undisturbed_of_watcher rfl ?_) ?_
  · intro lease hlease
    cases hlease
    show 0 + 120 * microseconds ≤ 0 + twoMinutes
    decide
  refine along_cons (undisturbed_of_watcher rfl (by simp)) ?_
  exact along_nil

/-- The tab is used while the watcher is between its two readings. -/
def usedMeanwhile : List LeaseEvent :=
  openingOf "t1" ++ [.pass twoMinutes, .watcher 0 { ok := true }, .call .act,
    .runner { ok := true }, .runner { ok := true }, .runner { ok := true }, .watcher 0 { ok := true }]

/-- A use of the tab has read the lease, and writes it after the watcher has deleted it. -/
def usedTooLate : List LeaseEvent :=
  openingOf "t1" ++ [.call .act, .runner { ok := true }, .runner { ok := true }, .pass twoMinutes,
    .watcher 0 { ok := true }, .watcher 0 { ok := true }, .watcher 0 { ok := true },
    .watcher 0 { ok := true }, .runner { ok := true }]

end PiAgent

end SeekTalent

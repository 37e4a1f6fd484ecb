import SeekTalent.Base.Run
import SeekTalent.PiAgent.TabLease

/-!
# Tabs without a lease

There is one lease for a session, and each call that opens a tab opens another one. A tab is
forgotten where a new one is opened beside it, where the new tab is not named or not selected, and
for as long as it takes from the creation of a tab to its lease. With a runner that does not open
a second tab, and a browser that names and selects what it has created, every tab has its lease
whenever no tab is being opened.
-/

namespace SeekTalent

namespace PiAgent

open LeaseSystem

variable {config : BrowserConfig} {world world' : LeaseWorld} {system : LeaseSystem}
variable {answer : BrowserAnswer} {events : List LeaseEvent}

/-! ## 1. Leased tabs -/

/-- Every open tab of the runner is the one that the lease names. -/
def LeaseWorld.Leased (world : LeaseWorld) : Prop :=
  ∀ tab ∈ world.tabs, ∃ lease, world.file = some lease ∧ lease.pageId = tab

def LeaseWorld.NamesSafely (world : LeaseWorld) : Prop :=
  ∀ lease, world.file = some lease → isSafePageId lease.pageId = true

/-- `open_liepin_tab` has created a tab and has not written its lease. -/
def LeaseStep.Opening : LeaseStep → Prop
  | .selecting _ _ => True
  | .leasing _ _ => True
  | _ => False

/-- What is known of the tabs when the step is the next one. -/
def HeldAt (world : LeaseWorld) : LeaseStep → Prop
  | .selecting pageId _ => isSafePageId pageId = true ∧ ∀ tab ∈ world.tabs, tab = pageId
  | .leasing pageId _ => isSafePageId pageId = true ∧ ∀ tab ∈ world.tabs, tab = pageId
  | .storing lease => world.file = some lease ∧ world.Leased
  | .closing lease => world.file = some lease ∧ world.Leased
  | .deleting _ => world.tabs = []
  | .discarding => False
  | _ => world.Leased

/-- The same, for how a step leaves its method. -/
def HeldNext (world : LeaseWorld) : Next → Prop
  | .goOn next => HeldAt world next
  | .returned => world.Leased
  | .stopped => world.Leased

theorem leased_of_nil (h : world.tabs = []) : world.Leased := by
  intro tab htab
  rw [h] at htab
  cases htab

theorem leased_writeLease {lease : Lease} (h : ∀ tab ∈ world.tabs, tab = lease.pageId) :
    (world.writeLease lease).Leased := by
  intro tab htab
  exact ⟨lease, rfl, (h tab htab).symm⟩

theorem namesSafely_writeLease {lease : Lease} (h : isSafePageId lease.pageId = true) :
    (world.writeLease lease).NamesSafely := by
  intro written hwritten
  obtain rfl := Option.some.inj hwritten
  exact h

def KeepsTab (world : LeaseWorld) (answer : BrowserAnswer) : LeaseStep → Prop
  | .creating _ => answer.ok = true →
      world.tabs = [] ∧ answer.page = some answer.tab ∧ isSafePageId answer.tab = true
  | .selecting _ _ => answer.ok = true
  | _ => True

/-- **A step** of a method keeps tabs leased, or on the way to it. -/
theorem advance_held {current : LeaseStep} (hsafe : world.NamesSafely) (hheld : HeldAt world current)
    (hkeeps : KeepsTab world answer current) :
    (advance config world answer current).1.NamesSafely ∧
      HeldNext (advance config world answer current).1 (advance config world answer current).2 := by
  cases current with
  | unbinding url =>
    refine ⟨hsafe, ?_⟩
    unfold advance
    dsimp only
    split
    · exact hheld
    · exact hheld
  | creating url =>
    unfold advance
    dsimp only
    split
    · rename_i hok
      obtain ⟨hnone, hpage, hid⟩ := hkeeps hok
      refine ⟨hsafe, ?_⟩
      rw [hpage, Option.filter_some, if_pos hid]
      refine ⟨hid, ?_⟩
      rw [hnone]
      simp
    · exact ⟨hsafe, hheld⟩
  | selecting pageId url =>
    refine ⟨hsafe, ?_⟩
    unfold advance
    dsimp only
    have hok : answer.ok = true := hkeeps
    rw [if_pos hok]
    exact hheld
  | leasing pageId url =>
    exact ⟨namesSafely_writeLease hheld.1, leased_writeLease hheld.2⟩
  | launching => exact ⟨hsafe, hheld⟩
  | acting =>
    refine ⟨hsafe, ?_⟩
    unfold advance
    dsimp only
    split
    · split
      · exact hheld
      · exact hheld
    · exact hheld
  | touching =>
    refine ⟨hsafe, ?_⟩
    unfold advance
    dsimp only
    split
    · exact hheld
    · rename_i lease hfile
      exact ⟨hfile, hheld⟩
  | storing lease =>
    obtain ⟨hfile, hleased⟩ := hheld
    refine ⟨namesSafely_writeLease (hsafe lease hfile), leased_writeLease ?_⟩
    intro tab htab
    obtain ⟨lease', hfile', rfl⟩ := hleased tab htab
    obtain rfl := Option.some.inj (hfile.symm.trans hfile')
    rfl
  | watching =>
    refine ⟨hsafe, ?_⟩
    unfold advance
    dsimp only
    split
    · exact hheld
    · split
      · exact hheld
      · exact hheld
  | cleaning force =>
    refine ⟨hsafe, ?_⟩
    unfold advance
    dsimp only
    split
    · exact hheld
    · rename_i lease hfile
      split
      · exact hheld
      · rw [if_pos (hsafe lease hfile)]
        exact ⟨hfile, hheld⟩
  | discarding => exact hheld.elim
  | closing lease =>
    obtain ⟨hfile, hleased⟩ := hheld
    unfold advance
    dsimp only
    split
    · refine ⟨hsafe, ?_⟩
      show world.tabs.filter (· ≠ lease.pageId) = []
      rw [List.filter_eq_nil_iff]
      intro tab htab
      obtain ⟨lease', hfile', rfl⟩ := hleased tab htab
      obtain rfl := Option.some.inj (hfile.symm.trans hfile')
      simp
    · exact ⟨hsafe, hleased⟩
  | deleting pageId =>
    refine ⟨?_, leased_of_nil hheld⟩
    intro lease hlease
    cases hlease

/-! ## 2. A runner alone -/

structure Held (system : LeaseSystem) : Prop where
  safe : system.world.NamesSafely
  idle : system.runner = none → system.world.Leased
  busy : ∀ current, system.runner = some current → HeldAt system.world current

theorem held_start : Held {} where
  safe := by
    intro lease hlease
    cases hlease
  idle := fun _ => leased_of_nil rfl
  busy := by
    intro current hcurrent
    cases hcurrent

theorem held_beginCall {call : RunnerCall} {todo : List RunnerCall} (hsafe : system.world.NamesSafely)
    (hleased : system.world.Leased) : Held (system.beginCall config call todo) := by
  unfold beginCall
  split
  · rename_i first hfirst
    refine ⟨hsafe, ?_, ?_⟩
    · intro hidle
      cases hidle
    · intro current hcurrent
      obtain rfl := Option.some.inj hcurrent
      cases call with
      | openLiepinTab url =>
        simp only [RunnerCall.begin, Option.ite_none_right_eq_some, Option.some.injEq] at hfirst
        rw [← hfirst.2]
        exact hleased
      | act =>
        cases hfirst
        exact hleased
      | searchLiepinCards modal => cases hfirst
      | cleanupIdleLease force =>
        cases hfirst
        exact hleased
      | watchIdleLease =>
        cases hfirst
        exact hleased
  · refine ⟨hsafe, fun _ => hleased, ?_⟩
    intro current hcurrent
    cases hcurrent

theorem held_nextCall (hsafe : system.world.NamesSafely) (hleased : system.world.Leased) :
    Held (system.nextCall config) := by
  unfold nextCall
  split
  · refine ⟨hsafe, fun _ => hleased, ?_⟩
    intro current hcurrent
    cases hcurrent
  · exact held_beginCall hsafe hleased

theorem held_resume {next : LeaseWorld × Next} (hsafe : next.1.NamesSafely)
    (hnext : HeldNext next.1 next.2) : Held (system.resume config next) := by
  obtain ⟨world, next⟩ := next
  cases next with
  | goOn next =>
    refine ⟨hsafe, ?_, ?_⟩
    · intro hidle
      cases hidle
    · intro current hcurrent
      obtain rfl := Option.some.inj hcurrent
      exact hnext
  | returned => exact held_nextCall hsafe hnext
  | stopped =>
    refine ⟨hsafe, fun _ => hnext, ?_⟩
    intro current hcurrent
    cases hcurrent

def LeaseEvent.KeepsTabs (system : LeaseSystem) : LeaseEvent → Prop
  | .runner answer => ∀ current, system.runner = some current → KeepsTab system.world answer current
  | _ => True

def LeaseEvent.ByRunner : LeaseEvent → Prop
  | .watcher _ _ => False
  | _ => True

theorem Held.step {event : LeaseEvent} (h : Held system) (hrunner : event.ByRunner)
    (hkeeps : event.KeepsTabs system) : Held (step config system event) := by
  cases event with
  | pass time =>
    refine ⟨h.safe, h.idle, ?_⟩
    intro current hcurrent
    have hheld := h.busy current hcurrent
    cases current <;> exact hheld
  | call call =>
    unfold LeaseSystem.step
    dsimp only
    split
    · rename_i hidle
      have hleased := h.idle hidle
      split
      · rename_i modal
        exact @held_nextCall config { system with todo := searchCalls modal } h.safe hleased
      · exact held_beginCall h.safe hleased
    · exact h
  | runner answer =>
    unfold LeaseSystem.step
    dsimp only
    split
    · exact h
    · rename_i current hcurrent
      obtain ⟨hsafe, hnext⟩ := @advance_held config system.world answer current h.safe
        (h.busy current hcurrent) (hkeeps current hcurrent)
      exact held_resume hsafe hnext
  | watch => exact ⟨h.safe, h.idle, h.busy⟩
  | watcher index answer => exact hrunner.elim

/-! ## 3. Every run -/

def RunsAlone (events : List LeaseEvent) : Prop := ∀ event ∈ events, event.ByRunner

def StepsKeepTabs (config : BrowserConfig) (events : List LeaseEvent) : Prop :=
  Stateful.Along (step config) {} (fun system event => event.KeepsTabs system) events

def LeaseEvent.Creates (system : LeaseSystem) : LeaseEvent → Prop
  | .runner answer => answer.ok = true ∧ ∃ url, system.runner = some (.creating url)
  | _ => False

def LeaseEvent.NewId (system : LeaseSystem) : LeaseEvent → Prop
  | .runner answer => (LeaseEvent.runner answer).Creates system →
      ∀ lease, system.world.file = some lease → lease.pageId ≠ answer.tab
  | _ => True

def NewIds (config : BrowserConfig) (events : List LeaseEvent) : Prop :=
  Stateful.Along (step config) {} (fun system event => event.NewId system) events

/-- Whenever no tab is being opened, every tab has its lease. -/
def LeasedBetweenOpenings (config : BrowserConfig) (events : List LeaseEvent) : Prop :=
  ∀ first rest, events = first ++ rest →
    (∀ current, (run config {} first).runner = some current → ¬current.Opening) →
    (run config {} first).world.Leased

/-- At every moment, every tab has its lease. -/
def AlwaysLeased (config : BrowserConfig) (events : List LeaseEvent) : Prop :=
  ∀ first rest, events = first ++ rest → (run config {} first).world.Leased

def NeverCreates (config : BrowserConfig) (events : List LeaseEvent) : Prop :=
  Stateful.Along (step config) {} (fun system event => ¬event.Creates system) events

theorem run_snoc (first : List LeaseEvent) (event : LeaseEvent) :
    run config {} (first ++ [event]) = LeaseSystem.step config (run config {} first) event := by
  unfold run
  rw [List.foldl_append]
  rfl

theorem run_held (halone : RunsAlone events) (hkeeps : StepsKeepTabs config events) :
    Held (run config {} events) := by
  apply Stateful.foldl_induction (P := Held)
    (fun system event => event.ByRunner ∧ event.KeepsTabs system) _ held_start
  · intro first event rest hevents
    exact ⟨halone event (by rw [hevents]; simp), hkeeps first event rest hevents⟩
  · intro system event hevent hheld
    exact hheld.step hevent.1 hevent.2

theorem run_leasedBetweenOpenings (halone : RunsAlone events) (hkeeps : StepsKeepTabs config events) :
    LeasedBetweenOpenings config events := by
  intro first rest hevents hopening
  subst hevents
  have hheld : Held (run config {} first) := by
    apply run_held _ (Stateful.Along.append hkeeps).1
    intro event hevent
    exact halone event (List.mem_append_left _ hevent)
  cases hcurrent : (run config {} first).runner with
  | none => exact hheld.idle hcurrent
  | some current =>
    have hbusy := hheld.busy current hcurrent
    have hnot := hopening current hcurrent
    cases current with
    | selecting => exact absurd trivial hnot
    | leasing => exact absurd trivial hnot
    | storing => exact hbusy.2
    | closing => exact hbusy.2
    | deleting => exact leased_of_nil hbusy
    | discarding => exact hbusy.elim
    | _ => exact hbusy

theorem advance_tabs {current : LeaseStep} (hnone : world.tabs = [])
    (hcreates : ∀ url, current = .creating url → answer.ok = false) :
    (advance config world answer current).1.tabs = [] := by
  cases current with
  | creating url =>
    unfold advance
    dsimp only
    rw [if_neg (by simp [hcreates url rfl])]
    exact hnone
  | closing lease =>
    unfold advance
    dsimp only
    split
    · show world.tabs.filter _ = []
      rw [hnone]
      rfl
    · exact hnone
  | _ => exact hnone

theorem beginCall_world (system : LeaseSystem) (call : RunnerCall) (todo : List RunnerCall) :
    (system.beginCall config call todo).world = system.world := by
  unfold beginCall
  split
  · rfl
  · rfl

theorem nextCall_world (system : LeaseSystem) : (system.nextCall config).world = system.world := by
  unfold nextCall
  split
  · rfl
  · exact beginCall_world system _ _

theorem resume_world (system : LeaseSystem) (next : LeaseWorld × Next) :
    (system.resume config next).world = next.1 := by
  obtain ⟨world, next⟩ := next
  cases next with
  | goOn next => rfl
  | returned => exact nextCall_world _
  | stopped => rfl

theorem step_tabs {event : LeaseEvent} (hnone : system.world.tabs = []) (hrunner : event.ByRunner)
    (hcreates : ¬event.Creates system) : (LeaseSystem.step config system event).world.tabs = [] := by
  cases event with
  | pass time => exact hnone
  | call call =>
    unfold LeaseSystem.step
    dsimp only
    split
    · split
      · rw [nextCall_world]
        exact hnone
      · rw [beginCall_world]
        exact hnone
    · exact hnone
  | runner answer =>
    unfold LeaseSystem.step
    dsimp only
    split
    · exact hnone
    · rename_i current hcurrent
      rw [resume_world]
      apply advance_tabs hnone
      intro url hcreating
      rw [Bool.eq_false_iff]
      intro hok
      exact hcreates ⟨hok, url, hcreating ▸ hcurrent⟩
  | watch => exact hnone
  | watcher index answer => exact hrunner.elim

/-- **At every moment** every tab has its lease exactly if no tab is ever created: a new one has none
    before it has been selected. -/
theorem alwaysLeased_iff (halone : RunsAlone events) (hnew : NewIds config events) :
    AlwaysLeased config events ↔ NeverCreates config events := by
  constructor
  · intro halways first event rest hevents hcreates
    cases event with
    | runner answer =>
      obtain ⟨hok, url, hcreating⟩ := hcreates
      have hcreating : (run config {} first).runner = some (.creating url) := hcreating
      have hafter : (run config {} (first ++ [.runner answer])).world =
          { (run config {} first).world with
            tabs := (run config {} first).world.tabs ++ [answer.tab] } := by
        rw [run_snoc]
        unfold LeaseSystem.step
        simp only [hcreating]
        rw [resume_world]
        unfold advance
        dsimp only
        rw [if_pos hok]
      have hleased := halways (first ++ [.runner answer]) rest (by rw [hevents]; simp)
      rw [hafter] at hleased
      obtain ⟨lease, hfile, htab⟩ := hleased answer.tab (by simp)
      exact hnew first (.runner answer) rest hevents ⟨hok, url, hcreating⟩ lease hfile htab
    | _ => exact hcreates
  · intro hnever first rest hevents
    have hnone : (run config {} first).world.tabs = [] := by
      clear hnew
      induction first using List.reverseRecOn generalizing rest with
      | nil => rfl
      | append_singleton first event ih =>
        have hsplit : events = first ++ event :: rest := by
          rw [hevents]
          simp
        rw [run_snoc]
        apply step_tabs (ih (event :: rest) hsplit)
        · exact halone event (by rw [hsplit]; simp)
        · exact hnever first event rest hsplit
    exact leased_of_nil hnone

/-- **Every run** of the runner: at every moment every tab has its lease exactly if none is ever
    created; and whenever no tab is being opened every tab has its lease, if no second tab is opened
    and what is created is named and selected. -/
theorem tabs_leased (halone : RunsAlone events) (hnew : NewIds config events) :
    (AlwaysLeased config events ↔ NeverCreates config events) ∧
      (StepsKeepTabs config events → LeasedBetweenOpenings config events) :=
  ⟨alwaysLeased_iff halone hnew, run_leasedBetweenOpenings halone⟩

/-! ## 4. One tab, and two -/

def sampleBrowser : BrowserConfig where
  allowsStartUrl := fun _ => true
  idleCloseSeconds := 120
  cleanupWorkerEnabled := true

def openingOf (tab : String) : List LeaseEvent :=
  [.call (.openLiepinTab "u"), .runner { ok := true }, .runner { ok := true, tab, page := some tab },
    .runner { ok := true }, .runner { ok := true }, .runner { ok := true }]

theorem keepsTabs_of_runner {current : LeaseStep} (hrunner : system.runner = some current)
    (hkeeps : KeepsTab system.world answer current) : (LeaseEvent.runner answer).KeepsTabs system := by
  intro current' hcurrent'
  obtain rfl := Option.some.inj (hrunner.symm.trans hcurrent')
  exact hkeeps

theorem newId_of_runner {current : LeaseStep} (hrunner : system.runner = some current)
    (hcurrent : ∀ url, current ≠ .creating url) : (LeaseEvent.runner answer).NewId system := by
  intro hcreates
  obtain ⟨-, url, hcreating⟩ := hcreates
  exact absurd (Option.some.inj (hrunner.symm.trans hcreating)) (hcurrent url)

theorem newId_of_file (hfile : ∀ lease, system.world.file = some lease → lease.pageId ≠ answer.tab) :
    (LeaseEvent.runner answer).NewId system := fun _ => hfile

open Stateful (along_cons along_nil)

theorem stepsKeepTabs_openingOf : StepsKeepTabs sampleBrowser (openingOf "t1") := by
  unfold StepsKeepTabs openingOf
  refine along_cons trivial ?_
  refine along_cons (keepsTabs_of_runner rfl trivial) ?_
  refine along_cons (keepsTabs_of_runner rfl fun _ => ⟨rfl, rfl, by decide⟩) ?_
  refine along_cons (keepsTabs_of_runner rfl rfl) ?_
  refine along_cons (keepsTabs_of_runner rfl trivial) ?_
  refine along_cons (keepsTabs_of_runner rfl trivial) ?_
  exact along_nil

theorem newIds_openings : NewIds sampleBrowser (openingOf "t1" ++ openingOf "t2") := by
  unfold NewIds openingOf
  refine along_cons trivial ?_
  refine along_cons (newId_of_runner rfl (by simp)) ?_
  refine along_cons (newId_of_file ?_) ?_
  · intro lease hlease
    cases hlease
  refine along_cons (newId_of_runner rfl (by simp)) ?_
  refine along_cons (newId_of_runner rfl (by simp)) ?_
  refine along_cons (newId_of_runner rfl (by simp)) ?_
  refine along_cons trivial ?_
  refine along_cons (newId_of_runner rfl (by simp)) ?_
  refine along_cons (newId_of_file ?_) ?_
  · intro lease hlease
    obtain rfl := Option.some.inj hlease
    show "t1" ≠ "t2"
    decide
  refine along_cons (newId_of_runner rfl (by simp)) ?_
  refine along_cons (newId_of_runner rfl (by simp)) ?_
  refine along_cons (newId_of_runner rfl (by simp)) ?_
  exact along_nil

theorem runsAlone_openingOf (tab : String) : RunsAlone (openingOf tab) := by
  simp [RunsAlone, openingOf, LeaseEvent.ByRunner]

/-- A tab that is opened has its lease. -/
theorem tabs_leased_openingOf : LeasedBetweenOpenings sampleBrowser (openingOf "t1") :=
  (tabs_leased (runsAlone_openingOf "t1") (Stateful.Along.append newIds_openings).1).2
    stepsKeepTabs_openingOf

/-- Of two tabs that are opened the first has none. -/
theorem not_leasedBetweenOpenings :
    ¬∀ events, RunsAlone events → NewIds sampleBrowser events →
      LeasedBetweenOpenings sampleBrowser events := by
  intro h
  have halone : RunsAlone (openingOf "t1" ++ openingOf "t2") := by
    simp [RunsAlone, openingOf, LeaseEvent.ByRunner]
  have hleased := h _ halone newIds_openings (openingOf "t1" ++ openingOf "t2") [] (by simp)
  have htabs : (run sampleBrowser {} (openingOf "t1" ++ openingOf "t2")).world.tabs = ["t1", "t2"] := by
    decide
  have hfile : (run sampleBrowser {} (openingOf "t1" ++ openingOf "t2")).world.file =
      some ⟨"t2", "u", 0, 0⟩ := by
    decide
  have hrunner : (run sampleBrowser {} (openingOf "t1" ++ openingOf "t2")).runner = none := by
    decide
  obtain ⟨lease, hlease, htab⟩ := hleased (by rw [hrunner]; simp) "t1" (by rw [htabs]; simp)
  rw [hfile] at hlease
  obtain rfl := Option.some.inj hlease
  simp at htab

end PiAgent

end SeekTalent

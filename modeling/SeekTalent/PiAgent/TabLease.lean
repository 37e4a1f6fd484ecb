import Mathlib.Data.List.Basic

/-!
# The lease of a browser tab

The runner opens a tab of its own and writes down in a file, the lease, which tab it is and when it
was last used. A watcher, which is a process of its own, closes the tab once it has been idle for
long enough. Runner and watchers share nothing but the file and the browser, and each reading,
writing or deleting of the file and each command of the browser is a step of its own. Times are in
microseconds.
-/

namespace SeekTalent

namespace PiAgent

/-- What of `OpenCliBrowserConfig` the lease depends on. -/
structure BrowserConfig where
  allowsStartUrl : String → Bool
  idleCloseSeconds : Nat
  cleanupWorkerEnabled : Bool

def liepinRecruiterSearchUrl : String := "https://h.liepin.com/search/getConditionItem#session"

def isSafePageIdChar (c : Char) : Bool := c.isAlphanum || c = '_' || c = '-'

def isSafePageId (value : String) : Bool :=
  value.toList.all isSafePageIdChar && 1 ≤ value.toList.length && value.toList.length ≤ 128

/-- The lease file, apart from its schema version and the session. -/
structure Lease where
  pageId : String
  url : String
  createdAt : Nat
  lastActivityAt : Nat
  deriving DecidableEq

def microseconds : Nat := 1000000

/-- `_lease_remaining_seconds`: `int` cuts off what is less than a second. -/
def leaseRemainingSeconds (config : BrowserConfig) (lease : Lease) (now : Nat) : Int :=
  Int.tdiv (lease.lastActivityAt + config.idleCloseSeconds * microseconds - now : Int) microseconds

def leaseIsIdle (config : BrowserConfig) (lease : Lease) (now : Nat) : Bool :=
  leaseRemainingSeconds config lease now ≤ 0

/-- What runner and watchers share. The last two fields are no part of it: they are what the
    statements about leases remember. -/
structure LeaseWorld where
  now : Nat := 0
  /-- The lease file of the session. -/
  file : Option Lease := none
  /-- The tabs that `tab new` has created and that have not been closed since. -/
  tabs : List String := []
  /-- When a lease of the tab was last written. -/
  touchedAt : String → Option Nat := fun _ => none
  /-- The tabs that a watcher has closed, and whose lease it has deleted since. -/
  ended : List String := []

/-- `_write_lease_payload` -/
def LeaseWorld.writeLease (world : LeaseWorld) (lease : Lease) : LeaseWorld :=
  { world with
    file := some lease
    touchedAt := fun pageId =>
      if pageId = lease.pageId then some world.now else world.touchedAt pageId }

def LeaseWorld.deleteLease (world : LeaseWorld) : LeaseWorld := { world with file := none }

/-- How a browser command ends. A new tab has an id, and the output of the command may name one. -/
structure BrowserAnswer where
  ok : Bool
  tab : String := ""
  page : Option String := none
  /-- Whether the state that was read is a terminal one. -/
  terminal : Bool := false

/-! ## 1. The methods of the runner -/

inductive RunnerCall where
  | openLiepinTab (url : String)
  /-- `state`, `get_url`, `find`, `fill`, `click`, `scroll` and `wait_time`: browser commands, and
      then the lease is touched. -/
  | act
  /-- `search_liepin_cards`, which may find a modal window to close. -/
  | searchLiepinCards (modal : Bool)
  | cleanupIdleLease (force : Bool)
  | watchIdleLease

/-- What a method is about to do. -/
inductive LeaseStep where
  /-- `open_liepin_tab` is to unbind the session. -/
  | unbinding (url : String)
  | creating (url : String)
  | selecting (pageId url : String)
  | leasing (pageId url : String)
  | launching
  | acting
  /-- `_touch_lease` is to read the lease, -/
  | touching
  /-- and to write it again. -/
  | storing (lease : Lease)
  /-- `watch_idle_lease` is to read the lease. -/
  | watching
  /-- `cleanup_idle_lease` is to read the lease, -/
  | cleaning (force : Bool)
  | discarding
  | closing (lease : Lease)
  | deleting (pageId : String)
  deriving DecidableEq

/-- How a step leaves its method. -/
inductive Next where
  | goOn (step : LeaseStep)
  | returned
  /-- The method has raised, or answers that the page is a terminal one. -/
  | stopped

def advance (config : BrowserConfig) (world : LeaseWorld) (answer : BrowserAnswer) :
    LeaseStep → LeaseWorld × Next
  | .unbinding url => (world, if answer.ok then .goOn (.creating url) else .stopped)
  | .creating url =>
    if answer.ok then
      ({ world with tabs := world.tabs ++ [answer.tab] },
        -- `_parse_page_id`
        match answer.page.filter isSafePageId with
        | some pageId => .goOn (.selecting pageId url)
        | none => .stopped)
    else (world, .stopped)
  | .selecting pageId url => (world, if answer.ok then .goOn (.leasing pageId url) else .stopped)
  | .leasing pageId url =>
    (world.writeLease
      { pageId
        url
        createdAt := world.now
        lastActivityAt := world.now }, .goOn .launching)
  | .launching => (world, .returned)
  | .acting =>
    (world,
      if answer.ok then if answer.terminal then .stopped else .goOn .touching
      else .stopped)
  | .touching =>
    (world, match world.file with
      | none => .returned
      | some lease => .goOn (.storing lease))
  | .storing lease => (world.writeLease { lease with lastActivityAt := world.now }, .returned)
  | .watching =>
    (world, match world.file with
      | none => .returned
      | some lease =>
        if leaseRemainingSeconds config lease world.now ≤ 0 then .goOn (.cleaning true)
        -- it sleeps, for as long as others take steps
        else .goOn .watching)
  | .cleaning force =>
    (world, match world.file with
      | none => .returned
      | some lease =>
        if force = false ∧ leaseIsIdle config lease world.now = false then .returned
        else if isSafePageId lease.pageId then .goOn (.closing lease)
        else .goOn .discarding)
  | .discarding => (world.deleteLease, .stopped)
  | .closing lease =>
    if answer.ok then
      ({ world with tabs := world.tabs.filter (· ≠ lease.pageId) }, .goOn (.deleting lease.pageId))
    else (world, .stopped)
  -- a blank window may be closed as well
  | .deleting _ => (world.deleteLease, .returned)

def RunnerCall.begin (config : BrowserConfig) : RunnerCall → Option LeaseStep
  | .openLiepinTab url => if config.allowsStartUrl url then some (.unbinding url) else none
  | .act => some .acting
  | .searchLiepinCards _ => none
  | .cleanupIdleLease force => some (.cleaning force)
  | .watchIdleLease => some .watching

/-- What `search_liepin_cards` calls: it opens the tab, waits, looks, closes a modal window, fills,
    clicks, waits and looks, until a call does not succeed. -/
def searchCalls (modal : Bool) : List RunnerCall :=
  [.openLiepinTab liepinRecruiterSearchUrl, .act, .act] ++
    (if modal then [.act, .act, .act] else []) ++ [.act, .act, .act, .act]

/-! ## 2. A runner and watchers, interleaved -/

/-- A runner, with the calls that are left of a search, and the watchers. -/
structure LeaseSystem where
  world : LeaseWorld := {}
  runner : Option LeaseStep := none
  todo : List RunnerCall := []
  watchers : List (Option LeaseStep) := []

/-- What may happen next. -/
inductive LeaseEvent where
  | pass (time : Nat)
  /-- A call of the runner, which is idle. -/
  | call (call : RunnerCall)
  /-- The runner takes a step. -/
  | runner (answer : BrowserAnswer)
  /-- A process starts to watch. -/
  | watch
  /-- A watcher takes a step. -/
  | watcher (index : Nat) (answer : BrowserAnswer)

namespace LeaseSystem

def beginCall (config : BrowserConfig) (system : LeaseSystem) (call : RunnerCall)
    (todo : List RunnerCall) : LeaseSystem :=
  match call.begin config with
  | some step => { system with runner := some step, todo }
  -- an url that is not allowed ends a search
  | none => { system with runner := none, todo := [] }

def nextCall (config : BrowserConfig) (system : LeaseSystem) : LeaseSystem :=
  match system.todo with
  | [] => { system with runner := none }
  | call :: todo => system.beginCall config call todo

/-- `_launch_idle_cleanup_worker`, where a process can be started. -/
def launch (config : BrowserConfig) (current : LeaseStep) (answer : BrowserAnswer)
    (system : LeaseSystem) : LeaseSystem :=
  if current = .launching ∧ config.cleanupWorkerEnabled ∧ answer.ok then
    { system with watchers := system.watchers ++ [some .watching] }
  else system

def resume (config : BrowserConfig) (system : LeaseSystem) : LeaseWorld × Next → LeaseSystem
  | (world, .goOn next) => { system with world, runner := some next }
  | (world, .returned) => { system with world }.nextCall config
  | (world, .stopped) => { system with world, runner := none, todo := [] }

def resumeWatcher (system : LeaseSystem) (index : Nat) : LeaseWorld × Next → LeaseSystem
  | (world, .goOn next) =>
    { system with world, watchers := system.watchers.set index (some next) }
  | (world, .returned) => { system with world, watchers := system.watchers.set index none }
  | (world, .stopped) => { system with world, watchers := system.watchers.set index none }

/-- A watcher that has closed a tab and deletes the lease is remembered. -/
def recordEnded (world : LeaseWorld) : LeaseStep → LeaseWorld
  | .deleting pageId => { world with ended := pageId :: world.ended }
  | _ => world

def watcherAt (system : LeaseSystem) (index : Nat) : Option LeaseStep :=
  (system.watchers[index]?).join

def step (config : BrowserConfig) (system : LeaseSystem) : LeaseEvent → LeaseSystem
  | .pass time => { system with world := { system.world with now := system.world.now + time } }
  | .call call =>
    if system.runner = none then
      match call with
      | .searchLiepinCards modal => { system with todo := searchCalls modal }.nextCall config
      | call => system.beginCall config call []
    else system
  | .runner answer =>
    match system.runner with
    | none => system
    | some current =>
      (system.launch config current answer).resume config
        (advance config system.world answer current)
  | .watch => { system with watchers := system.watchers ++ [some .watching] }
  | .watcher index answer =>
    match system.watcherAt index with
    | none => system
    | some current =>
      system.resumeWatcher index
        (advance config (recordEnded system.world current) answer current)

def run (config : BrowserConfig) (system : LeaseSystem) (events : List LeaseEvent) : LeaseSystem :=
  events.foldl (step config) system

end LeaseSystem

end PiAgent

end SeekTalent

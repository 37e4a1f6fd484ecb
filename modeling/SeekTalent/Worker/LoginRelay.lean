import Mathlib.Data.List.Perm.Basic
import SeekTalent.Base.JsText
import SeekTalent.Base.Run
import SeekTalent.Base.Table

/-!
# The login relay

The controller keeps the browsers of the logins in progress in a map by connection. A call awaits
its browser many times, and at each `await` other calls go on: the map is read before and changed
after. So the state is the map, the calls in progress with the `await` each one stands at, and
what has happened to the browsers; an event begins a call, or gives a call in progress the answer
it has awaited.

A browser is in one place: in the map, with a call in progress, or closed (`Balanced`). Three
things break that, and nothing else does (`everySound_iff`): an operation on a browser that
is rejected before the browser is in the map, a `start` that finds a session of the same connection
when it stores its own, and a `complete` that finds another session than the one it has read.
-/

namespace SeekTalent

namespace LoginRelay

/-! ## 1. The data -/

structure SessionScope where
  tenantId : String
  workspaceId : String
  providerAccountHash : String
  connectionId : String
deriving DecidableEq

structure LoginRelayStartRequest where
  connectionId : String
  handoffToken : String
  expiresAt : Int
  scope : Option SessionScope := none

inductive RelayAction
  | click
  | type
  | key

structure LoginRelayInputRequest where
  connectionId : String
  action : RelayAction
  x : Option Int := none
  y : Option Int := none
  text : Option String := none
  key : Option String := none

/-- A browser is known by the number of its launch; it has one context with one page. -/
structure RelaySession where
  browser : Nat
  expiresAt : Int
  scope : Option SessionScope
deriving DecidableEq

/-- A cookie, with `none` for what is no string. -/
structure Cookie where
  name : Option String
  value : Option String
  domain : Option String

structure BrowserStorageState where
  cookies : List Cookie := []

def isLiepinCookieDomain (domain : String) : Bool :=
  let lower := Js.toLowerCase domain
  let normalized := if Py.startsWith lower "." then String.ofList (lower.toList.drop 1) else lower
  normalized == "liepin.com" || Py.endsWith normalized ".liepin.com"

def isSessionLikeCookieName (name : String) : Bool :=
  ["auth", "login", "token", "session", "sid", "sso"].any (Py.contains (Js.toLowerCase name))

def isLiepinSessionCookie (cookie : Cookie) : Bool :=
  match cookie.name, cookie.value, cookie.domain with
  | some name, some value, some domain =>
    value != "" && isLiepinCookieDomain domain && isSessionLikeCookieName name
  | _, _, _ => false

def hasLiepinAuthenticatedState (state : BrowserStorageState) : Bool :=
  state.cookies.any isLiepinSessionCookie

inductive RelayResult
  /-- `createInternalLoginHandoff` -/
  | handoff (connectionId handoffToken loginUrl : String) (expiresAt : Int)
  | snapshot (connectionId : String)
  | accepted (connectionId : String)
  | ready (connectionId : String) (providerAccountHash : Option String)

/-! ## 2. The calls in progress -/

/-- The call that has called `close`, with the session it has read. -/
inductive CloseCaller
  | start (request : LoginRelayStartRequest)
  | complete (connectionId : String) (session : RelaySession)
  /-- `void this.close(connectionId)`: nothing waits for it. -/
  | expiry (session : RelaySession)

/-- A call in progress, by what it awaits. -/
inductive RelayCall
  | closingContext (session : RelaySession) (caller : CloseCaller)
  | closingBrowser (session : RelaySession) (caller : CloseCaller)
  | launching (request : LoginRelayStartRequest)
  | newContext (request : LoginRelayStartRequest) (browser : Nat)
  | newPage (request : LoginRelayStartRequest) (browser : Nat)
  | goto (request : LoginRelayStartRequest) (browser : Nat)
  | screenshot (connectionId : String) (session : RelaySession)
  | title (connectionId : String) (session : RelaySession)
  | acting (connectionId : String) (session : RelaySession)
  | storageState (connectionId : String) (session : RelaySession)
  | writing (connectionId : String) (session : RelaySession) (scope : SessionScope)
      (state : BrowserStorageState)

/-- How an awaited operation ends. The state is what `storageState` resolves with. -/
inductive Reply
  | resolved (state : BrowserStorageState)
  | rejected (message : String)

/-- What a call does next. -/
inductive Next
  | awaits (call : RelayCall)
  | answers (answer : Except String RelayResult)
  | done

/-- A state written to the store, with the session that the call had read. -/
structure Written where
  read : RelaySession
  scope : SessionScope
  state : BrowserStorageState

/-- The controller, and what it has done: the number of browsers launched, those closed, the
sessions that `complete` and an expiry have taken from the map to close (after the session they
had read), and the states written. -/
structure Relay where
  sessions : Keyed (Prod.fst : String × RelaySession → String) := {}
  calls : List RelayCall := []
  launched : Nat := 0
  closed : List Nat := []
  taken : List (RelaySession × RelaySession) := []
  written : List Written := []
  answers : List (Except String RelayResult) := []

namespace Relay

/-- `this.sessions.get(connectionId)` -/
def session? (relay : Relay) (connectionId : String) : Option RelaySession :=
  (relay.sessions.lookup connectionId).map Prod.snd

/-- A call that goes on is suspended again, or has ended. -/
def follow (relay : Relay) : Next → Relay
  | .awaits call => { relay with calls := relay.calls ++ [call] }
  | .answers answer => { relay with answers := relay.answers ++ [answer] }
  | .done => relay

end Relay

/-- The session a caller of `close` has read. -/
def CloseCaller.read : CloseCaller → List RelaySession
  | start _ => []
  | complete _ session => [session]
  | expiry session => [session]

/-- What the caller of `close` does after it. -/
def afterClose : CloseCaller → Next
  | .start request => .awaits (.launching request)
  | .complete connectionId session =>
    .answers (.ok (.ready connectionId (session.scope.map SessionScope.providerAccountHash)))
  | .expiry _ => .done

/-- `close`, up to its first `await`: it takes the session from the map, whichever it is. -/
def close (relay : Relay) (connectionId : String) (caller : CloseCaller) : Relay × Next :=
  match relay.session? connectionId with
  | none => (relay, afterClose caller)
  | some session =>
    ({ relay with
        sessions := relay.sessions.delete connectionId
        taken := relay.taken ++ caller.read.map fun read => (read, session) },
      .awaits (.closingContext session caller))

/-- `requireLiveSession`: an expired session is closed, and nothing awaits that. -/
def requireLiveSession (relay : Relay) (connectionId : String) (now : Int) :
    Relay × Except String RelaySession :=
  match relay.session? connectionId with
  | none => (relay, .error "Login relay session not found.")
  | some session =>
    if session.expiresAt ≤ now then
      let closing := close relay connectionId (.expiry session)
      (closing.1.follow closing.2, .error "Login relay session expired.")
    else (relay, .ok session)

/-- The checks of `input`. -/
def inputError (request : LoginRelayInputRequest) : Option String :=
  match request.action with
  | .click =>
    if request.x.isNone || request.y.isNone then some "Click relay input requires x and y." else none
  | .type =>
    if request.text.any (Js.length · ≤ 500) then none
    else some "Type relay input requires bounded text."
  | .key =>
    if request.key.any (Js.length · ≤ 80) then none
    else some "Key relay input requires a bounded key."

/-! ## 3. The events -/

/-- A call in progress goes on: what it does up to its next `await`. -/
def advance (relay : Relay) (call : RelayCall) (reply : Reply) : Relay × Next :=
  match call with
  | .closingContext session caller => (relay, .awaits (.closingBrowser session caller))
  | .closingBrowser session caller =>
    ({ relay with closed := relay.closed ++ [session.browser] }, afterClose caller)
  | .launching request =>
    match reply with
    | .rejected message => (relay, .answers (.error message))
    | .resolved _ =>
      ({ relay with launched := relay.launched + 1 }, .awaits (.newContext request relay.launched))
  | .newContext request browser =>
    match reply with
    | .rejected message => (relay, .answers (.error message))
    | .resolved _ => (relay, .awaits (.newPage request browser))
  | .newPage request browser =>
    match reply with
    | .rejected message => (relay, .answers (.error message))
    | .resolved _ => (relay, .awaits (.goto request browser))
  | .goto request browser =>
    -- a failed navigation is caught
    let session := { browser, expiresAt := request.expiresAt, scope := request.scope }
    ({ relay with sessions := relay.sessions.put (request.connectionId, session) },
      .answers (.ok (.handoff request.connectionId request.handoffToken "https://www.liepin.com/"
        request.expiresAt)))
  | .screenshot connectionId session =>
    match reply with
    | .rejected message => (relay, .answers (.error message))
    | .resolved _ => (relay, .awaits (.title connectionId session))
  | .title connectionId _ => (relay, .answers (.ok (.snapshot connectionId)))
  | .acting connectionId _ =>
    match reply with
    | .rejected message => (relay, .answers (.error message))
    | .resolved _ => (relay, .answers (.ok (.accepted connectionId)))
  | .storageState connectionId session =>
    match reply with
    | .rejected message => (relay, .answers (.error message))
    | .resolved state =>
      if hasLiepinAuthenticatedState state then
        match session.scope with
        | some scope => (relay, .awaits (.writing connectionId session scope state))
        | none => close relay connectionId (.complete connectionId session)
      else (relay, .answers (.error "Liepin login has not been verified."))
  | .writing connectionId session scope state =>
    match reply with
    | .rejected message => (relay, .answers (.error message))
    | .resolved _ =>
      close { relay with written := relay.written ++ [{ read := session, scope, state }] }
        connectionId (.complete connectionId session)

inductive RelayEvent
  | start (request : LoginRelayStartRequest)
  | snapshot (connectionId : String) (now : Int)
  | input (request : LoginRelayInputRequest) (now : Int)
  | complete (connectionId : String) (now : Int)
  /-- The call at a position of the list has its answer. -/
  | resume (position : Nat) (reply : Reply)

def withLiveSession (relay : Relay) (connectionId : String) (now : Int)
    (next : RelaySession → Next) : Relay :=
  match requireLiveSession relay connectionId now with
  | (relay', .error message) => relay'.follow (.answers (.error message))
  | (relay', .ok session) => relay'.follow (next session)

def step (relay : Relay) : RelayEvent → Relay
  | .start request =>
    let closing := close relay request.connectionId (.start request)
    closing.1.follow closing.2
  | .snapshot connectionId now =>
    withLiveSession relay connectionId now fun session => .awaits (.screenshot connectionId session)
  | .input request now =>
    withLiveSession relay request.connectionId now fun session =>
      match inputError request with
      | some message => .answers (.error message)
      | none => .awaits (.acting request.connectionId session)
  | .complete connectionId now =>
    withLiveSession relay connectionId now fun session =>
      .awaits (.storageState connectionId session)
  | .resume position reply =>
    match relay.calls[position]? with
    | none => relay
    | some call =>
      let going := advance { relay with calls := relay.calls.eraseIdx position } call reply
      going.1.follow going.2

/-! ## 4. Where the browsers are -/

variable {relay : Relay} {call : RelayCall} {next next' : Next} {reply : Reply}
variable {connectionId : String} {caller : CloseCaller} {session read : RelaySession} {now : Int}
variable {event : RelayEvent} {browser : Nat}

/-- The browser that a call in progress has launched, or has taken from the map. -/
def RelayCall.held : RelayCall → Option Nat
  | closingContext session _ => some session.browser
  | closingBrowser session _ => some session.browser
  | newContext _ browser => some browser
  | newPage _ browser => some browser
  | goto _ browser => some browser
  | _ => none

def Next.held : Next → Option Nat
  | awaits call => call.held
  | _ => none

def RelayCall.WritesRead : RelayCall → Prop
  | writing _ session scope _ => session.scope = some scope
  | _ => True

def Next.WritesRead : Next → Prop
  | awaits call => call.WritesRead
  | _ => True

namespace Relay

def mapped (relay : Relay) : List Nat := relay.sessions.rows.map fun entry => entry.2.browser

def heldByCalls (relay : Relay) : List Nat := relay.calls.filterMap RelayCall.held

/-- What is to hold in every state: a browser that is launched and not closed is in the map, or
with a call in progress; `complete` and an expiry store and close the session they have read. -/
structure Sound (relay : Relay) : Prop where
  owned : ∀ browser, browser < relay.launched → browser ∉ relay.closed →
    browser ∈ relay.mapped ∨ browser ∈ relay.heldByCalls
  taken : ∀ pair ∈ relay.taken, pair.2 = pair.1
  written : ∀ entry ∈ relay.written, entry.read.scope = some entry.scope

def places (relay : Relay) (browser : Nat) : Nat :=
  relay.mapped.count browser + relay.heldByCalls.count browser + relay.closed.count browser

end Relay

/-- Every browser launched is in one place, when a call that goes on has `held`. -/
def Balanced (relay : Relay) (held : Option Nat) : Prop :=
  ∀ browser, relay.places browser + held.toList.count browser =
    if browser < relay.launched then 1 else 0

/-- The invariant, while a call that goes on is about to do `next`. Between two events that is
`done`. -/
structure Inv (relay : Relay) (next : Next) : Prop where
  balanced : Balanced relay next.held
  taken : ∀ pair ∈ relay.taken, pair.2 = pair.1
  written : ∀ entry ∈ relay.written, entry.read.scope = some entry.scope
  writing : ∀ call ∈ relay.calls, call.WritesRead
  nextWriting : next.WritesRead

theorem inv_start : Inv {} .done where
  balanced := by
    intro browser
    simp [Relay.places, Relay.mapped, Relay.heldByCalls, Next.held]
  taken := by simp
  written := by simp
  writing := by simp
  nextWriting := trivial

theorem Inv.goesOn (h : Inv relay next) (hheld : next'.held = next.held) (hnext : next'.WritesRead) :
    Inv relay next' where
  balanced := by
    rw [hheld]
    exact h.balanced
  taken := h.taken
  written := h.written
  writing := h.writing
  nextWriting := hnext

theorem Inv.sound (h : Inv relay .done) : relay.Sound where
  owned := by
    intro browser hlaunched hclosed
    have hone := h.balanced browser
    rw [if_pos hlaunched, Relay.places, List.count_eq_zero_of_not_mem hclosed] at hone
    by_contra hnone
    rw [not_or] at hnone
    rw [List.count_eq_zero_of_not_mem hnone.1, List.count_eq_zero_of_not_mem hnone.2] at hone
    cases hone
  taken := h.taken
  written := h.written

/-! ### A call goes on -/

theorem held_append (calls : List RelayCall) (call : RelayCall) :
    (calls ++ [call]).filterMap RelayCall.held =
      calls.filterMap RelayCall.held ++ call.held.toList := by
  rw [List.filterMap_append]
  cases h : call.held with
  | none => simp [h]
  | some browser => simp [h]

theorem Inv.follow (h : Inv relay next) : Inv (relay.follow next) .done := by
  cases next with
  | awaits call =>
    refine ⟨?_, h.taken, h.written, ?_, trivial⟩
    · intro browser
      have hone := h.balanced browser
      have hcalls : (relay.follow (.awaits call)).heldByCalls =
          relay.heldByCalls ++ call.held.toList := held_append relay.calls call
      show relay.mapped.count browser + (relay.follow (.awaits call)).heldByCalls.count browser +
        relay.closed.count browser + 0 = if browser < relay.launched then 1 else 0
      rw [← hone, hcalls, List.count_append]
      simp only [Relay.places, Next.held]
      omega
    · intro other hother
      rcases List.mem_append.mp hother with hother | hother
      · exact h.writing other hother
      · rw [List.mem_singleton.mp hother]
        exact h.nextWriting
  | answers answer => exact ⟨h.balanced, h.taken, h.written, h.writing, trivial⟩
  | done => exact h

theorem Inv.resume {position : Nat} (h : Inv relay .done)
    (hcall : relay.calls[position]? = some call) :
    Inv { relay with calls := relay.calls.eraseIdx position } (.awaits call) := by
  have hlt : position < relay.calls.length := (List.getElem?_eq_some_iff.mp hcall).1
  have hget : relay.calls[position] = call := (List.getElem?_eq_some_iff.mp hcall).2
  have hperm : (call :: relay.calls.eraseIdx position).Perm relay.calls := by
    rw [← hget]
    exact List.getElem_cons_eraseIdx_perm hlt
  refine ⟨?_, h.taken, h.written, ?_, h.writing call (hperm.mem_iff.mp List.mem_cons_self)⟩
  · intro browser
    have hone := h.balanced browser
    have hcount := (hperm.filterMap RelayCall.held).count_eq browser
    have hhead : (call :: relay.calls.eraseIdx position).filterMap RelayCall.held =
        call.held.toList ++ (relay.calls.eraseIdx position).filterMap RelayCall.held := by
      cases hheld : call.held with
      | none => simp [hheld]
      | some browser => simp [hheld]
    rw [hhead, List.count_append] at hcount
    show relay.mapped.count browser +
        ((relay.calls.eraseIdx position).filterMap RelayCall.held).count browser +
        relay.closed.count browser + call.held.toList.count browser =
      if browser < relay.launched then 1 else 0
    rw [← hone]
    simp only [Relay.places, Relay.heldByCalls, Next.held, Option.toList_none, List.count_nil]
    omega
  · intro other hother
    exact h.writing other (hperm.mem_iff.mp (List.mem_cons_of_mem call hother))

/-! ### The map changes -/

theorem count_mapped_of_session (h : relay.session? connectionId = some session) (browser : Nat) :
    relay.mapped.count browser = [session.browser].count browser +
      ((relay.sessions.others connectionId).map fun entry => entry.2.browser).count browser := by
  obtain ⟨entry, hentry, rfl⟩ := Option.map_eq_some_iff.mp h
  have hperm := (Keyed.perm_of_lookup hentry).map fun entry => entry.2.browser
  rw [Relay.mapped, hperm.count_eq, List.map_cons, ← List.singleton_append, List.count_append]

/-- The browsers of the map after `set`. -/
theorem count_mapped_put (browser : Nat) :
    (((relay.sessions.put (connectionId, session)).rows).map fun entry => entry.2.browser).count
        browser = [session.browser].count browser +
      ((relay.sessions.others connectionId).map fun entry => entry.2.browser).count browser := by
  have hperm : (relay.sessions.put (connectionId, session)).rows.Perm
      ((connectionId, session) :: relay.sessions.others connectionId) := Keyed.perm_put
  rw [(hperm.map fun entry => entry.2.browser).count_eq, List.map_cons, ← List.singleton_append,
    List.count_append]

theorem others_of_no_session (h : relay.session? connectionId = none) :
    relay.sessions.others connectionId = relay.sessions.rows :=
  Keyed.others_of_lookup_none (Option.map_eq_none_iff.mp h)

theorem afterClose_held : (afterClose caller).held = none := by
  cases caller with
  | start request => rfl
  | complete connectionId session => rfl
  | expiry session => rfl

theorem afterClose_writesRead : (afterClose caller).WritesRead := by
  cases caller with
  | start request => trivial
  | complete connectionId session => trivial
  | expiry session => trivial

def Relay.FindsRead (relay : Relay) (connectionId : String) (caller : CloseCaller) : Prop :=
  ∀ read ∈ caller.read, ∀ session, relay.session? connectionId = some session → session = read

/-- **`close`** takes a browser from the map and has it. -/
theorem Inv.close (h : Inv relay .done) (hread : relay.FindsRead connectionId caller) :
    Inv (close relay connectionId caller).1 (close relay connectionId caller).2 := by
  unfold LoginRelay.close
  cases hsession : relay.session? connectionId with
  | none => exact h.goesOn afterClose_held afterClose_writesRead
  | some session =>
    refine ⟨?_, ?_, h.written, h.writing, trivial⟩
    · intro browser
      have hone := h.balanced browser
      rw [Relay.places, count_mapped_of_session hsession] at hone
      show ((relay.sessions.others connectionId).map fun entry => entry.2.browser).count browser +
          relay.heldByCalls.count browser + relay.closed.count browser +
          [session.browser].count browser = if browser < relay.launched then 1 else 0
      rw [← hone]
      simp only [Next.held, Option.toList_none, List.count_nil]
      omega
    · intro pair hpair
      rcases List.mem_append.mp hpair with hpair | hpair
      · exact h.taken pair hpair
      · obtain ⟨read, hmem, rfl⟩ := List.mem_map.mp hpair
        exact hread read hmem session hsession

/-! ## 5. One step -/

/-- What a call may find when it goes on. The browser that a `start` has launched does what it is
asked until it is in the map; when it is put there, the connection has no session; and the session
that a `complete` closes is the one it has read. -/
def Allowed (relay : Relay) (call : RelayCall) (reply : Reply) : Prop :=
  match call with
  | .newContext _ _ => ∃ state, reply = .resolved state
  | .newPage _ _ => ∃ state, reply = .resolved state
  | .goto request _ => relay.session? request.connectionId = none
  | .storageState connectionId session =>
    (∃ state, reply = .resolved state ∧ hasLiepinAuthenticatedState state = true ∧
        session.scope = none) →
      relay.FindsRead connectionId (.complete connectionId session)
  | .writing connectionId session _ _ =>
    (∃ state, reply = .resolved state) → relay.FindsRead connectionId (.complete connectionId session)
  | _ => True

theorem Inv.launched (h : Inv relay .done) (request : LoginRelayStartRequest) :
    Inv { relay with launched := relay.launched + 1 }
      (.awaits (.newContext request relay.launched)) := by
  refine ⟨?_, h.taken, h.written, h.writing, trivial⟩
  intro browser
  have hone := h.balanced browser
  show relay.places browser + [relay.launched].count browser =
    if browser < relay.launched + 1 then 1 else 0
  simp only [Next.held, Option.toList_none, List.count_nil, Nat.add_zero] at hone
  rw [hone]
  by_cases hbrowser : relay.launched = browser
  · subst hbrowser
    simp
  · have hother : browser ∉ [relay.launched] := by simpa using Ne.symm hbrowser
    have hlt : browser < relay.launched + 1 ↔ browser < relay.launched := by omega
    rw [List.count_eq_zero_of_not_mem hother]
    simp only [hlt, Nat.add_zero]

theorem Inv.closed {stage : RelayCall} (h : Inv relay (.awaits stage))
    (hheld : stage.held = some session.browser) (hnext : next.held = none)
    (hwrites : next.WritesRead) :
    Inv { relay with closed := relay.closed ++ [session.browser] } next := by
  refine ⟨?_, h.taken, h.written, h.writing, hwrites⟩
  intro browser
  have hone := h.balanced browser
  rw [Next.held, hheld] at hone
  show relay.mapped.count browser + relay.heldByCalls.count browser +
      (relay.closed ++ [session.browser]).count browser + next.held.toList.count browser =
    if browser < relay.launched then 1 else 0
  rw [← hone, hnext, List.count_append]
  simp only [Relay.places, Option.toList_some, Option.toList_none, List.count_nil]
  omega

theorem Inv.stored {request : LoginRelayStartRequest} {stage : RelayCall}
    {answer : Except String RelayResult} (h : Inv relay (.awaits stage)) (hheld : stage.held = some session.browser)
    (hnone : relay.session? request.connectionId = none) :
    Inv { relay with sessions := relay.sessions.put (request.connectionId, session) }
      (.answers answer) := by
  refine ⟨?_, h.taken, h.written, h.writing, trivial⟩
  intro browser
  have hone := h.balanced browser
  rw [Next.held, hheld] at hone
  show ((relay.sessions.put (request.connectionId, session)).rows.map
        fun entry => entry.2.browser).count browser + relay.heldByCalls.count browser +
      relay.closed.count browser + 0 = if browser < relay.launched then 1 else 0
  rw [← hone, count_mapped_put, others_of_no_session hnone]
  simp only [Relay.places, Relay.mapped, Option.toList_some]
  omega

/-- **A call that goes on** and finds what it may find keeps the invariant. -/
theorem Inv.advance (h : Inv relay (.awaits call)) (hallowed : Allowed relay call reply) :
    Inv (advance relay call reply).1 (advance relay call reply).2 := by
  cases call with
  | closingContext session caller => exact h.goesOn rfl trivial
  | closingBrowser session caller => exact h.closed rfl afterClose_held afterClose_writesRead
  | launching request =>
    cases reply with
    | rejected message => exact h.goesOn rfl trivial
    | resolved state => exact (h.goesOn rfl trivial : Inv relay .done).launched request
  | newContext request browser =>
    obtain ⟨state, rfl⟩ := hallowed
    exact h.goesOn rfl trivial
  | newPage request browser =>
    obtain ⟨state, rfl⟩ := hallowed
    exact h.goesOn rfl trivial
  | goto request browser => exact h.stored rfl hallowed
  | screenshot connectionId session =>
    cases reply with
    | rejected message => exact h.goesOn rfl trivial
    | resolved state => exact h.goesOn rfl trivial
  | title connectionId session => exact h.goesOn rfl trivial
  | acting connectionId session =>
    cases reply with
    | rejected message => exact h.goesOn rfl trivial
    | resolved state => exact h.goesOn rfl trivial
  | storageState connectionId session =>
    cases reply with
    | rejected message => exact h.goesOn rfl trivial
    | resolved state =>
      unfold LoginRelay.advance
      dsimp only
      split
      · rename_i hauthenticated
        cases hscope : session.scope with
        | some scope => exact h.goesOn rfl hscope
        | none =>
          have hread := hallowed ⟨state, rfl, hauthenticated, hscope⟩
          exact (h.goesOn rfl trivial : Inv relay .done).close hread
      · exact h.goesOn rfl trivial
  | writing connectionId session scope state =>
    cases reply with
    | rejected message => exact h.goesOn rfl trivial
    | resolved written =>
      have hscope : session.scope = some scope := h.nextWriting
      have hwritten : Inv
          { relay with written := relay.written ++ [{ read := session, scope, state }] } .done := by
        refine ⟨h.balanced, h.taken, ?_, h.writing, trivial⟩
        intro entry hentry
        rcases List.mem_append.mp hentry with hentry | hentry
        · exact h.written entry hentry
        · rw [List.mem_singleton.mp hentry]
          exact hscope
      exact hwritten.close (hallowed ⟨written, rfl⟩)

def EventAllowed (relay : Relay) : RelayEvent → Prop
  | .resume position reply => ∀ call, relay.calls[position]? = some call → Allowed relay call reply
  | _ => True

theorem findsRead_expiry (h : relay.session? connectionId = some session) :
    relay.FindsRead connectionId (.expiry session) := by
  intro read hread found hfound
  obtain rfl := List.mem_singleton.mp hread
  exact Option.some.inj (hfound.symm.trans h)

theorem findsRead_start (request : LoginRelayStartRequest) :
    relay.FindsRead connectionId (.start request) := by
  intro read hread
  cases hread

theorem Inv.withLiveSession {next : RelaySession → Next} (h : Inv relay .done)
    (hheld : ∀ session, (next session).held = none) (hwrites : ∀ session, (next session).WritesRead) :
    Inv (withLiveSession relay connectionId now next) .done := by
  unfold LoginRelay.withLiveSession requireLiveSession
  cases hsession : relay.session? connectionId with
  | none => exact (h.goesOn rfl trivial : Inv relay (.answers _)).follow
  | some session =>
    dsimp only
    split
    · rename_i relay' message hlive
      split at hlive
      · cases hlive
        have hclosed := (h.close (findsRead_expiry hsession)).follow
        exact (hclosed.goesOn rfl trivial : Inv _ (.answers _)).follow
      · cases hlive
    · rename_i relay' live hlive
      split at hlive
      · cases hlive
      · cases hlive
        exact (h.goesOn (hheld session) (hwrites session)).follow

/-- **One event** that finds what it may find keeps the invariant. -/
theorem Inv.step (h : Inv relay .done) (hallowed : EventAllowed relay event) :
    Inv (step relay event) .done := by
  cases event with
  | start request => exact (h.close (findsRead_start request)).follow
  | snapshot connectionId now => exact h.withLiveSession (fun _ => rfl) (fun _ => trivial)
  | input request now =>
    apply h.withLiveSession
    · intro session
      cases inputError request <;> rfl
    · intro session
      cases inputError request <;> trivial
  | complete connectionId now => exact h.withLiveSession (fun _ => rfl) (fun _ => trivial)
  | resume position reply =>
    unfold LoginRelay.step
    dsimp only
    cases hcall : relay.calls[position]? with
    | none => exact h
    | some call =>
      have hresumed := h.resume hcall
      exact (hresumed.advance (hallowed call hcall)).follow

/-! ## 6. What else may happen -/

theorem not_sound_of_places (hnone : relay.places browser = 0) (hlaunched : browser < relay.launched) :
    ¬relay.Sound := by
  intro hsound
  simp only [Relay.places, Nat.add_eq_zero_iff, List.count_eq_zero] at hnone
  obtain ⟨⟨hmapped, hheld⟩, hclosed⟩ := hnone
  rcases hsound.owned browser hlaunched hclosed with h | h
  · exact hmapped h
  · exact hheld h

theorem not_sound_of_taken (h : (read, session) ∈ relay.taken) (hne : session ≠ read) :
    ¬relay.Sound := by
  intro hsound
  exact hne (hsound.taken _ h)

theorem Inv.held (h : Inv relay (.awaits call)) (hheld : call.held = some browser) :
    browser < relay.launched ∧ relay.places browser = 0 := by
  have hone := h.balanced browser
  rw [Next.held, hheld, Option.toList_some, List.count_singleton_self] at hone
  split at hone
  · rename_i hlt
    exact ⟨hlt, by omega⟩
  · omega

theorem follow_taken : (relay.follow next).taken = relay.taken := by
  cases next <;> rfl

theorem not_sound_close (h : ¬relay.FindsRead connectionId caller) :
    ¬((close relay connectionId caller).1.follow (close relay connectionId caller).2).Sound := by
  unfold Relay.FindsRead at h
  push Not at h
  obtain ⟨read, hread, session, hsession, hne⟩ := h
  have htaken : (read, session) ∈
      ((close relay connectionId caller).1.follow (close relay connectionId caller).2).taken := by
    rw [follow_taken]
    unfold close
    rw [hsession]
    apply List.mem_append_right
    exact List.mem_map.mpr ⟨read, hread, rfl⟩
  exact not_sound_of_taken htaken hne

theorem Inv.not_sound_stored {request : LoginRelayStartRequest} {answer : Except String RelayResult}
    (h : Inv relay (.awaits call)) (stored : RelaySession)
    (hheld : call.held = some stored.browser)
    (hsession : relay.session? request.connectionId = some session) :
    ¬(({ relay with sessions := relay.sessions.put (request.connectionId, stored) } : Relay).follow
        (.answers answer)).Sound := by
  obtain ⟨hlaunched, hplaces⟩ := h.held hheld
  have hone := h.balanced session.browser
  rw [Next.held, hheld] at hone
  have hmapped := count_mapped_of_session hsession session.browser
  rw [List.count_singleton_self] at hmapped
  have hne : session.browser ∉ [stored.browser] := by
    intro hmem
    rw [List.mem_singleton.mp hmem] at hmapped
    simp only [Relay.places] at hplaces
    omega
  have hlt : session.browser < relay.launched := by
    by_contra hge
    rw [if_neg hge] at hone
    simp only [Relay.places] at hone
    omega
  rw [if_pos hlt] at hone
  have hnone : (({ relay with sessions := relay.sessions.put (request.connectionId, stored) } :
      Relay).follow (.answers answer)).places session.browser = 0 := by
    show ((relay.sessions.put (request.connectionId, stored)).rows.map
          fun entry => entry.2.browser).count session.browser +
        relay.heldByCalls.count session.browser + relay.closed.count session.browser = 0
    rw [count_mapped_put, List.count_eq_zero_of_not_mem hne]
    simp only [Relay.places] at hone
    omega
  exact not_sound_of_places hnone hlt

/-- **A call that goes on** and finds what it may not find leaves a state that is not sound. -/
theorem Inv.not_sound_advance (h : Inv relay (.awaits call)) (hbad : ¬Allowed relay call reply) :
    ¬((LoginRelay.advance relay call reply).1.follow
        (LoginRelay.advance relay call reply).2).Sound := by
  cases call with
  | newContext request browser =>
    cases reply with
    | resolved state => exact absurd ⟨state, rfl⟩ hbad
    | rejected message =>
      obtain ⟨hlaunched, hplaces⟩ := h.held rfl
      exact not_sound_of_places hplaces hlaunched
  | newPage request browser =>
    cases reply with
    | resolved state => exact absurd ⟨state, rfl⟩ hbad
    | rejected message =>
      obtain ⟨hlaunched, hplaces⟩ := h.held rfl
      exact not_sound_of_places hplaces hlaunched
  | goto request browser =>
    obtain ⟨session, hsession⟩ := Option.ne_none_iff_exists'.mp hbad
    exact h.not_sound_stored { browser, expiresAt := request.expiresAt, scope := request.scope } rfl
      hsession
  | storageState connectionId session =>
    rw [Allowed, Classical.not_imp] at hbad
    obtain ⟨⟨state, rfl, hauthenticated, hscope⟩, hread⟩ := hbad
    unfold LoginRelay.advance
    dsimp only
    rw [if_pos hauthenticated, hscope]
    exact not_sound_close hread
  | writing connectionId session scope state =>
    rw [Allowed, Classical.not_imp] at hbad
    obtain ⟨⟨written, rfl⟩, hread⟩ := hbad
    exact not_sound_close hread
  | _ => exact absurd trivial hbad

/-- **One event** is sound if, and only if, it finds what it may find. -/
theorem Inv.sound_step_iff (h : Inv relay .done) :
    (LoginRelay.step relay event).Sound ↔ EventAllowed relay event := by
  constructor
  · intro hsound
    cases event with
    | resume position reply =>
      intro call hcall
      by_contra hbad
      unfold LoginRelay.step at hsound
      dsimp only at hsound
      rw [hcall] at hsound
      exact (h.resume hcall).not_sound_advance hbad hsound
    | _ => trivial
  · intro hallowed
    exact (h.step hallowed).sound

/-! ## 7. Every run -/

open Stateful (Along)

variable {events : List RelayEvent}

def run (events : List RelayEvent) : Relay := events.foldl step {}

def EverySound (events : List RelayEvent) : Prop :=
  ∀ before after, events = before ++ after → (run before).Sound

/-- Every browser that is open is reachable from the map. -/
def Relay.Reachable (relay : Relay) : Prop :=
  ∀ browser, browser < relay.launched → browser ∉ relay.closed → browser ∈ relay.mapped

theorem inv_run (h : Along step {} EventAllowed events) : Inv (run events) .done := by
  have hstep : ∀ relay event, EventAllowed relay event → Inv relay .done →
      Inv (step relay event) .done := fun relay event hallowed hinv => hinv.step hallowed
  exact Stateful.foldl_induction EventAllowed hstep inv_start h

theorem run_snoc (event : RelayEvent) : run (events ++ [event]) = step (run events) event :=
  List.foldl_concat ..

theorem along_of_everySound (h : EverySound events) : Along step {} EventAllowed events := by
  induction events using List.reverseRecOn with
  | nil => exact Stateful.along_nil
  | append_singleton events event ih =>
    have hbefore : Along step {} EventAllowed events := by
      apply ih
      intro before after hevents
      apply h before (after ++ [event])
      rw [hevents, List.append_assoc]
    apply hbefore.snoc
    have hsound := h (events ++ [event]) [] (List.append_nil _).symm
    rw [run_snoc] at hsound
    exact (inv_run hbefore).sound_step_iff.mp hsound

theorem Inv.reachable_iff (h : Inv relay .done) :
    relay.Reachable ↔ ∀ call ∈ relay.calls, call.held = none := by
  constructor
  · intro hreachable call hcall
    cases hheld : call.held with
    | none => rfl
    | some browser =>
      have hmem : browser ∈ relay.heldByCalls := List.mem_filterMap.mpr ⟨call, hcall, hheld⟩
      have hone := h.balanced browser
      have hpos := List.count_pos_iff.mpr hmem
      simp only [Relay.places, Next.held, Option.toList_none, List.count_nil] at hone
      split at hone
      · rename_i hlt
        -- it is with the call, and so in no other place
        have hclosed : browser ∉ relay.closed := by
          rw [← List.count_eq_zero]
          omega
        have hmapped := List.count_pos_iff.mpr (hreachable browser hlt hclosed)
        omega
      · omega
  · intro hnone browser hlaunched hclosed
    rcases h.sound.owned browser hlaunched hclosed with hmapped | hheld
    · exact hmapped
    · obtain ⟨call, hcall, hbrowser⟩ := List.mem_filterMap.mp hheld
      rw [hnone call hcall] at hbrowser
      cases hbrowser

/-- **The login relay over every interleaving.** Every state of a run is sound exactly when every
event of it has found what it may find. In such a run the open browsers are reachable from the map
in every state in which no call in progress has one. -/
theorem everySound_iff (events : List RelayEvent) :
    (EverySound events ↔ Along step {} EventAllowed events) ∧
      (Along step {} EventAllowed events → ∀ before after, events = before ++ after →
        ((run before).Reachable ↔ ∀ call ∈ (run before).calls, call.held = none)) := by
  refine ⟨⟨along_of_everySound, ?_⟩, ?_⟩
  · intro h before after hevents
    rw [hevents] at h
    exact (inv_run h.append.1).sound
  · intro h before after hevents
    rw [hevents] at h
    exact (inv_run h.append.1).reachable_iff

/-! ### Two logins of one connection -/

def loginRequest : LoginRelayStartRequest :=
  { connectionId := "conn-1", handoffToken := "token", expiresAt := 300 }

def loggedIn : BrowserStorageState where
  cookies := [{ name := some "session", value := some "1", domain := some ".liepin.com" }]

def goOn : RelayEvent := .resume 0 (.resolved {})

/-- Two calls of `start`, in step: neither finds the session of the other when it begins. -/
def twoStarts : List RelayEvent :=
  [.start loginRequest, .start loginRequest, goOn, goOn, goOn, goOn, goOn, goOn, goOn, goOn]

/-- A `start` from its beginning to its end. -/
def wholeStart : List RelayEvent := [.start loginRequest, goOn, goOn, goOn, goOn]

/-- A `complete` awaits the state of the first login while another takes its place. -/
def startDuringComplete : List RelayEvent :=
  wholeStart ++ [.complete "conn-1" 100, .start loginRequest] ++
    -- the new login closes the old one, launches its browser and stores its session
    List.replicate 6 (.resume 1 (.resolved {})) ++ [.resume 0 (.resolved loggedIn)]

/-- Two logins are done one after the other at each `await`: nothing is in progress any more, and
the browser of the first one is open and out of reach. And a `complete` that has read the first
login closes the second one, which a later `start` has put in its place. -/
theorem not_everySound_twoStarts :
    (run twoStarts).calls = [] ∧ ¬(run twoStarts).Reachable ∧ ¬EverySound twoStarts ∧
      (({ browser := 0, expiresAt := 300, scope := none },
        { browser := 1, expiresAt := 300, scope := none }) : RelaySession × RelaySession) ∈
        (run startDuringComplete).taken := by
  have hlaunched : 0 < (run twoStarts).launched := by decide
  have hclosed : 0 ∉ (run twoStarts).closed := by decide
  have hmapped : 0 ∉ (run twoStarts).mapped := by decide
  have hheld : 0 ∉ (run twoStarts).heldByCalls := by decide
  refine ⟨by decide, ?_, ?_, by decide⟩
  · intro h
    exact hmapped (h 0 hlaunched hclosed)
  · intro h
    have hsound := h twoStarts [] (List.append_nil _).symm
    rcases hsound.owned 0 hlaunched hclosed with h | h
    · exact hmapped h
    · exact hheld h

end LoginRelay

end SeekTalent

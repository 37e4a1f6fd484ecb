import SeekTalent.Workbench.LoginLockout

/-!
# Login sessions

A login makes a session and revokes the user's other ones. The browser keeps a token for the session
and a second one against forged requests (CSRF), the tables keep their digests. A request is made of
several transactions, and those of other requests come in between: a run is a run of transactions,
in any order and with any clock.

What the tables answer is what the run has seen. A token is let in from the login that issued it
until the next login, the logout, or twelve hours (`getUserBySession_eq_some_iff`), a CSRF token
until the session has another one (`verifySessionCsrf_iff`).
-/

namespace SeekTalent

open Stateful (Since holds_iff_since)

/-! ## 1. The tables -/

def SESSION_TTL_HOURS : Nat := 12

structure UserRow where
  userId : String
  email : String
  displayName : String
  disabledAt : Option Instant

structure MembershipRow where
  workspaceId : String
  userId : String
  role : String

structure UserSessionRow where
  /-- the digest of the session's token -/
  sessionId : String
  userId : String
  workspaceId : String
  csrfTokenDigest : String
  issuedAt : Instant
  expiresAt : Instant
  revokedAt : Option Instant
  lastSeenAt : Instant

structure Accounts where
  users : List UserRow
  workspaces : List String
  memberships : List MembershipRow

structure AuthStore extends Accounts where
  /-- microseconds since the epoch -/
  now : Nat
  userSessions : Keyed UserSessionRow.sessionId := {}

/-- `WorkbenchUser`, with what is shown of a user. -/
structure AccountUser extends WorkbenchUser where
  email : String
  displayName : String
  role : String
  deriving DecidableEq

/-- The clock is read anew, or a transaction of the store. -/
inductive AuthCall where
  | clock (now : Nat)
  | createUserSession (userId workspaceId sessionToken csrfToken : String)
  | getUserBySession (sessionDigest : Option String) (touchLastSeen : Bool)
  | revokeUserSession (sessionDigest : Option String)
  | rotateSessionCsrf (sessionDigest csrfToken : String)

/-! ## 2. The transactions -/

section Transactions

variable (sha256 : String → String)

def sessionDigest (token : String) : String := "sha256$" ++ sha256 token

namespace AuthStore

variable (store : AuthStore)

def nowIso : Instant := store.now / MICROSECONDS

/-- When a session ends that is made now. -/
def expiry : Instant := (store.now + SESSION_TTL_HOURS * 3600 * MICROSECONDS) / MICROSECONDS

def createUserSession (userId workspaceId sessionToken csrfToken : String) :
    Except WorkbenchError AuthStore :=
  let revoked := store.userSessions.update
    (fun row => row.userId = userId ∧ row.workspaceId = workspaceId ∧ row.revokedAt = none)
    (fun row => { row with revokedAt := some store.nowIso }) fun _ => rfl
  let row : UserSessionRow :=
    { sessionId := sessionDigest sha256 sessionToken
      userId
      workspaceId
      csrfTokenDigest := sessionDigest sha256 csrfToken
      issuedAt := store.nowIso
      expiresAt := store.expiry
      revokedAt := none
      lastSeenAt := store.nowIso }
  -- the foreign keys of the row
  if userId ∈ store.users.map (·.userId) ∧ workspaceId ∈ store.workspaces then
    match revoked.insert row with
    | some userSessions => .ok { store with userSessions }
    | none => .error .integrityError
  else .error .integrityError

/-- The user that a session is joined with, and whether the account is disabled. -/
def account (userId workspaceId : String) : Option (AccountUser × Bool) := do
  let user ← store.users.find? (·.userId = userId)
  let membership ← store.memberships.find? fun row =>
    row.userId = userId ∧ row.workspaceId = workspaceId
  some
    ({ userId := user.userId
       workspaceId := membership.workspaceId
       email := user.email
       displayName := user.displayName
       role := membership.role }, user.disabledAt.isSome)

def getUserBySession (digest : Option String) (touchLastSeen : Bool) :
    Option AccountUser × AuthStore :=
  match digest.filter (· ≠ "") with
  | none => (none, store)
  | some digest =>
    match store.userSessions.lookup digest with
    | none => (none, store)
    | some session =>
      match store.account session.userId session.workspaceId with
      | none => (none, store)
      | some (user, disabled) =>
        if session.revokedAt ≠ none ∨ disabled then (none, store)
        else if session.expiresAt * MICROSECONDS ≤ store.now then (none, store)
        else if touchLastSeen ∧ (session.lastSeenAt + 60) * MICROSECONDS ≤ store.now then
          (some user,
            { store with
              userSessions := store.userSessions.update (·.sessionId = digest)
                (fun row => { row with lastSeenAt := store.nowIso }) fun _ => rfl })
        else (some user, store)

def revokeUserSession (digest : Option String) : AuthStore :=
  match digest.filter (· ≠ "") with
  | none => store
  | some digest =>
    { store with
      userSessions := store.userSessions.update
        (fun row => row.sessionId = digest ∧ row.revokedAt = none)
        (fun row => { row with revokedAt := some store.nowIso }) fun _ => rfl }

def rotateSessionCsrf (digest csrfToken : String) : AuthStore :=
  { store with
    userSessions := store.userSessions.update
      (fun row => row.sessionId = digest ∧ row.revokedAt = none)
      (fun row => { row with csrfTokenDigest := sessionDigest sha256 csrfToken }) fun _ => rfl }

def verifySessionCsrf (digest : String) (csrfToken : Option String) : Bool :=
  match csrfToken.filter (· ≠ ""), store.userSessions.lookup digest with
  | some csrfToken, some row =>
    row.revokedAt = none ∧ row.csrfTokenDigest = sessionDigest sha256 csrfToken
  | _, _ => false

/-- A transaction that raises is rolled back. -/
def step : AuthCall → AuthStore
  | .clock now => { store with now }
  | .createUserSession userId workspaceId sessionToken csrfToken =>
    match store.createUserSession sha256 userId workspaceId sessionToken csrfToken with
    | .ok store' => store'
    | .error _ => store
  | .getUserBySession digest touchLastSeen => (store.getUserBySession digest touchLastSeen).2
  | .revokeUserSession digest => store.revokeUserSession digest
  | .rotateSessionCsrf digest csrfToken => store.rotateSessionCsrf sha256 digest csrfToken

end AuthStore

/-! ## 3. What a run has seen -/

/-- The session with the digest is not revoked, and this is its row. -/
def AuthStore.Live (store : AuthStore) (digest userId workspaceId : String) (expiresAt : Instant)
    (csrf : String) : Prop :=
  ∃ row, store.userSessions.lookup digest = some row ∧ row.revokedAt = none ∧
    row.userId = userId ∧ row.workspaceId = workspaceId ∧ row.expiresAt = expiresAt ∧
    row.csrfTokenDigest = csrf

def LiveFor (digest userId workspaceId : String) (expiresAt : Instant) (store : AuthStore) : Prop :=
  ∃ csrf, store.Live digest userId workspaceId expiresAt csrf

def HasCsrf (digest csrf : String) (store : AuthStore) : Prop :=
  ∃ userId workspaceId expiresAt, store.Live digest userId workspaceId expiresAt csrf

/-- A login of the user, which is not refused. -/
def LogsIn (userId workspaceId sessionToken csrfToken : String) (store : AuthStore)
    (call : AuthCall) : Prop :=
  call = .createUserSession userId workspaceId sessionToken csrfToken ∧
    ∃ store', store.createUserSession sha256 userId workspaceId sessionToken csrfToken = .ok store'

/-- The login that issues a session. -/
def Issues (digest userId workspaceId : String) (expiresAt : Instant) (csrf : String)
    (store : AuthStore) (call : AuthCall) : Prop :=
  ∃ sessionToken csrfToken,
    LogsIn sha256 userId workspaceId sessionToken csrfToken store call ∧
      sessionDigest sha256 sessionToken = digest ∧ sessionDigest sha256 csrfToken = csrf ∧
      store.expiry = expiresAt

/-- Neither a logout of the session nor a login of its user. -/
def Keeps (digest userId workspaceId : String) (store : AuthStore) (call : AuthCall) : Prop :=
  call ≠ .revokeUserSession (some digest) ∧
    ∀ sessionToken csrfToken, ¬LogsIn sha256 userId workspaceId sessionToken csrfToken store call

/-- A CSRF token is given out, with the session or for one that is live. -/
def GivesCsrf (digest csrf : String) (store : AuthStore) (call : AuthCall) : Prop :=
  (∃ userId workspaceId expiresAt,
      Issues sha256 digest userId workspaceId expiresAt csrf store call) ∨
    (∃ csrf', HasCsrf digest csrf' store) ∧
      ∃ csrfToken, call = .rotateSessionCsrf digest csrfToken ∧
        sessionDigest sha256 csrfToken = csrf

/-- The session goes on, and is not given another CSRF token. -/
def KeepsCsrf (digest : String) (store : AuthStore) (call : AuthCall) : Prop :=
  (∀ csrfToken, call ≠ .rotateSessionCsrf digest csrfToken) ∧
    ∀ userId workspaceId expiresAt, LiveFor digest userId workspaceId expiresAt store →
      Keeps sha256 digest userId workspaceId store call

/-- The CSRF digest of a session after a call. -/
def csrfAfter (digest csrf : String) : AuthCall → String
  | .rotateSessionCsrf digest' csrfToken =>
    if digest' = digest then sessionDigest sha256 csrfToken else csrf
  | _ => csrf

end Transactions

/-! ## 4. What a transaction does to a session -/

section Sessions

variable {sha256 : String → String} {store store' : AuthStore} {call : AuthCall}
variable {digest userId workspaceId csrf : String} {expiresAt : Instant}

namespace AuthStore

theorem Live.unique {userId' workspaceId' csrf' : String} {expiresAt' : Instant}
    (h : store.Live digest userId workspaceId expiresAt csrf)
    (h' : store.Live digest userId' workspaceId' expiresAt' csrf') :
    userId = userId' ∧ workspaceId = workspaceId' := by
  obtain ⟨row, hrow, -, rfl, rfl, -, -⟩ := h
  obtain ⟨row', hrow', -, rfl, rfl, -, -⟩ := h'
  obtain rfl := Option.some.inj (hrow.symm.trans hrow')
  exact ⟨rfl, rfl⟩

theorem live_createUserSession {userId' workspaceId' token csrfToken : String}
    (h : store.createUserSession sha256 userId' workspaceId' token csrfToken = .ok store') :
    store'.Live digest userId workspaceId expiresAt csrf ↔
      (userId' = userId ∧ workspaceId' = workspaceId ∧ sessionDigest sha256 token = digest ∧
        sessionDigest sha256 csrfToken = csrf ∧ store.expiry = expiresAt) ∨
      store.Live digest userId workspaceId expiresAt csrf ∧
        ¬(userId' = userId ∧ workspaceId' = workspaceId) := by
  unfold createUserSession at h
  dsimp only at h
  split at h
  case isFalse => cases h
  split at h
  case h_2 => cases h
  rename_i hinsert
  obtain rfl := Except.ok.inj h
  obtain ⟨hnone, hlookup⟩ := Keyed.lookup_insert hinsert
  rw [Keyed.lookup_update, Option.map_eq_none_iff] at hnone
  specialize hlookup digest
  by_cases hdigest : sessionDigest sha256 token = digest
  · -- the row is new
    subst hdigest
    unfold Live
    dsimp only at hnone ⊢
    rw [hlookup, hnone]
    simp
    tauto
  · rw [if_neg hdigest, Keyed.lookup_update] at hlookup
    cases hrow : store.userSessions.lookup digest with
    | none => simp [Live, hlookup, hrow, hdigest]
    | some row =>
      rw [hrow, Option.map_some] at hlookup
      simp only [Live, hlookup, hrow, Option.some.injEq, exists_eq_left', decide_eq_true_eq]
      grind

theorem live_update {p : UserSessionRow → Bool} {f : UserSessionRow → UserSessionRow}
    (hf : ∀ row, (f row).sessionId = row.sessionId)
    (h : store'.userSessions = store.userSessions.update p f hf) :
    store'.Live digest userId workspaceId expiresAt csrf ↔
      ∃ row, store.userSessions.lookup digest = some row ∧
        let row := if p row then f row else row
        row.revokedAt = none ∧ row.userId = userId ∧ row.workspaceId = workspaceId ∧
          row.expiresAt = expiresAt ∧ row.csrfTokenDigest = csrf := by
  unfold Live
  rw [h, Keyed.lookup_update]
  simp

theorem live_getUserBySession (digest' : Option String) (touchLastSeen : Bool) :
    (store.getUserBySession digest' touchLastSeen).2.Live digest userId workspaceId expiresAt csrf ↔
      store.Live digest userId workspaceId expiresAt csrf := by
  unfold getUserBySession
  split
  · rfl
  split
  · rfl
  split
  · rfl
  split
  · rfl
  split
  · rfl
  split
  · rw [live_update (by intro _; rfl) rfl]
    refine exists_congr fun row => and_congr_right fun _ => ?_
    dsimp only
    split <;> rfl
  · rfl

theorem live_revokeUserSession (hdigest : digest ≠ "") (digest' : Option String) :
    (store.revokeUserSession digest').Live digest userId workspaceId expiresAt csrf ↔
      store.Live digest userId workspaceId expiresAt csrf ∧ digest' ≠ some digest := by
  unfold revokeUserSession
  split
  · rename_i hnone
    refine (and_iff_left ?_).symm
    rintro rfl
    simp [Option.filter, hdigest] at hnone
  · rename_i hsome
    obtain ⟨rfl, -⟩ := Option.filter_eq_some_iff.mp hsome
    rw [live_update (by intro _; rfl) rfl]
    constructor
    · intro h
      obtain ⟨row, hrow, h⟩ := h
      have hkey := Keyed.key_of_lookup hrow
      dsimp only at h
      split at h
      · cases h.1
      · rename_i hother
        refine ⟨⟨row, hrow, h⟩, ?_⟩
        intro heq
        simp_all
    · intro h
      obtain ⟨⟨row, hrow, h⟩, hother⟩ := h
      have hkey := Keyed.key_of_lookup hrow
      refine ⟨row, hrow, ?_⟩
      rw [if_neg]
      · exact h
      · intro hselected
        simp_all

theorem live_rotateSessionCsrf (digest' csrfToken : String) :
    (store.rotateSessionCsrf sha256 digest' csrfToken).Live digest userId workspaceId expiresAt csrf ↔
      ∃ csrf', store.Live digest userId workspaceId expiresAt csrf' ∧
        csrfAfter sha256 digest csrf' (.rotateSessionCsrf digest' csrfToken) = csrf := by
  rw [live_update (by intro _; rfl) rfl]
  unfold Live csrfAfter
  constructor
  · intro h
    obtain ⟨row, hrow, h⟩ := h
    have hkey := Keyed.key_of_lookup hrow
    refine ⟨row.csrfTokenDigest, ⟨row, hrow, ?_⟩, ?_⟩ <;> grind
  · intro h
    obtain ⟨csrf', ⟨row, hrow, h⟩, hcsrf⟩ := h
    have hkey := Keyed.key_of_lookup hrow
    refine ⟨row, hrow, ?_⟩
    grind

/-- **What a call does to a session.** -/
theorem live_step (hdigest : digest ≠ "") :
    (store.step sha256 call).Live digest userId workspaceId expiresAt csrf ↔
      Issues sha256 digest userId workspaceId expiresAt csrf store call ∨
        ∃ csrf', store.Live digest userId workspaceId expiresAt csrf' ∧
          Keeps sha256 digest userId workspaceId store call ∧
          csrfAfter sha256 digest csrf' call = csrf := by
  cases call with
  | clock now => simp [step, Live, Issues, LogsIn, Keeps, csrfAfter]
  | createUserSession userId' workspaceId' token csrfToken =>
    unfold step
    dsimp only
    cases hcreate : store.createUserSession sha256 userId' workspaceId' token csrfToken with
    | error error =>
      -- a login that is refused issues nothing and ends nothing
      have hrefused : ∀ userId workspaceId token' csrfToken', ¬LogsIn sha256 userId workspaceId
          token' csrfToken' store (.createUserSession userId' workspaceId' token csrfToken) := by
        rintro _ _ _ _ ⟨heq, store', h⟩
        cases heq
        rw [hcreate] at h
        cases h
      simp [Issues, Keeps, hrefused, csrfAfter]
    | ok store' =>
      have hlogsIn : ∀ userId workspaceId token' csrfToken', LogsIn sha256 userId workspaceId
          token' csrfToken' store (.createUserSession userId' workspaceId' token csrfToken) ↔
            userId' = userId ∧ workspaceId' = workspaceId ∧ token = token' ∧
              csrfToken = csrfToken' := by
        intro userId workspaceId token' csrfToken'
        constructor
        · rintro ⟨heq, -⟩
          simpa using heq
        · rintro ⟨rfl, rfl, rfl, rfl⟩
          exact ⟨rfl, store', hcreate⟩
      dsimp only
      rw [live_createUserSession hcreate]
      simp only [Issues, Keeps, hlogsIn, csrfAfter]
      grind
  | getUserBySession digest' touchLastSeen =>
    rw [step, live_getUserBySession]
    simp [Issues, LogsIn, Keeps, csrfAfter]
  | revokeUserSession digest' =>
    rw [step, live_revokeUserSession hdigest]
    simp [Issues, LogsIn, Keeps, csrfAfter]
  | rotateSessionCsrf digest' csrfToken =>
    rw [step, live_rotateSessionCsrf]
    simp [Issues, LogsIn, Keeps]

theorem account_ids {user : AccountUser} {disabled : Bool}
    (h : store.account userId workspaceId = some (user, disabled)) :
    user.userId = userId ∧ user.workspaceId = workspaceId := by
  unfold account at h
  simp only [Option.bind_eq_bind, Option.bind_eq_some_iff, Option.some.injEq, Prod.mk.injEq] at h
  obtain ⟨row, hrow, membership, hmembership, rfl, -⟩ := h
  have hsame := List.find?_some hrow
  have hmember := List.find?_some hmembership
  simp only [decide_eq_true_eq] at hsame hmember
  exact ⟨hsame, hmember.2⟩

theorem getUserBySession_fst (hdigest : digest ≠ "") (touchLastSeen : Bool) (user : AccountUser) :
    (store.getUserBySession (some digest) touchLastSeen).1 = some user ↔
      store.account user.userId user.workspaceId = some (user, false) ∧
        ∃ expiresAt, LiveFor digest user.userId user.workspaceId expiresAt store ∧
          store.now < expiresAt * MICROSECONDS := by
  have hfilter : (some digest).filter (· ≠ "") = some digest := by simp [hdigest]
  unfold getUserBySession LiveFor Live
  rw [hfilter]
  dsimp only
  constructor
  · intro h
    split at h
    · cases h
    rename_i session hsession
    split at h
    · cases h
    rename_i found disabled haccount
    split at h
    · cases h
    rename_i hopen
    split at h
    · cases h
    rename_i htime
    have hfound : found = user := by
      split at h <;> exact Option.some.inj h
    subst hfound
    obtain ⟨huser, hworkspace⟩ := account_ids haccount
    rw [huser, hworkspace]
    have hdisabled : disabled = false := by simpa using fun h => hopen (.inr h)
    have hrevoked : session.revokedAt = none := by simpa using fun h => hopen (.inl h)
    subst hdisabled
    exact ⟨haccount, session.expiresAt,
      ⟨session.csrfTokenDigest, session, hsession, hrevoked, rfl, rfl, rfl, rfl⟩, Nat.not_le.mp htime⟩
  · intro h
    obtain ⟨haccount, expiresAt, ⟨csrf, session, hsession, hrevoked, huser, hworkspace, rfl, -⟩,
      htime⟩ := h
    rw [← huser, ← hworkspace] at haccount
    rw [hsession]
    dsimp only
    rw [haccount]
    dsimp only
    rw [if_neg, if_neg (Nat.not_le.mpr htime)]
    · split <;> rfl
    · simp [hrevoked]

theorem verifySessionCsrf_live {csrfToken : String} :
    store.verifySessionCsrf sha256 digest (some csrfToken) = true ↔
      csrfToken ≠ "" ∧ HasCsrf digest (sessionDigest sha256 csrfToken) store := by
  unfold verifySessionCsrf HasCsrf Live
  by_cases hempty : csrfToken = ""
  · simp [hempty]
  · have hfilter : (some csrfToken).filter (· ≠ "") = some csrfToken := by simp [hempty]
    rw [hfilter]
    cases hrow : store.userSessions.lookup digest with
    | none => simp
    | some row => simp [hempty]

end AuthStore

theorem liveFor_step (hdigest : digest ≠ "") :
    LiveFor digest userId workspaceId expiresAt (store.step sha256 call) ↔
      (∃ csrf, Issues sha256 digest userId workspaceId expiresAt csrf store call) ∨
        LiveFor digest userId workspaceId expiresAt store ∧
          Keeps sha256 digest userId workspaceId store call := by
  simp only [LiveFor, AuthStore.live_step hdigest]
  constructor
  · rintro ⟨csrf, hissues | ⟨csrf', hlive, hkeeps, -⟩⟩
    · exact .inl ⟨csrf, hissues⟩
    · exact .inr ⟨⟨csrf', hlive⟩, hkeeps⟩
  · rintro (⟨csrf, hissues⟩ | ⟨⟨csrf', hlive⟩, hkeeps⟩)
    · exact ⟨csrf, .inl hissues⟩
    · exact ⟨_, .inr ⟨csrf', hlive, hkeeps, rfl⟩⟩

theorem hasCsrf_step (hdigest : digest ≠ "") : HasCsrf digest csrf (store.step sha256 call) ↔
    GivesCsrf sha256 digest csrf store call ∨
      HasCsrf digest csrf store ∧ KeepsCsrf sha256 digest store call := by
  simp only [HasCsrf, AuthStore.live_step hdigest]
  constructor
  · rintro ⟨userId, workspaceId, expiresAt, hissues | ⟨csrf', hlive, hkeeps, hafter⟩⟩
    · exact .inl (.inl ⟨userId, workspaceId, expiresAt, hissues⟩)
    -- a live session has the token of the rotation, or the one that it had
    · by_cases hrotates : ∃ csrfToken, call = .rotateSessionCsrf digest csrfToken
      · obtain ⟨csrfToken, rfl⟩ := hrotates
        rw [csrfAfter, if_pos rfl] at hafter
        exact .inl (.inr ⟨⟨csrf', userId, workspaceId, expiresAt, hlive⟩, csrfToken, rfl, hafter⟩)
      · have hsame : csrf' = csrf := by
          unfold csrfAfter at hafter
          split at hafter
          · rw [if_neg] at hafter
            · exact hafter
            · rintro rfl
              exact hrotates ⟨_, rfl⟩
          · exact hafter
        subst hsame
        refine .inr ⟨⟨userId, workspaceId, expiresAt, hlive⟩, fun csrfToken hcall =>
          hrotates ⟨csrfToken, hcall⟩, ?_⟩
        rintro userId' workspaceId' expiresAt' ⟨csrf, hlive'⟩
        obtain ⟨rfl, rfl⟩ := hlive.unique hlive'
        exact hkeeps
  · rintro ((⟨userId, workspaceId, expiresAt, hissues⟩ |
      ⟨⟨csrf', userId, workspaceId, expiresAt, hlive⟩, csrfToken, rfl, hcsrf⟩) |
      ⟨⟨userId, workspaceId, expiresAt, hlive⟩, hrotates, hkeeps⟩)
    · exact ⟨userId, workspaceId, expiresAt, .inl hissues⟩
    · refine ⟨userId, workspaceId, expiresAt, .inr ⟨csrf', hlive, ?_, ?_⟩⟩
      · exact ⟨nofun, fun _ _ h => nomatch h.1⟩
      · rw [csrfAfter, if_pos rfl, hcsrf]
    · refine ⟨userId, workspaceId, expiresAt, .inr ⟨csrf, hlive, hkeeps _ _ _ ⟨csrf, hlive⟩, ?_⟩⟩
      unfold csrfAfter
      split
      · rw [if_neg]
        rintro rfl
        exact hrotates _ rfl
      · rfl

theorem sessionDigest_ne (token : String) : sessionDigest sha256 token ≠ "" := by
  simp [sessionDigest, String.ext_iff]

end Sessions

/-! ## 5. Every run -/

/-- **Who is let in.** A token stands for a user exactly while the account is there and enabled, and
    since the login that issued it neither the twelve hours have passed nor the user has logged in
    again or the session was logged out. -/
theorem getUserBySession_eq_some_iff (sha256 : String → String) (accounts : Accounts) (now : Nat)
    (calls : List AuthCall) (sessionToken : String) (touchLastSeen : Bool) (user : AccountUser) :
    let start : AuthStore := { toAccounts := accounts, now }
    let store := calls.foldl (AuthStore.step sha256) start
    let digest := sessionDigest sha256 sessionToken
    (store.getUserBySession (some digest) touchLastSeen).1 = some user ↔
      store.account user.userId user.workspaceId = some (user, false) ∧
        ∃ expiresAt,
          Since (AuthStore.step sha256) start
            (fun store call => ∃ csrf,
              Issues sha256 digest user.userId user.workspaceId expiresAt csrf store call)
            (Keeps sha256 digest user.userId user.workspaceId) calls ∧
          store.now < expiresAt * MICROSECONDS := by
  intro start store digest
  rw [AuthStore.getUserBySession_fst (sessionDigest_ne sessionToken)]
  refine and_congr_right fun _ => exists_congr fun expiresAt => and_congr_left fun _ => ?_
  apply holds_iff_since
  · rintro ⟨csrf, row, hrow, -⟩
    cases hrow
  · intro store call
    exact liveFor_step (sessionDigest_ne sessionToken)

/-- **Which CSRF token is taken** for a session: the one that was given out last, as long as the
    session is live. -/
theorem verifySessionCsrf_iff (sha256 : String → String) (accounts : Accounts) (now : Nat)
    (calls : List AuthCall) (sessionToken csrfToken : String) :
    let start : AuthStore := { toAccounts := accounts, now }
    let digest := sessionDigest sha256 sessionToken
    (calls.foldl (AuthStore.step sha256) start).verifySessionCsrf sha256 digest (some csrfToken) =
        true ↔
      csrfToken ≠ "" ∧ Since (AuthStore.step sha256) start
        (GivesCsrf sha256 digest (sessionDigest sha256 csrfToken)) (KeepsCsrf sha256 digest)
        calls := by
  intro start digest
  rw [AuthStore.verifySessionCsrf_live]
  refine and_congr_right fun _ => ?_
  apply holds_iff_since
  · rintro ⟨userId, workspaceId, expiresAt, row, hrow, -⟩
    cases hrow
  · intro store call
    exact hasCsrf_step (sessionDigest_ne sessionToken)

end SeekTalent

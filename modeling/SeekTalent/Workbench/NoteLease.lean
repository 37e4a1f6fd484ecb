import SeekTalent.Base.Run
import SeekTalent.Workbench.Store

/-!
# The lease of the note writer

A tick of a session claims the session's lease, lets a model write a note, and gives the lease
back. The lease is refused to another owner while it runs. It is not refused to its own owner, and
all threads of a runner are one owner; and its times are whole seconds, so that it can run out up
to a second before the thirty seconds do.
-/

namespace SeekTalent

/-! ## 1. The lease -/

/-- `workbench_note_writer_leases`, the row of a session. Every statement of the two transactions
    is about the row of one key, the session of a user. -/
structure NoteWriterLease where
  leaseOwner : String
  /-- in seconds, as `_iso` writes a time -/
  leaseExpiresAt : Nat
  lastTickSlot : Nat
  inFlightStartedAt : Nat

/-- What the two transactions read of a session. -/
structure NoteSession where
  sessionExists : Bool
  lease : Option NoteWriterLease

def noteWriterLeaseSeconds : Nat := 30

/-- `claim_workbench_note_writer_lease`. The times are those that `_iso` has written. -/
def claimWorkbenchNoteWriterLease (leaseOwner : String) (leaseExpiresAt lastTickSlot
    inFlightStartedAt now : Nat) (session : NoteSession) : Except String (NoteSession × Bool) :=
  let safeOwner := (boundedText (some leaseOwner) 160).getD ""
  let claimed : NoteWriterLease :=
    { leaseOwner := safeOwner, leaseExpiresAt, lastTickSlot, inFlightStartedAt }
  if safeOwner = "" then
    .error "Workbench note writer lease owner and expiration are required."
  else if !session.sessionExists then .error "Workbench session does not exist."
  else
    match session.lease with
    | none => .ok ({ session with lease := some claimed }, true)
    | some row =>
      if row.leaseOwner ≠ safeOwner ∧ now < row.leaseExpiresAt then .ok (session, false)
      else .ok ({ session with lease := some claimed }, true)

def releaseWorkbenchNoteWriterLease (leaseOwner : String) (session : NoteSession) :
    Except String (NoteSession × Bool) :=
  let safeOwner := (boundedText (some leaseOwner) 160).getD ""
  if safeOwner = "" then .error "Workbench note writer lease owner is required."
  else
    match session.lease with
    | none => .ok (session, false)
    | some row =>
      if row.leaseOwner = safeOwner then .ok ({ session with lease := none }, true)
      else .ok (session, false)

/-! ## 2. Ticks -/

/-- A call of `tick_session` that has built its context: its writer's name, its slot, and the
    clock that it has read, in microseconds. -/
structure NoteTick where
  leaseOwner : String
  tickSlot : Nat
  nowDt : Nat
  deriving DecidableEq

namespace NoteTick

def owner (tick : NoteTick) : String := (boundedText (some tick.leaseOwner) 160).getD ""

/-- `_iso`: the second of the clock. -/
def second (tick : NoteTick) : Nat := tick.nowDt / 1000000

/-- `_iso(now_dt + timedelta(seconds=NOTE_WRITER_LEASE_SECONDS))` -/
def expirySecond (tick : NoteTick) : Nat :=
  (tick.nowDt + noteWriterLeaseSeconds * 1000000) / 1000000

theorem expirySecond_eq (tick : NoteTick) :
    tick.expirySecond = tick.second + noteWriterLeaseSeconds := by
  unfold expirySecond second
  rw [Nat.add_mul_div_right _ _ (by decide)]

def lease (tick : NoteTick) : NoteWriterLease where
  leaseOwner := tick.owner
  leaseExpiresAt := tick.expirySecond
  lastTickSlot := tick.tickSlot
  inFlightStartedAt := tick.second

def claim (tick : NoteTick) : NoteSession → Except String (NoteSession × Bool) :=
  claimWorkbenchNoteWriterLease tick.leaseOwner tick.expirySecond tick.tickSlot tick.second
    tick.second

end NoteTick

/-- A session, and the ticks that are between their claim and their release. -/
structure NoteWriting where
  session : NoteSession
  inFlight : List NoteTick

/-- What a tick does next: it claims the lease, or its model has ended, with a note or not, and
    the `finally` gives the lease back. -/
inductive NoteCall where
  | claim (tick : NoteTick)
  | release (tick : NoteTick) (instant : Nat)

namespace NoteCall

def clock : NoteCall → Nat
  | .claim tick => tick.nowDt
  | .release _ instant => instant

end NoteCall

namespace NoteWriting

/-- One step of any of the ticks. A claim that raises or is refused ends its tick, and a release
    is made by a tick that is in flight. -/
def step (state : NoteWriting) : NoteCall → NoteWriting
  | .claim tick =>
    match tick.claim state.session with
    | .ok (session, true) => { session, inFlight := tick :: state.inFlight }
    | .ok (_, false) => state
    | .error _ => state
  | .release tick _ =>
    if tick ∈ state.inFlight then
      match releaseWorkbenchNoteWriterLease tick.leaseOwner state.session with
      | .ok (session, _) => { session, inFlight := state.inFlight.erase tick }
      | .error _ => { state with inFlight := state.inFlight.erase tick }
    else state

def Exclusive (state : NoteWriting) : Prop := state.inFlight.length ≤ 1

def quiet (sessionExists : Bool) : NoteWriting := ⟨⟨sessionExists, none⟩, []⟩

/-- After every part of the run at most one tick is in flight. -/
def AtMostOne (sessionExists : Bool) (calls : List NoteCall) : Prop :=
  ∀ first third, calls = first ++ third →
    Exclusive (first.foldl step (quiet sessionExists))

/-- No call comes before an earlier one, and none finds a tick that has been in flight for the
    duration of a lease. -/
def Timely (sessionExists : Bool) (calls : List NoteCall) : Prop :=
  calls.Pairwise (fun earlier later => earlier.clock ≤ later.clock) ∧
    Stateful.Along step (quiet sessionExists)
      (fun state call => ∀ tick ∈ state.inFlight,
        call.clock < tick.nowDt + noteWriterLeaseSeconds * 1000000)
      calls

/-- **A claim that is kept out**: whoever is in flight has another name, and the claim is made in
    a second before the one that the lease ends with. -/
def KeptOut (state : NoteWriting) : NoteCall → Prop
  | .claim tick =>
    tick.owner ≠ "" → state.session.sessionExists = true →
      ∀ holder ∈ state.inFlight,
        holder.owner ≠ tick.owner ∧ tick.second < holder.second + noteWriterLeaseSeconds
  | .release _ _ => True

variable {state : NoteWriting} {tick : NoteTick}

/-! ## 3. Who gets the lease -/

structure Takes (session : NoteSession) (tick : NoteTick) : Prop where
  named : tick.owner ≠ ""
  known : session.sessionExists = true
  free : ∀ row, session.lease = some row →
    row.leaseOwner = tick.owner ∨ row.leaseExpiresAt ≤ tick.second

theorem claim_of_takes {session : NoteSession} (h : Takes session tick) :
    tick.claim session = .ok ({ session with lease := some tick.lease }, true) := by
  unfold NoteTick.claim claimWorkbenchNoteWriterLease
  have hnamed : ¬(boundedText (some tick.leaseOwner) 160).getD "" = "" := h.named
  simp only [if_neg hnamed, h.known, Bool.not_true, Bool.false_eq_true, if_false]
  cases hlease : session.lease with
  | none => rfl
  | some row =>
    have hfree : ¬(row.leaseOwner ≠ (boundedText (some tick.leaseOwner) 160).getD "" ∧
        tick.second < row.leaseExpiresAt) := by
      intro hrefused
      rcases h.free row hlease with howner | hover
      · exact hrefused.1 howner
      · exact Nat.not_lt_of_le hover hrefused.2
    dsimp only
    rw [if_neg hfree]
    rfl

theorem takes_of_claim {session session' : NoteSession}
    (h : tick.claim session = .ok (session', true)) : Takes session tick := by
  unfold NoteTick.claim claimWorkbenchNoteWriterLease at h
  dsimp only at h
  split at h
  · cases h
  rename_i hnamed
  split at h
  · cases h
  rename_i hknown
  refine ⟨hnamed, by simpa using hknown, ?_⟩
  intro row hlease
  rw [hlease] at h
  dsimp only at h
  split at h
  · cases h
  · rename_i hfree
    by_contra hrefused
    simp only [not_or, not_le] at hrefused
    exact hfree hrefused

/-- **One claim**: it takes the lease, or nothing changes. -/
theorem step_claim_of_takes (h : Takes state.session tick) :
    state.step (.claim tick) =
      ⟨{ state.session with lease := some tick.lease }, tick :: state.inFlight⟩ := by
  simp only [step, claim_of_takes h]

theorem step_claim_of_not_takes (h : ¬Takes state.session tick) :
    state.step (.claim tick) = state := by
  unfold step
  dsimp only
  split
  · rename_i session hclaim
    exact absurd (takes_of_claim hclaim) h
  · rfl
  · rfl

theorem inFlight_release (tick : NoteTick) (instant : Nat) :
    (state.step (.release tick instant)).inFlight = state.inFlight.erase tick := by
  unfold step
  dsimp only
  split
  · split <;> rfl
  · rename_i habsent
    rw [List.erase_of_not_mem habsent]

/-! ## 4. Runs -/

def Own (state : NoteWriting) : Prop :=
  ∀ holder ∈ state.inFlight, state.session.lease = some holder.lease

theorem inFlight_eq_singleton (h : state.Exclusive) {holder : NoteTick}
    (hholder : holder ∈ state.inFlight) : state.inFlight = [holder] := by
  unfold Exclusive at h
  cases hticks : state.inFlight with
  | nil =>
    rw [hticks] at hholder
    cases hholder
  | cons tick rest =>
    rw [hticks] at h hholder
    have hrest : rest = [] := by simpa using h
    subst hrest
    rw [List.mem_singleton.mp hholder]

theorem takes_iff_of_own (hown : state.Own) {holder : NoteTick}
    (hholder : holder ∈ state.inFlight) :
    Takes state.session tick ↔ tick.owner ≠ "" ∧ state.session.sessionExists = true ∧
      ¬(holder.owner ≠ tick.owner ∧ tick.second < holder.second + noteWriterLeaseSeconds) := by
  have hlease := hown holder hholder
  have hfree : (holder.owner = tick.owner ∨ holder.expirySecond ≤ tick.second) ↔
      ¬(holder.owner ≠ tick.owner ∧ tick.second < holder.second + noteWriterLeaseSeconds) := by
    rw [holder.expirySecond_eq, not_and_or, not_not, not_lt]
  rw [← hfree]
  constructor
  · intro h
    exact ⟨h.named, h.known, h.free holder.lease hlease⟩
  · intro h
    obtain ⟨hnamed, hknown, hrow⟩ := h
    refine ⟨hnamed, hknown, ?_⟩
    intro row hrow'
    rw [hlease] at hrow'
    rw [← Option.some.inj hrow']
    exact hrow

theorem inFlight_eq_nil_of_takes (hown : state.Own) (hkept : state.KeptOut (.claim tick))
    (htakes : Takes state.session tick) : state.inFlight = [] := by
  apply List.eq_nil_iff_forall_not_mem.mpr
  intro holder hholder
  obtain ⟨hnamed, hknown, htaken⟩ := (takes_iff_of_own hown hholder).mp htakes
  exact htaken (hkept hnamed hknown holder hholder)

theorem own_step (state : NoteWriting) (call : NoteCall) (hown : state.Own)
    (hexclusive : state.Exclusive) (hkept : state.KeptOut call) : (state.step call).Own := by
  cases call with
  | claim tick =>
    by_cases htakes : Takes state.session tick
    · have hnone := inFlight_eq_nil_of_takes hown hkept htakes
      rw [step_claim_of_takes htakes]
      intro holder hholder
      simp only [hnone, List.mem_singleton] at hholder
      rw [hholder]
    · rw [step_claim_of_not_takes htakes]
      exact hown
  | release tick instant =>
    by_cases hflight : tick ∈ state.inFlight
    · intro holder hholder
      rw [inFlight_release, inFlight_eq_singleton hexclusive hflight, List.erase_cons_head] at hholder
      cases hholder
    · have hsame : state.step (.release tick instant) = state := by simp [step, hflight]
      rw [hsame]
      exact hown

theorem exclusive_step_iff (state : NoteWriting) (call : NoteCall) (hown : state.Own)
    (hexclusive : state.Exclusive) : (state.step call).Exclusive ↔ state.KeptOut call := by
  cases call with
  | claim tick =>
    by_cases htakes : Takes state.session tick
    · constructor
      · intro hone hnamed hknown holder hholder
        have hflight := inFlight_eq_singleton hexclusive hholder
        rw [step_claim_of_takes htakes, Exclusive, hflight] at hone
        exact absurd hone (by simp)
      · intro hkept
        rw [step_claim_of_takes htakes, Exclusive, inFlight_eq_nil_of_takes hown hkept htakes]
        exact Nat.le_refl 1
    · rw [step_claim_of_not_takes htakes]
      constructor
      · intro _ hnamed hknown holder hholder
        by_contra htaken
        exact htakes ((takes_iff_of_own hown hholder).mpr ⟨hnamed, hknown, htaken⟩)
      · intro _
        exact hexclusive
  | release tick instant =>
    constructor
    · intro _
      trivial
    · intro _
      rw [Exclusive, inFlight_release]
      exact (List.length_erase_le).trans hexclusive

/-- **When one note at a time is written.** In a run of any ticks no two are in flight exactly when
every claim that is made while one is in flight has another owner's name, and comes in a second
before the one that the lease ends with. -/
theorem atMostOne_iff (sessionExists : Bool) (calls : List NoteCall) :
    AtMostOne sessionExists calls ↔
      Stateful.Along step (quiet sessionExists) KeptOut calls := by
  apply Stateful.everywhere_iff_along own_step exclusive_step_iff
  · intro holder hholder
    cases hholder
  · exact Nat.zero_le 1

/-- Two threads of one runner, a second apart: both have the lease. -/
theorem not_atMostOne :
    ¬∀ sessionExists calls, Timely sessionExists calls → AtMostOne sessionExists calls := by
  intro h
  let calls : List NoteCall :=
    [.claim ⟨"local-1:note-writer", 0, 0⟩, .claim ⟨"local-1:note-writer", 0, 1000000⟩]
  have htimely : Timely true calls := by
    refine ⟨by decide, ?_⟩
    apply Stateful.along_cons
    · intro tick htick
      cases htick
    apply Stateful.along_cons
    · decide
    · exact Stateful.along_nil
  have hone := h true calls htimely calls [] rfl
  revert hone
  unfold Exclusive
  decide

end NoteWriting
end SeekTalent

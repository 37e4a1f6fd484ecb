import Mathlib.Data.List.Induction
import SeekTalent.Base.Run

/-!
# The session that a tracer writes to

`run_match_async` hands the session of a run to its tracer through a slot of the thread: it saves
what is in the slot, puts the session there, builds the tracer, awaits the rest of the run, and puts
back what it has saved. Between two awaits nothing else runs, so that the tracer of a run is built
from the slot as its own call has left it. What is put back in the end is what was there when the
call began, which can be the session of another call that has ended in the meantime.

`cleanSlot_iff` says which runs leave nothing behind: those in which the call that ends last began
when nothing was bound. Calls that end in the order in which they nest are among them
(`lastBeganUnbound_of_nested`).
-/

namespace SeekTalent

namespace Artifacts

/-- A session that was handed to a call, or the root that a tracer has opened for itself. -/
inductive BoundSession where
  | handed (id : Nat)
  | root (n : Nat)
  deriving DecidableEq

/-- A call of `run_match_async` under way. -/
structure MatchCall where
  /-- its `artifact_session` -/
  given : Option BoundSession
  /-- what it has found in the slot -/
  previous : Option BoundSession

structure BuiltTracer where
  /-- the `artifact_session` of the call whose run it is, if it is one's -/
  forCall : Option (Option BoundSession)
  session : BoundSession
  /-- how many roots tracers had opened before -/
  rootsBefore : Nat
  /-- how many calls were under way -/
  callsUnderWay : Nat
  deriving DecidableEq

/-- The slot of the thread. An attribute that is not there and one that is `None` are the same to
    whoever reads it. -/
structure ThreadState where
  artifactSession : Option BoundSession := none
  calls : List MatchCall := []
  roots : Nat := 0
  tracers : List BuiltTracer := []

inductive ThreadEvent where
  /-- a call binds its session and builds the tracer of its run, up to the first await -/
  | begins (given : Option BoundSession)
  /-- the run of a call is over, whether it returns or raises -/
  | ends (i : Nat)
  /-- a tracer is built for something else -/
  | builds

/-- `_InjectedSessionRunTracer` -/
def ThreadState.buildTracer (state : ThreadState) (forCall : Option (Option BoundSession)) :
    ThreadState :=
  match state.artifactSession with
  | some session =>
    { state with
      tracers := state.tracers ++ [⟨forCall, session, state.roots, state.calls.length⟩] }
  | none =>
    { state with
      roots := state.roots + 1
      tracers :=
        state.tracers ++ [⟨forCall, .root state.roots, state.roots, state.calls.length⟩] }

/-- What one call does between two awaits, `_bind_artifact_session` around the run. -/
def ThreadState.step (state : ThreadState) : ThreadEvent → Option ThreadState
  | .begins given =>
    some ({ state with
      artifactSession := given
      calls := ⟨given, state.artifactSession⟩ :: state.calls }.buildTracer (some given))
  | .ends i =>
    (state.calls[i]?).map fun call =>
      { state with artifactSession := call.previous, calls := state.calls.eraseIdx i }
  | .builds => some (state.buildTracer none)

def ThreadState.run (state : ThreadState) (events : List ThreadEvent) : Option ThreadState :=
  events.foldlM ThreadState.step state

/-- The tracer of a run writes to the session that was given to its call, or to a new root; any other
    tracer opens a root of its own, where no call is under way. -/
def BuiltTracer.exact (tracer : BuiltTracer) : Prop :=
  match tracer.forCall with
  | some (some given) => tracer.session = given
  | some none => tracer.session = .root tracer.rootsBefore
  | none => tracer.callsUnderWay = 0 → tracer.session = .root tracer.rootsBefore

/-- **The law**: every tracer is where it belongs, and nothing is bound once all calls have
    ended. -/
structure CleanSlot (state : ThreadState) : Prop where
  tracers : ∀ tracer ∈ state.tracers, tracer.exact
  slot : state.calls = [] → state.artifactSession = none

/-- The event does not end the last call under way, or ends one that began when nothing was
    bound. -/
def ThreadState.LastBeganUnbound (state : ThreadState) (event : ThreadEvent) : Prop :=
  ∀ i, event = .ends i → ∀ call, state.calls = [call] → call.previous = none

section Steps

variable {state state' : ThreadState} {event : ThreadEvent} {events : List ThreadEvent}
variable {forCall : Option (Option BoundSession)} {tracer : BuiltTracer}

@[simp] theorem calls_buildTracer : (state.buildTracer forCall).calls = state.calls := by
  unfold ThreadState.buildTracer
  split <;> rfl

@[simp] theorem artifactSession_buildTracer :
    (state.buildTracer forCall).artifactSession = state.artifactSession := by
  unfold ThreadState.buildTracer
  split
  · rename_i hslot
    exact hslot.symm ▸ rfl
  · rename_i hslot
    exact hslot.symm ▸ rfl

theorem mem_tracers_buildTracer (h : tracer ∈ (state.buildTracer forCall).tracers) :
    tracer ∈ state.tracers ∨ tracer.forCall = forCall ∧
      tracer.callsUnderWay = state.calls.length ∧
      tracer.session = state.artifactSession.getD (.root tracer.rootsBefore) := by
  unfold ThreadState.buildTracer at h
  split at h
  · rename_i session hslot
    rcases List.mem_append.mp h with h | h
    · exact .inl h
    · rw [List.mem_singleton.mp h, hslot]
      exact .inr ⟨rfl, rfl, rfl⟩
  · rename_i hslot
    rcases List.mem_append.mp h with h | h
    · exact .inl h
    · rw [List.mem_singleton.mp h, hslot]
      exact .inr ⟨rfl, rfl, rfl⟩

/-- **One event.** -/
theorem CleanSlot.step (h : CleanSlot state) (hstep : state.step event = some state')
    (hlast : state.LastBeganUnbound event) : CleanSlot state' := by
  cases event with
  | begins given =>
    obtain rfl := Option.some.inj hstep
    refine ⟨fun tracer htracer => ?_, fun hcalls => ?_⟩
    · rcases mem_tracers_buildTracer htracer with hold | ⟨hcall, -, hsession⟩
      · exact h.tracers tracer hold
      · unfold BuiltTracer.exact
        rw [hcall, hsession]
        cases given <;> rfl
    · rw [calls_buildTracer] at hcalls
      cases hcalls
  | ends i =>
    obtain ⟨call, hcall, rfl⟩ := Option.map_eq_some_iff.mp hstep
    refine ⟨h.tracers, fun hcalls => ?_⟩
    have hlength := congrArg List.length hcalls
    obtain ⟨hlt, hget⟩ := List.getElem?_eq_some_iff.mp hcall
    have hone : state.calls.length = 1 := by
      rw [List.length_eraseIdx_of_lt hlt, List.length_nil] at hlength
      omega
    obtain ⟨only, honly⟩ := List.length_eq_one_iff.mp hone
    have hsame : call = only := by
      have hmem := List.mem_of_getElem? hcall
      rw [honly] at hmem
      exact List.mem_singleton.mp hmem
    exact hlast i rfl call (hsame ▸ honly)
  | builds =>
    obtain rfl := Option.some.inj hstep
    refine ⟨fun tracer htracer => ?_, fun hcalls => ?_⟩
    · rcases mem_tracers_buildTracer htracer with hold | ⟨hcall, hcount, hsession⟩
      · exact h.tracers tracer hold
      · unfold BuiltTracer.exact
        rw [hcall]
        intro hidle
        rw [hcount] at hidle
        rw [hsession, h.slot (List.length_eq_zero_iff.mp hidle)]
        rfl
    · rw [calls_buildTracer] at hcalls
      rw [artifactSession_buildTracer]
      exact h.slot hcalls

theorem previous_of_cleanSlot {i : Nat} {call : MatchCall}
    (hstep : state.step (.ends i) = some state') (h : CleanSlot state')
    (hcalls : state.calls = [call]) : call.previous = none := by
  obtain ⟨ended, hended, rfl⟩ := Option.map_eq_some_iff.mp hstep
  have hmem := List.mem_of_getElem? hended
  rw [hcalls] at hmem
  obtain rfl := List.mem_singleton.mp hmem
  apply h.slot
  obtain ⟨hlt, -⟩ := List.getElem?_eq_some_iff.mp hended
  rw [← List.length_eq_zero_iff]
  show (state.calls.eraseIdx i).length = 0
  rw [List.length_eraseIdx_of_lt hlt, hcalls]
  rfl

theorem threadRun_concat : state.run (events ++ [event]) =
    (state.run events).bind (·.step event) := by
  unfold ThreadState.run
  simp only [List.foldlM_append, List.foldlM_cons, List.foldlM_nil, bind_pure]
  rfl

/-- **Every run**: whatever calls overlap, each tracer is where it belongs and nothing stays bound,
    exactly where every call that ends last of those under way began when nothing was bound. -/
theorem cleanSlot_iff (events : List ThreadEvent) (hrun : ∃ state, ({} : ThreadState).run events =
    some state) :
    (∀ before after, events = before ++ after → ∀ state ∈ ({} : ThreadState).run before,
      CleanSlot state) ↔
    ∀ before event after, events = before ++ event :: after →
      ∀ state ∈ ({} : ThreadState).run before, state.LastBeganUnbound event := by
  constructor
  · intro hclean before event after hevents state hstate i hevent call hcalls
    subst hevent
    -- the run goes on over this event
    have hnext : ∃ state', ({} : ThreadState).run (before ++ [.ends i]) = some state' := by
      obtain ⟨last, hlast⟩ := hrun
      have hsplit : events = (before ++ [.ends i]) ++ after := by simp [hevents]
      unfold ThreadState.run at hlast ⊢
      rw [hsplit, List.foldlM_append] at hlast
      obtain ⟨middle, hmiddle, -⟩ := Option.bind_eq_some_iff.mp hlast
      exact ⟨middle, hmiddle⟩
    obtain ⟨state', hstate'⟩ := hnext
    have hclean' := hclean (before ++ [.ends i]) after (by simp [hevents]) state' hstate'
    rw [threadRun_concat] at hstate'
    obtain ⟨earlier, hearlier, hstep⟩ := Option.bind_eq_some_iff.mp hstate'
    obtain rfl : earlier = state := Option.some.inj (hearlier.symm.trans hstate)
    exact previous_of_cleanSlot hstep hclean' hcalls
  · intro hlast before
    induction before using List.reverseRecOn with
    | nil =>
      intro after _ state hstate
      obtain rfl := Option.some.inj hstate
      exact ⟨by simp, fun _ => rfl⟩
    | append_singleton before event ih =>
      intro after hevents state hstate
      rw [List.append_assoc, List.singleton_append] at hevents
      rw [threadRun_concat] at hstate
      obtain ⟨earlier, hearlier, hstep⟩ := Option.bind_eq_some_iff.mp hstate
      exact (ih (event :: after) hevents earlier hearlier).step hstep
        (hlast before event after hevents earlier hearlier)

/-! ## Calls that nest -/

/-- The newest call comes first: it has found the session of the one before it. -/
inductive Stacked : Option BoundSession → List MatchCall → Prop
  | nil : Stacked none []
  | cons (given previous : Option BoundSession) (calls : List MatchCall)
      (h : Stacked previous calls) : Stacked given (⟨given, previous⟩ :: calls)

theorem Stacked.step (h : Stacked state.artifactSession state.calls)
    (hstep : state.step event = some state') (hnested : ∀ i, event = .ends i → i = 0) :
    Stacked state'.artifactSession state'.calls := by
  cases event with
  | begins given =>
    obtain rfl := Option.some.inj hstep
    rw [artifactSession_buildTracer, calls_buildTracer]
    exact .cons given state.artifactSession state.calls h
  | ends i =>
    obtain ⟨call, hcall, rfl⟩ := Option.map_eq_some_iff.mp hstep
    obtain rfl := hnested i rfl
    show Stacked call.previous (state.calls.eraseIdx 0)
    generalize state.artifactSession = slot at h
    generalize state.calls = calls at h hcall
    cases h with
    | nil => cases hcall
    | cons given previous calls h =>
      obtain rfl := Option.some.inj hcall
      exact h
  | builds =>
    obtain rfl := Option.some.inj hstep
    rw [artifactSession_buildTracer, calls_buildTracer]
    exact h

theorem lastBeganUnbound_of_nested
    (hnested : ∀ before i after, events = before ++ .ends i :: after → i = 0) :
    ∀ before event after, events = before ++ event :: after →
      ∀ state ∈ ({} : ThreadState).run before, state.LastBeganUnbound event := by
  have hstacked : ∀ before after, events = before ++ after →
      ∀ state ∈ ({} : ThreadState).run before, Stacked state.artifactSession state.calls := by
    intro before
    induction before using List.reverseRecOn with
    | nil =>
      intro after _ state hstate
      obtain rfl := Option.some.inj hstate
      exact .nil
    | append_singleton before event ih =>
      intro after hevents state hstate
      rw [List.append_assoc, List.singleton_append] at hevents
      rw [threadRun_concat] at hstate
      obtain ⟨earlier, hearlier, hstep⟩ := Option.bind_eq_some_iff.mp hstate
      refine (ih (event :: after) hevents earlier hearlier).step hstep ?_
      rintro i rfl
      exact hnested before i after hevents
  intro before event after hevents state hstate i _ call hcalls
  have h := hstacked before (event :: after) hevents state hstate
  rw [hcalls] at h
  generalize state.artifactSession = slot at h
  cases h with
  | cons given previous calls h =>
    cases h
    rfl

end Steps

/-! ## Calls that overlap -/

/-- A second call begins while the first is under way, and ends after it. -/
def overlapping : List ThreadEvent :=
  [.begins (some (.handed 1)), .begins (some (.handed 2)), .ends 1, .ends 0, .builds]

/-- The session of the first run stays bound, and a tracer that is built later writes to it. -/
theorem overlapping_leaves_session : ∃ state ∈ ({} : ThreadState).run overlapping,
    state.calls = [] ∧ state.artifactSession = some (.handed 1) ∧
      ∃ tracer ∈ state.tracers, ¬tracer.exact := by
  refine ⟨_, rfl, rfl, rfl, ⟨none, .handed 1, 0, 0⟩, by decide, fun h => ?_⟩
  cases h rfl

/-- The same calls, where the second ends first. -/
def nesting : List ThreadEvent :=
  [.begins (some (.handed 1)), .begins (some (.handed 2)), .ends 0, .ends 0, .builds]

theorem cleanSlot_nesting : (({} : ThreadState).run nesting).isSome ∧
    ∀ before after, nesting = before ++ after →
      ∀ state ∈ ({} : ThreadState).run before, CleanSlot state := by
  refine ⟨rfl, (cleanSlot_iff nesting ⟨_, rfl⟩).mpr
    (lastBeganUnbound_of_nested fun before i after h => ?_)⟩
  have hmem : ThreadEvent.ends i ∈ nesting := h ▸ List.mem_append_right _ (List.mem_cons_self ..)
  simpa [nesting] using hmem

end Artifacts

end SeekTalent

import SeekTalent.Retrieval.RoundPasses

/-!
# The first lane of a round

Whatever its later lanes and turns do, a round that returns has searched for its first lane,
if that lane has a target and the plan is one that `build_location_execution_plan` makes.
-/

namespace SeekTalent

open Stateful

variable {F : Type} {c : RoundCall F} {i : Nat} {lane : LogicalQuery} {n : Int}
variable {s s' : RoundState}

def RoundState.LogGrows (s s' : RoundState) : Prop := ∀ d ∈ s.log, d ∈ s'.log

def RoundState.HasSearched (i : Nat) (s : RoundState) : Prop := ∃ d ∈ s.log, d.lane = i

theorem RoundState.HasSearched.grows (h : s.HasSearched i) (hgrows : s.LogGrows s') :
    s'.HasSearched i := by
  obtain ⟨d, hd, hlane⟩ := h
  exact ⟨d, hgrows d hd, hlane⟩

theorem RoundCall.Step.logGrows (hstep : c.Step s s') : s.LogGrows s' := by
  intro d hd
  rcases hstep.effect with hq | ⟨d', hs⟩ | hfin
  · rw [hq.log_eq]
    exact hd
  · rw [hs.log_eq]
    exact List.mem_append_left _ hd
  · rw [hfin.log_eq]
    exact hd

/-! ## 1. Searches that are made -/

section Walk

variable [PyFloat F]

theorem searched_dispatchTargets {phase : LocationExecutionPhase} (targets : List (String × Int)) :
    Follows RoundState.LogGrows (fun s => targets ≠ [] ∨ s.HasSearched i)
      (c.dispatchTargets i lane phase targets) (fun _ s => s.HasSearched i) := by
  induction targets with
  | nil => exact Follows.pure fun s hs => hs.resolve_left (by simp)
  | cons target rest ih =>
    obtain ⟨city, m⟩ := target
    unfold RoundCall.dispatchTargets
    refine Follows.get.bind fun a => ?_
    cases hst : (a.lanes i).cityStates city with
    | none => exact Follows.throw _
    | some st =>
      dsimp only
      generalize hd : c.dispatchOf a i lane (some city) (some phase) st.nextPage st.exhausted
        m = d
      have hlane : d.lane = i := by rw [← hd]; rfl
      have hlog : ∀ s : RoundState, (s.afterCity d i lane city phase st).log = s.log ++ [d] :=
        fun s => (s.afterCity_kept d i lane city phase st).1
      refine Follows.bind (Q := fun _ s => ∀ reason, d.run.outcome = .ok reason → s.HasSearched i)
        (Follows.modify ?_ ?_) fun _ => ?_
      · intro s _ d' hd'
        rw [hlog]
        exact List.mem_append_left _ hd'
      · intro s _ _ _
        refine ⟨d, ?_, hlane⟩
        rw [hlog]
        exact List.mem_append_right _ (List.mem_singleton_self d)
      refine (follows_raiseIfFailed d).bind fun _ => ?_
      refine (follows_flushProviderReturns d).bind fun _ => ?_
      refine Follows.bind (Q := fun _ s => s.HasSearched i)
        (follows_registerDispatchOutcome d (fun _ _ _ _ _ hd => hd) fun _ _ _ _ hs => hs)
        fun outcome => ?_
      exact Follows.ite (fun _ => ih.pre fun _ hs => .inr hs) fun _ => Follows.pure fun _ hs => hs

theorem searched_runDispatches {phase : LocationExecutionPhase} (targets : List (String × Int)) :
    Follows RoundState.LogGrows (fun s => targets ≠ [] ∨ s.HasSearched i)
      (c.runDispatches i lane phase targets) (fun _ s => s.HasSearched i) := by
  unfold RoundCall.runDispatches
  refine Follows.ite (fun hnil => Follows.pure fun s hs => hs.resolve_left (not_not.mpr hnil))
    fun _ => ?_
  exact Follows.bind (Follows.modify (fun _ _ _ hd => hd) fun s hs => hs)
    fun _ => searched_dispatchTargets targets

theorem searched_priorityLoop (cities : List String) :
    Follows RoundState.LogGrows
      (fun s => (cities ≠ [] ∧ 0 < s.remainingGap) ∨ s.HasSearched i)
      (c.priorityLoop i lane cities) (fun _ s => s.HasSearched i) := by
  induction cities with
  | nil => exact Follows.pure fun s hs => hs.resolve_left (by simp)
  | cons city rest ih =>
    unfold RoundCall.priorityLoop
    refine Follows.get.bind fun a => ?_
    refine Follows.ite (fun hfull => Follows.pure ?_) fun _ => ?_
    · rintro s ⟨rfl, hs⟩
      exact hs.resolve_left fun h => absurd h.2 (not_lt.mpr hfull)
    · refine ((searched_runDispatches _).pre fun s _ => .inl (by simp)).bind fun stop => ?_
      exact Follows.ite (fun _ => Follows.pure fun _ hs => hs) fun _ => ih.pre fun _ hs => .inr hs

theorem searched_balancedLoop (fuel : Nat) :
    Follows RoundState.LogGrows
      (fun s => (c.activeCities s i ≠ [] ∧ 0 < s.remainingGap) ∨ s.HasSearched i)
      (c.balancedLoop i lane fuel) (fun _ s => s.HasSearched i) := by
  induction fuel with
  | zero => exact Follows.throw _
  | succ fuel ih =>
    unfold RoundCall.balancedLoop
    refine Follows.get.bind fun a => ?_
    refine Follows.ite (fun hfull => Follows.pure ?_) fun _ => ?_
    · rintro s ⟨rfl, hs⟩
      exact hs.resolve_left fun h => absurd h.2 (not_lt.mpr hfull)
    refine Follows.ite (fun hnone => Follows.pure ?_) fun htargets => ?_
    · rintro s ⟨rfl, hs⟩
      refine hs.resolve_left fun h => ?_
      have hsum := sum_allocateBalancedCityTargets h.1 h.2
      rw [hnone] at hsum
      exact absurd h.2 (by simp [← hsum])
    · refine ((searched_runDispatches _).pre fun s _ => .inl htargets).bind fun stop => ?_
      exact Follows.ite (fun _ => Follows.pure fun _ hs => hs) fun _ => ih.pre fun _ hs => .inr hs

theorem searched_plainDispatch :
    Follows RoundState.LogGrows (fun _ => True) (c.plainDispatch i lane n)
      (fun _ s => s.HasSearched i) := by
  unfold RoundCall.plainDispatch
  refine Follows.bind (Q := fun _ _ => True)
    (Follows.modify (fun _ _ _ hd => hd) fun _ _ => trivial) fun _ => ?_
  refine Follows.get.bind fun a => ?_
  dsimp only
  generalize hd : c.dispatchOf a i lane none none (a.lanes i).nextPage (a.lanes i).exhausted n = d
  have hlane : d.lane = i := by rw [← hd]; rfl
  have hlog : ∀ s : RoundState, (s.afterPlain d i).log = s.log ++ [d] :=
    fun s => (s.afterPlain_kept d i).1
  refine Follows.bind (Q := fun _ s => ∀ reason, d.run.outcome = .ok reason → s.HasSearched i)
    (Follows.modify ?_ ?_) fun _ => ?_
  · intro s _ d' hd'
    rw [hlog]
    exact List.mem_append_left _ hd'
  · intro s _ _ _
    refine ⟨d, ?_, hlane⟩
    rw [hlog]
    exact List.mem_append_right _ (List.mem_singleton_self d)
  refine (follows_raiseIfFailed d).bind fun _ => ?_
  refine (follows_flushProviderReturns d).bind fun _ => ?_
  exact Follows.bind (Q := fun _ s => s.HasSearched i)
    (follows_registerDispatchOutcome d (fun _ _ _ _ _ hd => hd) fun _ _ _ _ hs => hs)
    fun _ => Follows.pure fun _ hs => hs

def RoundCall.HasCity (c : RoundCall F) (i : Nat) (s : RoundState) : Prop :=
  match c.plan.mode with
  | .priorityThenFallback => c.plan.priorityOrder ≠ []
  | .balancedAll => c.activeCities s i ≠ []
  | _ => True

theorem searched_collect (hn : 0 < n) :
    Follows RoundState.LogGrows (fun s => (s.lanes i).exhausted = false ∧ c.HasCity i s)
      (c.collectCandidatesForQuery i lane n) (fun _ s => s.HasSearched i) := by
  have hsearch : Follows RoundState.LogGrows (fun s => s.remainingGap = n ∧ c.HasCity i s)
      (c.searchCities i lane n) (fun _ s => s.HasSearched i) := by
    unfold RoundCall.searchCities RoundCall.HasCity
    cases c.plan.mode with
    | none => exact searched_plainDispatch.pre fun _ _ => trivial
    | single =>
      cases c.plan.allowedLocations with
      | nil => exact Follows.throw _
      | cons city rest =>
        exact ((searched_runDispatches _).pre fun _ _ => .inl (by simp)).bind
          fun _ => Follows.pure fun _ hs => hs
    | priorityThenFallback =>
      refine ((searched_priorityLoop _).pre fun s hs => .inl ⟨hs.2, by omega⟩).bind fun stop => ?_
      exact Follows.ite (fun _ => Follows.pure fun _ hs => hs)
        fun _ => (searched_balancedLoop _).pre fun _ hs => .inr hs
    | balancedAll => exact (searched_balancedLoop _).pre fun s hs => .inl ⟨hs.2, by omega⟩
  unfold RoundCall.collectCandidatesForQuery
  refine Follows.get.bind fun a => ?_
  refine Follows.ite (fun hidle => Follows.pure ?_) fun _ => ?_
  · rintro s ⟨rfl, hopen, -⟩
    rcases hidle with hle | hexhausted
    · exact absurd hn (not_lt.mpr hle)
    · rw [hopen] at hexhausted
      cases hexhausted
  · refine Follows.bind (Q := fun _ s => s.remainingGap = n ∧ c.HasCity i s)
      (Follows.modify (fun _ _ _ hd => hd) ?_) fun _ => ?_
    · rintro s ⟨rfl, -, hcity⟩
      refine ⟨?_, hcity⟩
      simp [RoundState.remainingGap, RoundState.beginPass]
    · refine hsearch.bind fun _ => Follows.modify ?_ ?_
      · intro s _ d hd
        rw [(c.endPass_finished i s).log_eq]
        exact hd
      · intro s hs
        unfold RoundState.HasSearched
        rw [(c.endPass_finished i s).log_eq]
        exact hs

/-! ## 2. The first lane -/

/-- **A round that returns has searched for its first lane.** -/
theorem RoundCall.first_searched {first : LogicalQuery} {rest : List LogicalQuery}
    (hqueries : c.queryStates = first :: rest)
    (htarget : 0 < allocateInitialLaneTargets F c.laneOrder c.queryStates c.targetNew
      first.laneType) (hcity : c.HasCity 0 c.initial)
    {result : RetrievalExecutionResult} (hok : c.outcome.1 = .ok result) :
    c.outcome.2.HasSearched 0 := by
  have hlanes := mem_zipIdx_queryStates c
  have hzip : c.queryStates.zipIdx = (first, 0) :: rest.zipIdx 1 := by rw [hqueries]; rfl
  have hround : Follows c.Step (fun s => c.initial = s) c.executeRoundSearch
      (fun _ s => s.HasSearched 0) := by
    unfold RoundCall.executeRoundSearch RoundCall.searchRound
    have hkeep : ∀ s s' : RoundState, c.Step s s' → s.HasSearched 0 → s'.HasSearched 0 :=
      fun s s' hstep hs => hs.grows hstep.logGrows
    refine Follows.bind (Q := fun _ s => s.HasSearched 0) ?_
      fun _ => Follows.get.bind fun a => Follows.pure fun s hs => hs.2
    refine Follows.bind (Q := fun _ s => s.Idle ∧ s.HasSearched 0) ?_
      fun _ => ((follows_refillLoop _).frame hkeep).conseq (fun _ hs => hs) fun _ _ hs => hs.2
    rw [hzip] at hlanes ⊢
    obtain ⟨hfirst, hrest⟩ := List.forall_mem_cons.mp hlanes
    unfold RoundCall.initialPass
    refine Follows.bind (Q := fun _ s => s.Idle ∧ s.HasSearched 0) ?_
      fun _ => (follows_initialPass _ _ hrest).frame hkeep
    refine ((follows_collectCandidatesForQuery hfirst).and (searched_collect htarget)).pre ?_
    rintro s rfl
    exact ⟨c.initial_idle, rfl, hcity⟩
  exact (hround c.initial rfl).2 result hok

end Walk

end SeekTalent

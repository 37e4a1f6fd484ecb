import Mathlib.Algebra.Order.BigOperators.Group.List
import SeekTalent.Retrieval.RoundSteps
import SeekTalent.Retrieval.SearchToolSpec

/-!
# What a pass comes to

The loops of a round share their progress through page numbers and exhausted flags. What one
search does to the gap it was made for (`Dispatch.gap_closed_or_short`) is carried through the
loops: a balanced batch that leaves a gap exhausts a city, a pass that gains nothing exhausts
its lane, and a refill turn that is followed by another gains a candidate. So no loop runs out
of fuel, and with a provider that returns no more than a page nothing is collected beyond the
count a pass was asked for.
-/

namespace SeekTalent

open Stateful

variable {F : Type} {c : RoundCall F} {i : Nat} {lane : LogicalQuery} {n g : Int}
variable {s s' : RoundState}
variable {phase : LocationExecutionPhase} {d : Dispatch} {city : String} {st : CityExecutionState}
variable {reason : ExhaustedReason}

/-! ## 1. Assertions -/

def RoundState.Open (s : RoundState) (i : Nat) (city : String) : Prop :=
  ∃ st, (s.lanes i).cityStates city = some st ∧ st.exhausted = false

def RoundState.Blocked (s : RoundState) (laneType : LaneType) : Prop :=
  allowLaneRefill laneType (s.latestDispatchOutcomes laneType) = false

/-- A step inside a pass of lane `i` opens no city and changes neither the round's candidates
    nor what the pass was asked for. -/
structure RoundState.Within (i : Nat) (s s' : RoundState) : Prop where
  narrows : ∀ city, s'.Open i city → s.Open i city
  all_eq : s'.allNewCandidates = s.allNewCandidates
  requested_eq : s'.pass.requestedCount = s.pass.requestedCount

/-- While a pass has found nothing, lane types that were blocked stay blocked, and none of its
    searches was satisfied. -/
def RoundState.Calm (T : LaneType → Prop) (s : RoundState) : Prop :=
  s.pass.localNewCandidates = [] → (∀ t, T t → s.Blocked t) ∧
    ∀ summary ∈ s.pass.localCitySummaries, summary.exhaustedReason ≠ .targetSatisfied

/-- What a batch comes to that started with the gap `g`. -/
structure RoundCall.Batched (c : RoundCall F) (T : LaneType → Prop) (i : Nat)
    (targets : List (String × Int)) (g : Int) (stop : Bool) (s : RoundState) : Prop where
  calm : s.Calm T
  bounded : c.runtime.PageBounded → (targets.map Prod.snd).sum ≤ g → 0 ≤ s.remainingGap
  closed : stop = false → s.remainingGap ≤ g - (targets.map Prod.snd).sum ∨
    ∃ t ∈ targets, ¬s.Open i t.1

structure RoundCall.Collecting (c : RoundCall F) (T : LaneType → Prop) (s : RoundState) :
    Prop where
  calm : s.Calm T
  bounded : c.runtime.PageBounded → 0 ≤ s.remainingGap

def RoundCall.MayBlock (c : RoundCall F) (T : LaneType → Prop) : Prop :=
  ∀ t, T t → c.scoreForQueryOutcome.isSome ∧ t ≠ .exploit

/-! ## 2. One search -/

theorem newCandidates_eq
    (hok : d.run.outcome = .ok reason) : d.newCandidates = d.run.final.allNewCandidates := by
  unfold Dispatch.newCandidates
  rw [hok]

/-- **A search closes the gap it was made for, or it ends short of it.** -/
theorem Dispatch.gap_closed_or_short
    (hrun : d.run = executeSearchTool c.runtime d.call) (hpos : 0 < d.call.targetNew)
    (hok : d.run.outcome = .ok reason) :
    (reason = .targetSatisfied ∧ d.call.targetNew ≤ d.newCandidates.length) ∨
    (reason ≠ .targetSatisfied ∧ (d.newCandidates.length : Int) < d.call.targetNew) := by
  rw [newCandidates_eq hok]
  rw [hrun] at hok ⊢
  have hiff := executeSearchTool_targetSatisfied_iff c.runtime d.call hpos hok
  by_cases hreason : reason = .targetSatisfied
  · exact .inl ⟨hreason, hiff.mp hreason⟩
  · exact .inr ⟨hreason, not_le.mp fun hle => hreason (hiff.mpr hle)⟩

theorem Dispatch.newCandidates_le (hpage : c.runtime.PageBounded)
    (hrun : d.run = executeSearchTool c.runtime d.call) (hpos : 0 < d.call.targetNew) :
    (d.newCandidates.length : Int) ≤ d.call.targetNew := by
  unfold Dispatch.newCandidates
  cases hok : d.run.outcome with
  | error e =>
    rw [List.length_nil]
    exact hpos.le
  | ok reason =>
    dsimp only
    rw [hrun]
    exact executeSearchTool_new_le hpage d.call hpos.le

theorem allowLaneRefill_of_no_new [PyFloat F] {laneType : LaneType} (scored exploitScored :
    List ScoredCandidate) (returned : Nat) (thresholds : QueryOutcomeThresholds F)
    (hlane : laneType ≠ .exploit) :
    allowLaneRefill laneType (some (classifyQueryOutcome
      (outcomeFigures scored exploitScored 0 returned) thresholds)) = false := by
  unfold allowLaneRefill classifyQueryOutcome
  simp only [hlane, decide_false, Bool.false_or, Bool.not_eq_false', List.any_eq_true,
    decide_eq_true_eq, List.mem_filter]
  cases returned with
  | zero => exact ⟨.zeroRecall, by simp, by simp, rfl⟩
  | succ returned => exact ⟨.duplicateOnly, by simp, by simp, rfl⟩

theorem within_afterCity (hst : (s.lanes i).cityStates city = some st) :
    s.Within i (s.afterCity d i lane city phase st) := by
  refine ⟨?_, (s.afterCity_kept d i lane city phase st).2.2.2.1, ?_⟩
  rotate_left
  · unfold RoundState.afterCity
    split <;> rfl
  intro city' hopen
  unfold RoundState.afterCity at hopen
  split at hopen
  · exact hopen
  · obtain ⟨st', hst', hfalse⟩ := hopen
    by_cases hc : city' = city
    · subst hc
      simp only [Function.update_self, Option.some.injEq] at hst'
      subst hst'
      simp only [CityExecutionState.after, Bool.or_eq_false_iff] at hfalse
      exact ⟨st, hst, hfalse.1⟩
    · simp only [Function.update_self, Function.update_of_ne hc] at hst'
      exact ⟨st', hst', hfalse⟩

theorem not_open_afterCity  (hok : d.run.outcome = .ok reason)
    (hreason : reason ≠ .targetSatisfied) :
    ¬(s.afterCity d i lane city phase st).Open i city := by
  intro hopen
  unfold RoundState.afterCity at hopen
  rw [hok] at hopen
  obtain ⟨st', hst', hfalse⟩ := hopen
  simp only [Function.update_self, Option.some.injEq] at hst'
  subst hst'
  simp [CityExecutionState.after, hreason] at hfalse

theorem remainingGap_afterCity :
    (s.afterCity d i lane city phase st).remainingGap =
      s.remainingGap - d.newCandidates.length := by
  have hlocal := (s.afterCity_kept d i lane city phase st).2.1
  have hcount : (s.afterCity d i lane city phase st).pass.requestedCount =
      s.pass.requestedCount := by
    unfold RoundState.afterCity
    split <;> rfl
  unfold RoundState.remainingGap
  rw [hlocal, hcount, List.length_append]
  push_cast
  omega

theorem Calm.afterCity {T : LaneType → Prop}
     (h : s.Calm T)
    (hrun : d.run = executeSearchTool c.runtime d.call) (hpos : 0 < d.call.targetNew) :
    (s.afterCity d i lane city phase st).Calm T := by
  intro hempty
  rw [(s.afterCity_kept d i lane city phase st).2.1, List.append_eq_nil_iff] at hempty
  obtain ⟨hbefore, hnew⟩ := hempty
  obtain ⟨hblocked, hsummaries⟩ := h hbefore
  unfold RoundState.afterCity
  cases hok : d.run.outcome with
  | error e => exact ⟨hblocked, hsummaries⟩
  | ok reason =>
    refine ⟨hblocked, ?_⟩
    intro summary hsummary
    rcases List.mem_append.mp hsummary with hsummary | hsummary
    · exact hsummaries summary hsummary
    · rw [List.mem_singleton.mp hsummary]
      rcases Dispatch.gap_closed_or_short hrun hpos hok with ⟨-, hle⟩ | ⟨hreason, -⟩
      · rw [hnew, List.length_nil] at hle
        exact absurd hpos (not_lt.mpr hle)
      · exact hreason

/-! ## 3. The searches of a batch -/

section Walk

variable {T : LaneType → Prop}

variable [PyFloat F]

theorem Calm.recordOutcome {laneType : LaneType}
    {outcome : Option QueryOutcomeClassification} (hT : c.MayBlock T) (h : s.Calm T)
    (hnew : s.pass.localNewCandidates = [] → d.newCandidates = []) (hbooks : c.Books d outcome)
    (scored : List ScoredCandidate) : (s.recordOutcome laneType scored outcome).Calm T := by
  intro hempty
  refine ⟨fun t ht => ?_, (h hempty).2⟩
  unfold RoundState.Blocked RoundState.recordOutcome
  by_cases hlane : t = laneType
  · subst hlane
    simp only [Function.update_self]
    rcases hbooks with ⟨hnone, -⟩ | ⟨-, scored', exploitScored, rfl⟩
    · have hsome := (hT t ht).1
      rw [hnone] at hsome
      cases hsome
    · rw [hnew hempty]
      exact allowLaneRefill_of_no_new _ _ _ _ (hT t ht).2
  · simp only [Function.update_of_ne hlane]
    exact (h hempty).1 t ht

theorem within_recordOutcome (laneType : LaneType) (scored : List ScoredCandidate)
    (outcome : Option QueryOutcomeClassification) :
    s.Within i (s.recordOutcome laneType scored outcome) := ⟨fun _ h => h, rfl, rfl⟩

/-- **A batch that is not stopped closes the gap by all its targets, or it exhausts one of
    its cities.** -/
theorem follows_dispatchTargets_gap (hT : c.MayBlock T)
    (targets : List (String × Int)) (hpos : ∀ t ∈ targets, 0 < t.2) (g : Int) :
    Follows (RoundState.Within i) (fun s => s.remainingGap = g ∧ s.Calm T)
      (c.dispatchTargets i lane phase targets)
      (c.Batched T i targets g) := by
  induction targets generalizing g with
  | nil =>
    refine Follows.pure ?_
    rintro s ⟨rfl, hcalm⟩
    exact ⟨hcalm, fun _ hsum => by simpa using hsum, fun _ => .inl (by simp)⟩
  | cons target rest ih =>
    obtain ⟨city, m⟩ := target
    obtain ⟨hm, hrest⟩ := List.forall_mem_cons.mp hpos
    unfold RoundCall.dispatchTargets
    refine Follows.get.bind fun a => ?_
    cases hst : (a.lanes i).cityStates city with
    | none => exact Follows.throw _
    | some st =>
      dsimp only
      generalize hd : c.dispatchOf a i lane (some city) (some phase) st.nextPage st.exhausted
        m = d
      have hrun : d.run = executeSearchTool c.runtime d.call := by rw [← hd]; rfl
      have htarget : d.call.targetNew = m := by rw [← hd]; rfl
      have hdpos : 0 < d.call.targetNew := htarget ▸ hm
      -- what is known of the state between the search and the rest of the batch
      let Between : RoundState → Prop := fun s =>
        s.remainingGap = g - d.newCandidates.length ∧
          (m ≤ d.newCandidates.length ∨ ¬s.Open i city)
      refine Follows.bind (Q := fun _ s => ∀ reason, d.run.outcome = .ok reason →
          s.Calm T ∧ (s.pass.localNewCandidates = [] → d.newCandidates = []) ∧ Between s)
        ?_ fun _ => ?_
      · refine Follows.modify ?_ ?_
        · rintro s ⟨rfl, -, -⟩
          exact within_afterCity hst
        · rintro s ⟨rfl, hgap, hcalm⟩ reason hok
          refine ⟨Calm.afterCity hcalm hrun hdpos, ?_, ?_, ?_⟩
          · rw [(RoundState.afterCity_kept ..).2.1]
            exact fun hempty => (List.append_eq_nil_iff.mp hempty).2
          · rw [remainingGap_afterCity, hgap]
          · rcases Dispatch.gap_closed_or_short hrun hdpos hok with ⟨-, hle⟩ | ⟨hreason, -⟩
            · exact .inl (htarget ▸ hle)
            · exact .inr (not_open_afterCity hok hreason)
      refine (follows_raiseIfFailed d).bind fun _ => ?_
      refine (follows_flushProviderReturns d).bind fun _ => ?_
      refine Follows.bind (Q := fun _ s => s.Calm T ∧ Between s) ?_ fun outcome => ?_
      · refine follows_registerDispatchOutcome d (fun s _ _ _ => within_recordOutcome ..) ?_
        rintro s scored outcome hbooks ⟨hcalm, hnew, hbetween⟩
        exact ⟨Calm.recordOutcome hT hcalm hnew hbooks scored, hbetween⟩
      refine Follows.ite (fun _ => ?_) fun _ => Follows.pure ?_
      · -- the rest of the batch keeps a city that was exhausted closed
        have hframe := (ih hrest (g - d.newCandidates.length)).frame
          (I := fun s => m ≤ d.newCandidates.length ∨ ¬s.Open i city)
          (fun s s' hwithin hs => hs.imp_right fun hnot hopen => hnot (hwithin.narrows _ hopen))
        refine hframe.conseq (fun s hs => ⟨⟨hs.2.1, hs.1⟩, hs.2.2⟩) ?_
        rintro stop s ⟨⟨hcalm, hbound, hclosed⟩, hfirst⟩
        refine ⟨hcalm, ?_, ?_⟩
        · intro hpage hsum
          rw [List.map_cons, List.sum_cons] at hsum
          have hnew := htarget ▸ Dispatch.newCandidates_le hpage hrun hdpos
          exact hbound hpage (by omega)
        · intro hstop
          rw [List.map_cons, List.sum_cons]
          rcases hclosed hstop with hle | ⟨t, ht, hnot⟩
          · rcases hfirst with hgain | hnot
            · exact .inl (by omega)
            · exact .inr ⟨_, List.mem_cons_self, hnot⟩
          · exact .inr ⟨t, List.mem_cons_of_mem _ ht, hnot⟩
      · rintro s ⟨hcalm, hgap, -⟩
        refine ⟨hcalm, ?_, fun hstop => by cases hstop⟩
        intro hpage hsum
        rw [List.map_cons, List.sum_cons] at hsum
        have hnew := htarget ▸ Dispatch.newCandidates_le hpage hrun hdpos
        have hrestsum : 0 ≤ (rest.map Prod.snd).sum := by
          apply List.sum_nonneg
          intro x hx
          obtain ⟨t, ht, rfl⟩ := List.mem_map.mp hx
          exact (hrest t ht).le
        omega

theorem follows_runDispatches_gap (hT : c.MayBlock T)
    (targets : List (String × Int)) (hpos : ∀ t ∈ targets, 0 < t.2) (g : Int) :
    Follows (RoundState.Within i) (fun s => s.remainingGap = g ∧ s.Calm T)
      (c.runDispatches i lane phase targets) (c.Batched T i targets g) := by
  unfold RoundCall.runDispatches
  refine Follows.ite (fun hnil => Follows.pure ?_) fun _ => ?_
  · rintro s ⟨rfl, hcalm⟩
    subst hnil
    exact ⟨hcalm, fun _ hsum => by simpa using hsum, fun _ => .inl (by simp)⟩
  · refine Follows.bind (Follows.modify (fun s _ => ⟨fun _ h => h, rfl, rfl⟩) ?_)
      fun _ => follows_dispatchTargets_gap hT targets hpos g
    exact fun s hs => hs

theorem follows_priorityLoop_gap (hT : c.MayBlock T) (cities : List String) :
    Follows (RoundState.Within i) (c.Collecting T) (c.priorityLoop i lane cities)
      (fun _ s => c.Collecting T s) := by
  induction cities with
  | nil => exact Follows.pure fun _ hs => hs
  | cons city rest ih =>
    unfold RoundCall.priorityLoop
    refine Follows.get.bind fun a => ?_
    refine Follows.ite (fun _ => Follows.pure fun _ hs => hs.2) fun hgap => ?_
    refine Follows.bind (Q := fun _ s => c.Collecting T s) ?_ fun stop => ?_
    · refine (follows_runDispatches_gap hT [(city, a.remainingGap)] ?_ a.remainingGap).conseq ?_ ?_
      · intro t ht
        rw [List.mem_singleton.mp ht]
        exact lt_of_not_ge hgap
      · rintro s ⟨rfl, hs⟩
        exact ⟨rfl, hs.calm⟩
      · exact fun stop s hs => ⟨hs.calm, fun hpage => hs.bounded hpage (by simp)⟩
    · exact Follows.ite (fun _ => Follows.pure fun _ hs => hs) fun _ => ih

theorem sum_cityTargets_le {cities : List String} (hn : 0 < n) :
    ((allocateBalancedCityTargets cities n).map Prod.snd).sum ≤ n := by
  cases cities with
  | nil =>
    unfold allocateBalancedCityTargets
    simp [hn.le]
  | cons city rest => exact (sum_allocateBalancedCityTargets (by simp) hn).le

theorem follows_balancedBatch (hT : c.MayBlock T) (a : RoundState) (hgap : ¬a.remainingGap ≤ 0) :
    Follows (RoundState.Within i) (fun s => a = s ∧ c.Collecting T s)
      (c.runDispatches i lane .balanced
        (allocateBalancedCityTargets (c.activeCities a i) a.remainingGap))
      (fun stop s => c.Collecting T s ∧ c.Batched T i
        (allocateBalancedCityTargets (c.activeCities a i) a.remainingGap) a.remainingGap stop s) := by
  refine (follows_runDispatches_gap hT _ (fun t ht => (mem_allocateBalancedCityTargets ht).2)
    a.remainingGap).conseq ?_ ?_
  · rintro s ⟨rfl, hs⟩
    exact ⟨rfl, hs.calm⟩
  · intro stop s hs
    exact ⟨⟨hs.calm, fun hpage => hs.bounded hpage (sum_cityTargets_le (lt_of_not_ge hgap))⟩, hs⟩

theorem follows_balancedLoop_gap (hT : c.MayBlock T) (fuel : Nat) :
    Follows (RoundState.Within i) (c.Collecting T) (c.balancedLoop i lane fuel)
      (fun _ s => c.Collecting T s) := by
  induction fuel with
  | zero => exact Follows.throw _
  | succ fuel ih =>
    unfold RoundCall.balancedLoop
    refine Follows.get.bind fun a => ?_
    refine Follows.ite (fun _ => Follows.pure fun _ hs => hs.2) fun hgap => ?_
    refine Follows.ite (fun _ => Follows.pure fun _ hs => hs.2) fun _ => ?_
    refine (follows_balancedBatch hT a hgap).bind fun stop => ?_
    exact Follows.ite (fun _ => Follows.pure fun _ hs => hs.1)
      fun _ => ih.conseq (fun _ hs => hs.1) fun _ _ h => h

/-! ## 4. A pass -/

theorem follows_plainDispatch_gap (hT : c.MayBlock T) (hn : 0 < n) :
    Follows (RoundState.Within i) (fun s => s.remainingGap = n ∧ s.Calm T)
      (c.plainDispatch i lane n)
      (fun _ s => c.Collecting T s ∧
        (s.pass.localNewCandidates = [] → (s.lanes i).exhausted = true)) := by
  unfold RoundCall.plainDispatch
  refine Follows.bind (Q := fun _ s => s.remainingGap = n ∧ s.Calm T)
    (Follows.modify (fun s _ => ⟨fun _ h => h, rfl, rfl⟩) fun s hs => hs) fun _ => ?_
  refine Follows.get.bind fun a => ?_
  dsimp only
  generalize hd : c.dispatchOf a i lane none none (a.lanes i).nextPage (a.lanes i).exhausted n = d
  have hrun : d.run = executeSearchTool c.runtime d.call := by rw [← hd]; rfl
  have htarget : d.call.targetNew = n := by rw [← hd]; rfl
  have hdpos : 0 < d.call.targetNew := htarget ▸ hn
  have hkept : ∀ s : RoundState, s.Within i (s.afterPlain d i) := by
    intro s
    refine ⟨?_, (s.afterPlain_kept d i).2.2.2.1, ?_⟩
    rotate_left
    · unfold RoundState.afterPlain
      split <;> rfl
    intro city hopen
    unfold RoundState.afterPlain at hopen
    split at hopen
    · exact hopen
    · simpa [RoundState.Open, LaneProgress.after] using hopen
  refine Follows.bind (Q := fun _ s => ∀ reason, d.run.outcome = .ok reason →
      s.Calm T ∧ (s.pass.localNewCandidates = [] → d.newCandidates = []) ∧
        s.remainingGap = n - d.newCandidates.length ∧
        (s.pass.localNewCandidates = [] → (s.lanes i).exhausted = true))
    (Follows.modify (fun s _ => hkept s) ?_) fun _ => ?_
  · rintro s ⟨rfl, hgap, hcalm⟩ reason hok
    have hempty : (a.afterPlain d i).pass.localNewCandidates = [] →
        a.pass.localNewCandidates = [] ∧ d.newCandidates = [] := by
      rw [(a.afterPlain_kept d i).2.1]
      exact List.append_eq_nil_iff.mp
    unfold RoundState.afterPlain at hempty ⊢
    rw [hok] at hempty ⊢
    refine ⟨fun h => hcalm (hempty h).1, fun h => (hempty h).2, ?_, fun h => ?_⟩
    · unfold RoundState.remainingGap at hgap ⊢
      simp only [List.length_append, newCandidates_eq hok]
      push_cast
      omega
    · rcases Dispatch.gap_closed_or_short hrun hdpos hok with ⟨-, hle⟩ | ⟨hreason, -⟩
      · rw [(hempty h).2, List.length_nil] at hle
        exact absurd hdpos (not_lt.mpr hle)
      · simp [LaneProgress.after, hreason]
  refine (follows_raiseIfFailed d).bind fun _ => ?_
  refine (follows_flushProviderReturns d).bind fun _ => ?_
  refine Follows.bind (follows_registerDispatchOutcome (B := fun s => c.Collecting T s ∧
      (s.pass.localNewCandidates = [] → (s.lanes i).exhausted = true)) d
    (fun s _ _ _ => within_recordOutcome ..) ?_) fun _ => Follows.pure fun _ hs => hs
  rintro s scored outcome hbooks ⟨hcalm, hnew, hgap, hexhausted⟩
  refine ⟨⟨Calm.recordOutcome hT hcalm hnew hbooks scored, fun hpage => ?_⟩, hexhausted⟩
  have hle := htarget ▸ Dispatch.newCandidates_le hpage hrun hdpos
  show 0 ≤ s.remainingGap
  omega

theorem follows_searchCities_gap (hT : c.MayBlock T) (hn : 0 < n) :
    Follows (RoundState.Within i) (fun s => s.remainingGap = n ∧ s.Calm T)
      (c.searchCities i lane n)
      (fun _ s => c.Collecting T s ∧
        (c.plan.mode = .none → s.pass.localNewCandidates = [] → (s.lanes i).exhausted = true)) := by
  have hstart : ∀ s : RoundState, s.remainingGap = n ∧ s.Calm T → c.Collecting T s :=
    fun s hs => ⟨hs.2, fun _ => by omega⟩
  unfold RoundCall.searchCities
  cases hmode : c.plan.mode with
  | none =>
    exact (follows_plainDispatch_gap hT hn).conseq (fun _ hs => hs) fun _ s hs => ⟨hs.1, fun _ => hs.2⟩
  | single =>
    cases c.plan.allowedLocations with
    | nil => exact Follows.throw _
    | cons city rest =>
      refine Follows.bind (follows_runDispatches_gap hT [(city, n)] ?_ n) fun _ => Follows.pure ?_
      · intro t ht
        rw [List.mem_singleton.mp ht]
        exact hn
      · exact fun s hs => ⟨⟨hs.calm, fun hpage => hs.bounded hpage (by simp)⟩, fun h => by cases h⟩
  | priorityThenFallback =>
    refine Follows.bind ((follows_priorityLoop_gap hT _).conseq hstart fun _ _ h => h)
      fun stop => ?_
    refine Follows.ite (fun _ => Follows.pure fun s hs => ⟨hs, fun h => by cases h⟩) fun _ => ?_
    exact (follows_balancedLoop_gap hT _).conseq (fun _ hs => hs)
      fun _ s hs => ⟨hs, fun h => by cases h⟩
  | balancedAll =>
    exact (follows_balancedLoop_gap hT _).conseq hstart fun _ s hs => ⟨hs, fun h => by cases h⟩

/-- **What a pass for `n` candidates comes to.** -/
structure RoundCall.PassResult (c : RoundCall F) (T : LaneType → Prop) (i : Nat) (n : Int)
    (s s' : RoundState) : Prop where
  grows : s.allNewCandidates.length ≤ s'.allNewCandidates.length
  bounded : c.runtime.PageBounded →
    (s'.allNewCandidates.length : Int) ≤ s.allNewCandidates.length + max n 0
  spent : 0 < n → s'.allNewCandidates.length = s.allNewCandidates.length →
    (s'.lanes i).exhausted = true
  blocked : s'.allNewCandidates.length = s.allNewCandidates.length → ∀ t, T t → s'.Blocked t

theorem follows_collect_gap (hT : c.MayBlock T) (a : RoundState) (ha : ∀ t, T t → a.Blocked t) :
    Follows (fun _ _ => True) (fun s => a = s) (c.collectCandidatesForQuery i lane n)
      (fun _ s => c.PassResult T i n a s) := by
  unfold RoundCall.collectCandidatesForQuery
  refine Follows.get.bind fun b => ?_
  refine Follows.ite (fun hidle => Follows.pure ?_) fun hgo => ?_
  · rintro s ⟨rfl, rfl⟩
    refine ⟨le_rfl, fun _ => by omega, fun hn _ => ?_, fun _ => ha⟩
    exact hidle.resolve_left (not_le.mpr hn)
  · rw [not_or, not_le, Bool.not_eq_true] at hgo
    have hn := hgo.1
    refine Follows.bind (Follows.modify (Q := fun _ s => (s.remainingGap = n ∧ s.Calm T) ∧
      s.allNewCandidates = a.allNewCandidates ∧ s.pass.requestedCount = n) (fun _ _ => trivial) ?_)
      fun _ => ?_
    · rintro s ⟨rfl, rfl⟩
      refine ⟨⟨?_, fun _ => ⟨ha, ?_⟩⟩, rfl, rfl⟩
      · simp [RoundState.remainingGap, RoundState.beginPass]
      · simp [RoundState.beginPass]
    have hsearch : Follows (RoundState.Within i) _ (c.searchCities i lane n) _ :=
      follows_searchCities_gap hT hn
    have hframe := hsearch.frame
      (I := fun s => s.allNewCandidates = a.allNewCandidates ∧ s.pass.requestedCount = n)
      (fun s s' hwithin hs => ⟨hwithin.all_eq.trans hs.1, hwithin.requested_eq.trans hs.2⟩)
    refine Follows.bind (hframe.mono fun _ _ _ => trivial) fun _ => ?_
    refine Follows.modify (fun _ _ => trivial) ?_
    rintro s ⟨⟨hcollecting, hplain⟩, hall, hcount⟩
    have hfinished := c.endPass_finished i s
    have hlength : (c.endPass i s).allNewCandidates.length =
        a.allNewCandidates.length + s.pass.localNewCandidates.length := by
      rw [hfinished.all_eq, hall, List.length_append]
    have houtcomes : ∀ t, (c.endPass i s).Blocked t ↔ s.Blocked t := by
      intro t
      unfold RoundCall.endPass
      split <;> rfl
    have hempty : (c.endPass i s).allNewCandidates.length = a.allNewCandidates.length →
        s.pass.localNewCandidates = [] := by
      intro hsame
      exact List.eq_nil_of_length_eq_zero (by omega)
    refine ⟨by omega, fun hpage => ?_, fun _ hsame => ?_, fun hsame t ht => ?_⟩
    · have hgap := hcollecting.bounded hpage
      unfold RoundState.remainingGap at hgap
      rw [hlength]
      push_cast
      omega
    · have hnone := hempty hsame
      unfold RoundCall.endPass
      by_cases hmode : c.plan.mode = .none
      · rw [if_pos hmode]
        exact hplain hmode hnone
      · rw [if_neg hmode]
        -- none of the searches was satisfied, so the pass was not
        have hreason : finalExhaustedReason s.pass.requestedCount
            s.pass.localNewCandidates.length s.pass.localCitySummaries ≠ .targetSatisfied := by
          unfold finalExhaustedReason
          rw [if_neg (by rw [hcount, hnone]; simpa using hn)]
          cases hlast : s.pass.localCitySummaries.getLast? with
          | none => decide
          | some summary =>
            exact (hcollecting.calm hnone).2 summary (List.mem_of_getLast? hlast)
        simp [RoundState.finishPass, RoundState.settleCities, hreason]
    · exact (houtcomes t).mpr ((hcollecting.calm (hempty hsame)).1 t ht)

end Walk

/-! ## 5. The lanes in turn -/

def RoundCall.Unscored (c : RoundCall F) (s : RoundState) : Prop :=
  c.scoreForQueryOutcome = none → ∀ t, s.latestDispatchOutcomes t = none

theorem RoundCall.Unscored.step (hstep : c.Step s s') (h : c.Unscored s) : c.Unscored s' := by
  intro hnone
  have hsame := h hnone
  cases hstep with
  | beginPass => exact hsame
  | startBatch => exact hsame
  | city => intro t; unfold RoundState.afterCity; split <;> exact hsame t
  | plain => intro t; unfold RoundState.afterPlain; split <;> exact hsame t
  | recordOutcome laneType scored outcome unscored =>
    intro t
    unfold RoundState.recordOutcome
    by_cases ht : t = laneType
    · subst ht
      simp [unscored hnone]
    · simp [ht, hsame t]
  | endPass => intro t; unfold RoundCall.endPass; split <;> exact hsame t

theorem RoundCall.Step.exhausted {j : Nat} (hstep : c.Step s s')
    (h : (s.lanes j).exhausted = true) : (s'.lanes j).exhausted = true := by
  cases hstep with
  | beginPass => exact h
  | startBatch => exact h
  | @city i =>
    unfold RoundState.afterCity
    split
    · exact h
    · by_cases hj : j = i
      · subst hj
        simpa using h
      · simpa [hj] using h
  | @plain i =>
    unfold RoundState.afterPlain
    split
    · exact h
    · by_cases hj : j = i
      · subst hj
        simp [LaneProgress.after, h]
      · simpa [hj] using h
  | recordOutcome => exact h
  | @endPass i =>
    unfold RoundCall.endPass RoundState.settleCities RoundState.finishPass
    split
    · exact h
    · by_cases hj : j = i
      · subst hj
        simp [h]
      · simpa [hj] using h

theorem RoundCall.Unscored.mayBlock (h : c.Unscored s) : c.MayBlock s.Blocked := by
  intro t ht
  unfold RoundState.Blocked allowLaneRefill at ht
  refine ⟨?_, ?_⟩
  · cases hscore : c.scoreForQueryOutcome with
    | none =>
      rw [h hscore t] at ht
      cases ht
    | some score => rfl
  · rintro rfl
    cases hlatest : s.latestDispatchOutcomes .exploit with
    | none => rw [hlatest] at ht; cases ht
    | some outcome => rw [hlatest] at ht; simp at ht

def RoundState.Spent (s : RoundState) (l : LogicalQuery × Nat) : Prop :=
  (s.lanes l.2).exhausted = true ∨ s.Blocked l.1.laneType

/-- What a turn of the refill loop over `lanes` comes to. -/
structure RoundCall.Refilled (c : RoundCall F) (lanes : List (LogicalQuery × Nat))
    (s : RoundState) (gained : Bool) (s' : RoundState) : Prop where
  grows : s.allNewCandidates.length ≤ s'.allNewCandidates.length
  gains : gained = true → s.allNewCandidates.length < s'.allNewCandidates.length
  stuck : gained = false → s'.allNewCandidates.length = s.allNewCandidates.length
  bounded : c.runtime.PageBounded → (s.allNewCandidates.length : Int) ≤ max c.targetNew 0 →
    (s'.allNewCandidates.length : Int) ≤ max c.targetNew 0
  blocked : s'.allNewCandidates.length = s.allNewCandidates.length → ∀ t, s.Blocked t → s'.Blocked t
  spent : gained = false → (s.allNewCandidates.length : Int) < c.targetNew →
    ∀ l ∈ lanes, s'.Spent l

theorem refilled_self (lanes : List (LogicalQuery × Nat))
    (h : lanes = [] ∨ c.targetNew ≤ s.allNewCandidates.length) : c.Refilled lanes s false s := by
  refine ⟨le_rfl, fun hgained => ?_, fun _ => rfl, fun _ hle => hle, fun _ _ ht => ht, ?_⟩
  · cases hgained
  · intro _ hlt l hl
    rcases h with rfl | hfull
    · exact absurd hl List.not_mem_nil
    · exact absurd hlt (not_lt.mpr hfull)

section Turn

variable [PyFloat F]

structure RoundCall.Settled (c : RoundCall F) (s : RoundState) : Prop where
  idle : s.Idle
  unscored : c.Unscored s

theorem follows_collect (hlane : c.queryStates[i]? = some lane) {a : RoundState}
    (ha : c.Settled a) :
    Follows c.Step (fun s => a = s) (c.collectCandidatesForQuery i lane n)
      (fun _ s => c.Settled s ∧ c.PassResult a.Blocked i n a s) := by
  have hstep := (follows_collectCandidatesForQuery (n := n) hlane).frame
    (fun s s' hstep (h : c.Unscored s) => h.step hstep)
  have hgap : Follows (fun _ _ => True) _ (c.collectCandidatesForQuery i lane n) _ :=
    follows_collect_gap ha.unscored.mayBlock a fun t ht => ht
  refine (hstep.and hgap).conseq ?_ ?_
  · rintro s rfl
    exact ⟨⟨ha.idle, ha.unscored⟩, rfl⟩
  · rintro u s ⟨⟨hidle, hunscored⟩, hresult⟩
    exact ⟨⟨hidle, hunscored⟩, hresult⟩

/-- **A turn that gains nothing finds every lane spent.** -/
theorem follows_refillPass_spec (lanes : List (LogicalQuery × Nat))
    (hlanes : ∀ l ∈ lanes, c.queryStates[l.2]? = some l.1) {a : RoundState} (ha : c.Settled a) :
    Follows c.Step (fun s => a = s) (c.refillPass lanes)
      (fun gained s => c.Settled s ∧ c.Refilled lanes a gained s) := by
  induction lanes generalizing a with
  | nil =>
    refine Follows.pure ?_
    rintro s rfl
    exact ⟨ha, refilled_self [] (.inl rfl)⟩
  | cons l rest ih =>
    obtain ⟨hl, hrest⟩ := List.forall_mem_cons.mp hlanes
    unfold RoundCall.refillPass
    refine Follows.get.bind fun b => Follows.ghost fun b' hb => ?_
    obtain ⟨rfl, rfl⟩ := hb
    refine Follows.ite (fun hfull => Follows.pure ?_) fun hgap => ?_
    · rintro s rfl
      exact ⟨ha, refilled_self _ (.inr (by omega))⟩
    refine Follows.ite (fun _ => ?_) fun hblocked => ?_
    · refine (follows_collect hl ha).bind fun _ => ?_
      refine Follows.get.bind fun mid => Follows.ghost fun mid' hmid => ?_
      obtain ⟨rfl, hsettled, hresult⟩ := hmid
      -- what the first lane spent stays spent in the rest of the turn
      have hframe := (ih hrest hsettled).frame
        (I := fun s => (mid.lanes l.2).exhausted = true → (s.lanes l.2).exhausted = true)
        (fun s s' hstep hs hmid => hstep.exhausted (hs hmid))
      refine Follows.bind (hframe.pre (S := fun s => mid = s) ?_) fun later => Follows.pure ?_
      · rintro s rfl
        exact ⟨rfl, fun h => h⟩
      rintro s ⟨⟨hs, hrefilled⟩, hkept⟩
      have hgrows := hresult.grows
      have hgrows' := hrefilled.grows
      refine ⟨hs, by omega, ?_, ?_, ?_, ?_, ?_⟩
      · intro hgained
        rw [Bool.or_eq_true, decide_eq_true_eq] at hgained
        rcases hgained with hlt | hlater
        · omega
        · have := hrefilled.gains hlater
          omega
      · intro hnone
        rw [Bool.or_eq_false_iff, decide_eq_false_iff_not] at hnone
        have := hrefilled.stuck hnone.2
        omega
      · intro hpage hle
        have := hresult.bounded hpage
        exact hrefilled.bounded hpage (by omega)
      · intro hsame t ht
        exact hrefilled.blocked (by omega) t (hresult.blocked (by omega) t ht)
      · intro hnone hlt
        rw [Bool.or_eq_false_iff, decide_eq_false_iff_not] at hnone
        refine List.forall_mem_cons.mpr ⟨.inl (hkept (hresult.spent (by omega) (by omega))), ?_⟩
        exact hrefilled.spent hnone.2 (by omega)
    · refine (ih hrest ha).conseq (fun _ hs => hs) ?_
      rintro gained s ⟨hs, hrefilled⟩
      refine ⟨hs, hrefilled.grows, hrefilled.gains, hrefilled.stuck, hrefilled.bounded,
        hrefilled.blocked, fun hnone hlt => ?_⟩
      refine List.forall_mem_cons.mpr ⟨.inr ?_, hrefilled.spent hnone hlt⟩
      exact hrefilled.blocked (hrefilled.stuck hnone) _ (eq_false_of_ne_true hblocked)

theorem follows_initialPass_bound (targets : LaneType → Int) (lanes : List (LogicalQuery × Nat))
    (hlanes : ∀ l ∈ lanes, c.queryStates[l.2]? = some l.1) (m : Int) :
    Follows c.Step (fun s => c.Settled s ∧
        (c.runtime.PageBounded → (s.allNewCandidates.length : Int) ≤ m))
      (c.initialPass targets lanes)
      (fun _ s => c.Settled s ∧ (c.runtime.PageBounded → (s.allNewCandidates.length : Int) ≤
        m + (lanes.map fun l => max (targets l.1.laneType) 0).sum)) := by
  induction lanes generalizing m with
  | nil => exact Follows.pure fun s hs => ⟨hs.1, fun hpage => by simpa using hs.2 hpage⟩
  | cons l rest ih =>
    obtain ⟨hl, hrest⟩ := List.forall_mem_cons.mp hlanes
    unfold RoundCall.initialPass
    refine Follows.bind (Q := fun _ s => c.Settled s ∧ (c.runtime.PageBounded →
      (s.allNewCandidates.length : Int) ≤ m + max (targets l.1.laneType) 0))
      (Follows.ghost fun a ha => (follows_collect hl ha.1).conseq (fun _ hs => hs) ?_) fun _ => ?_
    · rintro u s ⟨hs, hresult⟩
      refine ⟨hs, fun hpage => ?_⟩
      have := ha.2 hpage
      have := hresult.bounded hpage
      omega
    · refine (ih hrest (m + max (targets l.1.laneType) 0)).conseq (fun _ hs => hs) ?_
      rintro u s ⟨hs, hbound⟩
      rw [List.map_cons, List.sum_cons, ← add_assoc]
      exact ⟨hs, hbound⟩

def RoundCall.EndsStuck (c : RoundCall F) (s : RoundState) : Prop :=
  ∃ before, exec (c.refillPass c.queryStates.zipIdx) before = (.ok false, s) ∧
    s.allNewCandidates.length = before.allNewCandidates.length

theorem follows_refillLoop_spec {B : Prop} (hB : B → c.runtime.PageBounded) (fuel : Nat) :
    Follows c.Step (fun s => c.Settled s ∧
        (B → (s.allNewCandidates.length : Int) ≤ max c.targetNew 0))
      (c.refillLoop fuel)
      (fun _ s => (B → (s.allNewCandidates.length : Int) ≤ max c.targetNew 0) ∧
        ((s.allNewCandidates.length : Int) < c.targetNew →
          c.EndsStuck s ∧ ∀ l ∈ c.queryStates.zipIdx, s.Spent l)) := by
  induction fuel with
  | zero => exact Follows.throw _
  | succ fuel ih =>
    unfold RoundCall.refillLoop
    refine Follows.get.bind fun a => Follows.ghost fun a' ha => ?_
    obtain ⟨rfl, hsettled, hbound⟩ := ha
    refine Follows.ite (fun hlt => ?_) fun hfull => Follows.pure ?_
    · have hturn := (follows_refillPass_spec _ (mem_zipIdx_queryStates c) hsettled).remember
      refine hturn.bind fun gained => ?_
      refine Follows.ite (fun hgained => ?_) fun hgained => Follows.pure ?_
      · refine ih.conseq ?_ fun _ _ h => h
        rintro s ⟨⟨hs, hrefilled⟩, -⟩
        exact ⟨hs, fun hb => hrefilled.bounded (hB hb) (hbound hb)⟩
      · rintro s ⟨⟨hs, hrefilled⟩, hrun⟩
        rw [Bool.not_eq_true] at hgained
        subst hgained
        refine ⟨fun hb => hrefilled.bounded (hB hb) (hbound hb), fun _ => ⟨⟨_, hrun, ?_⟩, ?_⟩⟩
        · exact hrefilled.stuck rfl
        · exact hrefilled.spent rfl hlt
    · rintro s rfl
      exact ⟨hbound, fun hlt => absurd hlt hfull⟩

end Turn

/-! ## 6. Fuel -/

/-- `Open`, as the balanced loop asks for it. -/
def RoundState.isOpen (s : RoundState) (i : Nat) (city : String) : Bool :=
  match (s.lanes i).cityStates city with
  | some st => !st.exhausted
  | none => false

theorem isOpen_iff : s.isOpen i city = true ↔ s.Open i city := by
  unfold RoundState.isOpen RoundState.Open
  cases (s.lanes i).cityStates city <;> simp

theorem activeCities_eq : c.activeCities s i = c.plan.balancedOrder.filter (s.isOpen i) := rfl

theorem activeCities_lt {a : RoundState} (hnarrows : ∀ city, s.Open i city → a.Open i city)
    (hcity : city ∈ c.activeCities a i) (hnot : ¬s.Open i city) :
    (c.activeCities s i).length < (c.activeCities a i).length := by
  have hsub : c.activeCities s i = (c.activeCities a i).filter (s.isOpen i) := by
    rw [activeCities_eq, activeCities_eq, List.filter_filter]
    apply List.filter_congr
    intro city' _
    rw [Bool.eq_iff_iff, Bool.and_eq_true, isOpen_iff, isOpen_iff]
    exact ⟨fun h => ⟨h, hnarrows city' h⟩, And.left⟩
  rw [hsub]
  refine List.length_filter_lt_length_iff_exists.mpr ⟨city, hcity, ?_⟩
  rw [isOpen_iff]
  exact hnot

structure RoundCall.Fueled (c : RoundCall F) (i fuel : Nat) (s : RoundState) : Prop where
  calm : s.Calm fun _ => False
  pos : 0 < fuel
  enough : s.remainingGap ≤ 0 ∨ (c.activeCities s i).length < fuel

theorem fueled_of_calm (h : s.Calm fun _ => False) :
    c.Fueled i (c.plan.balancedOrder.length + 1) s :=
  ⟨h, Nat.succ_pos _, .inr (Nat.lt_succ_of_le (List.length_filter_le ..))⟩

/-! ## 7. What a round raises -/

/-- One of the round's callbacks raises `e`. -/
inductive RoundCall.Raised (c : RoundCall F) (e : RoundError) : Prop where
  | provider (n : Nat) (query : CTSQuery) (h : c.runtime.search n query = .error e)
  | scorer (score : Nat → List ResumeCandidate → Except RoundError (List ScoredCandidate))
      (n : Nat) (candidates : List ResumeCandidate) (hscore : c.scoreForQueryOutcome = some score)
      (h : score n candidates = .error e)
  | recorder (record : Nat → List ProviderReturnedCandidate → Except RoundError Unit) (n : Nat)
      (returned : List ProviderReturnedCandidate)
      (hrecord : c.recordProviderReturnBatch = some record) (h : record n returned = .error e)

/-- An exception that does not say that a loop was cut short, unless a callback raised it. -/
def RoundCall.Genuine (c : RoundCall F) (e : RoundError) : Prop := e = .outOfFuel → c.Raised e

theorem genuine_of_ne {e : RoundError} (h : e ≠ .outOfFuel) : c.Genuine e := fun heq => absurd heq h

section Raises

variable {P : RoundState → Prop}

theorem raises_raiseIfFailed (hrun : d.run = executeSearchTool c.runtime d.call) :
    RaisesOnly P (raiseIfFailed d) c.Genuine := by
  unfold raiseIfFailed
  cases hd : d.run.outcome with
  | ok reason => exact RaisesOnly.pure
  | error e =>
    rw [hrun] at hd
    apply RaisesOnly.throw
    rcases executeSearchTool_error c.runtime d.call hd with ⟨n, query, hs⟩ | ⟨message, rfl⟩
    · exact fun _ => .provider n query hs
    · exact genuine_of_ne (by simp)

theorem raises_flushProviderReturns (d : Dispatch) :
    RaisesOnly P (c.flushProviderReturns d) c.Genuine := by
  unfold RoundCall.flushProviderReturns
  refine RaisesOnly.get.andThen fun a => ?_
  cases hrecord : c.recordProviderReturnBatch with
  | none => exact RaisesOnly.pure
  | some record =>
    refine RaisesOnly.ite (fun _ => RaisesOnly.pure) fun _ => ?_
    cases h : record a.log.length d.run.final.providerReturns with
    | error e => exact RaisesOnly.throw fun _ => .recorder record _ _ hrecord h
    | ok u => exact RaisesOnly.pure

variable [PyFloat F]

theorem raises_registerDispatchOutcome (d : Dispatch) :
    RaisesOnly P (c.registerDispatchOutcome lane d) c.Genuine := by
  unfold RoundCall.registerDispatchOutcome
  refine RaisesOnly.get.andThen fun a => ?_
  cases hscore : c.scoreForQueryOutcome with
  | none => exact RaisesOnly.modify.andThen fun _ => RaisesOnly.pure
  | some score =>
    dsimp only
    cases h : (if d.newCandidates = [] then Except.ok []
        else score a.log.length d.newCandidates) with
    | ok scored => exact RaisesOnly.modify.andThen fun _ => RaisesOnly.pure
    | error e =>
      split at h
      · cases h
      · exact RaisesOnly.throw fun _ => .scorer score _ _ hscore h

theorem raises_dispatchTargets (targets : List (String × Int)) :
    RaisesOnly P (c.dispatchTargets i lane phase targets) c.Genuine := by
  induction targets generalizing P with
  | nil => exact RaisesOnly.pure
  | cons target rest ih =>
    obtain ⟨city, m⟩ := target
    unfold RoundCall.dispatchTargets
    refine RaisesOnly.get.andThen fun a => ?_
    cases (a.lanes i).cityStates city with
    | none => exact RaisesOnly.throw (genuine_of_ne (by simp))
    | some st =>
      refine RaisesOnly.modify.andThen fun _ => ?_
      refine (raises_raiseIfFailed rfl).andThen fun _ => ?_
      refine (raises_flushProviderReturns _).andThen fun _ => ?_
      refine (raises_registerDispatchOutcome _).andThen fun outcome => ?_
      exact RaisesOnly.ite (fun _ => ih) fun _ => RaisesOnly.pure

theorem raises_runDispatches (targets : List (String × Int)) :
    RaisesOnly P (c.runDispatches i lane phase targets) c.Genuine := by
  unfold RoundCall.runDispatches
  exact RaisesOnly.ite (fun _ => RaisesOnly.pure)
    fun _ => RaisesOnly.modify.andThen fun _ => raises_dispatchTargets targets

theorem raises_priorityLoop (cities : List String) :
    RaisesOnly P (c.priorityLoop i lane cities) c.Genuine := by
  induction cities generalizing P with
  | nil => exact RaisesOnly.pure
  | cons city rest ih =>
    unfold RoundCall.priorityLoop
    refine RaisesOnly.get.andThen fun a => RaisesOnly.ite (fun _ => RaisesOnly.pure) fun _ => ?_
    refine (raises_runDispatches _).andThen fun stop => ?_
    exact RaisesOnly.ite (fun _ => RaisesOnly.pure) fun _ => ih

/-- **The balanced loop ends**: a batch that leaves a gap exhausts a city. -/
theorem raises_balancedLoop (fuel : Nat) :
    RaisesOnly (c.Fueled i fuel) (c.balancedLoop i lane fuel) c.Genuine := by
  induction fuel with
  | zero => exact fun s hs => absurd hs.pos (Nat.lt_irrefl 0)
  | succ fuel ih =>
    unfold RoundCall.balancedLoop
    refine RaisesOnly.getThen fun a hfueled => ?_
    refine RaisesOnly.ite (fun _ => RaisesOnly.pure) fun hgap => ?_
    refine RaisesOnly.ite (fun _ => RaisesOnly.pure) fun htargets => ?_
    have hbatch : Follows (RoundState.Within i) _ (c.runDispatches i lane .balanced _) _ :=
      follows_runDispatches_gap (T := fun _ => False) (fun _ h => h.elim)
        (allocateBalancedCityTargets (c.activeCities a i) a.remainingGap)
        (fun t ht => (mem_allocateBalancedCityTargets ht).2) a.remainingGap
    have hbatch := hbatch.frame
      (I := fun s => ∀ city, s.Open i city → a.Open i city)
      (fun s s' hwithin hs city hopen => hs city (hwithin.narrows city hopen))
    have hactive : c.activeCities a i ≠ [] := by
      intro hnil
      apply htargets
      rw [hnil]
      unfold allocateBalancedCityTargets
      simp
    have hpos : 0 < (c.activeCities a i).length := List.length_pos_iff.mpr hactive
    refine RaisesOnly.bind (raises_runDispatches _) (hbatch.conseq ?_ fun _ _ h => h) fun stop => ?_
    · rintro s rfl
      exact ⟨⟨rfl, hfueled.calm⟩, fun _ h => h⟩
    refine RaisesOnly.ite (fun _ => RaisesOnly.pure) fun hstop => ih.conseq ?_
    rintro s ⟨hbatched, hnarrows⟩
    have henough := hfueled.enough.resolve_left hgap
    refine ⟨hbatched.calm, by omega, ?_⟩
    rcases hbatched.closed (eq_false_of_ne_true hstop) with hle | ⟨t, ht, hnot⟩
    · rw [sum_allocateBalancedCityTargets hactive (lt_of_not_ge hgap)] at hle
      exact .inl (by omega)
    · have hlt := activeCities_lt hnarrows (mem_allocateBalancedCityTargets ht).1 hnot
      exact .inr (by omega)

theorem raises_searchCities (hn : 0 < n) :
    RaisesOnly (fun s => s.remainingGap = n ∧ s.Calm fun _ => False) (c.searchCities i lane n)
      c.Genuine := by
  unfold RoundCall.searchCities
  cases c.plan.mode with
  | none =>
    unfold RoundCall.plainDispatch
    refine RaisesOnly.modify.andThen fun _ => RaisesOnly.get.andThen fun a => ?_
    refine RaisesOnly.modify.andThen fun _ => ?_
    refine (raises_raiseIfFailed rfl).andThen fun _ => ?_
    refine (raises_flushProviderReturns _).andThen fun _ => ?_
    exact (raises_registerDispatchOutcome _).andThen fun outcome => RaisesOnly.pure
  | single =>
    cases c.plan.allowedLocations with
    | nil => exact RaisesOnly.throw (genuine_of_ne (by simp))
    | cons city rest => exact (raises_runDispatches _).andThen fun _ => RaisesOnly.pure
  | priorityThenFallback =>
    have hpriority : Follows (RoundState.Within i) _ (c.priorityLoop i lane _) _ :=
      follows_priorityLoop_gap (T := fun _ => False) (fun _ h => h.elim) c.plan.priorityOrder
    refine RaisesOnly.bind (raises_priorityLoop _) (hpriority.conseq ?_ fun _ _ h => h) fun stop => ?_
    · exact fun s hs => ⟨hs.2, fun _ => by omega⟩
    · exact RaisesOnly.ite (fun _ => RaisesOnly.pure)
        fun _ => (raises_balancedLoop _).conseq fun s hs => fueled_of_calm hs.calm
  | balancedAll => exact (raises_balancedLoop _).conseq fun s hs => fueled_of_calm hs.2

theorem raises_collect : RaisesOnly P (c.collectCandidatesForQuery i lane n) c.Genuine := by
  unfold RoundCall.collectCandidatesForQuery
  refine RaisesOnly.get.andThen fun a => ?_
  refine RaisesOnly.ite (fun _ => RaisesOnly.pure) fun hgo => ?_
  rw [not_or, not_le] at hgo
  have hbegin : Follows (fun _ _ => True) (fun _ => True)
      (modify fun s => s.beginPass i n : RoundM Unit)
      (fun _ s => s.remainingGap = n ∧ s.Calm fun _ => False) := by
    refine Follows.modify (fun _ _ => trivial) fun s _ => ⟨?_, fun _ => ⟨fun t ht => ht.elim, ?_⟩⟩
    · simp [RoundState.remainingGap, RoundState.beginPass]
    · simp [RoundState.beginPass]
  refine RaisesOnly.bind RaisesOnly.modify hbegin fun _ => ?_
  exact (raises_searchCities hgo.1).andThen fun _ => RaisesOnly.modify

theorem raises_initialPass (targets : LaneType → Int) (lanes : List (LogicalQuery × Nat)) :
    RaisesOnly P (c.initialPass targets lanes) c.Genuine := by
  induction lanes generalizing P with
  | nil => exact RaisesOnly.pure
  | cons l rest ih => exact raises_collect.andThen fun _ => ih

theorem raises_refillPass (lanes : List (LogicalQuery × Nat)) :
    RaisesOnly P (c.refillPass lanes) c.Genuine := by
  induction lanes generalizing P with
  | nil => exact RaisesOnly.pure
  | cons l rest ih =>
    unfold RoundCall.refillPass
    refine RaisesOnly.get.andThen fun a => RaisesOnly.ite (fun _ => RaisesOnly.pure) fun _ => ?_
    refine RaisesOnly.ite (fun _ => ?_) fun _ => ih
    refine raises_collect.andThen fun _ => RaisesOnly.get.andThen fun a' => ?_
    exact ih.andThen fun _ => RaisesOnly.pure

/-- **The refill loop ends**: a turn that is followed by another gains a candidate. -/
theorem raises_refillLoop (fuel : Nat) :
    RaisesOnly (fun s => c.Settled s ∧ 0 < fuel ∧
      c.targetNew - s.allNewCandidates.length < fuel) (c.refillLoop fuel) c.Genuine := by
  induction fuel with
  | zero => exact fun s hs => absurd hs.2.1 (Nat.lt_irrefl 0)
  | succ fuel ih =>
    unfold RoundCall.refillLoop
    refine RaisesOnly.getThen fun a ha => ?_
    obtain ⟨hsettled, -, hfuel⟩ := ha
    refine RaisesOnly.ite (fun hlt => ?_) fun _ => RaisesOnly.pure
    refine RaisesOnly.bind (raises_refillPass _)
      (follows_refillPass_spec _ (mem_zipIdx_queryStates c) hsettled) fun gained => ?_
    refine RaisesOnly.ite (fun hgained => ih.conseq ?_) fun _ => RaisesOnly.pure
    rintro s ⟨hs, hrefilled⟩
    have hgains := hrefilled.gains hgained
    push_cast at hfuel
    exact ⟨hs, by omega, by omega⟩

/-- **A round ends.** It may return or raise, but none of its loops is cut short. -/
theorem RoundCall.outcome_genuine (c : RoundCall F) {e : RoundError}
    (h : c.outcome.1 = .error e) : c.Genuine e := by
  have hround : RaisesOnly (fun s => c.initial = s) c.executeRoundSearch c.Genuine := by
    unfold RoundCall.executeRoundSearch RoundCall.searchRound
    refine RaisesOnly.andThen (RaisesOnly.bind (raises_initialPass _ _)
      ((follows_initialPass_bound _ _ (mem_zipIdx_queryStates c) 0).conseq ?_ fun _ _ h => h.1)
      fun _ => (raises_refillLoop _).conseq ?_) fun _ => ?_
    · rintro s rfl
      exact ⟨⟨c.initial_idle, fun _ _ => rfl⟩, fun _ => le_rfl⟩
    · exact fun s hs => ⟨hs, Nat.succ_pos _, by push_cast; omega⟩
    · exact RaisesOnly.get.andThen fun _ => RaisesOnly.pure
  exact hround c.initial rfl e h

end Raises

end SeekTalent

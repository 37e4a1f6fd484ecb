import SeekTalent.Retrieval.Coverage

/-!
# Exhausted cities

A search that ends short of its target marks its city exhausted. The balanced loop asks
that flag before it allots a city a share; the priority loop does not, so a refill pass
searches an exhausted priority city again, and a city that stands twice in one batch is
searched again in it. `noFetchAfterExhaustion_iff` says that there is no other way.
-/

namespace SeekTalent

variable {F : Type}

/-- Once a lane's city is marked exhausted, no request is made for it. -/
def NoFetchAfterExhaustion (searches : List Dispatch) : Prop :=
  ∀ d ∈ searches, d.city.isSome → d.wasExhausted = true → d.run.final.fetches = []

/-- The search is one that is started without a look at the flag: in the priority phase, or
    the second of its batch for this city. -/
def Dispatch.Unguarded (before : List Dispatch) (d : Dispatch) : Prop :=
  d.call.phase = some .priority ∨
    ∃ d' ∈ before, d'.call.batchNo = d.call.batchNo ∧ d'.city = d.city

/-- Wherever the priority loop, or a batch that names a city twice, comes to an exhausted
    city, its pages are used up. -/
def RevisitsOnlyPastLimit (maxPages : Nat) (searches : List Dispatch) : Prop :=
  ∀ before d after, searches = before ++ d :: after → d.city.isSome →
    d.wasExhausted = true → d.Unguarded before → maxPages < d.call.firstPage

/-! ## 1. Where exhausted cities are searched -/

/-- Every search of an exhausted city is one of the unguarded ones. -/
def RevisitsUnguarded (searches : List Dispatch) : Prop :=
  ∀ before d after, searches = before ++ d :: after → d.city.isSome →
    d.wasExhausted = true → d.Unguarded before

theorem RevisitsUnguarded.append {searches : List Dispatch} (h : RevisitsUnguarded searches)
    {d : Dispatch} (hd : d.city.isSome → d.wasExhausted = true → d.Unguarded searches) :
    RevisitsUnguarded (searches ++ [d]) := by
  intro before e after heq
  rcases List.eq_nil_or_concat after with rfl | ⟨after', last, rfl⟩
  · obtain ⟨rfl, hde⟩ := List.append_inj' heq rfl
    cases hde
    exact hd
  · rw [List.concat_eq_append, ← List.cons_append, ← List.append_assoc] at heq
    exact h before e after' (List.append_inj' heq rfl).1

structure RoundCall.Tracked (c : RoundCall F) (s : RoundState) : Prop where
  revisits : RevisitsUnguarded s.log
  /-- A city that became exhausted since the batch began was searched in it. -/
  batch : ∀ city st₀ st, s.pass.batchStart city = some st₀ → st₀.exhausted = false →
    (s.lanes s.pass.lane).cityStates city = some st → st.exhausted = true →
    ∃ d ∈ s.log, d.call.batchNo = s.batchNo ∧ d.city = some city
  /-- A `single` plan's city is exhausted only with its lane, or in the pass that is about
      to exhaust it. -/
  single : c.plan.mode = .single → ∀ i city st, c.plan.allowedLocations.head? = some city →
    (s.lanes i).cityStates city = some st → st.exhausted = true →
    (s.lanes i).exhausted = true ∨
    (s.pass.lane = i ∧ (s.pass.localNewCandidates.length : Int) < s.pass.requestedCount ∧
      ∃ summary, s.pass.localCitySummaries.getLast? = some summary ∧
        summary.exhaustedReason ≠ .targetSatisfied)

theorem RoundCall.tracked_initial (c : RoundCall F) : c.Tracked c.initial := by
  constructor
  · intro before d after h
    simp [RoundCall.initial] at h
  · intro city st₀ st h
    simp [RoundCall.initial] at h
  · intro _ i city st _ hst hex
    simp only [RoundCall.initial] at hst
    split at hst
    · cases hst
      cases hex
    · cases hst

theorem RoundCall.Tracked.unguarded {c : RoundCall F} {s : RoundState} (h : c.Tracked s)
    {i : Nat} (lane : LogicalQuery) {city : String} {phase : LocationExecutionPhase}
    {st : CityExecutionState} {n : Int} (hlane : s.pass.lane = i)
    (hst : (s.lanes i).cityStates city = some st)
    (hready : c.Ready s.pass.batchStart phase [(city, n)] s) (hex : st.exhausted = true) :
    (c.dispatchOf s i lane (some city) (some phase) st.nextPage st.exhausted n).Unguarded
      s.log := by
  subst hlane
  cases phase with
  | priority => exact .inl rfl
  | balanced =>
    rcases hready.balanced rfl with ⟨-, hopen⟩ | ⟨hmode, hsingle⟩
    · obtain ⟨st₀, hst₀, hopen⟩ := hopen (city, n) (List.mem_singleton_self _)
      exact .inr (h.batch city st₀ st hst₀ hopen hst hex)
    · -- the lane is not exhausted and its pass has found nothing yet: the city is open
      obtain ⟨-, hcity, -, -, hsum, hopen⟩ := hsingle (city, n) (List.mem_singleton_self _)
      rcases h.single hmode s.pass.lane city st hcity hst hex with hlex | ⟨-, -, sum, hlast, -⟩
      · rw [hopen] at hlex
        cases hlex
      · rw [hsum] at hlast
        cases hlast

theorem RoundCall.Tracked.city {c : RoundCall F} {s : RoundState} (h : c.Tracked s)
    {i : Nat} {lane : LogicalQuery} {city : String} {phase : LocationExecutionPhase}
    {st : CityExecutionState} {n : Int} (hlane : s.pass.lane = i)
    (hst : (s.lanes i).cityStates city = some st)
    (hready : c.Ready s.pass.batchStart phase [(city, n)] s) :
    c.Tracked (s.afterCity
      (c.dispatchOf s i lane (some city) (some phase) st.nextPage st.exhausted n)
      i lane city phase st) := by
  have hpos : 0 < n := hready.positive (city, n) (List.mem_singleton_self _)
  have hunguarded := fun hex => h.unguarded lane hlane hst hready hex
  set d := c.dispatchOf s i lane (some city) (some phase) st.nextPage st.exhausted n with hd
  have hrevisits : RevisitsUnguarded (s.log ++ [d]) :=
    h.revisits.append fun _ hex => hunguarded hex
  unfold RoundState.afterCity
  cases hout : d.run.outcome with
  | error e =>
    refine ⟨hrevisits, ?_, h.single⟩
    intro city' st₀ st' h₀ hopen hst' hex
    obtain ⟨d', hd', hsame⟩ := h.batch city' st₀ st' h₀ hopen hst' hex
    exact ⟨d', List.mem_append_left _ hd', hsame⟩
  | ok reason =>
    dsimp only
    refine ⟨hrevisits, ?_, ?_⟩
    · intro city' st₀ st' h₀ hopen hst' hex
      by_cases hc : city' = city
      · subst hc
        exact ⟨d, List.mem_append_right _ (List.mem_singleton_self d), rfl, rfl⟩
      · subst hlane
        simp only [Function.update_self, Function.update_of_ne hc] at hst'
        obtain ⟨d', hd', hsame⟩ := h.batch city' st₀ st' h₀ hopen hst' hex
        exact ⟨d', List.mem_append_left _ hd', hsame⟩
    · intro hmode j city' st' hhead hst' hex
      subst hlane
      by_cases hj : j = s.pass.lane
      · subst hj
        simp only [Function.update_self] at hst' ⊢
        -- a `single` plan searches in the balanced phase only
        have hphase : phase = .balanced := by
          cases phase with
          | balanced => rfl
          | priority => rw [hready.priority rfl] at hmode; cases hmode
        rcases hready.balanced hphase with ⟨hno, -⟩ | ⟨-, hsingle⟩
        · exact absurd hmode hno
        obtain ⟨-, hcity, hn, hnew, hsum, hopen⟩ :=
          hsingle (city, n) (List.mem_singleton_self _)
        rw [hcity] at hhead
        cases hhead
        rw [Function.update_self] at hst'
        cases hst'
        have hst_open : st.exhausted = false := by
          by_contra hst_ex
          rcases h.single hmode s.pass.lane city st hcity hst (by simpa using hst_ex) with
            hlex | ⟨-, -, sum, hlast, -⟩
          · rw [hopen] at hlex
            cases hlex
          · rw [hsum] at hlast
            cases hlast
        simp only [CityExecutionState.after, hst_open, Bool.false_or, decide_eq_true_eq] at hex
        have hshort := (executeSearchTool_targetSatisfied_iff c.runtime d.call hpos hout).not.mp hex
        refine .inr ⟨trivial, ?_, ?_⟩
        · rw [hnew, List.nil_append]
          have : s.pass.requestedCount = n := hn.symm
          rw [this]
          exact not_le.mp hshort
        · rw [hsum, List.nil_append, List.getLast?_singleton]
          exact ⟨_, rfl, hex⟩
      · simp only [Function.update_of_ne hj] at hst' ⊢
        rcases h.single hmode j city' st' hhead hst' hex with hlex | ⟨hlane, -⟩
        · exact .inl hlex
        · exact absurd hlane.symm hj

theorem finalExhaustedReason_ne_targetSatisfied {target : Int} {newCount : Nat}
    {summaries : List CitySearchSummary} {summary : CitySearchSummary}
    (hshort : (newCount : Int) < target) (hlast : summaries.getLast? = some summary)
    (hreason : summary.exhaustedReason ≠ .targetSatisfied) :
    finalExhaustedReason target newCount summaries ≠ .targetSatisfied := by
  unfold finalExhaustedReason
  rw [if_neg (not_le.mpr hshort), hlast]
  exact hreason

/-- The end of a pass exhausts the lane of a `single` plan together with its city. -/
theorem RoundCall.Tracked.endPass {c : RoundCall F} {s : RoundState} (h : c.Tracked s)
    {i : Nat} (hlane : s.pass.lane = i) : c.Tracked (c.endPass i s) := by
  subst hlane
  unfold RoundCall.endPass
  by_cases hnone : c.plan.mode = .none
  · rw [if_pos hnone]
    exact ⟨h.revisits, h.batch, fun hmode => by rw [hnone] at hmode; cases hmode⟩
  rw [if_neg hnone]
  refine ⟨h.revisits, ?_, ?_⟩
  · intro city st₀ st h₀ hopen hst hex
    refine h.batch city st₀ st h₀ hopen ?_ hex
    simpa [RoundState.finishPass, RoundState.settleCities] using hst
  · intro hmode j city st hhead hst hex
    refine .inl ?_
    simp only [RoundState.finishPass, RoundState.settleCities] at hst ⊢
    by_cases hj : j = s.pass.lane
    · subst hj
      simp only [Function.update_self] at hst ⊢
      rcases h.single hmode _ city st hhead hst hex with hlex | ⟨-, hshort, sum, hlast, hr⟩
      · rw [hlex, Bool.true_or]
      · rw [decide_eq_true (finalExhaustedReason_ne_targetSatisfied hshort hlast hr),
          Bool.or_true]
    · simp only [Function.update_of_ne hj] at hst ⊢
      rcases h.single hmode j city st hhead hst hex with hlex | ⟨hlane, -⟩
      · exact hlex
      · exact absurd hlane.symm hj

theorem RoundCall.Tracked.step {c : RoundCall F} {s s' : RoundState} (hstep : c.Step s s')
    (h : c.Tracked s) : c.Tracked s' := by
  cases hstep with
  | beginPass lane_eq pos open_ idle no_summaries =>
    refine ⟨h.revisits, fun city st₀ st h₀ => absurd h₀ (by simp [RoundState.beginPass]), ?_⟩
    intro hmode j city st hhead hst hex
    rcases h.single hmode j city st hhead hst hex with hlex | ⟨-, -, sum, hlast, -⟩
    · exact .inl hlex
    · rw [no_summaries] at hlast
      cases hlast
  | startBatch lane_eq =>
    subst lane_eq
    refine ⟨h.revisits, ?_, h.single⟩
    intro city st₀ st h₀ hopen hst hex
    have hsame : some st₀ = some st := h₀.symm.trans hst
    cases hsame
    rw [hopen] at hex
    cases hex
  | city lane_eq pass_lane state_eq ready returned => exact h.city pass_lane state_eq ready
  | @plain i lane n lane_eq pass_lane pos mode_eq returned =>
    have hkept : ∀ j city, ((s.afterPlain (c.dispatchOf s i lane none none (s.lanes i).nextPage
        (s.lanes i).exhausted n) i).lanes j).cityStates city = (s.lanes j).cityStates city := by
      intro j city
      unfold RoundState.afterPlain
      split
      · rfl
      · by_cases hj : j = i
        · subst hj
          simp [LaneProgress.after]
        · simp [Function.update_of_ne hj]
    obtain ⟨hlog, -, -⟩ := s.afterPlain_kept
      (c.dispatchOf s i lane none none (s.lanes i).nextPage (s.lanes i).exhausted n) i
    refine ⟨?_, ?_, fun hmode => by rw [mode_eq] at hmode; cases hmode⟩
    · rw [hlog]
      exact h.revisits.append fun hcity => by cases hcity
    · intro city st₀ st h₀ hopen hst hex
      rw [hkept] at hst
      rw [hlog]
      have hpass : (s.afterPlain (c.dispatchOf s i lane none none (s.lanes i).nextPage
          (s.lanes i).exhausted n) i).pass.batchStart = s.pass.batchStart ∧
          (s.afterPlain (c.dispatchOf s i lane none none (s.lanes i).nextPage
          (s.lanes i).exhausted n) i).pass.lane = s.pass.lane ∧
          (s.afterPlain (c.dispatchOf s i lane none none (s.lanes i).nextPage
          (s.lanes i).exhausted n) i).batchNo = s.batchNo := by
        unfold RoundState.afterPlain
        split <;> exact ⟨rfl, rfl, rfl⟩
      rw [hpass.1] at h₀
      rw [hpass.2.1] at hst
      rw [hpass.2.2]
      obtain ⟨d', hd', hsame⟩ := h.batch city st₀ st h₀ hopen hst hex
      exact ⟨d', List.mem_append_left _ hd', hsame⟩
  | recordOutcome => exact ⟨h.revisits, h.batch, h.single⟩
  | endPass lane_eq => exact h.endPass lane_eq

/-! ## 2. When nothing more is fetched -/

/-- **No request is made for an exhausted city exactly when the priority loop and batches
    that repeat a city come to one only past the page limit.** -/
theorem noFetchAfterExhaustion_iff [PyFloat F] (c : RoundCall F) :
    NoFetchAfterExhaustion c.searches ↔
      RevisitsOnlyPastLimit c.runtime.settings.searchMaxPagesPerRound c.searches := by
  have htracked := RoundCall.outcome_induction c.tracked_initial fun _ _ hstep hi => hi.step hstep
  constructor
  · intro h before d after heq hcity hex _
    have hd : d ∈ c.searches := by
      rw [heq]
      exact List.mem_append_right _ List.mem_cons_self
    by_contra hle
    have hnil := h d hd hcity hex
    rw [(c.made d hd).run_eq] at hnil
    exact executeSearchTool_fetches_ne_nil (not_lt.mp hle) (c.made d hd).target_pos hnil
  · intro h d hd hcity hex
    obtain ⟨before, after, heq⟩ := List.append_of_mem hd
    have hlimit := h before d after heq hcity hex
      (htracked.revisits before d after heq hcity hex)
    rw [(c.made d hd).run_eq]
    exact executeSearchTool_fetches_eq_nil _ _ (.inl hlimit)

/-! ## 3. A priority city searched again -/

def oneForTheFirstLane : ResultLists := fun lane city =>
  if lane.laneType = .exploit then [sampleCandidate (city.getD "")] else []

/-- Beijing comes first and runs dry, Shanghai fills the lane's target of two; the other
    lane finds nothing, and the refill pass goes to Beijing again. -/
def priorityCityRefilled : RoundCall Rat :=
  { runtime := sliceRuntime oneForTheFirstLane
    plan := buildLocationExecutionPlan ["Beijing", "Shanghai"] ["Beijing"] 1 3
    queryStates := [sampleLane .exploit "go", sampleLane .genericExplore "rust"]
    targetNew := 3
    thresholds := .default }

theorem priorityCityRefilled_fetches :
    ¬∀ c : RoundCall Rat, NoFetchAfterExhaustion c.searches := by
  intro h
  have hfetch : ∃ d ∈ priorityCityRefilled.searches,
      d.city.isSome ∧ d.wasExhausted = true ∧ d.run.final.fetches.length ≠ 0 := by decide
  obtain ⟨d, hd, hcity, hex, hlength⟩ := hfetch
  exact hlength (by rw [h priorityCityRefilled d hd hcity hex]; rfl)

end SeekTalent

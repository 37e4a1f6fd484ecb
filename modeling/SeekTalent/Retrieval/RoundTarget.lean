import Mathlib.Algebra.BigOperators.Group.List.Lemmas
import SeekTalent.Retrieval.Coverage
import SeekTalent.Retrieval.RoundPasses

/-!
# The target of a round

A round's target is split over its lanes by lane type. Where no two lanes have one type, the
shares make up the target and nothing is collected beyond it; a lane type that stands twice is
given its share twice. A round ends short of its target only when the lanes are spent.
-/

namespace SeekTalent

open Stateful

variable {F : Type} [PyFloat F]

def RoundCall.LanesDiffer (c : RoundCall F) : Prop := (c.queryStates.map (·.laneType)).Nodup

/-- The initial targets of the lanes make up the target. -/
def RoundCall.SplitsTarget (c : RoundCall F) : Prop :=
  (c.queryStates.map fun lane =>
    allocateInitialLaneTargets F c.laneOrder c.queryStates c.targetNew lane.laneType).sum =
      max c.targetNew 0

/-- A round that returns has no more new candidates than it was asked for. -/
def RoundCall.StaysWithinTarget (c : RoundCall F) : Prop :=
  ∀ result, c.outcome.1 = .ok result → (result.newCandidates.length : Int) ≤ max c.targetNew 0

/-- A round that returns short of its target has ended with a turn over all lanes that gained
    nothing, and every lane is exhausted or blocked by its latest outcome. -/
def RoundCall.StopsOnlySpent (c : RoundCall F) : Prop :=
  ∀ result, c.outcome.1 = .ok result → (result.newCandidates.length : Int) < c.targetNew →
    c.EndsStuck c.outcome.2 ∧ ∀ lane ∈ c.queryStates.zipIdx, c.outcome.2.Spent lane

/-! ## 1. The shares -/

theorem sum_single {types : List LaneType} (hnodup : types.Nodup) (a : LaneType) (x : Int) :
    (types.map fun t => if t = a then x else 0).sum = if a ∈ types then x else 0 := by
  induction types with
  | nil => simp
  | cons t ts ih =>
    obtain ⟨hfresh, hts⟩ := List.nodup_cons.mp hnodup
    rw [List.map_cons, List.sum_cons, ih hts]
    by_cases ht : t = a
    · subst ht
      simp [hfresh]
    · simp [ht, Ne.symm ht]

theorem sum_laneTargets {types : List LaneType} (hnodup : types.Nodup) {a b : LaneType}
    (ha : a ∈ types) (hb : b ∈ types) (hne : a ≠ b) (x y : Int) :
    (types.map (laneTargets a x b y)).sum = x + y := by
  have hsplit : laneTargets a x b y =
      fun t => (if t = a then x else 0) + (if t = b then y else 0) := by
    funext t
    unfold laneTargets
    by_cases hta : t = a
    · subst hta
      simp [hne]
    · by_cases htb : t = b
      · subst htb
        simp [hta]
      · simp [hta, htb]
  rw [hsplit, List.sum_map_add, sum_single hnodup, sum_single hnodup, if_pos ha, if_pos hb]

theorem laneTargets_nonneg {a b : LaneType} {x y : Int} (hx : 0 ≤ x) (hy : 0 ≤ y)
    (t : LaneType) : 0 ≤ laneTargets a x b y t := by
  unfold laneTargets
  by_cases htb : t = b
  · subst htb
    simpa using hy
  · by_cases hta : t = a
    · subst hta
      simpa [htb] using hx
    · simp [htb, hta]

theorem allocateInitialLaneTargets_pair {laneOrder : List LaneType → List LaneType}
    (hmem : ∀ l x, x ∈ laneOrder l ↔ x ∈ l) (first second : LogicalQuery)
    (rest : List LogicalQuery)
    (hdiffer : ((first :: second :: rest).map (·.laneType)).Nodup) (n : Int) :
    ∃ a b x y, a ∈ (first :: second :: rest).map (·.laneType) ∧
      b ∈ (first :: second :: rest).map (·.laneType) ∧ a ≠ b ∧ 0 ≤ x ∧ 0 ≤ y ∧
      x + y = max n 0 ∧
      allocateInitialLaneTargets F laneOrder (first :: second :: rest) n = laneTargets a x b y := by
  have hfirst : first.laneType ≠ second.laneType := by
    simp only [List.map_cons, List.nodup_cons, List.mem_cons, not_or] at hdiffer
    exact hdiffer.1.1
  unfold allocateInitialLaneTargets
  dsimp only
  rw [hdiffer.dedup]
  split
  · -- no exploit lane: the first two lanes share the target
    refine ⟨first.laneType, second.laneType, ?_⟩
    split
    · exact ⟨_, _, by simp, by simp, hfirst, le_max_right _ _, le_rfl, by simp, rfl⟩
    · refine ⟨_, _, by simp, by simp, hfirst, ?_, ?_, ?_, rfl⟩
      all_goals first | (split <;> omega) | omega
  · rename_i hexploit
    rw [not_not] at hexploit
    -- some lane is not the exploit lane
    have hother : ∃ t ∈ laneOrder ((first :: second :: rest).map (·.laneType)), t ≠ .exploit := by
      by_cases hf : first.laneType = .exploit
      · exact ⟨second.laneType, (hmem _ _).mpr (by simp), hf ▸ hfirst.symm⟩
      · exact ⟨first.laneType, (hmem _ _).mpr (by simp), hf⟩
    obtain ⟨t, ht, hne⟩ := hother
    cases hfind : (laneOrder ((first :: second :: rest).map (·.laneType))).find?
        (· ≠ .exploit) with
    | none =>
      have := List.find?_eq_none.mp hfind t ht
      simp [hne] at this
    | some secondLaneType =>
      have hsecond : secondLaneType ≠ .exploit := by simpa using List.find?_some hfind
      have hmem' := (hmem _ _).mp (List.mem_of_find?_eq_some hfind)
      rw [Option.getD_some]
      refine ⟨.exploit, secondLaneType, ?_⟩
      split
      · exact ⟨_, _, hexploit, hmem', hsecond.symm, le_max_right _ _, le_rfl, by simp, rfl⟩
      · refine ⟨_, _, hexploit, hmem', hsecond.symm, ?_, ?_, ?_, rfl⟩
        all_goals first | (split <;> omega) | omega

theorem splitsTarget_of_differ {c : RoundCall F} (hdiffer : c.LanesDiffer)
    (hne : c.queryStates ≠ []) : c.SplitsTarget := by
  unfold RoundCall.LanesDiffer at hdiffer
  unfold RoundCall.SplitsTarget
  have hmem := c.mem_laneOrder
  generalize c.queryStates = lanes at hdiffer hne ⊢
  match lanes with
  | [] => exact absurd rfl hne
  | [only] => simp [allocateInitialLaneTargets]
  | first :: second :: rest =>
    obtain ⟨a, b, x, y, ha, hb, hab, -, -, hsum, heq⟩ :=
      allocateInitialLaneTargets_pair (F := F) hmem first second rest hdiffer c.targetNew
    have hshares := sum_laneTargets hdiffer ha hb hab x y
    rw [List.map_map] at hshares
    rw [heq, ← hsum, ← hshares]
    rfl

theorem sum_shares_le {c : RoundCall F} (hdiffer : c.LanesDiffer) :
    (c.queryStates.zipIdx.map fun l => max (allocateInitialLaneTargets F c.laneOrder
      c.queryStates c.targetNew l.1.laneType) 0).sum ≤ max c.targetNew 0 := by
  by_cases hne : c.queryStates = []
  · rw [hne]
    exact le_max_right _ _
  · have hsplit := splitsTarget_of_differ hdiffer hne
    have hnonneg : ∀ t, 0 ≤ allocateInitialLaneTargets F c.laneOrder c.queryStates c.targetNew t := by
      unfold RoundCall.LanesDiffer at hdiffer
      have hmem := c.mem_laneOrder
      clear hsplit
      generalize c.queryStates = lanes at hdiffer hne ⊢
      intro t
      match lanes with
      | [] => exact absurd rfl hne
      | [only] =>
        unfold allocateInitialLaneTargets
        by_cases ht : t = only.laneType
        · subst ht
          simp
        · simp [ht]
      | first :: second :: rest =>
        obtain ⟨a, b, x, y, -, -, -, hx, hy, -, heq⟩ :=
          allocateInitialLaneTargets_pair (F := F) hmem first second rest hdiffer c.targetNew
        rw [heq]
        exact laneTargets_nonneg hx hy t
    unfold RoundCall.SplitsTarget at hsplit
    generalize allocateInitialLaneTargets F c.laneOrder c.queryStates c.targetNew = targets
      at hsplit hnonneg ⊢
    have hfst : (c.queryStates.zipIdx.map fun l => max (targets l.1.laneType) 0) =
        c.queryStates.map fun lane => targets lane.laneType := by
      conv_rhs => rw [← List.zipIdx_map_fst 0 c.queryStates, List.map_map]
      apply List.map_congr_left
      intro l _
      exact max_eq_left (hnonneg _)
    rw [hfst]
    exact hsplit.le

/-! ## 2. The round -/

structure RoundCall.Filled (c : RoundCall F) (s : RoundState) : Prop where
  bounded : c.LanesDiffer ∧ c.runtime.PageBounded →
    (s.allNewCandidates.length : Int) ≤ max c.targetNew 0
  spent : (s.allNewCandidates.length : Int) < c.targetNew →
    c.EndsStuck s ∧ ∀ l ∈ c.queryStates.zipIdx, s.Spent l

theorem follows_executeRoundSearch_spec (c : RoundCall F) :
    Follows c.Step (fun s => c.initial = s) c.executeRoundSearch (fun result s =>
      result.newCandidates = s.allNewCandidates ∧ c.Filled s) := by
  unfold RoundCall.executeRoundSearch
  refine Follows.bind (Q := fun _ s => c.Filled s) ?_
    fun _ => Follows.get.bind fun a => Follows.pure ?_
  rotate_left
  · rintro s ⟨rfl, hs⟩
    exact ⟨rfl, hs⟩
  unfold RoundCall.searchRound
  have hfirst := (follows_initialPass_bound (allocateInitialLaneTargets F c.laneOrder
    c.queryStates c.targetNew) c.queryStates.zipIdx (mem_zipIdx_queryStates c) 0).pre
    (S := fun s => c.initial = s) ?_
  · refine hfirst.bind fun _ => ?_
    refine (follows_refillLoop_spec (B := c.LanesDiffer ∧ c.runtime.PageBounded) And.right
      _).conseq ?_ fun _ _ h => ⟨h.1, h.2⟩
    rintro s ⟨hsettled, hbound⟩
    refine ⟨hsettled, fun hb => ?_⟩
    have hcount := hbound hb.2
    have hshares := sum_shares_le hb.1
    omega
  · rintro s rfl
    exact ⟨⟨c.initial_idle, fun _ _ => rfl⟩, fun _ => le_rfl⟩

/-- **With a provider that returns no more than a page**, a round of lanes of different types
    stays within its target, which their shares make up; and no round ends short of its target
    before its lanes are spent. -/
theorem roundTarget_spec (c : RoundCall F) (hpage : c.runtime.PageBounded) :
    (c.LanesDiffer → c.StaysWithinTarget) ∧
    (c.LanesDiffer → c.queryStates ≠ [] → c.SplitsTarget) ∧ c.StopsOnlySpent := by
  have hround := follows_executeRoundSearch_spec c c.initial rfl
  refine ⟨fun hdiffer result hok => ?_, splitsTarget_of_differ, fun result hok hshort => ?_⟩
  · obtain ⟨hnew, hfilled⟩ := hround.2 result hok
    rw [hnew]
    exact hfilled.bounded ⟨hdiffer, hpage⟩
  · obtain ⟨hnew, hfilled⟩ := hround.2 result hok
    rw [hnew] at hshort
    exact hfilled.spent hshort

/-! ## 3. A lane type that stands twice -/

theorem sliceRuntime_pageBounded (results : ResultLists) : (sliceRuntime results).PageBounded := by
  intro n query result hpos h
  cases h
  have htake : (sliceSearch results query).candidates.length ≤ query.pageSize.toNat :=
    List.length_take_le _ _
  omega

def ownCandidates : ResultLists := fun lane _ => [sampleCandidate lane.keywordQuery]

def repeatedLaneType : RoundCall Rat :=
  { runtime := sliceRuntime ownCandidates
    plan := buildLocationExecutionPlan [] [] 1 2
    queryStates := [sampleLane .exploit "go", sampleLane .genericExplore "rust",
      sampleLane .genericExplore "zig"]
    targetNew := 2
    thresholds := .default }

theorem repeatedLaneType_exceeds : ¬∀ c : RoundCall Rat, c.runtime.PageBounded →
    c.StaysWithinTarget ∧ c.SplitsTarget ∧ c.StopsOnlySpent := by
  intro h
  obtain ⟨hwithin, -, -⟩ := h repeatedLaneType (sliceRuntime_pageBounded _)
  have hreturns : ∃ result, repeatedLaneType.outcome.1 = .ok result ∧
      result.newCandidates.length = 3 := ⟨_, rfl, by decide⟩
  obtain ⟨result, hok, hlength⟩ := hreturns
  have hle := hwithin result hok
  rw [hlength] at hle
  exact absurd hle (by decide)

def twoLaneTypes : RoundCall Rat :=
  { repeatedLaneType with
    queryStates := [sampleLane .exploit "go", sampleLane .genericExplore "rust"] }

theorem roundTarget_spec_twoLaneTypes :
    twoLaneTypes.StaysWithinTarget ∧ twoLaneTypes.SplitsTarget ∧ twoLaneTypes.StopsOnlySpent := by
  have hdiffer : twoLaneTypes.LanesDiffer := by
    unfold RoundCall.LanesDiffer
    decide
  obtain ⟨hwithin, hsplit, hstops⟩ := roundTarget_spec twoLaneTypes (sliceRuntime_pageBounded _)
  exact ⟨hwithin hdiffer, hsplit hdiffer (by simp [twoLaneTypes]), hstops⟩

end SeekTalent

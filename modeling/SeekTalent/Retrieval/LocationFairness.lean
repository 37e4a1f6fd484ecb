import SeekTalent.Retrieval.LocationPlan

/-!
# Fairness of location plans

In one round the balanced cities share the target evenly. Over as many rounds as there are
cities, the rotation puts every city at every place of the order once (`sum_window`), and the
shares of all places make up the target: nobody is ahead of anybody.
-/

namespace SeekTalent

open Finset

/-- What the balanced cities of a plan are asked for. -/
def balancedTargets (plan : LocationExecutionPlan) : List (String × Int) :=
  allocateBalancedCityTargets plan.balancedOrder plan.targetNew

/-- What one city is asked for, zero if it was left out. -/
def allocatedTo (targets : List (String × Int)) (city : String) : Int :=
  ((targets.filter (·.1 = city)).map Prod.snd).sum

variable {allowed preferred cities : List String} {city : String} {roundNo n k : Nat}
variable {targetNew : Int}

/-! ## Sums over a window -/

theorem sum_window {f : Nat → Int} (hf : ∀ m, f (m + n) = f m) (a : Nat) :
    ∑ j ∈ range n, f (a + j) = ∑ j ∈ range n, f j := by
  induction a with
  | zero => simp
  | succ a ih =>
    rw [← ih]
    have hfirst : ∑ j ∈ range (n + 1), f (a + j) = ∑ j ∈ range n, f (a + (j + 1)) + f a :=
      sum_range_succ' _ n
    have hlast : ∑ j ∈ range (n + 1), f (a + j) = ∑ j ∈ range n, f (a + j) + f (a + n) :=
      sum_range_succ _ n
    have hshift : ∑ j ∈ range n, f (a + 1 + j) = ∑ j ∈ range n, f (a + (j + 1)) :=
      sum_congr rfl fun j _ => by congr 1; omega
    rw [hf a] at hlast
    omega

/-- The places a city has over `n` rounds are all the places. -/
theorem sum_places (share : Nat → Int) (i a : Nat) :
    ∑ j ∈ range n, share ((i + (n - (a + j) % n)) % n) = ∑ j ∈ range n, share j := by
  have hperiod : ∀ m, share ((i + (n - (m + n) % n)) % n) = share ((i + (n - m % n)) % n) := by
    intro m
    rw [Nat.add_mod_right]
  rw [sum_window (f := fun m => share ((i + (n - m % n)) % n)) hperiod a]
  calc ∑ j ∈ range n, share ((i + (n - j % n)) % n)
      = ∑ j ∈ range n, share ((i + 1 + (n - 1 - j)) % n) := by
        apply sum_congr rfl
        intro j hj
        have hj := mem_range.mp hj
        rw [Nat.mod_eq_of_lt hj]
        congr 2
        omega
    _ = ∑ j ∈ range n, share ((i + 1 + j) % n) :=
        sum_range_reflect (fun j => share ((i + 1 + j) % n)) n
    _ = ∑ j ∈ range n, share (j % n) :=
        sum_window (f := fun m => share (m % n)) (fun m => by rw [Nat.add_mod_right]) (i + 1)
    _ = ∑ j ∈ range n, share j := by
        apply sum_congr rfl
        intro j hj
        rw [Nat.mod_eq_of_lt (mem_range.mp hj)]

/-! ## The shares of one round -/

theorem sum_zipIdx_of_nodup (share : Nat → Int) (hnodup : cities.Nodup) :
    ((cities.zipIdx k).map fun entry => if entry.1 = city then share entry.2 else 0).sum =
      if city ∈ cities then share (k + cities.idxOf city) else 0 := by
  induction cities generalizing k with
  | nil => simp
  | cons first rest ih =>
    obtain ⟨hfresh, hnodup⟩ := List.nodup_cons.mp hnodup
    rw [List.zipIdx_cons, List.map_cons, List.sum_cons, ih hnodup]
    by_cases heq : first = city
    · subst heq
      simp [hfresh]
    · have hne : city ≠ first := Ne.symm heq
      rw [if_neg heq, Int.zero_add, List.idxOf_cons_ne _ heq]
      simp only [List.mem_cons, hne, false_or]
      congr 2
      omega

theorem sum_filter_city (targets : List (String × Int)) (htargets : ∀ t ∈ targets, 0 ≤ t.2) :
    allocatedTo (targets.filter fun target => 0 < target.2) city =
      (targets.map fun target => if target.1 = city then target.2 else 0).sum := by
  unfold allocatedTo
  induction targets with
  | nil => rfl
  | cons target targets ih =>
    obtain ⟨htarget, htargets⟩ := List.forall_mem_cons.mp htargets
    specialize ih htargets
    rw [List.map_cons, List.sum_cons, ← ih]
    by_cases hpos : 0 < target.2
    · by_cases hcity : target.1 = city
      · simp [hpos, hcity]
      · simp [hpos, hcity]
    · rw [List.filter_cons_of_neg (by simpa using hpos)]
      have hzero : target.2 = 0 := by omega
      simp [hzero]

theorem allocatedTo_allocate (hnodup : cities.Nodup) (hcity : city ∈ cities)
    (htarget : 0 ≤ targetNew) :
    allocatedTo (allocateBalancedCityTargets cities targetNew) city =
      balancedShare targetNew.toNat cities.length (cities.idxOf city) := by
  unfold allocateBalancedCityTargets
  split
  · have hzero : targetNew = 0 := by omega
    subst hzero
    simp [allocatedTo, balancedShare]
  · rw [sum_filter_city]
    · rw [List.map_map]
      have h : ((cities.zipIdx 0).map fun entry => if entry.1 = city then
          (balancedShare targetNew.toNat cities.length entry.2 : Int) else 0).sum = _ :=
        sum_zipIdx_of_nodup (fun m => balancedShare targetNew.toNat cities.length m) hnodup
      rw [if_pos hcity, Nat.zero_add] at h
      exact h
    · intro t ht
      obtain ⟨entry, -, rfl⟩ := List.mem_map.mp ht
      exact Int.natCast_nonneg _

theorem balancedShare_le_succ (target count index index' : Nat) :
    balancedShare target count index ≤ balancedShare target count index' + 1 := by
  unfold balancedShare
  split <;> split <;> omega

theorem allocate_nonneg : ∀ t ∈ allocateBalancedCityTargets cities targetNew, 0 ≤ t.2 := by
  rintro ⟨city, count⟩ ht
  exact (mem_allocateBalancedCityTargets ht).2.le

theorem allocate_le_succ (t t' : String × Int)
    (ht : t ∈ allocateBalancedCityTargets cities targetNew)
    (ht' : t' ∈ allocateBalancedCityTargets cities targetNew) : t.2 ≤ t'.2 + 1 := by
  have hshare : ∀ t ∈ allocateBalancedCityTargets cities targetNew,
      ∃ index, t.2 = balancedShare targetNew.toNat cities.length index := by
    intro t ht
    unfold allocateBalancedCityTargets at ht
    split at ht
    · cases ht
    · obtain ⟨entry, -, rfl⟩ := List.mem_map.mp (List.mem_filter.mp ht).1
      exact ⟨entry.2, rfl⟩
  obtain ⟨index, hindex⟩ := hshare t ht
  obtain ⟨index', hindex'⟩ := hshare t' ht'
  rw [hindex, hindex']
  exact_mod_cast balancedShare_le_succ targetNew.toNat cities.length index index'

theorem sum_allocate (hcities : cities ≠ []) (htarget : 0 ≤ targetNew) :
    ((allocateBalancedCityTargets cities targetNew).map Prod.snd).sum = targetNew := by
  rcases htarget.eq_or_lt with rfl | hpos
  · simp [allocateBalancedCityTargets]
  · exact sum_allocateBalancedCityTargets hcities hpos

theorem sum_shares (hn : 0 < n) (htarget : 0 ≤ targetNew) :
    ∑ j ∈ range n, ((balancedShare targetNew.toNat n j : Nat) : Int) = targetNew := by
  have hlt := Nat.mod_lt targetNew.toNat hn
  calc ∑ j ∈ range n, ((balancedShare targetNew.toNat n j : Nat) : Int)
      = ((List.range n).map fun index => (balancedShare targetNew.toNat n index : Int)).sum := rfl
    _ = (targetNew.toNat : Int) := by
        rw [sum_balancedShare, min_eq_right hlt.le, Nat.div_add_mod]
    _ = targetNew := Int.toNat_of_nonneg htarget

/-! ## The plan -/

theorem rotateLocations_eq (cities : List String) (k : Nat) :
    rotateLocations cities k = cities.rotate k := by
  unfold rotateLocations
  rw [List.rotate_eq_drop_append_take_mod]

@[simp] theorem targetNew_build : (buildLocationExecutionPlan allowed preferred roundNo
    targetNew).targetNew = targetNew := by
  unfold buildLocationExecutionPlan
  split
  · rfl
  · rfl
  · dsimp only
    split <;> rfl

theorem perm_build (hallowed : allowed.Nodup) (hpreferred : preferred.Nodup) :
    ((buildLocationExecutionPlan allowed preferred roundNo targetNew).priorityOrder ++
      (buildLocationExecutionPlan allowed preferred roundNo targetNew).balancedOrder).Perm
        allowed := by
  unfold buildLocationExecutionPlan
  split
  · rfl
  · rfl
  · dsimp only
    split
    · rw [rotateLocations_eq]
      apply ((List.rotate_perm _ _).append_left _).trans
      rw [List.perm_ext_iff_of_nodup _ hallowed]
      · intro city
        simp only [List.mem_append, List.mem_filter, decide_eq_true_eq]
        tauto
      · apply (hpreferred.filter _).append (hallowed.filter _)
        intro city hleft hright
        have hfresh := (List.mem_filter.mp hright).2
        simp only [decide_eq_true_eq] at hfresh
        exact hfresh hleft
    · rw [rotateLocations_eq, List.nil_append]
      exact List.rotate_perm _ _

theorem balancedOrder_of_mode
    (hmode : (buildLocationExecutionPlan allowed preferred k targetNew).mode = .balancedAll)
    (roundNo : Nat) :
    (buildLocationExecutionPlan allowed preferred roundNo targetNew).balancedOrder =
      allowed.rotate (rotationOffset roundNo allowed.length) := by
  unfold buildLocationExecutionPlan at hmode ⊢
  split at hmode
  · cases hmode
  · cases hmode
  · dsimp only at hmode ⊢
    split at hmode
    · cases hmode
    · rw [if_neg (by assumption), rotateLocations_eq]

theorem idxOf_rotate (hnodup : cities.Nodup) (hcity : city ∈ cities) :
    (cities.rotate k).idxOf city =
      (cities.idxOf city + (cities.length - k % cities.length)) % cities.length := by
  have hlt := List.idxOf_lt_length_of_mem hcity
  have hpos : 0 < cities.length := by omega
  have hk := Nat.mod_lt k hpos
  have hplace : (cities.idxOf city + (cities.length - k % cities.length)) % cities.length <
      (cities.rotate k).length := by
    rw [List.length_rotate]
    exact Nat.mod_lt _ hpos
  have hback : ((cities.idxOf city + (cities.length - k % cities.length)) % cities.length + k) %
      cities.length = cities.idxOf city := by
    have hsum : cities.idxOf city + (cities.length - k % cities.length) + k % cities.length =
        cities.idxOf city + cities.length := by omega
    rw [Nat.mod_add_mod, ← Nat.add_mod_mod, hsum, Nat.add_mod_right, Nat.mod_eq_of_lt hlt]
  have hget : (cities.rotate k)[(cities.idxOf city + (cities.length - k % cities.length)) %
      cities.length] = city := by
    rw [List.getElem_rotate]
    simp only [hback]
    exact List.getElem_idxOf hlt
  have h := (List.nodup_rotate.mpr hnodup).idxOf_getElem _ hplace
  rwa [hget] at h

theorem allocatedTo_round (hallowed : allowed.Nodup) (hcity : city ∈ allowed)
    (htarget : 0 ≤ targetNew)
    (hmode : (buildLocationExecutionPlan allowed preferred k targetNew).mode = .balancedAll)
    (roundNo : Nat) :
    allocatedTo (balancedTargets (buildLocationExecutionPlan allowed preferred roundNo targetNew))
        city =
      balancedShare targetNew.toNat allowed.length ((allowed.idxOf city + (allowed.length -
        (roundNo + allowed.length - 1) % allowed.length)) % allowed.length) := by
  have hpos := List.length_pos_of_mem hcity
  unfold balancedTargets
  rw [balancedOrder_of_mode hmode, targetNew_build,
    allocatedTo_allocate (List.nodup_rotate.mpr hallowed) (List.mem_rotate.mpr hcity) htarget,
    idxOf_rotate hallowed hcity, List.length_rotate, rotationOffset, if_neg (by omega),
    Nat.mod_mod]

/-- **Fairness of location plans.** The two orders are the allowed cities. In one round the
balanced targets make up the target, if any city is balanced, and no city has more than one more
than another. Over as many rounds as there are cities, each is asked for the target. -/
theorem fair_buildLocationExecutionPlan (hallowed : allowed.Nodup) (hpreferred : preferred.Nodup)
    (htarget : 0 ≤ targetNew) :
    (∀ roundNo,
      let plan := buildLocationExecutionPlan allowed preferred roundNo targetNew
      (plan.priorityOrder ++ plan.balancedOrder).Perm allowed ∧
      (∀ t ∈ balancedTargets plan, 0 ≤ t.2) ∧
      (plan.balancedOrder ≠ [] → ((balancedTargets plan).map Prod.snd).sum = targetNew) ∧
      (∀ t ∈ balancedTargets plan, ∀ t' ∈ balancedTargets plan, t.2 ≤ t'.2 + 1) ∧
      ∀ city ∈ plan.balancedOrder, ∀ city' ∈ plan.balancedOrder,
        allocatedTo (balancedTargets plan) city ≤ allocatedTo (balancedTargets plan) city' + 1) ∧
    ∀ roundNo,
      (buildLocationExecutionPlan allowed preferred roundNo targetNew).mode = .balancedAll →
      ∀ city ∈ allowed, ∑ j ∈ range allowed.length, allocatedTo (balancedTargets
        (buildLocationExecutionPlan allowed preferred (roundNo + j) targetNew)) city =
          targetNew := by
  constructor
  · intro roundNo plan
    have hperm : (plan.priorityOrder ++ plan.balancedOrder).Perm allowed :=
      perm_build hallowed hpreferred
    have hnodup : plan.balancedOrder.Nodup :=
      (hperm.nodup_iff.mpr hallowed).of_append_right
    have hplan : balancedTargets plan = allocateBalancedCityTargets plan.balancedOrder
        targetNew := congrArg _ targetNew_build
    rw [hplan]
    refine ⟨hperm, allocate_nonneg, fun hne => sum_allocate hne htarget,
      fun t ht t' ht' => allocate_le_succ t t' ht ht', fun city hcity city' hcity' => ?_⟩
    rw [allocatedTo_allocate hnodup hcity htarget, allocatedTo_allocate hnodup hcity' htarget]
    exact_mod_cast balancedShare_le_succ _ _ _ _
  · intro roundNo hmode city hcity
    have hpos := List.length_pos_of_mem hcity
    calc ∑ j ∈ range allowed.length, allocatedTo (balancedTargets
          (buildLocationExecutionPlan allowed preferred (roundNo + j) targetNew)) city
        = ∑ j ∈ range allowed.length, ((balancedShare targetNew.toNat allowed.length
            ((allowed.idxOf city + (allowed.length - (roundNo + allowed.length - 1 + j) %
              allowed.length)) % allowed.length) : Nat) : Int) := by
          apply sum_congr rfl
          intro j _
          have hround : roundNo + j + allowed.length - 1 = roundNo + allowed.length - 1 + j := by
            omega
          rw [allocatedTo_round hallowed hcity htarget hmode, hround]
      _ = ∑ j ∈ range allowed.length, ((balancedShare targetNew.toNat allowed.length j : Nat) :
            Int) := sum_places (fun m => balancedShare targetNew.toNat allowed.length m) _ _
      _ = targetNew := sum_shares hpos htarget

theorem fair_twoCities :
    (buildLocationExecutionPlan ["上海", "北京"] [] 2 5).balancedOrder ≠ [] ∧
    ((balancedTargets (buildLocationExecutionPlan ["上海", "北京"] [] 2 5)).map Prod.snd).sum =
      5 ∧
    ∑ j ∈ range 2, allocatedTo (balancedTargets
      (buildLocationExecutionPlan ["上海", "北京"] [] (2 + j) 5)) "上海" = 5 := by
  have hfair := @fair_buildLocationExecutionPlan ["上海", "北京"] [] 5 (by decide) (by decide)
    (by decide)
  have hne : (buildLocationExecutionPlan ["上海", "北京"] [] 2 5).balancedOrder ≠ [] := by decide
  exact ⟨hne, (hfair.1 2).2.2.1 hne, hfair.2 2 rfl "上海" (by decide)⟩

/-- Where every allowed city is preferred, nobody is left to share the target. -/
theorem not_sum_balancedTargets :
    ¬∀ (allowed preferred : List String) (roundNo : Nat) (targetNew : Int), allowed.Nodup →
      preferred.Nodup → 0 ≤ targetNew →
        ((balancedTargets (buildLocationExecutionPlan allowed preferred roundNo
          targetNew)).map Prod.snd).sum = targetNew := by
  intro h
  have h := h ["上海", "北京"] ["上海", "北京"] 1 5 (by decide) (by decide) (by decide)
  have horder : (buildLocationExecutionPlan ["上海", "北京"] ["上海", "北京"] 1 5).balancedOrder =
      [] := by decide
  unfold balancedTargets at h
  rw [horder] at h
  cases h

end SeekTalent

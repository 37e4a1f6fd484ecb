import Mathlib
import SeekTalent.Models

/-!
# Location plans

`build_location_execution_plan` and the splitting of a target over cities
(`retrieval/query_plan.py`).
-/

namespace SeekTalent

/-- `_rotation_offset`: `(round_no - 1) % city_count`, with Python's sign of `%`. -/
def rotationOffset (roundNo cityCount : Nat) : Nat :=
  if cityCount = 0 then 0 else (roundNo + cityCount - 1) % cityCount

def rotateLocations (locations : List String) (offset : Nat) : List String :=
  locations.drop (offset % locations.length) ++ locations.take (offset % locations.length)

theorem mem_rotateLocations {locations : List String} {offset : Nat} {city : String} :
    city ∈ rotateLocations locations offset ↔ city ∈ locations := by
  unfold rotateLocations
  rw [← List.rotate_eq_drop_append_take_mod, List.mem_rotate]

def buildLocationExecutionPlan (allowedLocations preferredLocations : List String)
    (roundNo : Nat) (targetNew : Int) : LocationExecutionPlan :=
  match allowedLocations with
  | [] => { mode := .none, targetNew := targetNew }
  | [city] =>
    { mode := .single, allowedLocations := [city], balancedOrder := [city]
      targetNew := targetNew }
  | _ =>
    let preferred := preferredLocations.filter (· ∈ allowedLocations)
    if preferred ≠ [] then
      let fallback := allowedLocations.filter (· ∉ preferred)
      let offset := rotationOffset roundNo fallback.length
      { mode := .priorityThenFallback
        allowedLocations := allowedLocations
        preferredLocations := preferred
        priorityOrder := preferred
        balancedOrder := rotateLocations fallback offset
        rotationOffset := offset
        targetNew := targetNew }
    else
      let offset := rotationOffset roundNo allowedLocations.length
      { mode := .balancedAll
        allowedLocations := allowedLocations
        balancedOrder := rotateLocations allowedLocations offset
        rotationOffset := offset
        targetNew := targetNew }

/-- The share of the `index`-th of `count` cities: the remainder of the division goes to
    the first cities. -/
def balancedShare (targetNew count index : Nat) : Nat :=
  targetNew / count + if index < targetNew % count then 1 else 0

/-- `allocate_balanced_city_targets`; cities whose share is zero are left out. -/
def allocateBalancedCityTargets (orderedCities : List String) (targetNew : Int) :
    List (String × Int) :=
  if targetNew ≤ 0 then []
  else
    (orderedCities.zipIdx.map fun (city, index) =>
        (city, (balancedShare targetNew.toNat orderedCities.length index : Int))).filter
      fun target => 0 < target.2

theorem mem_allocateBalancedCityTargets {cities : List String} {n m : Int} {city : String}
    (h : (city, m) ∈ allocateBalancedCityTargets cities n) : city ∈ cities ∧ 0 < m := by
  unfold allocateBalancedCityTargets at h
  split at h
  · simp at h
  · simp only [List.mem_filter, List.mem_map, Prod.mk.injEq, decide_eq_true_eq] at h
    obtain ⟨⟨⟨c, i⟩, hmem, hc, _⟩, hm⟩ := h
    simp only at hc
    subst hc
    exact ⟨(List.mem_zipIdx hmem).2.2 ▸ List.getElem_mem _, hm⟩

/-- The shares of the first `m` cities. -/
theorem sum_balancedShare (n count m : Nat) :
    ((List.range m).map fun index => (balancedShare n count index : Int)).sum =
      (m * (n / count) + min m (n % count) : Nat) := by
  induction m with
  | zero => simp
  | succ m ih =>
    rw [List.range_succ, List.map_append, List.sum_append, ih]
    simp only [List.map_cons, List.map_nil, List.sum_singleton, balancedShare, Nat.succ_mul]
    split <;> push_cast <;> omega

theorem sum_allocateBalancedCityTargets {cities : List String} {n : Int} (hcities : cities ≠ [])
    (hn : 0 < n) : ((allocateBalancedCityTargets cities n).map Prod.snd).sum = n := by
  have hfilter : ∀ targets : List (String × Int), (∀ t ∈ targets, 0 ≤ t.2) →
      ((targets.filter fun target => 0 < target.2).map Prod.snd).sum =
        (targets.map Prod.snd).sum := by
    intro targets
    induction targets with
    | nil => simp
    | cons t ts ih =>
      intro hts
      obtain ⟨ht, hts⟩ := List.forall_mem_cons.mp hts
      by_cases hpos : 0 < t.2
      · simp [hpos, ih hts]
      · rw [List.filter_cons_of_neg (by simpa using hpos), ih hts, List.map_cons, List.sum_cons]
        omega
  have hlen : 0 < cities.length := List.length_pos_iff.mpr hcities
  unfold allocateBalancedCityTargets
  rw [if_neg (by omega), hfilter]
  · have hshares : (cities.zipIdx.map fun (city, index) =>
        (city, (balancedShare n.toNat cities.length index : Int))).map Prod.snd =
        (List.range cities.length).map
          fun index => (balancedShare n.toNat cities.length index : Int) := by
      rw [List.map_map, List.range_eq_range', ← List.zipIdx_map_snd 0 cities, List.map_map]
      rfl
    have hmod := Nat.mod_lt n.toNat hlen
    rw [hshares, sum_balancedShare, min_eq_right hmod.le, Nat.div_add_mod]
    omega
  · intro t ht
    obtain ⟨⟨city, index⟩, -, rfl⟩ := List.mem_map.mp ht
    exact Int.natCast_nonneg _

end SeekTalent

import Mathlib.Data.List.Basic
import Mathlib.Data.List.Pairwise
import Mathlib.Data.List.Infix

/-!
# Expanding a list, and the way back

Every member of a list is replaced by some members of another type, and an offset map tells
for each of those where it comes from. A stretch found in the expansion is mapped back to the
members its ends come from. These may expand to more than the stretch: what they expand to is
the stretch with the rest of its first member before it and the rest of its last member behind
(`expand_slice`). Two expansions in a row are one (`getD_offsets_comp`).
-/

namespace OffsetMap

variable {α β γ : Type}

/-- `needle in text` at the first place, counted from `i`. -/
def findFrom [DecidableEq β] (needle : List β) (i : Nat) : List β → Option Nat
  | [] => if needle = [] then some i else none
  | b :: bs => if needle <+: b :: bs then some i else findFrom needle (i + 1) bs

/-- `text.find(needle)` -/
def find [DecidableEq β] (text needle : List β) : Option Nat := findFrom needle 0 text

/-- The members of the expansion, each with where it comes from. -/
def traced (expand : α → List β) (text : List α) : List (β × Nat) :=
  text.zipIdx.flatMap fun (a, i) => (expand a).map (·, i)

/-- Where the members of the expansion come from. -/
def offsets (expand : α → List β) (text : List α) : List Nat :=
  text.zipIdx.flatMap fun (a, i) => List.replicate (expand a).length i

/-- `text[start:stop]` -/
def slice (text : List α) (start stop : Nat) : List α := (text.take stop).drop start

/-- What the ends of a stretch expand to beyond it, before it and behind. -/
def restBefore (expand : α → List β) (text : List α) (p : Nat) : List β :=
  (((traced expand text).take p).filter
    (·.2 = (offsets expand text).getD p 0)).map Prod.fst

def restAfter (expand : α → List β) (text : List α) (p n : Nat) : List β :=
  (((traced expand text).drop (p + n)).filter
    (·.2 = (offsets expand text).getD (p + n - 1) 0)).map Prod.fst

/-! ## 1. Finding -/

section Find

variable [DecidableEq β] {text needle : List β} {i p : Nat}

theorem findFrom_spec (h : findFrom needle i text = some p) :
    i ≤ p ∧ needle <+: text.drop (p - i) := by
  induction text generalizing i with
  | nil =>
    unfold findFrom at h
    split at h
    · rename_i hnil
      cases h
      simp [hnil]
    · cases h
  | cons b bs ih =>
    unfold findFrom at h
    split at h
    · rename_i hprefix
      cases h
      simpa using hprefix
    · obtain ⟨hle, hrest⟩ := ih h
      have hsub : p - i = (p - (i + 1)) + 1 := by omega
      exact ⟨by omega, by rwa [hsub, List.drop_succ_cons]⟩

theorem slice_find (h : find text needle = some p) :
    slice text p (p + needle.length) = needle := by
  obtain ⟨-, hprefix⟩ := findFrom_spec h
  rw [Nat.sub_zero] at hprefix
  unfold slice
  rw [List.drop_take, Nat.add_sub_cancel_left]
  exact (List.prefix_iff_eq_take.mp hprefix).symm

theorem find_length_le (hne : needle ≠ []) (h : find text needle = some p) :
    p + needle.length ≤ text.length := by
  have hpos : 0 < needle.length := List.length_pos_iff.mpr hne
  have hlen := congrArg List.length (slice_find h)
  simp only [slice, List.length_drop, List.length_take] at hlen
  omega

end Find

/-! ## 2. Tracing -/

section Traced

variable {expand : α → List β} {text : List α}

theorem map_fst_traced (expand : α → List β) (text : List α) :
    (traced expand text).map Prod.fst = text.flatMap expand := by
  have h : ∀ k, ((text.zipIdx k).flatMap fun (a, i) => (expand a).map (·, i)).map Prod.fst =
      text.flatMap expand := by
    induction text with
    | nil => simp
    | cons a text ih =>
      intro k
      simp only [List.zipIdx_cons, List.flatMap_cons, List.map_append, List.map_map, ih]
      congr 1
      exact List.map_id' _
  exact h 0

theorem map_snd_traced (expand : α → List β) (text : List α) :
    (traced expand text).map Prod.snd = offsets expand text := by
  unfold traced offsets
  rw [List.map_flatMap]
  congr 1
  funext pair
  simp [Function.comp_def, List.map_const']

theorem pairwise_traced (expand : α → List β) (text : List α) :
    (traced expand text).Pairwise fun x y => x.2 ≤ y.2 := by
  apply List.pairwise_flatMap.mpr
  constructor
  · intro pair _
    exact List.pairwise_map.mpr (List.pairwise_of_forall fun _ _ => Nat.le_refl _)
  · have hsorted : text.zipIdx.Pairwise fun x y => x.2 < y.2 := by
      rw [← List.pairwise_map (f := Prod.snd), List.zipIdx_map_snd]
      exact List.pairwise_lt_range'
    apply hsorted.imp
    intro x y hxy u hu v hv
    obtain ⟨-, -, rfl⟩ := List.mem_map.mp hu
    obtain ⟨-, -, rfl⟩ := List.mem_map.mp hv
    exact Nat.le_of_lt hxy

/-- **What a slice expands to** is what comes from its members. -/
theorem expand_slice_eq_filter (start stop : Nat) :
    (slice text start stop).flatMap expand =
      ((traced expand text).filter fun x => start ≤ x.2 ∧ x.2 < stop).map Prod.fst := by
  have h : ∀ k, ((text.take (stop - k)).drop (start - k)).flatMap expand =
      (((text.zipIdx k).flatMap fun (a, i) => (expand a).map (·, i)).filter
        fun x => start ≤ x.2 ∧ x.2 < stop).map Prod.fst := by
    induction text with
    | nil => simp
    | cons a text ih =>
      intro k
      have hrest := ih (k + 1)
      simp only [List.zipIdx_cons, List.flatMap_cons, List.filter_append, List.map_append]
      rw [← hrest]
      by_cases hstop : k < stop
      · have hs : stop - k = stop - (k + 1) + 1 := by omega
        rw [hs, List.take_succ_cons]
        by_cases hstart : start ≤ k
        · -- the member is in the slice, with all that it expands to
          have h0 : start - k = 0 := by omega
          have h1 : start - (k + 1) = 0 := by omega
          have hall : ((expand a).map fun b => (b, k)).filter
              (fun x => decide (start ≤ x.2 ∧ x.2 < stop)) = (expand a).map fun b => (b, k) := by
            apply List.filter_eq_self.mpr
            intro x hx
            obtain ⟨b, -, rfl⟩ := List.mem_map.mp hx
            simp [hstart, hstop]
          rw [h0, h1, hall, List.drop_zero, List.drop_zero, List.flatMap_cons, List.map_map]
          congr 1
          exact (List.map_id' _).symm
        · have h1 : start - k = start - (k + 1) + 1 := by omega
          have hnone : ((expand a).map fun b => (b, k)).filter
              (fun x => decide (start ≤ x.2 ∧ x.2 < stop)) = [] := by
            apply List.filter_eq_nil_iff.mpr
            intro x hx
            obtain ⟨b, -, rfl⟩ := List.mem_map.mp hx
            simp [hstart]
          rw [h1, hnone, List.drop_succ_cons, List.map_nil, List.nil_append]
      · have h0 : stop - k = 0 := by omega
        have h1 : stop - (k + 1) = 0 := by omega
        have hnone : ((expand a).map fun b => (b, k)).filter
            (fun x => decide (start ≤ x.2 ∧ x.2 < stop)) = [] := by
          apply List.filter_eq_nil_iff.mpr
          intro x hx
          obtain ⟨b, -, rfl⟩ := List.mem_map.mp hx
          simp [hstop]
        rw [h0, h1, hnone]
        simp
  exact h 0

theorem getD_offsets {j : Nat} (h : j < (traced expand text).length) :
    (offsets expand text).getD j 0 = (traced expand text)[j].2 := by
  rw [← map_snd_traced, List.getD_eq_getElem?_getD, List.getElem?_map,
    List.getElem?_eq_getElem h]
  rfl

theorem traced_mono {i j : Nat} (hij : i ≤ j) (hj : j < (traced expand text).length) :
    (traced expand text)[i].2 ≤ (traced expand text)[j].2 := by
  rcases Nat.eq_or_lt_of_le hij with rfl | hlt
  · exact Nat.le_refl _
  · exact List.pairwise_iff_getElem.mp (pairwise_traced expand text) i j (by omega) hj hlt

/-- **The way back.** The members that a stretch is mapped back to expand to the stretch,
    with the rest of the first before it and the rest of the last behind. -/
theorem expand_slice [DecidableEq β] {needle : List β} {p : Nat} (hne : needle ≠ [])
    (h : find (text.flatMap expand) needle = some p) :
    (slice text ((offsets expand text).getD p 0)
        ((offsets expand text).getD (p + needle.length - 1) 0 + 1)).flatMap expand =
      restBefore expand text p ++ needle ++ restAfter expand text p needle.length := by
  have hpos : 0 < needle.length := List.length_pos_iff.mpr hne
  have hmid : (slice (traced expand text) p (p + needle.length)).map Prod.fst = needle := by
    conv_rhs => rw [← slice_find h, ← map_fst_traced]
    simp only [slice, List.map_drop, List.map_take]
  have hlen : p + needle.length ≤ (traced expand text).length := by
    have hle := find_length_le hne h
    rwa [← map_fst_traced, List.length_map] at hle
  have hstart := getD_offsets (show p < (traced expand text).length by omega)
  have hlast := getD_offsets
    (show p + needle.length - 1 < (traced expand text).length by omega)
  have hle := traced_mono (show p ≤ p + needle.length - 1 by omega)
    (show p + needle.length - 1 < (traced expand text).length by omega)
  -- before the stretch, in it and behind it, the places are in order
  have hbefore : ∀ x ∈ (traced expand text).take p,
      x.2 ≤ (offsets expand text).getD p 0 := by
    intro x hx
    obtain ⟨j, hj, rfl⟩ := List.mem_take_iff_getElem.mp hx
    rw [hstart]
    exact traced_mono (by omega) _
  have hin : ∀ x ∈ slice (traced expand text) p (p + needle.length),
      (offsets expand text).getD p 0 ≤ x.2 ∧
        x.2 ≤ (offsets expand text).getD (p + needle.length - 1) 0 := by
    intro x hx
    obtain ⟨j, hj, rfl⟩ := List.mem_drop_iff_getElem.mp hx
    rw [List.length_take] at hj
    rw [List.getElem_take, hstart, hlast]
    exact ⟨traced_mono (by omega) _, traced_mono (by omega) _⟩
  have hbehind : ∀ x ∈ (traced expand text).drop (p + needle.length),
      (offsets expand text).getD (p + needle.length - 1) 0 ≤ x.2 := by
    intro x hx
    obtain ⟨j, hj, rfl⟩ := List.mem_drop_iff_getElem.mp hx
    rw [hlast]
    exact traced_mono (by omega) _
  have hsplit : traced expand text = (traced expand text).take p ++
      slice (traced expand text) p (p + needle.length) ++
      (traced expand text).drop (p + needle.length) := by
    unfold slice
    rw [List.drop_take, Nat.add_sub_cancel_left, List.append_assoc, ← List.drop_drop,
      List.take_append_drop, List.take_append_drop]
  rw [hstart, hlast] at hin
  rw [hstart] at hbefore
  rw [hlast] at hbehind
  rw [expand_slice_eq_filter]
  unfold restBefore restAfter
  rw [hstart, hlast]
  generalize (traced expand text)[p].2 = start at *
  generalize (traced expand text)[p + needle.length - 1].2 = last at *
  have hfilter : (traced expand text).filter (fun x => start ≤ x.2 ∧ x.2 < last + 1) =
      ((traced expand text).take p).filter (·.2 = start) ++
      slice (traced expand text) p (p + needle.length) ++
      ((traced expand text).drop (p + needle.length)).filter (·.2 = last) := by
    conv_lhs => rw [hsplit]
    rw [List.filter_append, List.filter_append]
    congr 1
    · congr 1
      · apply List.filter_congr
        intro x hx
        have hx := hbefore x hx
        exact decide_eq_decide.mpr (by omega)
      · apply List.filter_eq_self.mpr
        intro x hx
        have hx := hin x hx
        rw [decide_eq_true_eq]
        omega
    · apply List.filter_congr
      intro x hx
      have hx := hbehind x hx
      exact decide_eq_decide.mpr (by omega)
  rw [hfilter, List.map_append, List.map_append, hmid]

theorem zipIdx_flatMap_expand (expand : α → List β) (text : List α) :
    (text.flatMap expand).zipIdx.map (fun (b, k) => (b, (offsets expand text).getD k 0)) =
      traced expand text := by
  apply List.ext_getElem
  · rw [List.length_map, List.length_zipIdx, ← map_fst_traced, List.length_map]
  · intro j hj hj'
    have hlen : j < (text.flatMap expand).length := by simpa using hj
    have hb : (text.flatMap expand)[j] = (traced expand text)[j].1 := by
      simp only [← map_fst_traced, List.getElem_map]
    simp only [List.getElem_map, List.getElem_zipIdx, Nat.zero_add]
    rw [getD_offsets hj', hb]

theorem flatMap_replicate_length (expand' : β → List γ) (bs : List β) (i : Nat) :
    bs.flatMap (fun b => List.replicate (expand' b).length i) =
      List.replicate (bs.flatMap expand').length i := by
  induction bs with
  | nil => rfl
  | cons b bs ih =>
    rw [List.flatMap_cons, List.flatMap_cons, ih, List.length_append, List.replicate_add]

/-- **Two expansions in a row**: the way back leads through both. -/
theorem map_offsets_comp (expand : α → List β) (expand' : β → List γ) (text : List α) :
    (offsets expand' (text.flatMap expand)).map (fun k => (offsets expand text).getD k 0) =
      offsets (fun a => (expand a).flatMap expand') text := by
  have hpairs : (offsets expand' (text.flatMap expand)).map
      (fun k => (offsets expand text).getD k 0) =
      (traced expand text).flatMap fun (b, i) => List.replicate (expand' b).length i := by
    rw [← zipIdx_flatMap_expand, List.flatMap_map]
    unfold offsets
    rw [List.map_flatMap]
    simp only [List.map_replicate]
  rw [hpairs]
  unfold traced offsets
  rw [List.flatMap_assoc]
  congr 1
  funext pair
  rw [List.flatMap_map]
  exact flatMap_replicate_length expand' (expand pair.1) pair.2

theorem getD_offsets_comp (expand : α → List β) (expand' : β → List γ) (text : List α) {j : Nat}
    (h : j < ((text.flatMap expand).flatMap expand').length) :
    (offsets expand text).getD ((offsets expand' (text.flatMap expand)).getD j 0) 0 =
      (offsets (fun a => (expand a).flatMap expand') text).getD j 0 := by
  have hlen : j < (offsets expand' (text.flatMap expand)).length := by
    rwa [← map_snd_traced, List.length_map, ← List.length_map (f := Prod.fst), map_fst_traced]
  rw [← map_offsets_comp, List.getD_eq_getElem?_getD, List.getD_eq_getElem?_getD (i := j),
    List.getD_eq_getElem?_getD (i := j), List.getElem?_map, List.getElem?_eq_getElem hlen]
  simp

end Traced

end OffsetMap

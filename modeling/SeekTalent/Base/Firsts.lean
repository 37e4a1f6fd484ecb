import Mathlib.Data.List.Induction
import Mathlib.Data.List.Nodup
import SeekTalent.Base.Table

/-!
# The order of keys

A dictionary that is filled in a loop has its keys in the order in which they came first. An
element that comes first at `i` stands at `i` among them exactly where nothing has come twice
before it (`getElem?_firsts_self_iff`). Of the rows with one key, the last one is in the table
(`mem_upsertAll_nil`).
-/

namespace Table

variable {κ : Type} [DecidableEq κ]

/-- A key that comes again keeps its place. -/
def addFirst (seen : List κ) (x : κ) : List κ := if x ∈ seen then seen else seen ++ [x]

/-- The elements in the order in which they come first. -/
def firsts (xs : List κ) : List κ := xs.foldl addFirst []

variable {xs ys : List κ} {x : κ} {i j : ℕ}

theorem firsts_concat (xs : List κ) (x : κ) : firsts (xs ++ [x]) = addFirst (firsts xs) x := by
  unfold firsts
  rw [List.foldl_append]
  rfl

@[simp] theorem mem_firsts : x ∈ firsts xs ↔ x ∈ xs := by
  induction xs using List.reverseRecOn with
  | nil => rfl
  | append_singleton xs y ih =>
    rw [firsts_concat]
    unfold addFirst
    split
    · rename_i hmem
      rw [ih, List.mem_append, List.mem_singleton]
      constructor
      · exact .inl
      · intro h
        rcases h with h | rfl
        · exact h
        · exact ih.mp (by simpa using hmem)
    · simp [ih]

theorem firsts_concat_of_mem (h : x ∈ xs) : firsts (xs ++ [x]) = firsts xs := by
  rw [firsts_concat, addFirst, if_pos (mem_firsts.mpr h)]

theorem firsts_concat_of_not_mem (h : x ∉ xs) : firsts (xs ++ [x]) = firsts xs ++ [x] := by
  rw [firsts_concat, addFirst, if_neg fun hmem => h (mem_firsts.mp hmem)]

theorem exists_firsts_append (xs ys : List κ) : ∃ rest, firsts (xs ++ ys) = firsts xs ++ rest := by
  induction ys using List.reverseRecOn with
  | nil => exact ⟨[], by simp⟩
  | append_singleton ys y ih =>
    obtain ⟨rest, hrest⟩ := ih
    rw [← List.append_assoc]
    by_cases hmem : y ∈ xs ++ ys
    · exact ⟨rest, by rw [firsts_concat_of_mem hmem, hrest]⟩
    · exact ⟨rest ++ [y], by rw [firsts_concat_of_not_mem hmem, hrest, List.append_assoc]⟩

theorem length_firsts_le : (firsts xs).length ≤ xs.length := by
  induction xs using List.reverseRecOn with
  | nil => exact Nat.le_refl _
  | append_singleton xs x ih =>
    by_cases hmem : x ∈ xs
    · rw [firsts_concat_of_mem hmem, List.length_append]
      omega
    · rw [firsts_concat_of_not_mem hmem, List.length_append, List.length_append]
      omega

theorem length_firsts_eq_iff : (firsts xs).length = xs.length ↔ xs.Nodup := by
  induction xs using List.reverseRecOn with
  | nil => simp [firsts]
  | append_singleton xs x ih =>
    rw [List.nodup_append_comm, List.singleton_append, List.nodup_cons, ← ih]
    by_cases hmem : x ∈ xs
    · have hle : (firsts xs).length ≤ xs.length := length_firsts_le
      rw [firsts_concat_of_mem hmem, List.length_append, List.length_singleton]
      constructor
      · intro h
        omega
      · intro h
        exact absurd hmem h.1
    · rw [firsts_concat_of_not_mem hmem, List.length_append, List.length_append]
      simp [hmem]

/-- **Where an element stands**: after those that have come before it came first. -/
theorem getElem?_firsts_iff :
    (firsts xs)[j]? = some x ↔
      ∃ i, xs[i]? = some x ∧ x ∉ xs.take i ∧ (firsts (xs.take i)).length = j := by
  constructor
  · intro h
    induction xs using List.reverseRecOn with
    | nil => cases h
    | append_singleton xs y ih =>
      have hold : (firsts xs)[j]? = some x → ∃ i, (xs ++ [y])[i]? = some x ∧
          x ∉ (xs ++ [y]).take i ∧ (firsts ((xs ++ [y]).take i)).length = j := by
        intro hx
        obtain ⟨i, hi, hnew, hlen⟩ := ih hx
        have hlt : i < xs.length := (List.getElem?_eq_some_iff.mp hi).1
        refine ⟨i, ?_, ?_⟩
        · rw [List.getElem?_append_left hlt]
          exact hi
        · rw [List.take_append_of_le_length (Nat.le_of_lt hlt)]
          exact ⟨hnew, hlen⟩
      by_cases hmem : y ∈ xs
      · rw [firsts_concat_of_mem hmem] at h
        exact hold h
      · rw [firsts_concat_of_not_mem hmem] at h
        by_cases hlt : j < (firsts xs).length
        · rw [List.getElem?_append_left hlt] at h
          exact hold h
        · rw [List.getElem?_append_right (by omega)] at h
          obtain ⟨hend, hx⟩ := List.getElem?_eq_some_iff.mp h
          rw [List.length_singleton] at hend
          rw [List.getElem_singleton] at hx
          subst hx
          refine ⟨xs.length, by simp, ?_, ?_⟩
          · simpa using hmem
          · rw [List.take_left]
            omega
  · intro h
    obtain ⟨i, hi, hnew, hlen⟩ := h
    obtain ⟨hlt, hx⟩ := List.getElem?_eq_some_iff.mp hi
    have hsplit : xs = (xs.take i ++ [x]) ++ xs.drop (i + 1) := by
      rw [List.append_assoc, List.singleton_append, ← hx, ← List.drop_eq_getElem_cons hlt,
        List.take_append_drop]
    obtain ⟨rest, hrest⟩ := exists_firsts_append (xs.take i ++ [x]) (xs.drop (i + 1))
    rw [hsplit, hrest, firsts_concat_of_not_mem hnew, ← hlen, List.append_assoc]
    simp

/-- **In place**: an element that comes first at `i` stands there exactly where nothing has come
twice before it. -/
theorem getElem?_firsts_self_iff (hi : xs[i]? = some x) (hnew : x ∉ xs.take i) :
    xs[(firsts (xs.take i)).length]? = some x ↔ (xs.take i).Nodup := by
  obtain ⟨hlt, -⟩ := List.getElem?_eq_some_iff.mp hi
  have htake : (xs.take i).length = i := by rw [List.length_take]; omega
  rw [← length_firsts_eq_iff, htake]
  constructor
  · intro hx
    by_contra hne
    have hle : (firsts (xs.take i)).length ≤ (xs.take i).length := length_firsts_le
    apply hnew
    refine List.mem_of_getElem? (i := (firsts (xs.take i)).length) ?_
    rw [List.getElem?_take_of_lt (by omega)]
    exact hx
  · intro heq
    rw [heq]
    exact hi

theorem map_key_upsertAll_nil {α : Type} {key : α → κ} {rows : List α} :
    (upsertAll key [] rows).map key = firsts (rows.map key) := by
  induction rows using List.reverseRecOn with
  | nil => rfl
  | append_singleton rows row ih =>
    have hstep : upsertAll key [] (rows ++ [row]) = upsert key (upsertAll key [] rows) row := by
      unfold upsertAll
      rw [List.foldl_append]
      rfl
    rw [hstep, map_key_upsert, ih, List.map_append, List.map_singleton, firsts_concat]
    rfl

/-- **The last one wins**: of the rows with one key, a table that is filled in a loop has the last. -/
theorem mem_upsertAll_nil {α : Type} {key : α → κ} {rows : List α} {row : α} :
    row ∈ upsertAll key [] rows ↔ (rows.filter (key · = key row)).getLast? = some row := by
  induction rows using List.reverseRecOn with
  | nil => simp [upsertAll]
  | append_singleton rows last ih =>
    have hstep : upsertAll key [] (rows ++ [last]) = upsert key (upsertAll key [] rows) last := by
      unfold upsertAll
      rw [List.foldl_append]
      rfl
    rw [hstep, mem_upsert_iff, ih, List.filter_append]
    by_cases hkey : key last = key row
    · simp [hkey, eq_comm]
    · have hne : row ≠ last := by
        rintro rfl
        exact hkey rfl
      simp [hkey, hne, Ne.symm hkey]

/-- Writing a value under a key, in a table that has a value for each key that has come. -/
theorem upsert_filterMap {β : Type} {keys : List κ} {old new : κ → Option β} {value : β}
    (hx : new x = some value) (hother : ∀ y, y ≠ x → new y = old y)
    (hold : x ∈ keys → ∃ former, old x = some former) :
    upsert Prod.fst (keys.filterMap fun y => (old y).map (y, ·)) (x, value) =
      (addFirst keys x).filterMap fun y => (new y).map (y, ·) := by
  by_cases hmem : x ∈ keys
  · obtain ⟨former, hformer⟩ := hold hmem
    have hkey : x ∈ (keys.filterMap fun y => (old y).map (y, ·)).map Prod.fst := by
      refine List.mem_map.mpr ⟨(x, former), List.mem_filterMap.mpr ⟨x, hmem, ?_⟩, rfl⟩
      simp [hformer]
    rw [upsert, if_pos hkey, addFirst, if_pos hmem, List.map_filterMap]
    apply List.filterMap_congr
    intro y _
    by_cases hy : y = x
    · subst hy
      simp [hformer, hx]
    · rw [hother y hy]
      cases old y <;> simp [hy]
  · have hkey : x ∉ (keys.filterMap fun y => (old y).map (y, ·)).map Prod.fst := by
      intro h
      obtain ⟨⟨y, former⟩, hrow, rfl⟩ := List.mem_map.mp h
      obtain ⟨z, hz, hvalue⟩ := List.mem_filterMap.mp hrow
      obtain ⟨_, -, heq⟩ := Option.map_eq_some_iff.mp hvalue
      exact hmem ((Prod.mk.inj heq).1 ▸ hz)
    rw [upsert, if_neg hkey, addFirst, if_neg hmem, List.filterMap_append]
    congr 1
    · apply List.filterMap_congr
      intro y hy
      rw [hother y]
      rintro rfl
      exact hmem hy
    · simp [hx]

end Table

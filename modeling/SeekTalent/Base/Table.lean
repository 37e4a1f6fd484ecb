import Mathlib.Data.List.Nodup

/-!
# Tables with a key

A table is a list of rows whose keys are distinct. `upsert` is
`INSERT … ON CONFLICT (key) DO UPDATE`: a row with a key that is there already takes the
place of the old one. Writing a list of rows keeps them all exactly when their keys are
distinct (`perm_filter_upsertAll_iff`). `updateWhere` is `UPDATE … WHERE`.

`Keyed` is a table with a primary key: its operations cannot make the keys clash. What they
do is said by `lookup`, the row of a key.
-/

namespace Table

variable {α κ : Type} [DecidableEq κ] (key : α → κ)

/-- Replace the row with the same key, or append. -/
def upsert (rows : List α) (row : α) : List α :=
  if key row ∈ rows.map key then rows.map fun r => if key r = key row then row else r
  else rows ++ [row]

/-- `executemany` -/
def upsertAll (rows new : List α) : List α := new.foldl (upsert key) rows

variable {key} {rows new : List α} {row x : α}

theorem map_key_upsert :
    (upsert key rows row).map key =
      if key row ∈ rows.map key then rows.map key else rows.map key ++ [key row] := by
  unfold upsert
  split
  · rw [List.map_map]
    refine List.map_congr_left fun r _ => ?_
    simp only [Function.comp_apply]
    split
    · rename_i h
      exact h.symm
    · rfl
  · rw [List.map_append, List.map_singleton]

theorem nodup_keys_upsert (h : (rows.map key).Nodup) :
    ((upsert key rows row).map key).Nodup := by
  rw [map_key_upsert]
  split
  · exact h
  · rename_i hnew
    exact h.append (List.nodup_singleton _) (by simpa using hnew)

theorem nodup_keys_upsertAll (h : (rows.map key).Nodup) :
    ((upsertAll key rows new).map key).Nodup := by
  induction new generalizing rows with
  | nil => exact h
  | cons row new ih => exact ih (nodup_keys_upsert h)

omit [DecidableEq κ] in
theorem find?_eq_some_iff {p : α → Bool} {k : κ} (h : (rows.map key).Nodup)
    (hp : ∀ r ∈ rows, p r = true → key r = k) :
    rows.find? p = some x ↔ x ∈ rows ∧ p x = true := by
  constructor
  · intro hx
    exact ⟨List.mem_of_find?_eq_some hx, List.find?_some hx⟩
  · intro hx
    obtain ⟨hx, hpx⟩ := hx
    cases hfind : rows.find? p with
    | none => exact absurd hpx (List.find?_eq_none.mp hfind x hx)
    | some y =>
      have hy := List.mem_of_find?_eq_some hfind
      have hkey := (hp y hy (List.find?_some hfind)).trans (hp x hx hpx).symm
      exact congrArg some (List.inj_on_of_nodup_map h hy hx hkey)

/-- The row with the key `k`. -/
def lookup (key : α → κ) (rows : List α) (k : κ) : Option α := rows.find? (key · = k)

theorem lookup_eq_some_iff {k : κ} (h : (rows.map key).Nodup) :
    lookup key rows k = some x ↔ x ∈ rows ∧ key x = k := by
  unfold lookup
  rw [find?_eq_some_iff h fun r _ hr => by simpa using hr, decide_eq_true_eq]

@[simp] theorem mem_upsert_iff :
    x ∈ upsert key rows row ↔ x = row ∨ x ∈ rows ∧ key x ≠ key row := by
  unfold upsert
  split
  · rename_i hold
    obtain ⟨r, hr, hkr⟩ := List.mem_map.mp hold
    simp only [List.mem_map]
    constructor
    · intro hx
      obtain ⟨y, hy, hyx⟩ := hx
      by_cases hk : key y = key row
      · exact .inl (by simpa [hk] using hyx.symm)
      · simp only [hk, if_false] at hyx
        exact .inr ⟨hyx ▸ hy, hyx ▸ hk⟩
    · intro hx
      rcases hx with rfl | ⟨hx, hk⟩
      · exact ⟨r, hr, by simp [hkr]⟩
      · exact ⟨x, hx, by simp [hk]⟩
  · rename_i hnew
    simp only [List.mem_append, List.mem_singleton]
    constructor
    · intro hx
      rcases hx with hx | hx
      · exact .inr ⟨hx, fun hk => hnew (hk ▸ List.mem_map_of_mem hx)⟩
      · exact .inl hx
    · intro hx
      rcases hx with hx | ⟨hx, -⟩
      · exact .inr hx
      · exact .inl hx

/-- `UPDATE … WHERE p` -/
def updateWhere (p : α → Bool) (f : α → α) (rows : List α) : List α :=
  rows.map fun r => if p r then f r else r

@[simp] theorem mem_updateWhere_iff {p : α → Bool} {f : α → α} :
    x ∈ updateWhere p f rows ↔ (∃ r ∈ rows, p r = true ∧ x = f r) ∨ x ∈ rows ∧ p x = false := by
  unfold updateWhere
  rw [List.mem_map]
  constructor
  · intro h
    obtain ⟨r, hr, rfl⟩ := h
    cases hp : p r with
    | true => exact .inl ⟨r, hr, hp, if_pos rfl⟩
    | false => exact .inr ⟨by simpa using hr, by simpa using hp⟩
  · intro h
    rcases h with ⟨r, hr, hp, rfl⟩ | ⟨hx, hp⟩
    · exact ⟨r, hr, if_pos hp⟩
    · exact ⟨x, hx, by simp [hp]⟩

omit [DecidableEq κ] in
theorem nodup_keys_updateWhere {p : α → Bool} {f : α → α} (h : (rows.map key).Nodup)
    (hf : ∀ r, key (f r) = key r) : ((updateWhere p f rows).map key).Nodup := by
  have hkeys : (updateWhere p f rows).map key = rows.map key := by
    unfold updateWhere
    rw [List.map_map]
    apply List.map_congr_left
    intro r _
    simp only [Function.comp_apply]
    split
    · exact hf r
    · rfl
  rw [hkeys]
  exact h

/-- An update that leaves `q` alone leaves the number of rows with `q` alone. -/
theorem countP_updateWhere {p q : α → Bool} {f : α → α} (hf : ∀ r ∈ rows, p r = true → q (f r) = q r) :
    (updateWhere p f rows).countP q = rows.countP q := by
  unfold updateWhere
  rw [List.countP_map]
  apply List.countP_congr
  intro r hr
  simp only [Function.comp_apply]
  split
  · rename_i hp
    rw [hf r hr hp]
  · rfl

/-- **Counting after an update of one row**: the row counts as it is now, not as it was. -/
theorem countP_updateWhere_key {k : κ} {q : α → Bool} {f : α → α} (h : (rows.map key).Nodup)
    (hrow : row ∈ rows) (hk : key row = k) :
    (updateWhere (fun r => decide (key r = k)) f rows).countP q + (if q row then 1 else 0) =
      rows.countP q + (if q (f row) then 1 else 0) := by
  induction rows with
  | nil => cases hrow
  | cons r rows ih =>
    obtain ⟨hr, hnodup⟩ := List.nodup_cons.mp h
    have hcons : updateWhere (fun r => decide (key r = k)) f (r :: rows) =
        (if key r = k then f r else r) :: updateWhere (fun r => decide (key r = k)) f rows := by
      simp [updateWhere]
    rw [hcons, List.countP_cons, List.countP_cons]
    rcases List.mem_cons.mp hrow with rfl | hmem
    · -- the other rows have other keys
      have hrest : (updateWhere (fun r => decide (key r = k)) f rows).countP q = rows.countP q := by
        apply countP_updateWhere
        intro r' hr' hkey
        exact absurd (List.mem_map.mpr ⟨r', hr', (of_decide_eq_true hkey).trans hk.symm⟩) hr
      rw [hrest, if_pos hk]
      omega
    · have hne : key r ≠ k := by
        intro hkey
        exact hr (List.mem_map.mpr ⟨row, hmem, hk.trans hkey.symm⟩)
      have hrest := ih hnodup hmem
      rw [if_neg hne]
      omega

theorem mem_of_mem_upsertAll (h : x ∈ upsertAll key rows new) : x ∈ rows ∨ x ∈ new := by
  induction new generalizing rows with
  | nil => exact .inl h
  | cons row new ih =>
    have hstep : x ∈ upsertAll key (upsert key rows row) new := h
    rcases ih hstep with h | h
    · rcases mem_upsert_iff.mp h with rfl | ⟨h, -⟩
      · exact .inr (by simp)
      · exact .inl h
    · exact .inr (List.mem_cons_of_mem row h)

theorem mem_map_key_upsertAll {k : κ} :
    k ∈ (upsertAll key rows new).map key ↔ k ∈ rows.map key ∨ k ∈ new.map key := by
  induction new generalizing rows with
  | nil => simp [upsertAll]
  | cons row new ih =>
    show k ∈ (upsertAll key (upsert key rows row) new).map key ↔ _
    rw [ih, map_key_upsert, List.map_cons, List.mem_cons]
    split
    · rename_i hold
      constructor
      · intro h
        rcases h with h | h
        · exact .inl h
        · exact .inr (.inr h)
      · intro h
        rcases h with h | rfl | h
        · exact .inl h
        · exact .inl hold
        · exact .inr h
    · simp [or_assoc]

theorem mem_upsertAll_of_not_mem (hx : x ∈ rows) (hkey : key x ∉ new.map key) :
    x ∈ upsertAll key rows new := by
  induction new generalizing rows with
  | nil => exact hx
  | cons row new ih =>
    rw [List.map_cons, List.mem_cons, not_or] at hkey
    exact ih (mem_upsert_iff.mpr (.inr ⟨hx, hkey.1⟩)) hkey.2

theorem mem_upsertAll_of_nodup (hnew : (new.map key).Nodup) (hx : x ∈ new) :
    x ∈ upsertAll key rows new := by
  induction new generalizing rows with
  | nil => cases hx
  | cons row new ih =>
    obtain ⟨hrow, hnew⟩ := List.nodup_cons.mp hnew
    rcases List.mem_cons.mp hx with rfl | hx
    · show x ∈ upsertAll key (upsert key rows x) new
      exact mem_upsertAll_of_not_mem (mem_upsert_iff.mpr (.inl rfl)) hrow
    · exact ih hnew hx

theorem upsertAll_eq_append (hnew : (new.map key).Nodup)
    (hfresh : ∀ row ∈ new, key row ∉ rows.map key) : upsertAll key rows new = rows ++ new := by
  induction new generalizing rows with
  | nil => simp [upsertAll]
  | cons row new ih =>
    obtain ⟨hrow, hnew⟩ := List.nodup_cons.mp hnew
    obtain ⟨hr, hfresh⟩ := List.forall_mem_cons.mp hfresh
    have hstep : upsert key rows row = rows ++ [row] := if_neg hr
    show upsertAll key (upsert key rows row) new = _
    rw [hstep, ih hnew, List.append_assoc, List.singleton_append]
    intro row' hrow' hmem
    rw [List.map_append, List.map_singleton, List.mem_append, List.mem_singleton] at hmem
    rcases hmem with hmem | hmem
    · exact hfresh row' hrow' hmem
    · exact hrow (hmem ▸ List.mem_map_of_mem hrow')

/-- **What a reader finds of the rows written.** Among rows of a kind the table did not
    have, it finds exactly the rows written when, and only when, their keys are distinct. -/
theorem perm_filter_upsertAll_iff {p : α → Bool} (hrows : (rows.map key).Nodup)
    (hold : ∀ r ∈ rows, p r = false) (hp : ∀ r ∈ new, p r = true)
    (hfresh : ∀ row ∈ new, key row ∉ rows.map key) :
    ((upsertAll key rows new).filter p).Perm new ↔ (new.map key).Nodup := by
  constructor
  · intro hperm
    have hkeys := (hperm.map key).nodup_iff.mp
      ((nodup_keys_upsertAll hrows).sublist (List.filter_sublist.map key))
    exact hkeys
  · intro hnew
    rw [upsertAll_eq_append hnew hfresh, List.filter_append,
      List.filter_eq_nil_iff.mpr (by simpa using hold), List.filter_eq_self.mpr hp,
      List.nil_append]

end Table

/-! ## Tables with a primary key -/

structure Keyed {α κ : Type} (key : α → κ) where
  rows : List α := []
  nodup : (rows.map key).Nodup := by exact List.nodup_nil

namespace Keyed

variable {α κ : Type} [DecidableEq κ] {key : α → κ} {t t' : Keyed key} {row r : α} {k : κ}
variable {p : α → Bool} {f : α → α}

/-- The row with the key `k`. -/
def lookup (t : Keyed key) (k : κ) : Option α := Table.lookup key t.rows k

/-- `INSERT`: a key that is there already violates the constraint. -/
def insert (t : Keyed key) (row : α) : Option (Keyed key) :=
  if h : key row ∈ t.rows.map key then none
  else
    some
      { rows := t.rows ++ [row]
        nodup := by
          rw [List.map_append, List.map_singleton]
          exact t.nodup.append (List.nodup_singleton _) (by simpa using h) }

/-- `UPDATE … WHERE p`, of columns that are not the key. -/
def update (t : Keyed key) (p : α → Bool) (f : α → α) (hf : ∀ r, key (f r) = key r) :
    Keyed key where
  rows := Table.updateWhere p f t.rows
  nodup := Table.nodup_keys_updateWhere t.nodup hf

/-- `INSERT … ON CONFLICT (key) DO UPDATE`: the row that is there is merged with the new one. -/
def insertOrUpdate (t : Keyed key) (row : α) (merge : α → α)
    (hmerge : ∀ r, key (merge r) = key r) : Keyed key :=
  match t.insert row with
  | some t' => t'
  | none => t.update (fun r => decide (key r = key row)) merge hmerge

theorem lookup_eq_some_iff : t.lookup k = some r ↔ r ∈ t.rows ∧ key r = k :=
  Table.lookup_eq_some_iff t.nodup

theorem mem_rows_iff : r ∈ t.rows ↔ t.lookup (key r) = some r := by
  simp [lookup_eq_some_iff]

theorem lookup_eq_none_iff : t.lookup k = none ↔ k ∉ t.rows.map key := by
  simp [lookup, Table.lookup]

theorem key_of_lookup (h : t.lookup k = some r) : key r = k := (lookup_eq_some_iff.mp h).2

@[simp] theorem lookup_update (hf : ∀ r, key (f r) = key r) :
    (t.update p f hf).lookup k = (t.lookup k).map fun r => if p r then f r else r := by
  show Table.lookup key (Table.updateWhere p f t.rows) k = _
  unfold Table.lookup Table.updateWhere lookup Table.lookup
  have hkey : ((fun r => decide (key r = k)) ∘ fun r => if p r then f r else r) =
      fun r => decide (key r = k) := by
    funext r
    simp only [Function.comp_apply]
    split
    · rw [hf]
    · rfl
  rw [List.find?_map, hkey]

/-- `UPDATE … WHERE key = k` -/
theorem lookup_update_key {k₀ : κ} (hf : ∀ r, key (f r) = key r) :
    (t.update (fun r => decide (key r = k₀)) f hf).lookup k =
      if k = k₀ then (t.lookup k).map f else t.lookup k := by
  rw [lookup_update]
  cases hrow : t.lookup k with
  | none => simp
  | some r =>
    rw [← key_of_lookup hrow]
    simp only [Option.map_some, decide_eq_true_eq]
    split
    · rfl
    · rfl

theorem insert_eq_some_iff : (∃ t', t.insert row = some t') ↔ t.lookup (key row) = none := by
  rw [lookup_eq_none_iff]
  unfold insert
  split
  · rename_i h
    simp [h]
  · rename_i h
    simp [h]

theorem lookup_insert (h : t.insert row = some t') :
    t.lookup (key row) = none ∧ ∀ k, t'.lookup k = if key row = k then some row else t.lookup k := by
  have hnone := insert_eq_some_iff.mp ⟨t', h⟩
  refine ⟨hnone, fun k => ?_⟩
  unfold insert at h
  split at h
  · cases h
  · obtain rfl := Option.some.inj h
    show Table.lookup key (t.rows ++ [row]) k = _
    unfold Table.lookup
    rw [List.find?_append]
    split
    · rename_i hk
      subst hk
      have hfind : t.rows.find? (key · = key row) = none := hnone
      simp [hfind]
    · rename_i hk
      simp [hk, lookup, Table.lookup]

theorem rows_insert (h : t.insert row = some t') : t'.rows = t.rows ++ [row] := by
  unfold insert at h
  split at h
  · cases h
  · obtain rfl := Option.some.inj h
    rfl

omit [DecidableEq κ] in
theorem countP_update {q : α → Bool} (hf : ∀ r, key (f r) = key r)
    (hq : ∀ r ∈ t.rows, p r = true → q (f r) = q r) :
    (t.update p f hf).rows.countP q = t.rows.countP q := Table.countP_updateWhere hq

theorem countP_update_key {q : α → Bool} (hf : ∀ r, key (f r) = key r)
    (hrow : t.lookup k = some row) :
    (t.update (fun r => decide (key r = k)) f hf).rows.countP q + (if q row then 1 else 0) =
      t.rows.countP q + (if q (f row) then 1 else 0) := by
  obtain ⟨hmem, hk⟩ := lookup_eq_some_iff.mp hrow
  exact Table.countP_updateWhere_key t.nodup hmem hk

theorem countP_insert {q : α → Bool} (h : t.insert row = some t') :
    t'.rows.countP q = t.rows.countP q + (if q row then 1 else 0) := by
  rw [rows_insert h, List.countP_append, List.countP_singleton]

theorem lookup_insertOrUpdate (hmerge : ∀ r, key (f r) = key r) :
    (t.insertOrUpdate row f hmerge).lookup k =
      if key row = k then some ((t.lookup k).elim row f) else t.lookup k := by
  unfold insertOrUpdate
  cases hinsert : t.insert row with
  | some t' =>
    obtain ⟨hnone, hlookup⟩ := lookup_insert hinsert
    dsimp only
    rw [hlookup]
    split
    · rename_i hk
      rw [← hk, hnone]
      rfl
    · rfl
  | none =>
    dsimp only
    rw [lookup_update]
    have hsome : t.lookup (key row) ≠ none := by
      intro hnone
      obtain ⟨t', ht'⟩ := insert_eq_some_iff.mpr hnone
      rw [hinsert] at ht'
      cases ht'
    cases hrow : t.lookup k with
    | none =>
      split
      · rename_i hk
        exact absurd (hk ▸ hrow) hsome
      · rfl
    | some r =>
      have hk := key_of_lookup hrow
      by_cases hkey : key row = k
      · simp [hk, hkey]
      · simp [hk, hkey, Ne.symm hkey]

theorem mem_keys_iff : k ∈ t.rows.map key ↔ ∃ r, t.lookup k = some r := by
  rw [← Option.isSome_iff_exists, Option.isSome_iff_ne_none, Ne, lookup_eq_none_iff, not_not]

theorem mem_keys_insertOrUpdate (hmerge : ∀ r, key (f r) = key r) :
    k ∈ (t.insertOrUpdate row f hmerge).rows.map key ↔ k = key row ∨ k ∈ t.rows.map key := by
  rw [mem_keys_iff, mem_keys_iff, lookup_insertOrUpdate]
  by_cases hk : key row = k
  · simp [hk]
  · simp [hk, Ne.symm hk]

/-- What holds of the new row and of the old ones, and is kept by the merge, holds of every row. -/
theorem forall_insertOrUpdate {P : α → Prop} (hmerge : ∀ r, key (f r) = key r) (hnew : P row)
    (hold : ∀ r ∈ t.rows, key r ≠ key row → P r)
    (hmerged : ∀ r ∈ t.rows, key r = key row → P (f r)) :
    ∀ r ∈ (t.insertOrUpdate row f hmerge).rows, P r := by
  intro r hr
  rw [mem_rows_iff, lookup_insertOrUpdate] at hr
  split at hr
  · rename_i hk
    cases hlookup : t.lookup (key r) with
    | none =>
      rw [hlookup] at hr
      obtain rfl := Option.some.inj hr
      exact hnew
    | some old =>
      rw [hlookup] at hr
      obtain rfl := Option.some.inj hr
      obtain ⟨hmem, hkey⟩ := lookup_eq_some_iff.mp hlookup
      exact hmerged old hmem (hkey.trans hk.symm)
  · rename_i hk
    exact hold r (mem_rows_iff.mpr hr) (Ne.symm hk)

theorem mem_insertOrUpdate_of_mem (hmerge : ∀ r, key (f r) = key r) (h : r ∈ t.rows) :
    (if key row = key r then f r else r) ∈ (t.insertOrUpdate row f hmerge).rows := by
  have hrow : t.lookup (key r) = some r := mem_rows_iff.mp h
  rw [mem_rows_iff, lookup_insertOrUpdate]
  by_cases hk : key row = key r
  · rw [if_pos hk, hmerge, if_pos hk, hrow]
    rfl
  · rw [if_neg hk, if_neg hk, hrow]

/-- Rows that are not counted, before and after. -/
theorem countP_insertOrUpdate {q : α → Bool} (hmerge : ∀ r, key (f r) = key r) (hnew : q row = false)
    (hmerged : ∀ r ∈ t.rows, key r = key row → q (f r) = q r) :
    (t.insertOrUpdate row f hmerge).rows.countP q = t.rows.countP q := by
  unfold insertOrUpdate
  cases hinsert : t.insert row with
  | some t' =>
    dsimp only
    rw [countP_insert hinsert, hnew]
    rfl
  | none =>
    dsimp only
    apply countP_update
    intro r hr hk
    exact hmerged r hr (of_decide_eq_true hk)

/-! ## A map: rows are put in the place of the old one, and deleted -/

/-- `map.set`: the row with the same key is replaced. -/
def put (t : Keyed key) (row : α) : Keyed key where
  rows := Table.upsert key t.rows row
  nodup := Table.nodup_keys_upsert t.nodup

def others (t : Keyed key) (k : κ) : List α := t.rows.filter fun r => decide (key r ≠ k)

theorem nodup_others : ((t.others k).map key).Nodup :=
  t.nodup.sublist (List.filter_sublist.map key)

def delete (t : Keyed key) (k : κ) : Keyed key where
  rows := t.others k
  nodup := nodup_others

theorem nodup_cons_others : (row :: t.others (key row)).Nodup := by
  apply List.nodup_cons.mpr
  constructor
  · simp [others]
  · exact nodup_others.of_map

theorem perm_of_lookup (h : t.lookup k = some row) : t.rows.Perm (row :: t.others k) := by
  obtain ⟨hmem, hkey⟩ := lookup_eq_some_iff.mp h
  subst hkey
  apply (List.perm_ext_iff_of_nodup t.nodup.of_map nodup_cons_others).mpr
  intro r
  simp only [others, List.mem_cons, List.mem_filter, decide_eq_true_eq]
  constructor
  · intro hr
    by_cases hk : key r = key row
    · exact .inl (List.inj_on_of_nodup_map t.nodup hr hmem hk)
    · exact .inr ⟨hr, hk⟩
  · intro hr
    rcases hr with rfl | ⟨hr, -⟩
    · exact hmem
    · exact hr

theorem others_of_lookup_none (h : t.lookup k = none) : t.others k = t.rows := by
  rw [lookup_eq_none_iff] at h
  apply List.filter_eq_self.mpr
  intro r hr
  have hne : key r ≠ k := by
    intro hk
    exact h (hk ▸ List.mem_map_of_mem hr)
  simp [hne]

theorem lookup_put : (t.put row).lookup k = if key row = k then some row else t.lookup k := by
  apply Option.ext
  intro r
  rw [lookup_eq_some_iff]
  show r ∈ Table.upsert key t.rows row ∧ key r = k ↔ _
  rw [Table.mem_upsert_iff]
  split
  · rename_i hk
    subst hk
    constructor
    · intro hr
      rcases hr.1 with rfl | ⟨-, hne⟩
      · rfl
      · exact absurd hr.2 hne
    · intro hr
      obtain rfl := Option.some.inj hr
      exact ⟨.inl rfl, rfl⟩
  · rename_i hk
    rw [lookup_eq_some_iff]
    constructor
    · intro hr
      rcases hr.1 with rfl | ⟨hmem, -⟩
      · exact absurd hr.2 hk
      · exact ⟨hmem, hr.2⟩
    · intro hr
      refine ⟨.inr ⟨hr.1, ?_⟩, hr.2⟩
      rw [hr.2]
      exact Ne.symm hk

theorem perm_put : (t.put row).rows.Perm (row :: t.others (key row)) := by
  apply (List.perm_ext_iff_of_nodup (t.put row).nodup.of_map nodup_cons_others).mpr
  intro r
  simp [put, others]

end Keyed

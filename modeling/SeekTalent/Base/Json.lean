import Mathlib.Data.Rat.Defs
import SeekTalent.Base.PyText

/-!
# JSON values

What `json.loads` makes of a text: an object is the list of its members, in order.
-/

namespace SeekTalent

inductive Json where
  | null
  | bool (value : Bool)
  | number (value : ℚ)
  | string (value : String)
  | array (items : List Json)
  | object (members : List (String × Json))

/-- A `dict` with texts as keys. -/
abbrev JsonObject := List (String × Json)

namespace Json

/-- `bool(value)` -/
def truthy : Json → Bool
  | null => false
  | bool value => value
  | number value => value ≠ 0
  | string value => value ≠ ""
  | array items => !items.isEmpty
  | object members => !members.isEmpty

/-- The text that a value is, if it is one. -/
def text? : Json → Option String
  | string value => some value
  | _ => none

end Json

namespace JsonObject

/-- `mapping.get(key)` -/
def get (mapping : JsonObject) (key : String) : Option Json :=
  (mapping.find? fun member => member.1 = key).map (·.2)

/-- `mapping.get(key) or mapping.get(other)` -/
def getOr (mapping : JsonObject) (key other : String) : Option Json :=
  match mapping.get key with
  | some value => if value.truthy then some value else mapping.get other
  | none => mapping.get other

/-- `mapping[key] = value` -/
def set (mapping : JsonObject) (key : String) (value : Json) : JsonObject :=
  if mapping.any fun member => member.1 = key then
    mapping.map fun member => if member.1 = key then (key, value) else member
  else mapping ++ [(key, value)]

section Set

variable {mapping : JsonObject} {key key' : String} {value : Json}

theorem get_cons (member : String × Json) :
    get (member :: mapping) key = if member.1 = key then some member.2 else mapping.get key := by
  unfold get
  by_cases h : member.1 = key
  · simp [h]
  · simp [h]

theorem get_append (members : JsonObject) :
    get (mapping ++ members) key = (mapping.get key).or (members.get key) := by
  unfold get
  rw [List.find?_append]
  cases mapping.find? fun member => member.1 = key <;> simp

theorem get_eq_none_iff : mapping.get key = none ↔ key ∉ mapping.map (·.1) := by
  unfold get
  rw [Option.map_eq_none_iff, List.find?_eq_none, List.mem_map, not_exists]
  apply forall_congr'
  intro member
  simp

theorem get_replace :
    get (mapping.map fun member => if member.1 = key then (key, value) else member) key' =
      if key = key' then (mapping.get key').map fun _ => value else mapping.get key' := by
  induction mapping with
  | nil => simp [get]
  | cons member mapping ih =>
    rw [List.map_cons, get_cons, get_cons, ih]
    by_cases hmember : member.1 = key
    · by_cases hkey : key = key'
      · simp [hmember, hkey]
      · simp [hmember, hkey]
    · by_cases hkey : key = key'
      · simp [hkey ▸ hmember, hkey]
      · simp [hmember, hkey]

theorem get_set : (mapping.set key value).get key' =
    if key = key' then some value else mapping.get key' := by
  unfold set
  split
  · rename_i hany
    rw [get_replace]
    by_cases hkey : key = key'
    · have hsome : mapping.get key' ≠ none := by
        rw [Ne, get_eq_none_iff, not_not, ← hkey]
        simpa using hany
      obtain ⟨old, hold⟩ := Option.ne_none_iff_exists'.mp hsome
      simp [hkey, hold]
    · simp [hkey]
  · rename_i hany
    rw [get_append, get_cons]
    by_cases hkey : key = key'
    · have hnone : mapping.get key' = none := by
        rw [get_eq_none_iff, ← hkey]
        simpa using hany
      simp [hkey, hnone]
    · have hnil : get [] key' = none := rfl
      simp [hkey, hnil]

/-- A `dict` stays one. -/
theorem nodup_keys_set (h : (mapping.map (·.1)).Nodup) :
    ((mapping.set key value).map (·.1)).Nodup := by
  unfold set
  split
  · have hkeys : (mapping.map fun member => if member.1 = key then (key, value) else member).map
        (·.1) = mapping.map (·.1) := by
      rw [List.map_map]
      apply List.map_congr_left
      intro member _
      by_cases hmember : member.1 = key
      · simp [hmember]
      · simp [hmember]
    rw [hkeys]
    exact h
  · rename_i hany
    rw [List.map_append]
    apply h.append (List.nodup_singleton key)
    simpa [List.disjoint_singleton] using hany

end Set

end JsonObject

end SeekTalent

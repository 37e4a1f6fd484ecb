import SeekTalent.Base.Json

/-!
# JSON values as trees

The rule of induction for JSON values, and what stands in a value at any depth.
-/

namespace SeekTalent

namespace Json

/-- **The rule for JSON values**: a property of the items is one of the array, and so on. -/
theorem induction {P : Json → Prop} (null : P .null) (bool : ∀ value, P (.bool value))
    (number : ∀ value, P (.number value)) (string : ∀ value, P (.string value))
    (array : ∀ items, (∀ item ∈ items, P item) → P (.array items))
    (object : ∀ members, (∀ member ∈ members, P member.2) → P (.object members)) (value : Json) :
    P value := by
  refine @Json.rec P (fun items => ∀ item ∈ items, P item)
    (fun members => ∀ member ∈ members, P member.2) (fun member => P member.2)
    null bool number string array object ?_ ?_ ?_ ?_ ?_ value
  · simp
  · intro item items hitem hitems
    exact List.forall_mem_cons.mpr ⟨hitem, hitems⟩
  · simp
  · intro member members hmember hmembers
    exact List.forall_mem_cons.mpr ⟨hmember, hmembers⟩
  · exact fun _ _ h => h

/-- The second value stands in the first one, at some depth. -/
inductive Part : Json → Json → Prop
  | self (value : Json) : Part value value
  | item {items : List Json} {item part : Json} (hitem : item ∈ items) (hpart : Part item part) :
    Part (.array items) part
  | member {members : List (String × Json)} {member : String × Json} {part : Json}
    (hmember : member ∈ members) (hpart : Part member.2 part) : Part (.object members) part

end Json

end SeekTalent

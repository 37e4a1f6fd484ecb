import Mathlib.Data.List.Infix
import Mathlib.Data.List.Sort
import SeekTalent.Base.JsonText
import SeekTalent.Base.JsonTree

/-!
# JSON values with hidden members

Some keys are hidden: what a mapping stores under them, at any depth, should not matter. `overwrite`
puts one value in the place of all that is stored so, and two values are the same but for what is
hidden if overwriting makes them equal (`SameBut`).

`dumped` is `json.dumps`. What is looked for in the text of a value that is overwritten by `[]`, and
has no bracket itself, is found in the text of every value that is the same but for what is hidden
(`Covers.dumped`).
-/

namespace SeekTalent

namespace Json

/-! ## 1. Hidden members -/

section Hidden

variable (hidden : String → Bool)

mutual

/-- Some mapping of the value, at any depth, has a hidden key. -/
def hasHidden : Json → Bool
  | .array items => hasHiddenItem items
  | .object members => hasHiddenMember members
  | .null => false
  | .bool _ => false
  | .number _ => false
  | .string _ => false

def hasHiddenItem : List Json → Bool
  | [] => false
  | item :: items => hasHidden item || hasHiddenItem items

def hasHiddenMember : List (String × Json) → Bool
  | [] => false
  | (key, value) :: members => hidden key || hasHidden value || hasHiddenMember members

end

variable (new : Json)

mutual

/-- Every value that is stored under a hidden key is overwritten. -/
def overwrite : Json → Json
  | .array items => .array (overwriteItems items)
  | .object members => .object (overwriteMembers members)
  | .null => .null
  | .bool value => .bool value
  | .number value => .number value
  | .string value => .string value

def overwriteItems : List Json → List Json
  | [] => []
  | item :: items => overwrite item :: overwriteItems items

def overwriteMembers : List (String × Json) → List (String × Json)
  | [] => []
  | (key, value) :: members =>
    (key, if hidden key then new else overwrite value) :: overwriteMembers members

end

/-- The two values are the same but for what is stored under hidden keys. -/
def SameBut (value other : Json) : Prop :=
  overwrite hidden (.array []) value = overwrite hidden (.array []) other

variable {hidden new}

def overwriteMember (hidden : String → Bool) (new : Json) (member : String × Json) : String × Json :=
  (member.1, if hidden member.1 then new else overwrite hidden new member.2)

theorem overwriteItems_eq (items : List Json) :
    overwriteItems hidden new items = items.map (overwrite hidden new) := by
  induction items with
  | nil => rw [overwriteItems, List.map_nil]
  | cons item items ih => rw [overwriteItems, ih, List.map_cons]

theorem overwriteMembers_eq (members : List (String × Json)) :
    overwriteMembers hidden new members = members.map (overwriteMember hidden new) := by
  induction members with
  | nil => rw [overwriteMembers, List.map_nil]
  | cons member members ih =>
    obtain ⟨key, value⟩ := member
    rw [overwriteMembers, ih, List.map_cons]
    rfl

theorem overwrite_array (items : List Json) :
    overwrite hidden new (.array items) = .array (items.map (overwrite hidden new)) := by
  rw [overwrite, overwriteItems_eq]

theorem overwrite_object (members : List (String × Json)) :
    overwrite hidden new (.object members) =
      .object (members.map (overwriteMember hidden new)) := by
  rw [overwrite, overwriteMembers_eq]

theorem hasHidden_array (items : List Json) :
    hasHidden hidden (.array items) = items.any (hasHidden hidden) := by
  rw [hasHidden]
  induction items with
  | nil => rw [hasHiddenItem, List.any_nil]
  | cons item items ih => rw [hasHiddenItem, ih, List.any_cons]

theorem hasHidden_object (members : List (String × Json)) :
    hasHidden hidden (.object members) =
      members.any fun member => hidden member.1 || hasHidden hidden member.2 := by
  rw [hasHidden]
  induction members with
  | nil => rw [hasHiddenMember, List.any_nil]
  | cons member members ih =>
    obtain ⟨key, value⟩ := member
    rw [hasHiddenMember, ih, List.any_cons]

theorem overwrite_of_clear {value : Json} (h : hasHidden hidden value = false) :
    overwrite hidden new value = value := by
  induction value using Json.induction with
  | null => rfl
  | bool value => rfl
  | number value => rfl
  | string value => rfl
  | array items ih =>
    rw [hasHidden_array, List.any_eq_false] at h
    rw [overwrite_array]
    congr 1
    conv => rhs; rw [← List.map_id items]
    apply List.map_congr_left
    intro item hitem
    exact ih item hitem (by simpa using h item hitem)
  | object members ih =>
    rw [hasHidden_object, List.any_eq_false] at h
    rw [overwrite_object]
    congr 1
    conv => rhs; rw [← List.map_id members]
    apply List.map_congr_left
    intro member hmember
    have hmem := h member hmember
    simp only [Bool.or_eq_true, not_or, Bool.not_eq_true] at hmem
    show (member.1, if hidden member.1 then new else overwrite hidden new member.2) = member
    rw [hmem.1, ih member hmember hmem.2]
    rfl

theorem hasHidden_overwrite {value : Json} :
    hasHidden hidden (overwrite hidden new value) = hasHidden hidden value := by
  induction value using Json.induction with
  | null => rfl
  | bool value => rfl
  | number value => rfl
  | string value => rfl
  | array items ih =>
    rw [overwrite_array, hasHidden_array, hasHidden_array, List.any_map, Bool.eq_iff_iff,
      List.any_eq_true, List.any_eq_true]
    exact exists_congr fun item => and_congr_right fun hitem => by
      rw [Function.comp_apply, ih item hitem]
  | object members ih =>
    rw [overwrite_object, hasHidden_object, hasHidden_object, List.any_map, Bool.eq_iff_iff,
      List.any_eq_true, List.any_eq_true]
    refine exists_congr fun member => and_congr_right fun hmember => ?_
    rw [Function.comp_apply]
    show (hidden member.1 || hasHidden hidden
      (if hidden member.1 then new else overwrite hidden new member.2)) = true ↔ _
    cases hkey : hidden member.1 with
    | true => simp
    | false =>
      simp only [Bool.false_or, Bool.false_eq_true, if_false]
      rw [ih member hmember]

theorem overwrite_overwrite {old value : Json} :
    overwrite hidden new (overwrite hidden old value) = overwrite hidden new value := by
  induction value using Json.induction with
  | null => rfl
  | bool value => rfl
  | number value => rfl
  | string value => rfl
  | array items ih =>
    rw [overwrite_array, overwrite_array, overwrite_array, List.map_map]
    exact congrArg Json.array (List.map_congr_left ih)
  | object members ih =>
    rw [overwrite_object, overwrite_object, overwrite_object, List.map_map]
    refine congrArg Json.object (List.map_congr_left fun member hmember => ?_)
    show (member.1, if hidden member.1 then new else overwrite hidden new
      (if hidden member.1 then old else overwrite hidden old member.2)) = _
    cases hkey : hidden member.1 with
    | true => simp [overwriteMember, hkey]
    | false =>
      simp only [Bool.false_eq_true, if_false, overwriteMember, hkey]
      rw [ih member hmember]

theorem sameBut_overwrite (value : Json) : SameBut hidden (overwrite hidden new value) value :=
  overwrite_overwrite

theorem SameBut.eq_of_clear {value other : Json} (h : SameBut hidden value other)
    (hclear : hasHidden hidden other = false) : value = other := by
  have hkeys := congrArg (hasHidden hidden) h
  rw [hasHidden_overwrite, hasHidden_overwrite, hclear] at hkeys
  unfold SameBut at h
  rwa [overwrite_of_clear hkeys, overwrite_of_clear hclear] at h

end Hidden

/-! ## 2. `json.dumps(value, ensure_ascii=False, sort_keys=True)` -/

mutual

/-- Every mapping in the order of its keys. -/
def sortKeys : Json → Json
  | .array items => .array (sortItems items)
  | .object members => .object (Py.sortedBy Prod.fst (sortMembers members))
  | .null => .null
  | .bool value => .bool value
  | .number value => .number value
  | .string value => .string value

def sortItems : List Json → List Json
  | [] => []
  | item :: items => sortKeys item :: sortItems items

def sortMembers : List (String × Json) → List (String × Json)
  | [] => []
  | (key, value) :: members => (key, sortKeys value) :: sortMembers members

end

section Dump

variable (numberText : ℚ → String)

def quotedText (text : String) : List Char := '"' :: text.toList.flatMap escapeControl ++ ['"']

mutual

/-- The text of a value whose mappings are in order. -/
def dumped : Json → List Char
  | .null => "null".toList
  | .bool true => "true".toList
  | .bool false => "false".toList
  | .number value => (numberText value).toList
  | .string value => quotedText value
  | .array items => '[' :: dumpedItems items ++ [']']
  | .object members => '{' :: dumpedMembers members ++ ['}']

def dumpedItems : List Json → List Char
  | [] => []
  | [item] => dumped item
  | item :: next :: items => dumped item ++ (", ".toList ++ dumpedItems (next :: items))

def dumpedMembers : List (String × Json) → List Char
  | [] => []
  | [(key, value)] => quotedText key ++ (": ".toList ++ dumped value)
  | (key, value) :: next :: members =>
    quotedText key ++ (": ".toList ++ (dumped value ++ (", ".toList ++
      dumpedMembers (next :: members))))

end

end Dump

theorem sortItems_eq (items : List Json) : sortItems items = items.map sortKeys := by
  induction items with
  | nil => rw [sortItems, List.map_nil]
  | cons item items ih => rw [sortItems, ih, List.map_cons]

theorem sortMembers_eq (members : List (String × Json)) :
    sortMembers members = members.map fun member => (member.1, sortKeys member.2) := by
  induction members with
  | nil => rw [sortMembers, List.map_nil]
  | cons member members ih =>
    obtain ⟨key, value⟩ := member
    rw [sortMembers, ih, List.map_cons]

theorem sortKeys_array (items : List Json) :
    sortKeys (.array items) = .array (items.map sortKeys) := by
  rw [sortKeys, sortItems_eq]

theorem sortKeys_object (members : List (String × Json)) :
    sortKeys (.object members) =
      .object (Py.sortedBy Prod.fst (members.map fun member => (member.1, sortKeys member.2))) := by
  rw [sortKeys, sortMembers_eq]

section Hidden

variable {hidden : String → Bool} {new : Json}

theorem sortKeys_overwrite (hnew : sortKeys new = new) (value : Json) :
    sortKeys (overwrite hidden new value) = overwrite hidden new (sortKeys value) := by
  induction value using Json.induction with
  | null => rfl
  | bool value => rfl
  | number value => rfl
  | string value => rfl
  | array items ih =>
    rw [overwrite_array, sortKeys_array, sortKeys_array, overwrite_array, List.map_map, List.map_map]
    exact congrArg Json.array (List.map_congr_left ih)
  | object members ih =>
    rw [overwrite_object, sortKeys_object, sortKeys_object, overwrite_object]
    congr 1
    unfold Py.sortedBy
    rw [List.map_insertionSort _ (fun (a b : String × Json) => a.1 ≤ b.1)]
    · rw [List.map_map, List.map_map]
      congr 1
      apply List.map_congr_left
      intro member hmember
      show (member.1, sortKeys (if hidden member.1 then new else overwrite hidden new member.2)) =
        (member.1, if hidden member.1 then new else overwrite hidden new (sortKeys member.2))
      split
      · rw [hnew]
      · rw [ih member hmember]
    · intro a _ b _
      exact Iff.rfl

theorem hasHidden_sortKeys (value : Json) :
    hasHidden hidden (sortKeys value) = hasHidden hidden value := by
  induction value using Json.induction with
  | null => rfl
  | bool value => rfl
  | number value => rfl
  | string value => rfl
  | array items ih =>
    rw [sortKeys_array, hasHidden_array, hasHidden_array, List.any_map, Bool.eq_iff_iff,
      List.any_eq_true, List.any_eq_true]
    exact exists_congr fun item => and_congr_right fun hitem => by
      rw [Function.comp_apply, ih item hitem]
  | object members ih =>
    rw [sortKeys_object, hasHidden_object, hasHidden_object, Bool.eq_iff_iff, List.any_eq_true,
      List.any_eq_true]
    constructor
    · intro h
      obtain ⟨sorted, hsorted, hhidden⟩ := h
      rw [(Py.perm_sortedBy).mem_iff] at hsorted
      obtain ⟨member, hmember, rfl⟩ := List.mem_map.mp hsorted
      rw [ih member hmember] at hhidden
      exact ⟨member, hmember, hhidden⟩
    · intro h
      obtain ⟨member, hmember, hhidden⟩ := h
      refine ⟨(member.1, sortKeys member.2), ?_, by rwa [ih member hmember]⟩
      rw [(Py.perm_sortedBy).mem_iff]
      exact List.mem_map_of_mem hmember

end Hidden

/-! ## 3. What is found in a text -/

theorem infix_of_infix_append_cons {needle left right : List Char} {c : Char} (hc : c ∉ needle)
    (h : needle <:+: left ++ c :: right) : needle <:+: left ∨ needle <:+: right := by
  obtain ⟨s, t, hsplit⟩ := h
  rcases List.append_eq_append_iff.mp hsplit with ⟨rest, hleft, -⟩ | ⟨rest, hleft, hright⟩
  · exact .inl ⟨s, rest, hleft.symm⟩
  cases rest with
  | nil => exact .inl ⟨s, [], by simpa using hleft⟩
  | cons d rest =>
    obtain ⟨rfl, rfl⟩ := List.cons.inj hright
    rcases List.append_eq_append_iff.mp hleft with ⟨mid, -, hneedle⟩ | ⟨mid, -, hneedle⟩
    · rw [hneedle] at hc
      exact absurd (List.mem_append_right _ List.mem_cons_self) hc
    · cases mid with
      | nil =>
        rw [List.nil_append] at hneedle
        rw [← hneedle] at hc
        exact absurd List.mem_cons_self hc
      | cons e mid =>
        obtain ⟨-, rfl⟩ := List.cons.inj hneedle
        exact .inr ⟨mid, t, rfl⟩

/-- What is found in the one text, with anything around it, is found in the other. -/
def Covers (needle text other : List Char) : Prop :=
  ∀ left right, needle <:+: left ++ text ++ right → needle <:+: left ++ other ++ right

namespace Covers

variable {needle text other text' other' : List Char}

theorem refl (needle text : List Char) : Covers needle text text := fun _ _ h => h

theorem append (h : Covers needle text other) (h' : Covers needle text' other') :
    Covers needle (text ++ text') (other ++ other') := by
  intro left right hfound
  have hfirst := h left (text' ++ right) (by simpa [List.append_assoc] using hfound)
  have hsecond := h' (left ++ other) right (by simpa [List.append_assoc] using hfirst)
  simpa [List.append_assoc] using hsecond

theorem found (h : Covers needle text other) (hfound : needle <:+: text) : needle <:+: other := by
  have hboth := h [] [] (by simpa using hfound)
  simpa using hboth

theorem brackets (hopen : '[' ∉ needle) (hclose : ']' ∉ needle) : Covers needle ['[', ']'] other := by
  intro left right hfound
  rw [List.append_assoc] at hfound ⊢
  rcases infix_of_infix_append_cons hopen hfound with hleft | hfound
  · exact hleft.trans (List.prefix_append _ _).isInfix
  · have hclosed : needle <:+: [] ++ ']' :: right := hfound
    rcases infix_of_infix_append_cons hclose hclosed with hnil | hright
    · exact hnil.trans List.nil_infix
    · exact hright.trans ((List.suffix_append _ _).trans (List.suffix_append _ _)).isInfix

variable {hidden : String → Bool} {numberText : ℚ → String} {lower : Char → List Char}

/-- **Overwritten by `[]`**: what is found in the text is found whatever is stored there. -/
theorem dumped (hopen : '[' ∉ needle) (hclose : ']' ∉ needle) (hlower : lower '[' = ['['])
    (hlower' : lower ']' = [']']) (value : Json) :
    Covers needle ((dumped numberText (overwrite hidden (.array []) value)).flatMap lower)
      ((dumped numberText value).flatMap lower) := by
  induction value using Json.induction with
  | null => exact refl _ _
  | bool value => exact refl _ _
  | number value => exact refl _ _
  | string value => exact refl _ _
  | array items ih =>
    have hitems : Covers needle
        ((dumpedItems numberText (items.map (overwrite hidden (.array [])))).flatMap lower)
          ((dumpedItems numberText items).flatMap lower) := by
      induction items with
      | nil => exact refl _ _
      | cons item items ih' =>
        cases items with
        | nil => exact ih item List.mem_cons_self
        | cons next items =>
          simp only [List.map_cons, dumpedItems, List.flatMap_append]
          refine (ih item List.mem_cons_self).append ((refl _ _).append ?_)
          exact ih' fun item hitem => ih item (List.mem_cons_of_mem _ hitem)
    rw [overwrite_array]
    simp only [Json.dumped, List.flatMap_append, List.flatMap_cons]
    exact ((refl _ _).append hitems).append (refl _ _)
  | object members ih =>
    have hmember : ∀ member ∈ members, Covers needle
        ((Json.dumped numberText (overwriteMember hidden (.array []) member).2).flatMap lower)
          ((Json.dumped numberText member.2).flatMap lower) := by
      intro member hmember
      show Covers needle ((Json.dumped numberText (if hidden member.1 then Json.array [] else
        overwrite hidden (.array []) member.2)).flatMap lower) _
      split
      · have hbrackets : (Json.dumped numberText (.array [])).flatMap lower = ['[', ']'] := by
          show lower '[' ++ (lower ']' ++ []) = _
          rw [hlower, hlower']
          rfl
        rw [hbrackets]
        exact brackets hopen hclose
      · exact ih member hmember
    have hmembers : Covers needle
        ((dumpedMembers numberText (members.map (overwriteMember hidden (.array [])))).flatMap lower)
          ((dumpedMembers numberText members).flatMap lower) := by
      clear ih
      induction members with
      | nil => exact refl _ _
      | cons member members ih' =>
        have hfirst := hmember member List.mem_cons_self
        cases members with
        | nil =>
          obtain ⟨key, value⟩ := member
          simp only [List.map_cons, List.map_nil, overwriteMember, dumpedMembers,
            List.flatMap_append]
          exact (refl _ _).append ((refl _ _).append hfirst)
        | cons next members =>
          obtain ⟨key, value⟩ := member
          have hrest := ih' fun member hmem => hmember member (List.mem_cons_of_mem _ hmem)
          simp only [List.map_cons, overwriteMember, dumpedMembers, List.flatMap_append] at hrest ⊢
          exact (refl _ _).append ((refl _ _).append (hfirst.append ((refl _ _).append hrest)))
    rw [overwrite_object]
    simp only [Json.dumped, List.flatMap_append, List.flatMap_cons]
    exact ((refl _ _).append hmembers).append (refl _ _)

end Covers

/-- **What is written in the place of a hidden value** is found in the text. -/
theorem infix_dumped_overwrite {hidden : String → Bool} {numberText : ℚ → String} {new value : Json}
    (h : hasHidden hidden value = true) :
    dumped numberText new <:+: dumped numberText (overwrite hidden new value) := by
  induction value using Json.induction with
  | null => cases h
  | bool value => cases h
  | number value => cases h
  | string value => cases h
  | array items ih =>
    rw [hasHidden_array, List.any_eq_true] at h
    obtain ⟨item, hitem, hhidden⟩ := h
    have hitems : dumped numberText new <:+:
        dumpedItems numberText (items.map (overwrite hidden new)) := by
      have hfound := ih item hitem hhidden
      clear ih hhidden
      induction items with
      | nil => cases hitem
      | cons first items ih' =>
        cases items with
        | nil =>
          rw [List.mem_singleton] at hitem
          rw [hitem] at hfound
          exact hfound
        | cons next items =>
          simp only [List.map_cons, dumpedItems] at ih' ⊢
          rcases List.mem_cons.mp hitem with rfl | hrest
          · exact hfound.trans (List.prefix_append _ _).isInfix
          · exact (ih' hrest).trans ((List.suffix_append _ _).trans (List.suffix_append _ _)).isInfix
    rw [overwrite_array, dumped]
    exact hitems.trans (List.infix_append ['['] _ _)
  | object members ih =>
    rw [hasHidden_object, List.any_eq_true] at h
    obtain ⟨member, hmember, hhidden⟩ := h
    have hfound : dumped numberText new <:+:
        dumped numberText (overwriteMember hidden new member).2 := by
      show _ <:+: dumped numberText (if hidden member.1 then new else _)
      split
      · exact List.infix_rfl
      · rename_i hkey
        rw [Bool.or_eq_true] at hhidden
        exact ih member hmember (hhidden.resolve_left hkey)
    have hmembers : dumped numberText new <:+:
        dumpedMembers numberText (members.map (overwriteMember hidden new)) := by
      clear ih hhidden
      induction members with
      | nil => cases hmember
      | cons first members ih' =>
        obtain ⟨key, value⟩ := first
        cases members with
        | nil =>
          rw [List.mem_singleton] at hmember
          rw [hmember] at hfound
          simp only [List.map_cons, List.map_nil, overwriteMember, dumpedMembers]
          exact hfound.trans ((List.suffix_append _ _).trans (List.suffix_append _ _)).isInfix
        | cons next members =>
          simp only [List.map_cons, overwriteMember, dumpedMembers] at ih' ⊢
          rcases List.mem_cons.mp hmember with rfl | hrest
          · exact (hfound.trans (List.prefix_append _ _).isInfix).trans
              ((List.suffix_append _ _).trans (List.suffix_append _ _)).isInfix
          · exact (ih' hrest).trans ((List.suffix_append _ _).trans ((List.suffix_append _ _).trans
              ((List.suffix_append _ _).trans (List.suffix_append _ _)))).isInfix
    rw [overwrite_object, dumped]
    exact hmembers.trans (List.infix_append ['{'] _ _)

end Json

end SeekTalent

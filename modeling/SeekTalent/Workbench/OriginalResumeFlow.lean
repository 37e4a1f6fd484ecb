import SeekTalent.Workbench.OriginalResume
import SeekTalent.Workbench.RedactedPayload

/-!
# What of a payload is shown

Two payloads that differ only in what they store under sensitive keys should be shown alike. They
are if no field that is shown has a sensitive key inside of its value. A field that has one gives
away what is stored there, unless its text is refused whatever that is (`conceals_iff`).
-/

namespace SeekTalent

namespace OriginalResume

section Places

variable (lib : ResumeLibrary)

/-! ## 1. Places -/

/-- The two payloads are the same but for what is stored under sensitive keys. -/
def SameBut (payload other : JsonObject) : Prop :=
  Json.SameBut (isSensitiveResumeKey lib) (.object payload) (.object other)

/-- **Nothing that is stored under a sensitive key is shown**: whatever is stored there, the resume
    is shown as it is. -/
def Conceals (payload : JsonObject) : Prop :=
  ∀ (providerName : String) (other : JsonObject), SameBut lib other payload →
    projectOriginalResume lib providerName (some other) =
      projectOriginalResume lib providerName (some payload)

def fieldPlaces (payload : JsonObject) (keys : List String) : List (String × Json) :=
  keys.filterMap fun key => (payload.get key).map fun value => (key, value)

/-- The fields of an entry of a list; an entry that is no mapping is one. -/
def itemPlaces (title : String) (index : Nat) : Json → List (String × Json)
  | .object members => members
  | item => [(title ++ "." ++ toString index, item)]

def numberedPlaces (title : String) : Nat → List Json → List (String × Json)
  | _, [] => []
  | index, item :: items => itemPlaces title index item ++ numberedPlaces title (index + 1) items

def listPlaces (title : String) : Option Json → List (String × Json)
  | some (.array items) => numberedPlaces title 1 items
  | _ => []

def otherPlaces (payload : JsonObject) : List (String × Json) :=
  payload.filter fun member => member.1 ∉ STRUCTURED_SECTION_KEYS

/-- The fields that a payload is read for, with their values, in their order. -/
def places (payload : JsonObject) : List (String × Json) :=
  fieldPlaces payload BASIC_FIELD_KEYS ++ (fieldPlaces payload EXPECTATION_FIELD_KEYS ++
    (listPlaces "工作经历" (payload.get "workExperienceList") ++
      (listPlaces "教育经历" (payload.get "educationList") ++
        (fieldPlaces payload PROJECT_TEXT_FIELD_KEYS ++ otherPlaces payload))))

/-- The value has no sensitive key inside, or its text is refused even with nothing stored there. -/
def Guarded (value : Json) : Prop :=
  Json.hasHidden (isSensitiveResumeKey lib) value = false ∨
    refused lib (jsonText lib
      (Json.overwrite (isSensitiveResumeKey lib) (.array []) value)).toList = true

end Places

variable {lib : ResumeLibrary}

/-! ## 2. One field -/

theorem strip_dumped {numberText : ℚ → String} {value : Json}
    (h : ∃ hidden, Json.hasHidden hidden value = true) :
    Py.strip (String.ofList (Json.dumped numberText value)) =
      String.ofList (Json.dumped numberText value) := by
  have hends : ∀ (first last : Char) (inner : List Char), Py.isSpace first = false →
      Py.isSpace last = false →
        Py.strip (String.ofList (first :: inner ++ [last])) = String.ofList (first :: inner ++ [last]) := by
    intro first last inner hfirst hlast
    unfold Py.strip Py.trim
    rw [String.toList_ofList, List.cons_append, List.dropWhile_cons_of_neg (by simp [hfirst]),
      List.reverse_cons, List.reverse_append, List.reverse_singleton, List.singleton_append,
      List.cons_append, List.dropWhile_cons_of_neg (by simp [hlast])]
    simp
  obtain ⟨hidden, hhidden⟩ := h
  cases value with
  | null => cases hhidden
  | bool value => cases hhidden
  | number value => cases hhidden
  | string value => cases hhidden
  | array items => exact hends '[' ']' _ rfl rfl
  | object members => exact hends '{' '}' _ rfl rfl

variable {key : String} {value other : Json}

theorem resumeValueText_of_hasHidden
    (h : Json.hasHidden (isSensitiveResumeKey lib) value = true) :
    resumeValueText lib value = safeText lib (jsonText lib value) 2000 := by
  cases value with
  | null => cases h
  | bool value => cases h
  | number value => cases h
  | string value => cases h
  | array items => rfl
  | object members => rfl

theorem jsonText_ne_nil (h : Json.hasHidden (isSensitiveResumeKey lib) value = true) :
    (jsonText lib value).toList ≠ [] := by
  rw [← Json.hasHidden_sortKeys] at h
  unfold jsonText
  rw [String.toList_ofList]
  cases hsorted : value.sortKeys with
  | null => rw [hsorted] at h; cases h
  | bool value => rw [hsorted] at h; cases h
  | number value => rw [hsorted] at h; cases h
  | string value => rw [hsorted] at h; cases h
  | array items => exact List.cons_ne_nil _ _
  | object members => exact List.cons_ne_nil _ _

theorem safeText_jsonText (h : Json.hasHidden (isSensitiveResumeKey lib) value = true) :
    safeText lib (jsonText lib value) 2000 =
      if refused lib (jsonText lib value).toList then none
      else some (String.ofList ((jsonText lib value).toList.take 2000)) := by
  have hne : jsonText lib value ≠ "" := by
    intro hempty
    exact jsonText_ne_nil h (congrArg String.toList hempty)
  rw [← Json.hasHidden_sortKeys] at h
  have hstrip : Py.strip (jsonText lib value) = jsonText lib value := strip_dumped ⟨_, h⟩
  unfold safeText
  dsimp only
  rw [hstrip, if_neg hne]

theorem no_bracket : ∀ needle ∈ FORBIDDEN ++ ["://", "http://", "https://", "ws://", "wss://"],
    '[' ∉ needle.toList ∧ ']' ∉ needle.toList := by decide

theorem refused_of_sameBut
    (hrefused : refused lib (jsonText lib
      (Json.overwrite (isSensitiveResumeKey lib) (.array []) value)).toList = true)
    (hsame : Json.SameBut (isSensitiveResumeKey lib) other value) :
    refused lib (jsonText lib other).toList = true := by
  have hopen : lib.lower '[' = ['['] := lib.lower_ascii '[' (by decide)
  have hclose : lib.lower ']' = [']'] := lib.lower_ascii ']' (by decide)
  have hfound : ∀ needle ∈ FORBIDDEN ++ ["://", "http://", "https://", "ws://", "wss://"],
      found lib needle (jsonText lib
        (Json.overwrite (isSensitiveResumeKey lib) (.array []) value)).toList = true →
          found lib needle (jsonText lib other).toList = true := by
    intro needle hneedle h
    obtain ⟨hleft, hright⟩ := no_bracket needle hneedle
    rw [← show Json.overwrite (isSensitiveResumeKey lib) (.array []) other =
      Json.overwrite (isSensitiveResumeKey lib) (.array []) value from hsame] at h
    unfold found lowered jsonText at h ⊢
    rw [decide_eq_true_eq, String.toList_ofList] at h ⊢
    rw [Json.sortKeys_overwrite rfl] at h
    exact (Json.Covers.dumped hleft hright hopen hclose other.sortKeys).found h
  unfold refused at hrefused ⊢
  simp only [Bool.or_eq_true, Bool.and_eq_true, List.any_eq_true] at hrefused ⊢
  rcases hrefused with ⟨needle, hneedle, h⟩ | ⟨h, needle, hneedle, h'⟩
  · exact .inl ⟨needle, hneedle, hfound needle (List.mem_append_left _ hneedle) h⟩
  · refine .inr ⟨hfound "://" (by simp) h, needle, hneedle, ?_⟩
    exact hfound needle (List.mem_append_right _ (List.mem_cons_of_mem _ hneedle)) h'

/-- **A guarded field** is shown alike whatever is stored under the sensitive keys inside. -/
theorem fieldResponse_eq (hguard : isSensitiveResumeKey lib key = false → Guarded lib value)
    (hsame : Json.SameBut (isSensitiveResumeKey lib) other value) :
    fieldResponse lib key other = fieldResponse lib key value := by
  unfold fieldResponse
  split
  · rfl
  · rename_i hkey
    rcases hguard (by simpa using hkey) with hclear | hrefused
    · rw [hsame.eq_of_clear hclear]
    · cases hhidden : Json.hasHidden (isSensitiveResumeKey lib) value with
      | false => rw [hsame.eq_of_clear hhidden]
      | true =>
        have hhidden' : Json.hasHidden (isSensitiveResumeKey lib) other = true := by
          have hkeys := congrArg (Json.hasHidden (isSensitiveResumeKey lib)) hsame
          rwa [Json.hasHidden_overwrite, Json.hasHidden_overwrite, hhidden] at hkeys
        rw [resumeValueText_of_hasHidden hhidden, resumeValueText_of_hasHidden hhidden',
          safeText_jsonText hhidden, safeText_jsonText hhidden',
          if_pos (refused_of_sameBut hrefused hsame), if_pos (refused_of_sameBut hrefused rfl)]

theorem fieldResponse_cookie (h : Json.hasHidden (isSensitiveResumeKey lib) value = true) :
    fieldResponse lib key
      (Json.overwrite (isSensitiveResumeKey lib) (.string "cookie") value) = none := by
  have hhidden : Json.hasHidden (isSensitiveResumeKey lib)
      (Json.overwrite (isSensitiveResumeKey lib) (.string "cookie") value) = true := by
    rw [Json.hasHidden_overwrite]
    exact h
  have hrefused : refused lib (jsonText lib
      (Json.overwrite (isSensitiveResumeKey lib) (.string "cookie") value)).toList = true := by
    have hinfix : Json.dumped lib.numberText (.string "cookie") <:+: Json.dumped lib.numberText
        (Json.overwrite (isSensitiveResumeKey lib) (.string "cookie") value.sortKeys) :=
      Json.infix_dumped_overwrite (by rw [Json.hasHidden_sortKeys]; exact h)
    have hcookie : "cookie".toList <:+: lowered lib (Json.dumped lib.numberText (.string "cookie")) := by
      have hlowered : lowered lib (Json.dumped lib.numberText (.string "cookie")) =
          ['"', 'c', 'o', 'o', 'k', 'i', 'e', '"'] := by
        show (['"', 'c', 'o', 'o', 'k', 'i', 'e', '"'] : List Char).flatMap lib.lower = _
        simp [lib.lower_ascii]
      rw [hlowered]
      exact ⟨['"'], ['"'], rfl⟩
    have hfound : found lib "cookie" (jsonText lib
        (Json.overwrite (isSensitiveResumeKey lib) (.string "cookie") value)).toList = true := by
      unfold found jsonText
      rw [decide_eq_true_eq, Json.sortKeys_overwrite rfl]
      simp only [String.toList_ofList]
      obtain ⟨before, after, hsplit⟩ := hinfix
      rw [← hsplit]
      unfold lowered at hcookie ⊢
      rw [List.flatMap_append, List.flatMap_append]
      exact hcookie.trans (List.infix_append _ _ _)
    unfold refused
    rw [Bool.or_eq_true, List.any_eq_true]
    exact .inl ⟨"cookie", List.mem_cons_self, hfound⟩
  unfold fieldResponse
  split
  · rfl
  · rw [resumeValueText_of_hasHidden hhidden, safeText_jsonText hhidden, if_pos hrefused]
    rfl

theorem guarded_of_none (hkey : isSensitiveResumeKey lib key = false)
    (hnone : fieldResponse lib key
      (Json.overwrite (isSensitiveResumeKey lib) (.array []) value) = none) : Guarded lib value := by
  cases hhidden : Json.hasHidden (isSensitiveResumeKey lib) value with
  | false => exact .inl hhidden
  | true =>
    refine .inr ?_
    by_contra hshown
    have hhidden' : Json.hasHidden (isSensitiveResumeKey lib)
        (Json.overwrite (isSensitiveResumeKey lib) (.array []) value) = true := by
      rw [Json.hasHidden_overwrite]
      exact hhidden
    unfold fieldResponse at hnone
    rw [if_neg (by simp [hkey]), resumeValueText_of_hasHidden hhidden', safeText_jsonText hhidden',
      if_neg hshown] at hnone
    have hne : String.ofList ((jsonText lib
        (Json.overwrite (isSensitiveResumeKey lib) (.array []) value)).toList.take 2000) ≠ "" := by
      intro hempty
      have hlist := congrArg String.toList hempty
      rw [String.toList_ofList] at hlist
      rcases List.take_eq_nil_iff.mp hlist with hzero | hnil
      · cases hzero
      · exact jsonText_ne_nil hhidden' hnil
    rw [Option.filter_some, if_pos (by simpa using hne)] at hnone
    cases hnone

/-! ## 3. The keys of the two lists -/

theorem compactKey_of_letters {name : String}
    (h : (name.toList.all fun c => decide (c.toNat < 0x80) && c.isAlphanum) = true) :
    compactKey lib name = String.ofList (name.toList.map Char.toLower) := by
  unfold compactKey Py.casefold
  rw [String.toList_ofList]
  congr 1
  generalize name.toList = cs at h
  induction cs with
  | nil => rfl
  | cons c cs ih =>
    simp only [List.all_cons, Bool.and_eq_true, decide_eq_true_eq] at h
    obtain ⟨⟨hascii, hletter⟩, hrest⟩ := h
    have hplain : Py.isPlain c = true := by simp [Py.isPlain, hascii]
    have hlower : c.toLower.toNat < 0x80 := by
      rw [Py.toNat_toLower]
      split
      · omega
      · exact hascii
    have hkept : lib.isAlnum c.toLower = true := by
      rw [lib.isAlnum_ascii _ hlower, Py.isAlphanum_toLower]
      exact hletter
    rw [List.flatMap_cons, lib.casefold_plain c hplain, List.singleton_append,
      List.filter_cons_of_pos hkept, List.map_cons, ih hrest]

theorem not_sensitive_workExperienceList : isSensitiveResumeKey lib "workExperienceList" = false := by
  unfold isSensitiveResumeKey
  rw [compactKey_of_letters (by decide)]
  decide

theorem not_sensitive_educationList : isSensitiveResumeKey lib "educationList" = false := by
  unfold isSensitiveResumeKey
  rw [compactKey_of_letters (by decide)]
  decide

/-! ## 4. Guarded payloads -/

theorem get_overwritten {hidden : String → Bool} {new : Json} (members : JsonObject) (key : String) :
    JsonObject.get (members.map (Json.overwriteMember hidden new)) key =
      (members.get key).map fun value =>
        if hidden key then new else Json.overwrite hidden new value := by
  induction members with
  | nil => rfl
  | cons member members ih =>
    rw [List.map_cons, JsonObject.get_cons, JsonObject.get_cons, ih]
    by_cases hkey : member.1 = key
    · subst hkey
      simp [Json.overwriteMember]
    · simp [Json.overwriteMember, hkey]

variable {payload others members : JsonObject} {title : String} {index : Nat}

theorem map_overwriteMember_of_sameBut (h : SameBut lib others members) :
    others.map (Json.overwriteMember (isSensitiveResumeKey lib) (.array [])) =
      members.map (Json.overwriteMember (isSensitiveResumeKey lib) (.array [])) := by
  unfold SameBut Json.SameBut at h
  rw [Json.overwrite_object, Json.overwrite_object] at h
  exact Json.object.inj h

theorem SameBut.get (h : SameBut lib others members) (hkey : isSensitiveResumeKey lib key = false) :
    (others.get key).map (Json.overwrite (isSensitiveResumeKey lib) (.array [])) =
      (members.get key).map (Json.overwrite (isSensitiveResumeKey lib) (.array [])) := by
  have hget := congrArg (JsonObject.get · key) (map_overwriteMember_of_sameBut h)
  rw [get_overwritten, get_overwritten] at hget
  simpa only [hkey, Bool.false_eq_true, if_false] using hget

theorem SameBut.field_eq (h : SameBut lib others members)
    (hguard : ∀ value, members.get key = some value → isSensitiveResumeKey lib key = false →
      Guarded lib value) :
    (others.get key).bind (fieldResponse lib key) = (members.get key).bind (fieldResponse lib key) := by
  cases hkey : isSensitiveResumeKey lib key with
  | true =>
    have hnone : ∀ value, fieldResponse lib key value = none := by
      intro value
      unfold fieldResponse
      rw [if_pos hkey]
    simp [funext hnone]
  | false =>
    have hget := h.get hkey
    cases hmember : members.get key with
    | none =>
      rw [hmember, Option.map_none, Option.map_eq_none_iff] at hget
      rw [hget]
    | some value =>
      rw [hmember, Option.map_some, Option.map_eq_some_iff] at hget
      obtain ⟨other, hother, hsame⟩ := hget
      rw [hother, Option.bind_some, Option.bind_some]
      exact fieldResponse_eq (hguard value hmember) hsame

theorem filterMap_fieldResponse_eq
    (h : others.map (Json.overwriteMember (isSensitiveResumeKey lib) (.array [])) =
      members.map (Json.overwriteMember (isSensitiveResumeKey lib) (.array [])))
    (hguard : ∀ member ∈ members, isSensitiveResumeKey lib member.1 = false →
      Guarded lib member.2) :
    (others.filterMap fun member => fieldResponse lib member.1 member.2) =
      members.filterMap fun member => fieldResponse lib member.1 member.2 := by
  induction members generalizing others with
  | nil => rw [List.map_eq_nil_iff.mp h]
  | cons member members ih =>
    cases others with
    | nil => cases h
    | cons other others =>
      obtain ⟨hfirst, hrest⟩ := List.cons.inj h
      obtain ⟨hname, hvalue⟩ := Prod.mk.inj hfirst
      have hrest := ih hrest fun member hmember => hguard member (List.mem_cons_of_mem _ hmember)
      have hone : fieldResponse lib other.1 other.2 = fieldResponse lib member.1 member.2 := by
        rw [hname] at hvalue ⊢
        cases hkey : isSensitiveResumeKey lib member.1 with
        | true =>
          unfold fieldResponse
          rw [if_pos hkey, if_pos hkey]
        | false =>
          rw [hkey] at hvalue
          exact fieldResponse_eq (hguard member List.mem_cons_self) hvalue
      rw [List.filterMap_cons, List.filterMap_cons, hone, hrest]

theorem listItem_eq (hsame : Json.SameBut (isSensitiveResumeKey lib) other value)
    (hguard : ∀ place ∈ itemPlaces title index value, isSensitiveResumeKey lib place.1 = false →
      Guarded lib place.2) :
    listItem lib title index other = listItem lib title index value := by
  cases value with
  | null => rw [hsame.eq_of_clear rfl]
  | bool value => rw [hsame.eq_of_clear rfl]
  | number value => rw [hsame.eq_of_clear rfl]
  | string value => rw [hsame.eq_of_clear rfl]
  | array items =>
    cases other with
    | array others =>
      have hone := hguard (title ++ "." ++ toString index, .array items) (List.mem_singleton_self _)
      unfold listItem
      dsimp only
      rw [fieldResponse_eq hone hsame]
    | null => cases hsame
    | bool value => cases hsame
    | number value => cases hsame
    | string value => cases hsame
    | object members => cases hsame
  | object members =>
    cases other with
    | object others =>
      have hmembers := filterMap_fieldResponse_eq (map_overwriteMember_of_sameBut hsame) hguard
      unfold listItem
      dsimp only
      rw [hmembers]
    | null => cases hsame
    | bool value => cases hsame
    | number value => cases hsame
    | string value => cases hsame
    | array items => cases hsame

theorem numberedItems_eq {items others : List Json}
    (h : others.map (Json.overwrite (isSensitiveResumeKey lib) (.array [])) =
      items.map (Json.overwrite (isSensitiveResumeKey lib) (.array [])))
    (hguard : ∀ place ∈ numberedPlaces title index items, isSensitiveResumeKey lib place.1 = false →
      Guarded lib place.2) :
    numberedItems lib title index others = numberedItems lib title index items := by
  induction items generalizing others index with
  | nil => rw [List.map_eq_nil_iff.mp h]
  | cons item items ih =>
    cases others with
    | nil => cases h
    | cons other others =>
      obtain ⟨hfirst, hrest⟩ := List.cons.inj h
      unfold numberedItems
      rw [listItem_eq hfirst fun place hplace => hguard place (List.mem_append_left _ hplace),
        ih hrest fun place hplace => hguard place (List.mem_append_right _ hplace)]

theorem listSection_eq (h : SameBut lib others members) (hkey : isSensitiveResumeKey lib key = false)
    (hguard : ∀ place ∈ listPlaces title (members.get key),
      isSensitiveResumeKey lib place.1 = false → Guarded lib place.2) :
    listSection lib title (others.get key) = listSection lib title (members.get key) := by
  have hget := h.get hkey
  cases hmember : members.get key with
  | none =>
    rw [hmember, Option.map_none, Option.map_eq_none_iff] at hget
    rw [hget]
  | some value =>
    rw [hmember, Option.map_some, Option.map_eq_some_iff] at hget
    obtain ⟨other, hother, hsame⟩ := hget
    rw [hother]
    rw [hmember] at hguard
    cases value with
    | array items =>
      cases other with
      | array others =>
        rw [Json.overwrite_array, Json.overwrite_array] at hsame
        unfold listSection
        dsimp only
        rw [numberedItems_eq (Json.array.inj hsame) hguard]
      | null => cases hsame
      | bool value => cases hsame
      | number value => cases hsame
      | string value => cases hsame
      | object members => cases hsame
    | null => cases other <;> first | rfl | cases hsame
    | bool value => cases other <;> first | rfl | cases hsame
    | number value => cases other <;> first | rfl | cases hsame
    | string value => cases other <;> first | rfl | cases hsame
    | object members => cases other <;> first | rfl | cases hsame

theorem fieldSection_eq (h : SameBut lib others members) {keys : List String}
    (hguard : ∀ place ∈ fieldPlaces members keys, isSensitiveResumeKey lib place.1 = false →
      Guarded lib place.2) :
    fieldSection lib title others keys = fieldSection lib title members keys := by
  unfold fieldSection
  congr 2
  apply List.filterMap_congr
  intro key hmem
  apply h.field_eq
  intro value hvalue hkey
  refine hguard (key, value) (List.mem_filterMap.mpr ⟨key, hmem, ?_⟩) hkey
  rw [hvalue, Option.map_some]

theorem filter_overwritten {hidden : String → Bool} {new : Json} (kept : String → Bool)
    (members : JsonObject) :
    (members.map (Json.overwriteMember hidden new)).filter (fun member => kept member.1) =
      (members.filter fun member => kept member.1).map (Json.overwriteMember hidden new) := by
  induction members with
  | nil => rfl
  | cons member members ih =>
    rw [List.map_cons, List.filter_cons, List.filter_cons, ih]
    have hname : (Json.overwriteMember hidden new member).1 = member.1 := rfl
    rw [hname]
    split
    · rw [List.map_cons]
    · rfl

theorem otherSection_eq (h : SameBut lib others members)
    (hguard : ∀ place ∈ otherPlaces members, isSensitiveResumeKey lib place.1 = false →
      Guarded lib place.2) : otherSection lib others = otherSection lib members := by
  have hkept : (otherPlaces others).map
      (Json.overwriteMember (isSensitiveResumeKey lib) (.array [])) =
        (otherPlaces members).map
          (Json.overwriteMember (isSensitiveResumeKey lib) (.array [])) := by
    unfold otherPlaces
    rw [← filter_overwritten (fun key => decide (key ∉ STRUCTURED_SECTION_KEYS)),
      ← filter_overwritten (fun key => decide (key ∉ STRUCTURED_SECTION_KEYS)),
      map_overwriteMember_of_sameBut h]
  have hmembers := filterMap_fieldResponse_eq hkept hguard
  unfold otherPlaces at hmembers
  unfold otherSection
  rw [hmembers]

/-- **A payload whose fields are guarded** is shown alike. -/
theorem visibleSections_eq (h : SameBut lib others payload)
    (hguard : ∀ place ∈ places payload, isSensitiveResumeKey lib place.1 = false →
      Guarded lib place.2) : visibleSections lib others = visibleSections lib payload := by
  unfold places at hguard
  simp only [List.mem_append] at hguard
  unfold visibleSections
  rw [fieldSection_eq h fun place hplace => hguard place (.inl hplace),
    fieldSection_eq h fun place hplace => hguard place (.inr (.inl hplace)),
    listSection_eq h not_sensitive_workExperienceList fun place hplace =>
      hguard place (.inr (.inr (.inl hplace))),
    listSection_eq h not_sensitive_educationList fun place hplace =>
      hguard place (.inr (.inr (.inr (.inl hplace)))),
    fieldSection_eq h fun place hplace => hguard place (.inr (.inr (.inr (.inr (.inl hplace))))),
    otherSection_eq h fun place hplace => hguard place (.inr (.inr (.inr (.inr (.inr hplace)))))]

/-! ## 5. The fields that are shown -/

-- what a field shows is not computed from here on
attribute [local irreducible] fieldResponse isSensitiveResumeKey

def sectionFields (maybe : Option OriginalResumeSection) : List OriginalResumeField :=
  maybe.toList.flatMap fun shown => shown.items.flatMap (·.fields)

/-- The fields of the sections, in their order. -/
def fieldsOf (sections : List OriginalResumeSection) : List OriginalResumeField :=
  sections.flatMap fun shown => shown.items.flatMap (·.fields)

theorem sectionFields_visibleSection (items : List OriginalResumeItem) :
    sectionFields (visibleSection title items) = items.flatMap (·.fields) := by
  unfold visibleSection sectionFields
  split
  · rename_i hempty
    rw [hempty]
    rfl
  · exact List.flatMap_singleton _ _

theorem flatMap_visibleItem (heading : List OriginalResumeField → String)
    (fields : List OriginalResumeField) :
    (visibleItem heading fields).flatMap (·.fields) = fields := by
  unfold visibleItem
  split
  · rename_i hempty
    rw [hempty]
    rfl
  · exact List.flatMap_singleton _ _

theorem fieldsOf_filterMap (sections : List (Option OriginalResumeSection)) :
    fieldsOf (sections.filterMap id) = sections.flatMap sectionFields := by
  unfold fieldsOf
  induction sections with
  | nil => rfl
  | cons maybe sections ih =>
    cases maybe with
    | none =>
      rw [List.filterMap_cons_none rfl, ih]
      rfl
    | some shown =>
      have hshown : (some shown :: sections).filterMap id = shown :: sections.filterMap id := rfl
      rw [hshown, List.flatMap_cons, ih, List.flatMap_cons]
      congr 1
      exact (List.flatMap_singleton _ _).symm

def shownAt (lib : ResumeLibrary) (found : List (String × Json)) : List OriginalResumeField :=
  found.filterMap fun place => fieldResponse lib place.1 place.2

theorem shownAt_append (found more : List (String × Json)) :
    shownAt lib (found ++ more) = shownAt lib found ++ shownAt lib more := List.filterMap_append

theorem sectionFields_fieldSection (keys : List String) :
    sectionFields (fieldSection lib title payload keys) =
      shownAt lib (fieldPlaces payload keys) := by
  unfold fieldSection shownAt fieldPlaces
  rw [sectionFields_visibleSection, flatMap_visibleItem, List.filterMap_filterMap]
  apply List.filterMap_congr
  intro key _
  cases payload.get key with
  | none => rfl
  | some value => rfl

theorem flatMap_listItem :
    (listItem lib title index value).flatMap (·.fields) =
      shownAt lib (itemPlaces title index value) := by
  have hwhole : ∀ item, (fieldResponse lib (title ++ "." ++ toString index) item).toList =
      shownAt lib [(title ++ "." ++ toString index, item)] := by
    intro item
    unfold shownAt
    rw [List.filterMap_cons]
    cases fieldResponse lib (title ++ "." ++ toString index) item with
    | none => rfl
    | some field => rfl
  unfold listItem itemPlaces
  cases value with
  | object members => exact flatMap_visibleItem _ _
  | null => exact (flatMap_visibleItem _ _).trans (hwhole _)
  | bool value => exact (flatMap_visibleItem _ _).trans (hwhole _)
  | number value => exact (flatMap_visibleItem _ _).trans (hwhole _)
  | string value => exact (flatMap_visibleItem _ _).trans (hwhole _)
  | array items => exact (flatMap_visibleItem _ _).trans (hwhole _)

theorem flatMap_numberedItems (items : List Json) :
    (numberedItems lib title index items).flatMap (·.fields) =
      shownAt lib (numberedPlaces title index items) := by
  induction items generalizing index with
  | nil => rfl
  | cons item items ih =>
    unfold numberedItems numberedPlaces
    rw [List.flatMap_append, flatMap_listItem, ih, shownAt_append]

theorem sectionFields_listSection (items? : Option Json) :
    sectionFields (listSection lib title items?) = shownAt lib (listPlaces title items?) := by
  cases items? with
  | none => rfl
  | some value =>
    cases value with
    | array items =>
      unfold listSection listPlaces
      dsimp only
      rw [sectionFields_visibleSection, flatMap_numberedItems]
    | null => rfl
    | bool value => rfl
    | number value => rfl
    | string value => rfl
    | object members => rfl

theorem sectionFields_otherSection :
    sectionFields (otherSection lib payload) = shownAt lib (otherPlaces payload) := by
  unfold otherSection
  rw [sectionFields_visibleSection, flatMap_visibleItem]
  unfold shownAt otherPlaces
  rfl

/-- **What is shown of a payload** is what is shown of its places. -/
theorem fieldsOf_visibleSections :
    fieldsOf (visibleSections lib payload) = shownAt lib (places payload) := by
  unfold visibleSections places
  rw [fieldsOf_filterMap]
  simp only [List.flatMap_cons, List.flatMap_nil, List.append_nil, shownAt_append,
    sectionFields_fieldSection, sectionFields_listSection, sectionFields_otherSection]

/-! ## 6. Overwritten payloads -/

variable {new : Json}

/-- The payload with `new` in the place of all that is stored under sensitive keys. -/
def overwritten (lib : ResumeLibrary) (new : Json) (members : JsonObject) : JsonObject :=
  members.map (Json.overwriteMember (isSensitiveResumeKey lib) new)

theorem sameBut_overwritten (new : Json) : SameBut lib (overwritten lib new payload) payload := by
  unfold SameBut overwritten
  rw [← Json.overwrite_object]
  exact Json.sameBut_overwrite _

def shownOver (lib : ResumeLibrary) (new : Json) (place : String × Json) :
    Option OriginalResumeField :=
  fieldResponse lib place.1 (Json.overwrite (isSensitiveResumeKey lib) new place.2)

theorem fieldResponse_of_sensitive (h : isSensitiveResumeKey lib key = true) :
    fieldResponse lib key value = none := by
  unfold fieldResponse
  rw [if_pos h]

theorem fieldResponse_overwrite :
    fieldResponse lib key (if isSensitiveResumeKey lib key then new else
      Json.overwrite (isSensitiveResumeKey lib) new value) = shownOver lib new (key, value) := by
  unfold shownOver
  dsimp only
  split
  · rename_i hkey
    rw [fieldResponse_of_sensitive hkey, fieldResponse_of_sensitive hkey]
  · rfl

theorem shownAt_overwritten (members : List (String × Json)) :
    shownAt lib (overwritten lib new members) = members.filterMap (shownOver lib new) := by
  unfold shownAt overwritten
  rw [List.filterMap_map]
  apply List.filterMap_congr
  intro member _
  exact fieldResponse_overwrite

theorem shownAt_fieldPlaces (keys : List String) :
    shownAt lib (fieldPlaces (overwritten lib new payload) keys) =
      (fieldPlaces payload keys).filterMap (shownOver lib new) := by
  unfold shownAt fieldPlaces
  rw [List.filterMap_filterMap, List.filterMap_filterMap]
  apply List.filterMap_congr
  intro key _
  unfold overwritten
  rw [get_overwritten]
  cases payload.get key with
  | none => rfl
  | some value => exact fieldResponse_overwrite

theorem shownAt_itemPlaces :
    shownAt lib (itemPlaces title index (Json.overwrite (isSensitiveResumeKey lib) new value)) =
      (itemPlaces title index value).filterMap (shownOver lib new) := by
  cases value with
  | object members =>
    rw [Json.overwrite_object]
    exact shownAt_overwritten members
  | array items =>
    rw [Json.overwrite_array]
    unfold itemPlaces shownAt
    dsimp only
    rw [List.filterMap_cons, List.filterMap_cons]
    unfold shownOver
    dsimp only
    rw [Json.overwrite_array]
    rfl
  | null => rfl
  | bool value => rfl
  | number value => rfl
  | string value => rfl

theorem shownAt_numberedPlaces (items : List Json) :
    shownAt lib (numberedPlaces title index
        (items.map (Json.overwrite (isSensitiveResumeKey lib) new))) =
      (numberedPlaces title index items).filterMap (shownOver lib new) := by
  induction items generalizing index with
  | nil => rfl
  | cons item items ih =>
    rw [List.map_cons]
    unfold numberedPlaces
    rw [shownAt_append, shownAt_itemPlaces, ih, List.filterMap_append]

theorem shownAt_listPlaces (hkey : isSensitiveResumeKey lib key = false) :
    shownAt lib (listPlaces title ((overwritten lib new payload).get key)) =
      (listPlaces title (payload.get key)).filterMap (shownOver lib new) := by
  unfold overwritten
  rw [get_overwritten]
  cases payload.get key with
  | none => rfl
  | some value =>
    rw [Option.map_some, if_neg (by simp [hkey])]
    cases value with
    | array items =>
      rw [Json.overwrite_array]
      exact shownAt_numberedPlaces items
    | null => rfl
    | bool value => rfl
    | number value => rfl
    | string value => rfl
    | object members =>
      rw [Json.overwrite_object]
      rfl

/-- **What is shown of an overwritten payload**: its places, each of them overwritten. -/
theorem fieldsOf_overwritten :
    fieldsOf (visibleSections lib (overwritten lib new payload)) =
      (places payload).filterMap (shownOver lib new) := by
  rw [fieldsOf_visibleSections]
  unfold places
  simp only [shownAt_append, List.filterMap_append, shownAt_fieldPlaces,
    shownAt_listPlaces not_sensitive_workExperienceList,
    shownAt_listPlaces not_sensitive_educationList]
  congr 5
  unfold otherPlaces overwritten
  rw [filter_overwritten (fun key => decide (key ∉ STRUCTURED_SECTION_KEYS))]
  exact shownAt_overwritten _

/-! ## 7. What is concealed -/

theorem eq_of_filterMap_eq {α β : Type} {less more : α → Option β} {entries : List α}
    (hless : ∀ entry, less entry = none ∨ less entry = more entry)
    (heq : entries.filterMap less = entries.filterMap more) :
    ∀ entry ∈ entries, less entry = more entry := by
  have hlength : ∀ rest : List α,
      (rest.filterMap less).length ≤ (rest.filterMap more).length := by
    intro rest
    induction rest with
    | nil => exact Nat.le_refl _
    | cons entry rest ih =>
      rw [List.filterMap_cons, List.filterMap_cons]
      rcases hless entry with hnone | hsame
      · rw [hnone]
        cases more entry with
        | none => exact ih
        | some shown => exact Nat.le_succ_of_le ih
      · rw [hsame]
        cases more entry with
        | none => exact ih
        | some shown => exact Nat.succ_le_succ ih
  induction entries with
  | nil => simp
  | cons entry entries ih =>
    rw [List.filterMap_cons, List.filterMap_cons] at heq
    rw [List.forall_mem_cons]
    rcases hless entry with hnone | hsame
    · cases hmore : more entry with
      | none =>
        rw [hnone, hmore] at heq
        exact ⟨hnone, ih heq⟩
      | some shown =>
        -- the shorter list cannot catch up
        rw [hnone, hmore] at heq
        have hlonger : (entries.filterMap less).length = (entries.filterMap more).length + 1 :=
          congrArg List.length heq
        have hshorter := hlength entries
        omega
    · rw [hsame] at heq
      refine ⟨hsame, ih ?_⟩
      cases hmore : more entry with
      | none => simpa [hmore] using heq
      | some shown => simpa [hmore] using heq

theorem projectOriginalResume_cts :
    projectOriginalResume lib "cts" (some payload) =
      if visibleSections lib payload = [] then none else some (visibleSections lib payload) := by
  have hname : Py.casefold lib.toUnicodeTables (Py.strip "cts") = "cts" := by
    have hstrip : Py.strip "cts" = "cts" := by decide
    rw [hstrip]
    unfold Py.casefold
    simp [lib.casefold_plain, Py.isPlain]
  unfold projectOriginalResume
  rw [if_neg (by simp [hname])]

theorem visibleSections_of_conceals (h : Conceals lib payload) (hsame : SameBut lib others payload) :
    visibleSections lib others = visibleSections lib payload := by
  have hproject := h "cts" others hsame
  rw [projectOriginalResume_cts, projectOriginalResume_cts] at hproject
  split at hproject
  · rename_i hothers
    split at hproject
    · rename_i hpayload
      rw [hothers, hpayload]
    · cases hproject
  · split at hproject
    · cases hproject
    · exact Option.some.inj hproject

theorem shownOver_cookie (place : String × Json) :
    shownOver lib (.string "cookie") place = none ∨
      shownOver lib (.string "cookie") place = shownOver lib (.array []) place := by
  cases hhidden : Json.hasHidden (isSensitiveResumeKey lib) place.2 with
  | true => exact .inl (fieldResponse_cookie hhidden)
  | false =>
    refine .inr ?_
    unfold shownOver
    rw [Json.overwrite_of_clear hhidden, Json.overwrite_of_clear hhidden]

/-- **A payload is concealed** if and only if every place with a key that is not sensitive is
    guarded. -/
theorem conceals_iff (lib : ResumeLibrary) (payload : JsonObject) :
    Conceals lib payload ↔
      ∀ place ∈ places payload, isSensitiveResumeKey lib place.1 = false →
        Guarded lib place.2 := by
  constructor
  · intro h place hplace hkey
    cases hhidden : Json.hasHidden (isSensitiveResumeKey lib) place.2 with
    | false => exact .inl hhidden
    | true =>
      have hcookie := congrArg fieldsOf
        (visibleSections_of_conceals h (sameBut_overwritten (.string "cookie")))
      have hempty := congrArg fieldsOf
        (visibleSections_of_conceals h (sameBut_overwritten (.array [])))
      rw [fieldsOf_overwritten] at hcookie hempty
      have heach := eq_of_filterMap_eq shownOver_cookie (hcookie.trans hempty.symm) place hplace
      have hnone : shownOver lib (.string "cookie") place = none := fieldResponse_cookie hhidden
      rw [hnone] at heach
      exact guarded_of_none hkey heach.symm
  · intro h providerName other hsame
    have hsections := visibleSections_eq hsame h
    unfold projectOriginalResume
    dsimp only
    rw [hsections]

/-- The value is stored under a hidden key, at any depth. -/
inductive StoredUnder (hidden : String → Bool) : Json → Json → Prop
  | here {members : JsonObject} {key : String} {value : Json} :
      (key, value) ∈ members → hidden key = true → StoredUnder hidden (.object members) value
  | member {members : JsonObject} {key : String} {value stored : Json} :
      (key, value) ∈ members → StoredUnder hidden value stored →
        StoredUnder hidden (.object members) stored
  | item {items : List Json} {item stored : Json} :
      item ∈ items → StoredUnder hidden item stored → StoredUnder hidden (.array items) stored

theorem lower_ascii_chars (c : Char) (_ : c.toNat < 0x80) : [c.toLower] = [c.toLower] := rfl

/-- Nothing outside of ASCII has a lower case of its own. -/
def asciiResume : ResumeLibrary where
  toWordTables := Payload.asciiWords
  lower c := [c.toLower]
  numberText value := toString value.num
  lower_ascii := lower_ascii_chars

/-- A payload that keeps the candidate's id in a mapping. -/
def nestedId : JsonObject := [("extra", .object [("candidateId", .string "A")])]

theorem sensitive_candidateId : isSensitiveResumeKey asciiResume "candidateId" = true := by
  unfold isSensitiveResumeKey
  rw [compactKey_of_letters (by decide)]
  decide

def nestedIdField (stored : String) : OriginalResumeField :=
  { key := "extra", label := "extra", value := "\x7b\"candidateId\": " ++ stored ++ "\x7d" }

def nestedIdSections (stored : String) : List OriginalResumeSection :=
  [{ title := "其他信息", items := [{ title := "其他信息", fields := [nestedIdField stored] }] }]

theorem visibleSections_nestedId :
    visibleSections asciiResume nestedId = nestedIdSections "\"A\"" := by decide +kernel

theorem visibleSections_nestedId_overwritten :
    visibleSections asciiResume (overwritten asciiResume (.array []) nestedId) =
      nestedIdSections "[]" := by decide +kernel

/-- The id of the candidate is shown. -/
theorem not_concealed :
    (∃ (sections : List OriginalResumeSection) (field : OriginalResumeField) (stored : String),
      projectOriginalResume asciiResume "cts" (some nestedId) = some sections ∧
        field ∈ fieldsOf sections ∧
          StoredUnder (isSensitiveResumeKey asciiResume) (.object nestedId) (.string stored) ∧
            stored ≠ "" ∧ stored.toList <:+: field.value.toList) ∧
      ¬Conceals asciiResume nestedId := by
  constructor
  · refine ⟨nestedIdSections "\"A\"", nestedIdField "\"A\"", "A", ?_, ?_, ?_, ?_, ?_⟩
    · rw [projectOriginalResume_cts, visibleSections_nestedId]
      rfl
    · simp [fieldsOf, nestedIdSections]
    · exact .member List.mem_cons_self (.here List.mem_cons_self sensitive_candidateId)
    · decide
    · exact ⟨"\x7b\"candidateId\": \"".toList, "\"\x7d".toList, by decide⟩
  · intro h
    have hshown := visibleSections_of_conceals h (sameBut_overwritten (.array []))
    rw [visibleSections_nestedId, visibleSections_nestedId_overwritten] at hshown
    revert hshown
    decide

end OriginalResume

end SeekTalent

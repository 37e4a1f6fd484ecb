import SeekTalent.Base.JsonMask
import SeekTalent.Base.JsonWritten
import SeekTalent.Base.Loops
import SeekTalent.Base.Table
import SeekTalent.Query.FilterPlan
import SeekTalent.Retrieval.SearchTool

/-!
# The CTS provider

What is sent to CTS for a query: its keyword, its page, and its filters, with the city of a dispatch in
place of the location filter. The client gives the payload back with the candidates, and its text
goes into the id of the request. So two requests of one lane for different cities have different texts
(`city_of_payloadText`).
-/

namespace SeekTalent

namespace Cts

/-! ## 1. The payload -/

def ALLOWED_NATIVE_FILTERS : List String :=
  ["company", "position", "school", "workContent", "location", "degree", "schoolType",
    "workExperienceRange", "gender", "age"]

def codeFilters : List String := ["degree", "schoolType", "workExperienceRange", "gender", "age"]

/-- `build_cts_query`: the filters of the plan, and the city. -/
def nativeFilters (baseFilters : List (String × ConstraintValue)) (city : Option String) :
    List (String × ConstraintValue) :=
  match city with
  | none => baseFilters
  | some city => Table.upsert (·.1) baseFilters ("location", .texts [city])

def isList : ConstraintValue → Bool
  | .texts _ => true
  | _ => false

def isInt : ConstraintValue → Bool
  | .number _ => true
  | _ => false

/-- The checks that `build_request_payload` makes of each filter. -/
def checkNativeFilters : List (String × ConstraintValue) → Except RoundError Unit
  | [] => .ok ()
  | (field, value) :: filters =>
    if field ∉ ALLOWED_NATIVE_FILTERS then
      .error (.valueError ("Unsupported native filter: " ++ field))
    else if field ≠ "location" ∧ isList value then
      .error (.valueError ("Native filter `" ++ field ++ "` must not be a list."))
    else if field ∈ codeFilters ∧ !isInt value then
      .error (.valueError ("Native filter `" ++ field ++ "` must be an integer code."))
    else checkNativeFilters filters

/-- `CandidateSearchRequest.model_validate`: the other filters are texts. -/
def modelValidate (filters : List (String × ConstraintValue)) : Except RoundError Unit :=
  if filters.any fun filter => filter.1 ∉ codeFilters && isInt filter.2 then
    .error (.valueError "CandidateSearchRequest")
  else .ok ()

def requestField (filters : List (String × ConstraintValue)) (query : CTSQuery)
    (field : String) : Option ConstraintValue :=
  if field = "keyword" then
    if query.keywordQuery = "" then none else some (.text query.keywordQuery)
  else if field = "page" then some (.number query.page)
  else if field = "pageSize" then some (.number query.pageSize)
  else filters.lookup field

/-! ## 2. Its text -/

/-- The fields of `CandidateSearchRequest` in the order of their names, up to the location. -/
def fieldsBefore : List String := ["age", "company", "degree", "gender", "keyword"]

def fieldsAfter : List String :=
  ["page", "pageSize", "position", "school", "schoolType", "workContent", "workExperienceRange"]

def valueText : ConstraintValue → List Char
  | .text value => Json.quotedText value
  | .number value => (toString value).toList
  | .texts values => '[' :: List.intercalate [','] (values.map Json.quotedText) ++ [']']

/-- A field of the request, unless it is `None`. -/
def memberText (filters : List (String × ConstraintValue)) (query : CTSQuery) (field : String) :
    Option (List Char) :=
  (requestField filters query field).map fun value =>
    Json.quotedText field ++ ':' :: valueText value

/-- `canonical_json` of the request -/
def payloadText (filters : List (String × ConstraintValue)) (query : CTSQuery) : String :=
  String.ofList ('{' :: List.intercalate [',']
    ((fieldsBefore ++ "location" :: fieldsAfter).filterMap (memberText filters query)) ++ ['}'])

def buildRequestPayload (baseFilters : List (String × ConstraintValue)) (query : CTSQuery) :
    Except RoundError String := do
  let filters := nativeFilters baseFilters query.city
  checkNativeFilters filters
  modelValidate filters
  return payloadText filters query

/-! ## 3. The provider -/

/-- `_decode_cursor`, of the page that a query asks for -/
def decodeCursor (page : Nat) : Except RoundError Unit :=
  if page < 1 then .error (.valueError ("Invalid CTS cursor: '" ++ toString page ++ "'"))
  else .ok ()

/-- `CTSProviderAdapter.search`, with the candidates that the client finds -/
def search (baseFilters : List (String × ConstraintValue))
    (client : Nat → CTSQuery → Except RoundError (List ResumeCandidate)) (n : Nat)
    (query : CTSQuery) : Except RoundError SearchResult := do
  decodeCursor query.page
  let requestPayload ← buildRequestPayload baseFilters query
  let candidates ← client n query
  return { candidates, rawCandidateCount := candidates.length, requestPayload }

theorem search_ok {baseFilters : List (String × ConstraintValue)}
    {client : Nat → CTSQuery → Except RoundError (List ResumeCandidate)} {n : Nat}
    {query : CTSQuery} {result : SearchResult} (h : search baseFilters client n query = .ok result) :
    result.requestPayload = payloadText (nativeFilters baseFilters query.city) query ∧
      result.rawCandidateCount = result.candidates.length := by
  unfold search buildRequestPayload at h
  obtain ⟨-, -, h⟩ := Stateful.bind_eq_ok h
  obtain ⟨requestPayload, hpayload, h⟩ := Stateful.bind_eq_ok h
  obtain ⟨candidates, -, h⟩ := Stateful.bind_eq_ok h
  obtain ⟨-, -, hpayload⟩ := Stateful.bind_eq_ok hpayload
  obtain ⟨-, -, hpayload⟩ := Stateful.bind_eq_ok hpayload
  cases h
  cases hpayload
  exact ⟨rfl, rfl⟩

/-! ## 4. The city in the text -/

theorem exists_intercalate_append (before : List (List Char)) :
    ∃ front, ∀ (word : List Char) (after : List (List Char)),
      ∃ rest, List.intercalate [','] (before ++ word :: after) = front ++ (word ++ rest) := by
  induction before with
  | nil =>
    refine ⟨[], fun word after => ?_⟩
    cases after with
    | nil => exact ⟨[], by rw [List.nil_append, List.intercalate_singleton]; simp⟩
    | cons next after =>
      refine ⟨[','] ++ List.intercalate [','] (next :: after), ?_⟩
      rw [List.nil_append, List.intercalate_cons_cons, List.nil_append, List.append_assoc]
  | cons first before ih =>
    obtain ⟨front, hfront⟩ := ih
    refine ⟨first ++ [','] ++ front, fun word after => ?_⟩
    obtain ⟨rest, hrest⟩ := hfront word after
    refine ⟨rest, ?_⟩
    rw [List.cons_append, List.intercalate_cons_of_ne_nil (by simp), hrest]
    simp only [List.append_assoc]

variable {baseFilters : List (String × ConstraintValue)} {query other : CTSQuery} {city : String}

theorem lookup_upsert (row : String × ConstraintValue) (field : String) :
    (Table.upsert (·.1) baseFilters row).lookup field =
      if field = row.1 then some row.2 else baseFilters.lookup field := by
  obtain ⟨key, new⟩ := row
  have hmap : ∀ filters : List (String × ConstraintValue),
      (filters.map fun r => if r.1 = key then (key, new) else r).lookup field =
        if field = key ∧ key ∈ filters.map (·.1) then some new else filters.lookup field := by
    intro filters
    induction filters with
    | nil => simp
    | cons filter filters ih =>
      obtain ⟨name, value⟩ := filter
      simp only [List.map_cons, List.mem_cons]
      by_cases hname : name = key
      · subst hname
        rw [if_pos rfl]
        cases hfield : field == name with
        | true => simp [List.lookup_cons, hfield, eq_of_beq hfield]
        | false =>
          have hne := ne_of_beq_false hfield
          simp only [List.lookup_cons, hfield, ih, hne, false_and, if_false]
      · rw [if_neg hname]
        cases hfield : field == name with
        | true =>
          have hne : field ≠ key := fun h => hname ((eq_of_beq hfield).symm.trans h)
          simp only [List.lookup_cons, hfield, hne, false_and, if_false]
        | false => simp only [List.lookup_cons, hfield, ih, Ne.symm hname, false_or]
  unfold Table.upsert
  split
  · rename_i hmem
    rw [hmap]
    simp only [hmem, and_true]
  · rename_i hmem
    rw [List.lookup_append]
    by_cases hfield : field = key
    · have hnone : baseFilters.lookup field = none := by
        rw [List.lookup_eq_none_iff]
        intro filter hfilter
        rw [bne_iff_ne]
        intro heq
        exact hmem (List.mem_map.mpr ⟨filter, hfilter, heq.symm.trans hfield⟩)
      rw [hnone, hfield]
      simp
    · rw [List.lookup_cons, beq_false_of_ne hfield]
      simp [hfield]

theorem memberText_nativeFilters {field : String} (hfield : field ∉ ["location", "page", "pageSize"])
    (hkeyword : query.keywordQuery = other.keywordQuery) :
    memberText (nativeFilters baseFilters query.city) query field =
      memberText (nativeFilters baseFilters other.city) other field := by
  have hlookup : ∀ city : Option String,
      (nativeFilters baseFilters city).lookup field = baseFilters.lookup field := by
    intro city
    cases city with
    | none => rfl
    | some city =>
      unfold nativeFilters
      rw [lookup_upsert, if_neg]
      rintro rfl
      exact hfield List.mem_cons_self
  simp only [List.mem_cons, List.not_mem_nil, or_false, not_or] at hfield
  unfold memberText requestField
  rw [hkeyword, if_neg hfield.2.1, if_neg hfield.2.1, if_neg hfield.2.2, if_neg hfield.2.2, hlookup,
    hlookup]

theorem memberText_location (hcity : query.city = some city) :
    memberText (nativeFilters baseFilters query.city) query "location" =
      some (Json.quotedText "location" ++ ':' :: '[' :: Json.quotedText city ++ [']']) := by
  unfold memberText requestField
  rw [if_neg (by decide), if_neg (by decide), if_neg (by decide), hcity]
  unfold nativeFilters
  rw [lookup_upsert, if_pos rfl]
  simp [valueText]

theorem quotedText_inj {text text' : String} {rest rest' : List Char}
    (h : Json.quotedText text ++ rest = Json.quotedText text' ++ rest') : text = text' := by
  have hread := @Json.readText_escaped rest text
  have hread' := @Json.readText_escaped rest' text'
  unfold Json.quotedText at h
  simp only [List.cons_append, List.append_assoc, List.nil_append, List.cons.injEq, true_and] at h
  rw [h, hread'] at hread
  exact (congrArg Prod.fst (Option.some.inj hread)).symm

/-- **The city of a request**: two requests with the same keyword and the same text are for the
    same city. -/
theorem city_of_payloadText {city' : String} (hkeyword : query.keywordQuery = other.keywordQuery)
    (hcity : query.city = some city) (hcity' : other.city = some city')
    (h : payloadText (nativeFilters baseFilters query.city) query =
      payloadText (nativeFilters baseFilters other.city) other) : city = city' := by
  obtain ⟨front, hfront⟩ := exists_intercalate_append
    (fieldsBefore.filterMap (memberText (nativeFilters baseFilters query.city) query))
  have hbefore : fieldsBefore.filterMap (memberText (nativeFilters baseFilters query.city) query) =
      fieldsBefore.filterMap (memberText (nativeFilters baseFilters other.city) other) := by
    apply List.filterMap_congr
    intro field hfield
    apply memberText_nativeFilters _ hkeyword
    have hfields : ∀ field ∈ fieldsBefore, field ∉ ["location", "page", "pageSize"] := by decide
    exact hfields field hfield
  have hchars := congrArg String.toList h
  unfold payloadText at hchars
  rw [String.toList_ofList, String.toList_ofList, List.filterMap_append, List.filterMap_append,
    List.filterMap_cons_some (memberText_location hcity),
    List.filterMap_cons_some (memberText_location hcity'), ← hbefore] at hchars
  have hjoined := (List.append_inj' hchars rfl).1
  obtain ⟨rest, hrest⟩ := hfront
    (Json.quotedText "location" ++ ':' :: '[' :: Json.quotedText city ++ [']'])
    (fieldsAfter.filterMap (memberText (nativeFilters baseFilters query.city) query))
  obtain ⟨rest', hrest'⟩ := hfront
    (Json.quotedText "location" ++ ':' :: '[' :: Json.quotedText city' ++ [']'])
    (fieldsAfter.filterMap (memberText (nativeFilters baseFilters other.city) other))
  have hwords := (List.cons.inj hjoined).2
  rw [hrest, hrest'] at hwords
  have hword := List.append_cancel_left hwords
  simp only [List.append_assoc, List.cons_append, List.append_cancel_left_eq] at hword
  exact quotedText_inj (List.cons.inj (List.cons.inj hword).2).2

end Cts

end SeekTalent

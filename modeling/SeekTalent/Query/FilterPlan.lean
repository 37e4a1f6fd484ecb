import SeekTalent.Query.Terms

/-!
# Filter plans

Which filters go with a query. The runtime's own plan has every filter the requirements give
a value for; of a controller's plan the values are replaced by those of the requirements
where these have one.

A field the controller drops is in no part of the canonical plan (`dropped_notMem`).
-/

namespace SeekTalent

inductive FilterField where
  | companyNames
  | schoolNames
  | degreeRequirement
  | schoolTypeRequirement
  | experienceRequirement
  | genderRequirement
  | ageRequirement
  | position
  | workContent
  deriving DecidableEq

inductive ConstraintValue where
  | text (value : String)
  | number (value : Int)
  | texts (values : List String)
  deriving DecidableEq

abbrev Filters := List (FilterField × ConstraintValue)

structure ProposedFilterPlan where
  pinnedFilters : Filters := []
  optionalFilters : Filters := []
  droppedFilterFields : List FilterField := []
  addedFilterFields : List FilterField := []
  deriving DecidableEq

structure RequirementSheet where
  roleTitle : String
  mustHaveCapabilities : List String := []
  hardConstraints : HardConstraintSlots := {}
  deriving DecidableEq

namespace FilterPlan

def unlimited : String := "不限"

/-- `values or None` -/
def textsOrNone (values : List String) : Option ConstraintValue :=
  if values = [] then none else some (.texts values)

/-- `text or None` -/
def textOrNone (text : String) : Option ConstraintValue :=
  if text = "" then none else some (.text text)

def limited (text : String) : Option ConstraintValue :=
  if text = unlimited then none else some (.text text)

def bounds (least most : Option Int) : Option ConstraintValue :=
  textsOrNone ((least.map fun n => "min=" ++ toString n).toList ++
    (most.map fun n => "max=" ++ toString n).toList)

def truthFilterValue (sheet : RequirementSheet) : FilterField → Option ConstraintValue
  | .companyNames => textsOrNone sheet.hardConstraints.companyNames
  | .schoolNames => textsOrNone sheet.hardConstraints.schoolNames
  | .degreeRequirement =>
    sheet.hardConstraints.degreeRequirement.bind fun degree => limited degree.canonicalDegree
  | .schoolTypeRequirement =>
    sheet.hardConstraints.schoolTypeRequirement.bind fun schoolType =>
      textsOrNone (schoolType.canonicalTypes.filter (· ≠ unlimited))
  | .experienceRequirement =>
    sheet.hardConstraints.experienceRequirement.bind fun experience =>
      bounds experience.minYears experience.maxYears
  | .genderRequirement =>
    sheet.hardConstraints.genderRequirement.bind fun gender => limited gender.canonicalGender
  | .ageRequirement =>
    sheet.hardConstraints.ageRequirement.bind fun age => bounds age.minAge age.maxAge
  | .position => textOrNone sheet.roleTitle
  | .workContent => textOrNone (Py.join " " (sheet.mustHaveCapabilities.take 3))

def normalizeFreeformValue (tables : Py.UnicodeTables) : ConstraintValue → ConstraintValue
  | .texts values => .texts (uniqueStrings tables ((values.map Py.strip).filter (· ≠ "")))
  | .number value => .number value
  | .text value => .text (Py.strip (Py.join " " (Py.split value)))

def canonicalFilterValue (tables : Py.UnicodeTables) (sheet : RequirementSheet)
    (field : FilterField) (fallback : ConstraintValue) : ConstraintValue :=
  (truthFilterValue sheet field).getD (normalizeFreeformValue tables fallback)

/-- The fields `build_default_filter_plan` goes through. -/
def defaultFields : List FilterField :=
  [.companyNames, .schoolNames, .degreeRequirement, .schoolTypeRequirement,
    .experienceRequirement, .genderRequirement, .ageRequirement, .position]

def keptFilters (tables : Py.UnicodeTables) (sheet : RequirementSheet)
    (dropped : List FilterField) (filters : Filters) : Filters :=
  (filters.filter (·.1 ∉ dropped)).map fun item =>
    (item.1, canonicalFilterValue tables sheet item.1 item.2)

def addFields (sheet : RequirementSheet) (dropped : List FilterField) (pinned : Filters)
    (optional : Filters) : List FilterField → Filters
  | [] => optional
  | field :: rest =>
    if field ∈ dropped ∨ field ∈ pinned.map (·.1) ∨ field ∈ optional.map (·.1) then
      addFields sheet dropped pinned optional rest
    else match truthFilterValue sheet field with
      | none => addFields sheet dropped pinned optional rest
      | some value => addFields sheet dropped pinned (optional ++ [(field, value)]) rest

end FilterPlan

open FilterPlan

def buildDefaultFilterPlan (sheet : RequirementSheet) : ProposedFilterPlan :=
  { optionalFilters := defaultFields.filterMap fun field =>
      (truthFilterValue sheet field).map (field, ·) }

def canonicalizeFilterPlan (tables : Py.UnicodeTables) (sheet : RequirementSheet)
    (plan : ProposedFilterPlan) : ProposedFilterPlan :=
  let dropped := plan.droppedFilterFields
  let pinned := keptFilters tables sheet dropped plan.pinnedFilters
  let optional := keptFilters tables sheet dropped plan.optionalFilters
  { pinnedFilters := pinned
    optionalFilters := addFields sheet dropped pinned optional plan.addedFilterFields
    droppedFilterFields := plan.droppedFilterFields
    addedFilterFields := plan.addedFilterFields.eraseDups }

section Dropped

variable {tables : Py.UnicodeTables} {sheet : RequirementSheet} {dropped : List FilterField}
variable {pinned optional : Filters} {field : FilterField}

theorem dropped_notMem_keptFilters (hdropped : field ∈ dropped) :
    field ∉ (keptFilters tables sheet dropped pinned).map (·.1) := by
  intro hmem
  obtain ⟨item, hitem, rfl⟩ := List.mem_map.mp hmem
  obtain ⟨source, hsource, rfl⟩ := List.mem_map.mp hitem
  have hkept := (List.mem_filter.mp hsource).2
  simp [hdropped] at hkept

theorem dropped_notMem_addFields {fields : List FilterField} (hdropped : field ∈ dropped)
    (hoptional : field ∉ optional.map (·.1)) :
    field ∉ (addFields sheet dropped pinned optional fields).map (·.1) := by
  induction fields generalizing optional with
  | nil => exact hoptional
  | cons added rest ih =>
    unfold addFields
    split
    · exact ih hoptional
    · rename_i hnew
      have hne : field ≠ added := fun heq => hnew (.inl (heq ▸ hdropped))
      split
      · exact ih hoptional
      · apply ih
        simpa [hne] using hoptional

theorem dropped_notMem (plan : ProposedFilterPlan) (hdropped : field ∈ plan.droppedFilterFields) :
    field ∉ (canonicalizeFilterPlan tables sheet plan).pinnedFilters.map (·.1) ∧
      field ∉ (canonicalizeFilterPlan tables sheet plan).optionalFilters.map (·.1) :=
  ⟨dropped_notMem_keptFilters hdropped,
    dropped_notMem_addFields hdropped (dropped_notMem_keptFilters hdropped)⟩

end Dropped

end SeekTalent

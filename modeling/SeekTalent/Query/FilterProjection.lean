import Mathlib.Data.Prod.Lex
import SeekTalent.Artifacts.Registry
import SeekTalent.Base.Table
import SeekTalent.Query.FilterPlan

/-!
# The filters that are sent to CTS

`project_constraints_to_cts` takes the canonical filter plan apart: a field becomes a filter of the
provider, a constraint that only the runtime knows, or a note that it was not sent. Ranges are read
from texts such as `min=3`, which come from the requirements or, where these say nothing, from the
controller.
-/

namespace SeekTalent

def FilterField.name : FilterField → String
  | .companyNames => "company_names"
  | .schoolNames => "school_names"
  | .degreeRequirement => "degree_requirement"
  | .schoolTypeRequirement => "school_type_requirement"
  | .experienceRequirement => "experience_requirement"
  | .genderRequirement => "gender_requirement"
  | .ageRequirement => "age_requirement"
  | .position => "position"
  | .workContent => "work_content"

inductive ConditionSource where
  | jd
  | notes
  | inferred
  deriving DecidableEq

structure RuntimeConstraint where
  field : FilterField
  normalizedValue : ConstraintValue
  source : ConditionSource
  rationale : String
  blocking : Bool
  deriving DecidableEq

structure ConstraintProjectionResult where
  providerFilters : List (String × ConstraintValue) := []
  runtimeOnlyConstraints : List RuntimeConstraint := []
  adapterNotes : List String := []
  deriving DecidableEq

namespace FilterProjection

open Artifacts (pyInt)
open FilterPlan (unlimited)

inductive ProjectionError where
  | valueError (message : String)
  | overflowError (message : String)
  deriving DecidableEq

def textNativeFields : FilterField → Option String
  | .companyNames => some "company"
  | .schoolNames => some "school"
  | .position => some "position"
  | .workContent => some "workContent"
  | _ => none

def enumNativeFields : FilterField → Option String
  | .degreeRequirement => some "degree"
  | .schoolTypeRequirement => some "schoolType"
  | .experienceRequirement => some "workExperienceRange"
  | .genderRequirement => some "gender"
  | .ageRequirement => some "age"
  | _ => none

/-- A range of CTS: its label, its code and its bounds. -/
structure Bucket where
  label : String
  code : Int
  bucketMin : Int
  bucketMax : Option Int

def EXPERIENCE_BUCKETS : List Bucket :=
  [⟨"1年以下", 1, 0, some 1⟩, ⟨"1-3年", 2, 1, some 3⟩, ⟨"3-5年", 3, 3, some 5⟩,
    ⟨"5-10年", 4, 5, some 10⟩, ⟨"10年以上", 5, 10, none⟩]

def EXPERIENCE_TIE_ORDER : List (String × Int) :=
  [("3-5年", 0), ("5-10年", 1), ("1-3年", 2), ("10年以上", 3), ("1年以下", 4)]

def AGE_BUCKETS : List Bucket :=
  [⟨"20-25岁", 1, 20, some 25⟩, ⟨"25-30岁", 2, 25, some 30⟩, ⟨"30-35岁", 3, 30, some 35⟩,
    ⟨"35-40岁", 4, 35, some 40⟩, ⟨"40-45岁", 5, 40, some 45⟩, ⟨"45岁以上", 6, 45, none⟩]

def AGE_TIE_ORDER : List (String × Int) :=
  [("30-35岁", 0), ("25-30岁", 1), ("35-40岁", 2), ("20-25岁", 3), ("40-45岁", 4), ("45岁以上", 5)]

def DEGREE_CODES : List (String × Int) :=
  [("大专", 1), ("大专及以上", 1), ("本科", 2), ("本科及以上", 2), ("硕士", 3), ("硕士及以上", 3)]

def GENDER_CODES : List (String × Int) := [("男", 1), ("女", 2)]

def SCHOOL_TYPE_CODES : List (String × Int) := [("双一流", 1), ("211", 2), ("985", 3)]

/-- `str(value)`, of a value that is no list -/
def scalarText : ConstraintValue → Option String
  | .text value => some value
  | .number value => some (toString value)
  | .texts _ => none

def isUnlimitedValue : ConstraintValue → Bool
  | .texts values => values = []
  | .text value => Py.strip value = unlimited
  | .number value => Py.strip (toString value) = unlimited

def sourceForField : FilterField → ConditionSource
  | .genderRequirement | .ageRequirement => .notes
  | _ => .jd

section Ranges

-- the value of a digit of any script
variable (decimal : Char → Option Nat)

/-- `int(text)`, which refuses texts of more than 4300 digits -/
def int (text : String) : Except ProjectionError Int :=
  match pyInt decimal text with
  | none => .error (.valueError "invalid literal for int() with base 10")
  | some n =>
    if 4300 < (text.toList.filter fun c => (decimal c).isSome).length then
      .error (.valueError "Exceeds the limit (4300 digits) for integer string conversion")
    else .ok n

/-- A turn of the loop of `_parse_numeric_bounds`. -/
def readBound (bounds : Option Int × Option Int) (item : String) :
    Except ProjectionError (Option Int × Option Int) :=
  let text := Py.strip item
  if Py.startsWith text "min=" then
    (int decimal (String.ofList (text.toList.drop 4))).map fun lower => (some lower, bounds.2)
  else if Py.startsWith text "max=" then
    (int decimal (String.ofList (text.toList.drop 4))).map fun upper => (bounds.1, some upper)
  else .ok bounds

def parseNumericBounds (items : List String) :
    Except ProjectionError (Option (Option Int × Option Int)) := do
  let bounds ← items.foldlM (readBound decimal) (none, none)
  return if bounds = (none, none) then none else some bounds

/-- The least number that is too large for a float: it is rounded up to `2 ^ 1024`. -/
def floatLimit : Int := 2 ^ 1024 - 2 ^ 970

/-- How far two ranges overlap: a number, or the float `inf`. -/
inductive Overlap where
  | finite (length : Int)
  | infinite

/-- `overlap > 0` -/
def Overlap.positive : Overlap → Bool
  | .finite length => 0 < length
  | .infinite => true

def rangeOverlap (lower upper : Option Int) (bucket : Bucket) : Except ProjectionError Overlap :=
  let start := max (lower.getD 0) bucket.bucketMin
  match upper, bucket.bucketMax with
  | none, none =>
    if floatLimit ≤ start then .error (.overflowError "int too large to convert to float")
    else .ok .infinite
  | some stop, none | none, some stop => .ok (.finite (if stop ≤ start then 0 else stop - start))
  | some stop, some most =>
    .ok (.finite (if min stop most ≤ start then 0 else min stop most - start))

def overlapKey (tieOrder : List (String × Int)) (overlap : Bucket × Overlap) : Int ×ₗ Int ×ₗ Int :=
  let tie := (tieOrder.lookup overlap.1.label).getD 0
  match overlap.2 with
  | .infinite => toLex (0, toLex (0, tie))
  | .finite length => toLex (1, toLex (-length, tie))

/-- A field with a code of CTS: the code, the note, and whether the runtime skips it too. -/
abbrev EnumProjection := Option Int × String × Bool

def mappedNote (field : FilterField) (code : Int) (label : String) : String :=
  field.name ++ " mapped to CTS code " ++ toString code ++ " (" ++ label ++ ")."

def chooseRange (field : FilterField) (tieOrder : List (String × Int)) :
    List (Bucket × Overlap) → EnumProjection
  | [] =>
    (none, field.name ++ " does not match any supported CTS range and was not sent to CTS.", true)
  | [overlap] =>
    (some overlap.1.code, mappedNote field overlap.1.code overlap.1.label, false)
  | [first, second] =>
    -- the first of the two, sorted by the larger overlap and then by the tie order
    let best := if overlapKey tieOrder second < overlapKey tieOrder first then second else first
    (some best.1.code, mappedNote field best.1.code best.1.label, false)
  | _ => (none, field.name ++ " spans 3 or more CTS ranges and was not sent to CTS.", true)

def invalidRange (field : FilterField) : EnumProjection :=
  (none, field.name ++ " stayed runtime-only because range normalization is invalid.", false)

def projectRangeEnum (field : FilterField) (value : ConstraintValue) (buckets : List Bucket)
    (tieOrder : List (String × Int)) : Except ProjectionError EnumProjection :=
  match value with
  | .text _ | .number _ => .ok (invalidRange field)
  | .texts items => do
    match ← parseNumericBounds decimal items with
    | none => return invalidRange field
    | some (lower, upper) =>
      let overlaps ← buckets.mapM fun bucket =>
        (rangeOverlap lower upper bucket).map fun overlap => (bucket, overlap)
      return chooseRange field tieOrder (overlaps.filter fun overlap => overlap.2.positive)

end Ranges

def projectDirectEnum (field : FilterField) (value : ConstraintValue) (mapping : List (String × Int)) :
    EnumProjection :=
  match scalarText value with
  | none =>
    (none, field.name ++ " stayed runtime-only because CTS expects a single enum value.", false)
  | some text =>
    match mapping.lookup (Py.strip text) with
    | none =>
      (none, field.name ++ " stayed runtime-only because no stable CTS enum mapping is available for `" ++
        Py.strip text ++ "`.", false)
    | some code => (some code, mappedNote field code (Py.strip text), false)

section Project

variable (tables : Py.UnicodeTables) (decimal : Char → Option Nat)

/-- `[str(item).strip() for item in value if str(item).strip()]`, without repetitions -/
def tidyItems (values : List String) : List String :=
  uniqueStrings tables ((values.map Py.strip).filter (· ≠ ""))

def projectSchoolTypeEnum (value : ConstraintValue) : EnumProjection :=
  match value with
  | .text _ | .number _ =>
    (none, "school_type_requirement stayed runtime-only because CTS expects a known school type set.",
      false)
  | .texts values =>
    let types := tidyItems tables values
    if types = [] then
      (none, "school_type_requirement stayed runtime-only because CTS expects a known school type set.",
        false)
    else if ∃ item ∈ types, item ∉ SCHOOL_TYPE_CODES.map (·.1) then
      (none, "school_type_requirement stayed runtime-only because the selected school types do not have a stable CTS mapping.",
        false)
    else if ∃ item ∈ types, item ∉ ["双一流", "211", "985"] then
      (none, "school_type_requirement stayed runtime-only because the selected school types are not safely compressible to one CTS code.",
        false)
    else if "双一流" ∈ types then
      (some 1, "school_type_requirement mapped to CTS code 1 (双一流).", false)
    else if "211" ∈ types then
      (some 2, "school_type_requirement mapped to CTS code 2 (211).", false)
    else (some 3, "school_type_requirement mapped to CTS code 3 (985).", false)

def projectEnumFilter (field : FilterField) (value : ConstraintValue) :
    Except ProjectionError EnumProjection :=
  if isUnlimitedValue value then
    .ok (none, field.name ++ " is explicitly unlimited and was not sent to CTS.", true)
  else match field with
    | .degreeRequirement => .ok (projectDirectEnum field value DEGREE_CODES)
    | .schoolTypeRequirement => .ok (projectSchoolTypeEnum tables value)
    | .experienceRequirement =>
      projectRangeEnum decimal field value EXPERIENCE_BUCKETS EXPERIENCE_TIE_ORDER
    | .genderRequirement => .ok (projectDirectEnum field value GENDER_CODES)
    | .ageRequirement => projectRangeEnum decimal field value AGE_BUCKETS AGE_TIE_ORDER
    | _ =>
      .ok (none, field.name ++ " stayed runtime-only because enum mapping is not implemented yet.",
        false)

def projectTextFilter (value : ConstraintValue) : Option String :=
  let text := match value with
    | .texts values => Py.join " | " (tidyItems tables values)
    | .text value => Py.strip value
    | .number value => Py.strip (toString value)
  if text = "" then none else some text

structure Projected where
  filter : Option (String × ConstraintValue) := none
  constraint : Option RuntimeConstraint := none
  note : Option String := none

/-- A turn of the loop of `project_constraints_to_cts`. -/
def projectField (pinned : Filters) (item : FilterField × ConstraintValue) :
    Except ProjectionError Projected :=
  match textNativeFields item.1 with
  | some name =>
    match projectTextFilter tables item.2 with
    | none =>
      .ok { note := some (item.1.name ++ " was selected but empty after normalization.") }
    | some projected => .ok { filter := some (name, .text projected) }
  | none =>
    match enumNativeFields item.1 with
    | none => .error (.valueError ("unsupported filter field: " ++ item.1.name))
    | some name => do
      let (projected, note, skipRuntimeOnly) ← projectEnumFilter tables decimal item.1 item.2
      match projected with
      | some code => return { filter := some (name, .number code), note := some note }
      | none =>
        return if skipRuntimeOnly ∨ isUnlimitedValue item.2 then { note := some note }
          else
            { constraint := some
                { field := item.1
                  normalizedValue := item.2
                  source := sourceForField item.1
                  rationale :=
                    "Field stays runtime-only because no stable CTS enum mapping is available."
                  blocking := item.1 ∈ pinned.map (·.1) }
              note := some note }

/-- `{**canonical_plan.pinned_filters, **canonical_plan.optional_filters}` -/
def mergedFilters (plan : ProposedFilterPlan) : Filters :=
  Table.upsertAll (·.1) [] (plan.pinnedFilters ++ plan.optionalFilters)

end Project

end FilterProjection

open FilterProjection

def projectConstraintsToCts (tables : Py.UnicodeTables) (decimal : Char → Option Nat)
    (sheet : RequirementSheet) (filterPlan : ProposedFilterPlan) :
    Except ProjectionError ConstraintProjectionResult := do
  let canonicalPlan := canonicalizeFilterPlan tables sheet filterPlan
  let projected ← (mergedFilters canonicalPlan).mapM
    (projectField tables decimal canonicalPlan.pinnedFilters)
  return { providerFilters := projected.filterMap (·.filter)
           runtimeOnlyConstraints := projected.filterMap (·.constraint)
           adapterNotes := projected.filterMap (·.note) }

end SeekTalent

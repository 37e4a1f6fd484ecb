import SeekTalent.Query.Compiler
import SeekTalent.Query.FilterPlan

/-!
# Normalizing a requirement draft

What a model has drafted of the requirements, or what a triage says of them, is made the
requirement sheet of a run: texts are cleaned, lists are bounded, the hard constraints are read
off phrases, and the query terms are compiled. What cannot be made a sheet raises.
-/

namespace SeekTalent

open QueryCompiler (cleanText)

/-- The tables of the interpreter, with the value of a decimal digit. -/
structure NumberTables extends Py.UnicodeTables where
  /-- `int` of one character -/
  digit : Char → Nat

def NumberTables.ascii : NumberTables where
  toUnicodeTables := .ascii
  digit c := c.toNat - '0'.toNat

inductive RequirementError where
  | validationError (field : String)
  | valueError (message : String)
  | keyError (key : String)
  deriving DecidableEq

/-! ## 1. Drafts and sheets -/

structure RequirementExtractionDraft where
  roleTitle : String
  titleAnchorTerms : List String
  titleAnchorRationale : String
  jdQueryTerms : List String := []
  notesQueryTerms : List String := []
  roleSummary : String
  mustHaveCapabilities : List String := []
  preferredCapabilities : List String := []
  exclusionSignals : List String := []
  locations : List String := []
  schoolNames : List String := []
  degreeRequirement : Option String := none
  schoolTypeRequirement : List String := []
  experienceRequirement : Option String := none
  genderRequirement : Option String := none
  ageRequirement : Option String := none
  companyNames : List String := []
  preferredLocations : List String := []
  preferredCompanies : List String := []
  preferredDomains : List String := []
  preferredBackgrounds : List String := []
  preferredQueryTerms : List String := []
  scoringRationale : String
  deriving DecidableEq

/-- The checks of the fields of `RequirementExtractionDraft`. -/
def RequirementExtractionDraft.validate (draft : RequirementExtractionDraft) :
    Except RequirementError RequirementExtractionDraft :=
  if draft.roleTitle = "" then .error (.validationError "role_title")
  else if draft.titleAnchorTerms.length < 1 ∨ 2 < draft.titleAnchorTerms.length then
    .error (.validationError "title_anchor_terms")
  else if draft.titleAnchorRationale = "" then .error (.validationError "title_anchor_rationale")
  else if draft.roleSummary = "" then .error (.validationError "role_summary")
  else if draft.scoringRationale = "" then .error (.validationError "scoring_rationale")
  else .ok draft

/-- `PreferenceSlots`, with the slots that the compiler does not read. -/
structure SheetPreferences extends PreferenceSlots where
  preferredDomains : List String := []
  preferredBackgrounds : List String := []
  preferredQueryTerms : List String := []
  deriving DecidableEq

/-- `RequirementSheet`, with the fields that a filter plan does not read. -/
structure NormalizedSheet extends RequirementSheet where
  titleAnchorTerms : List String
  titleAnchorRationale : String
  roleSummary : String
  preferredCapabilities : List String := []
  exclusionSignals : List String := []
  preferences : SheetPreferences := {}
  initialQueryTermPool : List QueryTermCandidate := []
  scoringRationale : String
  deriving DecidableEq

namespace Requirements

/-! ## 2. Texts -/

/-- `_clean_text` of a value that may be missing -/
def cleanOptional (value : Option String) : String := (value.map cleanText).getD ""

section Lists

variable (tables : Py.UnicodeTables)

def cleanList (limit : Nat) (values : List String) : List String :=
  (uniqueStrings tables ((values.map cleanText).filter (· ≠ ""))).take limit

def normalizeTitleAnchorTerms (values : List String) : Except RequirementError (List String) :=
  let cleanTerms := uniqueStrings tables (values.map cleanText)
  if 1 ≤ cleanTerms.length ∧ cleanTerms.length ≤ 2 then .ok cleanTerms
  else .error (.valueError "title_anchor_terms must contain one or two items after normalization")

def normalizeLocations (values : List String) : List String :=
  uniqueStrings tables ((values.map cleanText).filter (· ≠ ""))

def normalizePreferredLocations (allowedLocations preferredLocations : List String) :
    List String :=
  if allowedLocations.length ≤ 1 then []
  else
    (normalizeLocations tables preferredLocations).filter fun value =>
      Py.casefold tables value ∈ allowedLocations.map (Py.casefold tables)

end Lists

/-! ## 3. Hard constraints -/

def unlimited : String := "不限"

def degreePatterns : List (String × List String) :=
  [("博士及以上", ["博士及以上", "博士以上", "博士研究生及以上"]),
    ("硕士及以上", ["硕士及以上", "研究生及以上", "硕士以上", "研究生以上", "硕士研究生及以上"]),
    ("本科及以上",
      ["本科及以上", "学士及以上", "本科以上", "本科以上学历", "统招本科及以上", "全日制本科及以上"]),
    ("大专及以上", ["大专及以上", "专科及以上", "大专以上", "专科以上", "统招大专及以上"]),
    ("博士", ["博士", "博士研究生"]),
    ("硕士", ["硕士", "研究生", "硕士研究生"]),
    ("本科", ["本科", "学士", "统招本科", "全日制本科"]),
    ("大专", ["大专", "专科", "统招大专", "全日制大专"])]

def schoolTypePatterns : List (String × List String) :=
  [("985", ["985", "985院校", "985高校"]),
    ("211", ["211", "211院校", "211高校"]),
    ("双一流", ["双一流", "双一流院校", "双一流高校", "一流大学建设高校"]),
    ("统招", ["统招", "统招要求", "全日制", "全日制统招"]),
    ("海外", ["海外", "海归", "留学", "海外留学"]),
    ("强基计划", ["强基计划"]),
    ("双高计划", ["双高计划"]),
    ("THE100",
      ["the100", "the 100", "the前100", "times前100", "qs前100", "qs100", "top100", "世界前100"])]

def chineseDigits : List (Char × Nat) :=
  [('零', 0), ('〇', 0), ('一', 1), ('二', 2), ('两', 2), ('三', 3), ('四', 4), ('五', 5), ('六', 6),
    ('七', 7), ('八', 8), ('九', 9)]

/-- `CHINESE_DIGITS[key]` -/
def chineseDigit (key : String) : Except RequirementError Nat :=
  match chineseDigits.find? fun entry => key.toList = [entry.1] with
  | some (_, value) => .ok value
  | none => .error (.keyError key)

def replaceChineseNumber (token : String) : Except RequirementError String := do
  if '十' ∉ token.toList then
    let digits ← token.toList.mapM fun c => chineseDigit (String.singleton c)
    return String.join (digits.map toString)
  else
    let (left, right) := Py.splitOnce '十' token
    let tens ← if left = "" then .ok 1 else chineseDigit left
    let ones ← if right = "" then .ok 0 else chineseDigit right
    return toString (tens * 10 + ones)

def normalizeNumericText (value : String) : Except RequirementError String :=
  (Regex.atLeast 1 (.char fun c => c = '十' ∨ c ∈ chineseDigits.map (·.1))).subWith
    replaceChineseNumber value

def normalizeDegreeRequirement (value : Option String) : Option DegreeRequirement :=
  let clean := cleanOptional value
  if clean = "" then none
  else if clean = unlimited then some ⟨unlimited, clean⟩
  else
    match degreePatterns.find? fun pattern =>
        clean = pattern.1 ∨ pattern.2.any (Py.contains clean ·) with
    | some pattern => some ⟨pattern.1, clean⟩
    | none => some ⟨clean, clean⟩

def schoolTypesOf (tables : Py.UnicodeTables) (value : String) : List String :=
  let key := Py.casefold tables value
  match schoolTypePatterns.filter fun pattern =>
      key = Py.casefold tables pattern.1 ∨ pattern.2.any (Py.contains key ·) with
  | [] => [value]
  | matched => matched.map (·.1)

def normalizeSchoolTypeRequirement (tables : Py.UnicodeTables) (values : List String) :
    Option SchoolTypeRequirement :=
  let cleanValues := cleanList tables 6 values
  if cleanValues = [] then none
  else if unlimited ∈ cleanValues then some ⟨[unlimited], unlimited⟩
  else
    some ⟨uniqueStrings tables (cleanValues.flatMap (schoolTypesOf tables)),
      Py.join "；" cleanValues⟩

def normalizeGenderRequirement (value : Option String) : Option GenderRequirement :=
  let clean := cleanOptional value
  if clean = "" then none
  else if ["性别不限", "男女不限", unlimited].any (Py.contains clean ·) then some ⟨unlimited, clean⟩
  else if ["男性", "男生", "男士"].any (Py.contains clean ·) ∨ clean = "男" then some ⟨"男", clean⟩
  else if ["女性", "女生", "女士"].any (Py.contains clean ·) ∨ clean = "女" then some ⟨"女", clean⟩
  else if clean = "未知" then some ⟨"未知", clean⟩
  else some ⟨clean, clean⟩

section Numbers

variable (tables : NumberTables)

/-- `\d{1,2}` -/
def smallNumber : Regex := .between 1 2 (.char tables.isDecimal)

/-- `int(text)` of a small number -/
def numberOf (text : String) : Int :=
  text.toList.foldl (fun (n : Int) c => 10 * n + tables.digit c) 0

def spaces : Regex := .star (.char Py.isSpace)

/-- The bounds that a phrase names, in some unit: a range, a least or a greatest value. -/
def boundsOf (unit : String) (minEndings : List String) (clean : String) :
    Option Int × Option Int :=
  let number := smallNumber tables
  match Regex.searchGroups
      [number, .all [spaces, .any (["-", "~", "至", "到"].map .text), spaces], number,
        .all [spaces, .opt (.text unit)]] clean with
  | some [first, _, second, _] =>
    let (a, b) := (numberOf tables first, numberOf tables second)
    (some (min a b), some (max a b))
  | _ =>
    match Regex.searchGroups
        [number, .all [spaces, .opt (.text unit), .any (minEndings.map .text)]] clean with
    | some [least, _] => (some (numberOf tables least), none)
    | _ =>
      match Regex.searchGroups
          [number, .all [spaces, .opt (.text unit), .any (["以下", "以内"].map .text)]] clean with
      | some [most, _] => (none, some (numberOf tables most))
      | _ => (none, none)

def normalizeBounds (unit : String) (minEndings unlimitedTokens : List String)
    (value : Option String) :
    Except RequirementError (Option (String × Option Int × Option Int)) := do
  let clean ← normalizeNumericText (cleanOptional value)
  if clean = "" then return none
  else if unlimitedTokens.any (Py.contains clean ·) then return some (clean, none, none)
  else return some (clean, boundsOf tables unit minEndings clean)

def normalizeExperienceRequirement (value : Option String) :
    Except RequirementError (Option ExperienceRequirement) := do
  let bounds ← normalizeBounds tables "年" ["以上", "及以上", "+", "起"]
    ["经验不限", "不限经验", "年限不限", unlimited] value
  return bounds.map fun (clean, least, most) => ⟨least, most, clean⟩

def normalizeAgeRequirement (value : Option String) :
    Except RequirementError (Option AgeRequirement) := do
  let bounds ← normalizeBounds tables "岁" ["以上", "及以上", "起"]
    ["年龄不限", "不限年龄", unlimited] value
  return bounds.map fun (clean, least, most) => ⟨least, most, clean⟩

end Numbers

/-! ## 4. The sheet -/

section Sheet

variable (tables : NumberTables)

def hardConstraintSlots (draft : RequirementExtractionDraft) (allowedLocations : List String) :
    Except RequirementError HardConstraintSlots := do
  let experienceRequirement ← normalizeExperienceRequirement tables draft.experienceRequirement
  let ageRequirement ← normalizeAgeRequirement tables draft.ageRequirement
  return {
    locations := allowedLocations
    schoolNames := cleanList tables.toUnicodeTables 6 draft.schoolNames
    degreeRequirement := normalizeDegreeRequirement draft.degreeRequirement
    schoolTypeRequirement :=
      normalizeSchoolTypeRequirement tables.toUnicodeTables draft.schoolTypeRequirement
    experienceRequirement
    genderRequirement := normalizeGenderRequirement draft.genderRequirement
    ageRequirement
    companyNames := cleanList tables.toUnicodeTables 6 draft.companyNames }

def preferenceSlots (draft : RequirementExtractionDraft) (allowedLocations : List String) :
    SheetPreferences where
  preferredLocations :=
    normalizePreferredLocations tables.toUnicodeTables allowedLocations draft.preferredLocations
  preferredCompanies := cleanList tables.toUnicodeTables 6 draft.preferredCompanies
  preferredDomains := cleanList tables.toUnicodeTables 4 draft.preferredDomains
  preferredBackgrounds := cleanList tables.toUnicodeTables 6 draft.preferredBackgrounds
  preferredQueryTerms := (cleanList tables.toUnicodeTables 8 draft.preferredQueryTerms).take 4

def nonAnchorTerms (titleAnchorTerms values : List String) : List String :=
  (cleanList tables.toUnicodeTables 8 values).filter fun term =>
    Py.casefold tables.toUnicodeTables term ∉
      titleAnchorTerms.map (Py.casefold tables.toUnicodeTables)

def normalizeRequirementDraft (draft : RequirementExtractionDraft) (jobTitle : String) :
    Except RequirementError NormalizedSheet := do
  let roleTitle := cleanText jobTitle
  let titleAnchorTerms ← normalizeTitleAnchorTerms tables.toUnicodeTables draft.titleAnchorTerms
  let titleAnchorRationale := cleanText draft.titleAnchorRationale
  let roleSummary := cleanText draft.roleSummary
  let scoringRationale := cleanText draft.scoringRationale
  if roleTitle = "" then
    throw (.valueError "role_title must not be empty after normalization")
  else if titleAnchorTerms = [] then
    throw (.valueError "title_anchor_terms must contain one or two items after normalization")
  else if titleAnchorRationale = "" then
    throw (.valueError "title_anchor_rationale must not be empty after normalization")
  else if roleSummary = "" then
    throw (.valueError "role_summary must not be empty after normalization")
  else if scoringRationale = "" then
    throw (.valueError "scoring_rationale must not be empty after normalization")
  else
    let jdQueryTerms := nonAnchorTerms tables titleAnchorTerms draft.jdQueryTerms
    let notesQueryTerms := nonAnchorTerms tables titleAnchorTerms draft.notesQueryTerms
    if jdQueryTerms = [] then
      throw (.valueError
        "jd_query_terms must contain at least one non-anchor term after normalization")
    else
      let allowedLocations := normalizeLocations tables.toUnicodeTables draft.locations
      let hardConstraints ← hardConstraintSlots tables draft allowedLocations
      let preferences := preferenceSlots tables draft allowedLocations
      match compileQueryTermPool tables.toUnicodeTables
          { jobTitle := roleTitle
            titleAnchorTerms
            jdQueryTerms
            notesQueryTerms
            hardConstraints := some hardConstraints
            preferences := some preferences.toPreferenceSlots } with
      | .error message => throw (.valueError message)
      | .ok initialQueryTermPool =>
        return {
          roleTitle
          titleAnchorTerms
          titleAnchorRationale
          roleSummary
          mustHaveCapabilities := cleanList tables.toUnicodeTables 8 draft.mustHaveCapabilities
          preferredCapabilities := cleanList tables.toUnicodeTables 8 draft.preferredCapabilities
          exclusionSignals := cleanList tables.toUnicodeTables 8 draft.exclusionSignals
          hardConstraints
          preferences
          initialQueryTermPool
          scoringRationale }

end Sheet

end Requirements

end SeekTalent

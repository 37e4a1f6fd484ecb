import SeekTalent.Requirements.Normalization
import SeekTalent.Workbench.DetailOpen

/-!
# The draft of an approved triage

A run of the workbench does not ask the model for its requirements: a draft is made of the
triage that the user has approved, and put where the requirement stage looks for a cached one.
The stage validates and normalizes it as any other draft, but it has nothing to fall back on.
-/

namespace SeekTalent

namespace TriageDraft

variable (tables : NumberTables)

def cutText (maxChars : Nat) (text : String) : String :=
  if maxChars < text.length then Py.rstrip (String.ofList (text.toList.take maxChars)) else text

/-- The loop of `_unique_bounded_strings`. -/
def uniqueBoundedFrom (maxItems maxChars : Nat) (results seen : List String) :
    List String → List String
  | [] => results
  | value :: rest =>
    let text := Py.strip value
    if text = "" then uniqueBoundedFrom maxItems maxChars results seen rest
    else
      let text := cutText maxChars text
      let key := Py.casefold tables.toUnicodeTables text
      if key ∈ seen then uniqueBoundedFrom maxItems maxChars results seen rest
      else
        let results := results ++ [text]
        if maxItems ≤ results.length then results
        else uniqueBoundedFrom maxItems maxChars results (key :: seen) rest

def uniqueBoundedStrings (maxItems : Nat) (values : List String) : List String :=
  uniqueBoundedFrom tables maxItems 180 [] [] values

def titleAnchorTerms (jobTitle : String) : List String :=
  let title := Py.strip jobTitle
  if title = "" then ["目标岗位"] else [title]

def fallbackNonAnchorTerm (jobTitle : String) (anchorKeys : List String) : String :=
  let spaced := String.ofList
    (jobTitle.toList.map fun c => if c ∈ ['/', '｜', '|'] then ' ' else c)
  match ((Py.split spaced).map Py.strip).find? fun text =>
      text ≠ "" ∧ Py.casefold tables.toUnicodeTables text ∉ anchorKeys with
  | some text => text
  | none =>
    let compact := Py.strip jobTitle
    if 4 < compact.length then String.ofList (compact.toList.take 4) else "岗位匹配"

def roleSummaryFromTriage (context : WorkbenchSourceRunJobContext) : String :=
  let criteria := context.triage.criteria
  let terms := uniqueBoundedStrings tables 3 (criteria.mustHaves ++ criteria.niceToHaves)
  if terms = [] then context.session.jobTitle
  else context.session.jobTitle ++ "，重点关注" ++ Py.join "、" terms ++ "。"

def offeredTerms (context : WorkbenchSourceRunJobContext) : List String :=
  let criteria := context.triage.criteria
  let anchorKeys :=
    (titleAnchorTerms context.session.jobTitle).map (Py.casefold tables.toUnicodeTables)
  let terms :=
    (uniqueBoundedStrings tables 8
      (criteria.generatedQueryHints ++ criteria.mustHaves ++ criteria.synonyms)).filter
        fun term => Py.casefold tables.toUnicodeTables term ∉ anchorKeys
  if terms = [] then [fallbackNonAnchorTerm tables context.session.jobTitle anchorKeys] else terms

def triageDraft (context : WorkbenchSourceRunJobContext) : RequirementExtractionDraft :=
  let criteria := context.triage.criteria
  { roleTitle := context.session.jobTitle
    titleAnchorTerms := titleAnchorTerms context.session.jobTitle
    titleAnchorRationale := "来自已确认岗位标准的标题锚点。"
    jdQueryTerms := offeredTerms tables context
    notesQueryTerms := uniqueBoundedStrings tables 6 criteria.synonyms
    roleSummary := roleSummaryFromTriage tables context
    mustHaveCapabilities := uniqueBoundedStrings tables 8 criteria.mustHaves
    preferredCapabilities :=
      uniqueBoundedStrings tables 8 (criteria.niceToHaves ++ criteria.seniorityFilters)
    exclusionSignals := uniqueBoundedStrings tables 8 criteria.exclusions
    preferredQueryTerms := uniqueBoundedStrings tables 8 criteria.generatedQueryHints
    scoringRationale := "优先匹配已确认的硬性条件，再参考加分条件和排除项。" }

def requirementDraftFromApprovedTriage (context : WorkbenchSourceRunJobContext) :
    Except RequirementError RequirementExtractionDraft :=
  (triageDraft tables context).validate

/-- The cached path of `RequirementExtractor.extract_with_draft`. -/
def extractCached (cached : RequirementExtractionDraft) (jobTitle : String) :
    Except RequirementError (RequirementExtractionDraft × NormalizedSheet) := do
  let cachedDraft ← cached.validate
  let sheet ← Requirements.normalizeRequirementDraft tables cachedDraft jobTitle
  return (cachedDraft, sheet)

def requirementStage (context : WorkbenchSourceRunJobContext) :
    Except RequirementError (RequirementExtractionDraft × NormalizedSheet) := do
  let draft ← requirementDraftFromApprovedTriage tables context
  extractCached tables draft context.session.jobTitle

end TriageDraft

end SeekTalent

import SeekTalent.Base.Regex
import SeekTalent.Query.Terms

/-!
# The query compiler

`compile_query_term_pool` makes the term pool of a run from the job title, its anchors and
the query terms of the job description and the notes. Title anchors come first, the first of
them is the primary one; every other term is classified by its text, and of the admitted
ones the first `ACTIVE_NON_ANCHOR_WINDOW` are active.
-/

namespace SeekTalent

namespace QueryCompiler

def activeNonAnchorWindow : Nat := 6

def titleSuffixes : List String :=
  ["算法工程师", "开发工程师", "工程师", "架构师", "专家", "经理", "负责人", "岗位", "职位"]

def titlePrefixSeparators : List Char := ['-', '－', '–', '—', '|', '｜', ':', '：']

def titlePrefixHints : List String := ["业务线", "业务", "品牌", "团队", "部门", "项目"]

def schoolTypeTerms : List String :=
  ["985", "211", "双一流", "统招", "全日制", "海外", "海归", "强基计划", "双高计划", "the100"]

def degreeTokens : List String :=
  ["博士", "硕士", "研究生", "本科", "学士", "大专", "专科", "学历"]

def abstractPatterns : List String :=
  ["任务拆解", "长链路业务问题", "复杂业务问题", "业务问题", "沟通", "协作", "抗压", "主人翁", "自驱", "抽象能力"]

def blockedPatterns : List String := ["agentloop", "veadk", "googleadk"]

def filterOnlyPatterns : List String :=
  ["薪资", "薪酬", "年薪", "月薪", "预算", "面试", "到岗", "离职", "出差", "出国", "目标公司", "公司范围"]

def genericNotesPrefixes : List String := ["base"]

def genericNotesMarkers : List String :=
  ["能力", "意识", "协同", "协调", "理解", "思维", "导向", "敏感度", "管理", "沟通", "逻辑", "流利",
    "责任", "执行", "推动", "战略", "团队", "sense"]

def genderTerms : List String := ["男", "女", "男性", "女性", "男女不限", "性别不限"]

def cleanText (value : String) : String := Py.strip (Py.join " " (Py.split value))

section Text

variable (tables : Py.UnicodeTables)

def compactKey (value : String) : String := Py.foldedAlnum tables value

/-- `text or default` -/
def orElse (text default : String) : String := if text = "" then default else text

def familyForRole (term : String) : String :=
  "role." ++ orElse (compactKey tables term) "unknown"

/-- `\d{1,2}(?:-|~|至|到)?\d{0,2}`, the unit, and perhaps one of the endings. -/
def numberPhrase (unit : String) (endings : List String) : Regex :=
  .all
    [.between 1 2 (.char tables.isDecimal), .opt (.any (["-", "~", "至", "到"].map .text)),
      .between 0 2 (.char tables.isDecimal), .text unit, .opt (.any (endings.map .text))]

def isFilterOnly (term compact : String) : Bool :=
  compact ∈ schoolTypeTerms ||
    degreeTokens.any (Py.contains term ·) ||
    (numberPhrase tables "年" ["以上", "以下", "以内", "经验"]).fullmatch term ||
    (numberPhrase tables "岁" ["以上", "以下", "以内"]).fullmatch term ||
    filterOnlyPatterns.any (fun pattern =>
      Py.contains (Py.casefold tables term) (Py.casefold tables pattern)) ||
    term ∈ genderTerms ++ ["不限"]

def filterFamily (term compact : String) : String :=
  if compact ∈ schoolTypeTerms then "constraint.school_type"
  else if degreeTokens.any (Py.contains term ·) then "constraint.degree"
  else if Py.contains term "岁" || Py.contains term "年龄" then "constraint.age"
  else if term ∈ genderTerms then "constraint.gender"
  else if Py.contains term "年" || Py.contains term "经验" then "constraint.experience"
  else "constraint.filter"

def isAbstractNotesTerm (term : String) : Bool :=
  abstractPatterns.any fun pattern =>
    Py.contains (Py.casefold tables term) pattern || Py.contains term pattern

/-- How a term is used if nothing else is said of it. -/
structure Classification where
  role : QueryRetrievalRole
  queryability : Queryability
  category : QueryTermCategory
  family : String

def classifyTerm (term : String) (constraintKeys : List String) : Classification :=
  let key := Py.casefold tables term
  let compact := compactKey tables term
  if key ∈ constraintKeys ∨ compact ∈ constraintKeys ∨ isFilterOnly tables term compact then
    ⟨.filterOnly, .filterOnly, .domain, filterFamily term compact⟩
  else if blockedPatterns.any (Py.contains compact ·) then
    ⟨.scoreOnly, .blocked, .expansion, "blocked." ++ compact⟩
  else if isAbstractNotesTerm tables term then
    ⟨.scoreOnly, .scoreOnly, .expansion, "score." ++ orElse compact "abstract"⟩
  else ⟨.domainContext, .admitted, .domain, "domain." ++ orElse compact "unknown"⟩

def looksLikeDomainNotesTerm (term : String) : Bool :=
  let chars := term.toList
  let compact := (compactKey tables term).toList
  let isAscii := fun c : Char => c.toNat < 0x80
  if compact.length < 2 ∨ 12 < compact.length then false
  else if chars.any Py.isSpace then false
  else if chars.any fun c => !tables.isAlnum c && !Py.isCjk c then false
  else if chars.any Char.isAlpha then
    (chars.all isAscii && compact.all isAscii && compact.all tables.isAlnum &&
      !compact.isEmpty && ' ' ∉ chars) || chars.any Py.isCjk
  else false

def shouldAdmitNotesTerm (term : String) : Bool :=
  let compact := compactKey tables term
  if compact = "" then false
  else if isFilterOnly tables term compact then false
  else if blockedPatterns.any (Py.contains compact ·) then false
  else if isAbstractNotesTerm tables term then false
  else if genericNotesMarkers.any (Py.contains term ·) then false
  else if genericNotesPrefixes.any (Py.startsWith (Py.casefold tables term) ·) then false
  else looksLikeDomainNotesTerm tables term

/-- The values of the constraints and preferences, in the order they are collected. -/
def constraintValues (hardConstraints : Option HardConstraintSlots)
    (preferences : Option PreferenceSlots) : List String :=
  (match hardConstraints with
    | none => []
    | some hard =>
      hard.locations ++ hard.schoolNames ++ hard.companyNames ++
        (match hard.degreeRequirement with
          | none => []
          | some degree => [degree.canonicalDegree, degree.rawText]) ++
        (match hard.schoolTypeRequirement with
          | none => []
          | some schoolType => schoolType.canonicalTypes ++ [schoolType.rawText]) ++
        (match hard.experienceRequirement with
          | none => []
          | some experience => [experience.rawText]) ++
        (match hard.genderRequirement with
          | none => []
          | some gender => [gender.canonicalGender, gender.rawText]) ++
        (match hard.ageRequirement with
          | none => []
          | some age => [age.rawText])) ++
    match preferences with
    | none => []
    | some preferred => preferred.preferredLocations ++ preferred.preferredCompanies

def constraintKeys (hardConstraints : Option HardConstraintSlots)
    (preferences : Option PreferenceSlots) : List String :=
  (((constraintValues hardConstraints preferences).map cleanText).filter (· ≠ "")).flatMap
    fun clean => [Py.casefold tables clean, compactKey tables clean]

/-! ## Title anchors -/

def stripTitleSuffix (value : String) : String :=
  let clean := cleanText value
  match titleSuffixes.find? fun suffix =>
      Py.endsWith (Py.casefold tables clean) (Py.casefold tables suffix) with
  | some suffix => Py.strip (Py.dropLast suffix.length clean)
  | none => clean

def looksLikeTitlePrefix (left rightAnchor : String) : Bool :=
  let leftKey := compactKey tables left
  if leftKey = "" ∨ 12 < leftKey.length then false
  else rightAnchor.toList.any Char.isAlpha || titlePrefixHints.any (Py.contains left ·)

def anchorAfterPrefix (clean : String) : List Char → Option String
  | [] => none
  | separator :: rest =>
    if separator ∉ clean.toList then anchorAfterPrefix clean rest
    else
      let (left, right) := Py.splitOnce separator clean
      let rightAnchor := stripTitleSuffix tables right
      if rightAnchor ≠ "" ∧ looksLikeTitlePrefix tables left rightAnchor then some rightAnchor
      else anchorAfterPrefix clean rest

def cleanTitleAnchor (value : String) : String :=
  let clean := cleanText value
  (anchorAfterPrefix tables clean titlePrefixSeparators).getD (stripTitleSuffix tables clean)

/-- The loop of `_compile_title_anchors`, which ends when it has two different anchors. -/
def collectTitleAnchors (compiled : List String) : List String → List String
  | [] => compiled
  | value :: rest =>
    let anchor := cleanTitleAnchor tables value
    let compiled := if anchor = "" then compiled else compiled ++ [anchor]
    if (uniqueStrings tables compiled).length = 2 then compiled
    else collectTitleAnchors compiled rest

def compileTitleAnchors (jobTitle : String) (titleAnchorTerms : List String)
    (titleAnchorTerm : Option String) : List String :=
  let compiled := collectTitleAnchors tables [] (uniqueStrings tables titleAnchorTerms)
  let fallback :=
    orElse ((titleAnchorTerm.map (cleanTitleAnchor tables)).getD "")
      (orElse (cleanTitleAnchor tables jobTitle) (cleanText jobTitle))
  let compiled := if compiled = [] ∧ fallback ≠ "" then [fallback] else compiled
  (uniqueStrings tables compiled).take 2

/-- The loop of `_merge_query_terms`. -/
def mergeQueryTerms (limit : Nat) (seen : List String) (merged : List (String × QueryTermSource)) :
    List (String × QueryTermSource) → List (String × QueryTermSource)
  | [] => merged
  | (term, source) :: rest =>
    let clean := cleanText term
    let key := Py.casefold tables clean
    if clean = "" ∨ key ∈ seen then mergeQueryTerms limit seen merged rest
    else
      let merged := merged ++ [(clean, source)]
      if limit ≤ merged.length then merged
      else mergeQueryTerms limit (key :: seen) merged rest

/-! ## The pool -/

structure CompilerState where
  pool : List QueryTermCandidate := []
  seen : List String := []
  activeNonAnchorCount : Nat := 0

/-- The arguments of `add_candidate`; what is not given is inferred from the term. -/
structure AddCandidate where
  term : String
  source : QueryTermSource
  evidence : String
  priority : Int
  given : Option Classification := none

def admitNotes (source : QueryTermSource) (clean : String) (class_ : Classification) :
    Classification :=
  if source = .notes ∧ class_.queryability = .admitted ∧ ¬shouldAdmitNotesTerm tables clean then
    ⟨.scoreOnly, .scoreOnly, .expansion, "score." ++ orElse (compactKey tables clean) "notes"⟩
  else class_

def addCandidate (constraintKeys : List String) (state : CompilerState) (call : AddCandidate) :
    CompilerState :=
  let clean := cleanText call.term
  let dedupeKey := Py.casefold tables clean
  if clean = "" ∨ dedupeKey ∈ state.seen then state
  else
    let class_ := admitNotes tables call.source clean
      (call.given.getD (classifyTerm tables clean constraintKeys))
    let counts := class_.queryability = .admitted ∧ isTitleAnchorRole class_.role = false
    let activeNonAnchorCount := state.activeNonAnchorCount + if counts then 1 else 0
    let candidate : QueryTermCandidate :=
      { term := clean
        source := call.source
        category := class_.category
        priority := call.priority
        evidence := call.evidence
        firstAddedRound := 0
        active := class_.queryability = .admitted ∧
          (counts → activeNonAnchorCount ≤ activeNonAnchorWindow)
        retrievalRole := class_.role
        queryability := class_.queryability
        family := class_.family }
    { pool := state.pool ++ [candidate], seen := dedupeKey :: state.seen, activeNonAnchorCount }

/-- The arguments of `compile_query_term_pool`. -/
structure Input where
  jobTitle : String
  titleAnchorTerms : List String
  titleAnchorTerm : Option String := none
  jdQueryTerms : List String
  notesQueryTerms : List String
  hardConstraints : Option HardConstraintSlots := none
  preferences : Option PreferenceSlots := none

def anchorCall (anchor : String) (index : Nat) : AddCandidate :=
  { term := anchor
    source := .jobTitle
    evidence := "Compiled job title anchor."
    priority := index + 1
    given := some
      { role := if index = 0 then .primaryRoleAnchor else .secondaryTitleAnchor
        queryability := .admitted
        category := .roleAnchor
        family := familyForRole tables anchor } }

/-- The call for a query term, `index` calls after the first. -/
def termCall (term : String × QueryTermSource) (index : Nat) : AddCandidate :=
  { term := term.1
    source := term.2
    evidence := if term.2 = .jd then "JD query term." else "Notes query term."
    priority := index + 1 }

/-- All calls of `add_candidate`, in order. -/
def calls (input : Input) : List AddCandidate :=
  let anchors :=
    compileTitleAnchors tables input.jobTitle input.titleAnchorTerms input.titleAnchorTerm
  let terms := mergeQueryTerms tables 8 [] []
    (input.jdQueryTerms.map (·, .jd) ++ input.notesQueryTerms.map (·, .notes))
  anchors.mapIdx (fun index anchor => anchorCall tables anchor index) ++
    terms.mapIdx fun index term => termCall term (anchors.length + index)

def addAll (constraintKeys : List String) (state : CompilerState) (calls : List AddCandidate) :
    CompilerState :=
  calls.foldl (addCandidate tables constraintKeys) state

end Text

end QueryCompiler

open QueryCompiler

def compileQueryTermPool (tables : Py.UnicodeTables) (input : QueryCompiler.Input) :
    Except String (List QueryTermCandidate) :=
  let keys := constraintKeys tables input.hardConstraints input.preferences
  let pool := (addAll tables keys {} (calls tables input)).pool
  if ¬∃ item ∈ pool, item.queryability = .admitted ∧ item.retrievalRole = .primaryRoleAnchor then
    .error "query compiler produced no admitted role anchor"
  else if ¬∃ item ∈ pool, item.queryability = .admitted ∧
      isTitleAnchorRole item.retrievalRole = false then
    .error "query compiler produced no admitted non-anchor terms"
  else .ok pool

end SeekTalent

import Mathlib.Data.Prod.Lex
import SeekTalent.Base.Regex
import SeekTalent.Models
import SeekTalent.Query.Terms

/-!
# Candidate feedback

`build_feedback_decision` looks for a term that several well fitting resumes have in common
and that the run has not used yet. Surface terms are cut out of a resume's texts with a few
regular expressions; a term is accepted if enough of the seed resumes and not too many of
the negative ones have it.

An accepted term is tidy, made of plain characters, and has a key no term of the pool has
(`accepted_spec`).
-/

namespace SeekTalent

namespace Feedback

def genericTerms : List String :=
  ["平台", "系统", "项目", "开发", "负责", "熟悉", "业务", "管理", "优化", "架构", "能力", "经验",
    "platform", "system", "project", "development", "develop", "responsible", "familiar",
    "business", "build", "built", "management", "optimization", "architecture", "ability",
    "experience"]

def commonWords : List String :=
  ["a", "an", "and", "as", "at", "be", "by", "for", "from", "in", "is", "it", "of", "on", "or",
    "the", "to", "use", "used", "using", "we", "with"]

def cleanTerm (value : String) : String :=
  Py.stripChars " \t\r\n,.;:，。；：!?" (Py.join " " (Py.split value))

section Patterns

/-- `[A-Za-z0-9]` -/
def letterOrDigit : Regex := .char Char.isAlphanum

/-- `\s` -/
def space : Regex := .char Py.isSpace

variable (tables : Py.UnicodeTables)

/-- `\b` -/
def wordBoundary : Regex := .boundary fun c => tables.isAlnum c || c == '_'

/-- `FILTER_LIKE_RE` -/
def filterLike : Regex :=
  .any
    [.all
      [.between 1 2 (.char tables.isDecimal),
        .opt (.all [.text ".", .atLeast 1 (.char tables.isDecimal)]), .star space,
        .any (["年", "岁"].map .text), .opt (.text "经验")],
      .any (["本科", "硕士", "博士", "大专", "专科", "学士", "学历"].map .text),
      .any (["985", "211", "双一流", "全日制", "统招", "海归", "海外", "学校", "院校", "高校"].map .text),
      .any (["薪资", "薪酬", "年薪", "月薪", "预算", "面试", "到岗", "离职", "出差", "出国"].map .text),
      .any (["北京", "上海", "广州", "深圳", "杭州", "成都", "南京", "苏州", "武汉", "重庆", "天津", "西安",
        "长沙", "厦门", "济南", "郑州"].map .text),
      .any (["男", "女", "男性", "女性", "男女不限", "性别不限", "不限"].map .text)]

/-- `_ACRONYM_RE` -/
def acronym : Regex :=
  .all
    [wordBoundary tables, .atLeast 2 (.char Char.isUpper),
      .star (.all [.atLeast 1 space, .atLeast 2 (.char Char.isUpper)]), wordBoundary tables]

/-- `[A-Z][a-z0-9]+` -/
def hump : Regex :=
  .all [.char Char.isUpper, .atLeast 1 (.char fun c => c.isLower || c.isDigit)]

/-- `_CAMEL_CASE_RE` -/
def camelCase : Regex := .all [wordBoundary tables, hump, .atLeast 1 hump, wordBoundary tables]

/-- `_SYMBOL_TOKEN_RE` -/
def symbolToken : Regex :=
  .any
    [.all
      [wordBoundary tables, .atLeast 1 letterOrDigit,
        .atLeast 1 (.all [.char (· ∈ "./+_-".toList), .atLeast 1 letterOrDigit]),
        wordBoundary tables],
      .text "C++", .text "C#"]

/-- `[A-Za-z][A-Za-z0-9.+#-]*` -/
def phraseWord : Regex :=
  .all [.char Char.isAlpha, .star (.char fun c => c.isAlphanum || c ∈ ".+#-".toList)]

/-- `_SHORT_ENGLISH_PHRASE_RE` -/
def shortEnglishPhrase : Regex :=
  .all [wordBoundary tables, phraseWord, .atLeast 1 space, phraseWord, wordBoundary tables]

/-- `_SHORT_CHINESE_PHRASE_RE` -/
def shortChinesePhrase : Regex := .between 2 6 (.char Py.isCjk)

/-- `[A-Za-z]+(?:\s+[A-Za-z]+){1,2}` -/
def englishWords : Regex :=
  .all
    [.atLeast 1 (.char Char.isAlpha),
      .between 1 2 (.all [.atLeast 1 space, .atLeast 1 (.char Char.isAlpha)])]

def surfacePatterns : List Regex :=
  [symbolToken tables, camelCase tables, acronym tables, shortEnglishPhrase tables,
    shortChinesePhrase]

def namePatterns : List Regex := [acronym tables, camelCase tables, symbolToken tables]

end Patterns

section Decision

variable (tables : Py.UnicodeTables)

def termKey (value : String) : String := Py.foldedAlnum tables value

def isAllowedSurfaceTerm (term : String) : Bool :=
  let generic := genericTerms.filter fun word => !word.toList.all (·.toNat < 0x80)
  let asciiGeneric := genericTerms.filter fun word => word.toList.all (·.toNat < 0x80)
  if term = "" then false
  else if (filterLike tables).search term then false
  else if termKey tables term ∈ genericTerms.map (termKey tables) then false
  else if asciiGeneric.any (Py.contains (Py.casefold tables term) ·) then false
  else if generic.any (Py.contains term ·) then false
  else if 32 < term.length then false
  else if englishWords.fullmatch term then
    let words := (Py.split term).map (Py.casefold tables)
    words.length = 2 ∧ ∀ word ∈ words, word ∉ commonWords
  else (namePatterns tables ++ [shortChinesePhrase]).any (·.fullmatch term)

/-- The first of the items with each key that is not in `seen`. -/
def keepFirst {α : Type} (key : α → String) (seen : List String) : List α → List α
  | [] => []
  | item :: rest =>
    if key item ∈ seen then keepFirst key seen rest
    else item :: keepFirst key (key item :: seen) rest

def extractSurfaceTerms (texts : List String) : List String :=
  let found := ((texts.map cleanTerm).filter (· ≠ "")).flatMap fun clean =>
    (surfacePatterns tables).flatMap fun pattern => (pattern.findAll clean).map cleanTerm
  keepFirst (termKey tables) [] (found.filter (isAllowedSurfaceTerm tables))

def resumeFieldTexts (resume : ScoredCandidate) : List (List String) :=
  [[resume.reasoningSummary], resume.evidence, resume.strengths, resume.matchedMustHaves,
    resume.matchedPreferences]

def mentions (resumes : List ScoredCandidate) : List (String × String) :=
  resumes.flatMap fun resume =>
    ((resumeFieldTexts resume).flatMap (extractSurfaceTerms tables)).map (resume.resumeId, ·)

def supportOf (mentions : List (String × String)) (key : String) : List String :=
  Py.sortedSet ((mentions.filter fun mention => termKey tables mention.2 = key).map (·.1))

def surfaceShapeBonus (term : String) : Int :=
  let pieces := Py.split term
  if (namePatterns tables).any (·.fullmatch term) then 2
  else if pieces.length = 2 ∧
      pieces.any fun piece => (namePatterns tables).any (·.fullmatch piece) then 1
  else 0

structure FeedbackCandidateTerm where
  term : String
  supportingResumeIds : List String
  score : Int
  rejectionReason : Option String

def scoreTerm (seedMentions negativeMentions : List (String × String)) (negativeCount : Nat)
    (excludedKeys : List String) (term : String) : FeedbackCandidateTerm :=
  let key := termKey tables term
  let seedIds := supportOf tables seedMentions key
  let negativeIds := supportOf tables negativeMentions key
  let useNegativeSupport := 3 ≤ negativeCount
  let negativePenalty : Int := if useNegativeSupport then negativeIds.length else 0
  let score : Int := seedIds.length * 4 - negativePenalty * 4 + surfaceShapeBonus tables term
  { term
    supportingResumeIds := seedIds
    score
    rejectionReason :=
      if key ∈ excludedKeys then some "existing_or_tried"
      else if ¬isAllowedSurfaceTerm tables term then some "generic_or_filter_like"
      else if seedIds.length < 2 then some "insufficient_seed_support"
      else if useNegativeSupport ∧ negativeIds ≠ [] ∧ seedIds.length ≤ negativeIds.length then
        some "negative_support_too_high"
      else if score < 8 then some "insufficient_seed_support"
      else none }

def scoreTerms (seedResumes negativeResumes : List ScoredCandidate) (excludedKeys : List String) :
    List FeedbackCandidateTerm :=
  let seedMentions := mentions tables seedResumes
  let negativeMentions := mentions tables negativeResumes
  let displayTerms :=
    keepFirst (termKey tables) [] ((seedMentions ++ negativeMentions).map (·.2))
  displayTerms.map
    (scoreTerm tables seedMentions negativeMentions negativeResumes.length excludedKeys)

def materializeTerm (term : String) (roundNo : Int) (supportingResumeIds : List String) :
    QueryTermCandidate :=
  { term
    source := .candidateFeedback
    category := .expansion
    priority := 1
    evidence := "Supported by " ++ toString supportingResumeIds.length ++ " seed resumes: " ++
      Py.join ", " supportingResumeIds ++ "."
    firstAddedRound := roundNo
    active := true
    retrievalRole := .coreSkill
    queryability := .admitted
    family := "feedback." ++ (if termKey tables term = "" then "unknown" else termKey tables term) }

structure CandidateFeedbackDecision where
  seedResumeIds : List String
  candidateTerms : List FeedbackCandidateTerm := []
  rejectedTerms : List FeedbackCandidateTerm := []
  acceptedCandidates : List FeedbackCandidateTerm := []
  acceptedTerm : Option QueryTermCandidate := none
  forcedQueryTerms : List String := []
  skippedReason : Option String := none

def activeAnchor (existingTerms : List QueryTermCandidate) : Option QueryTermCandidate :=
  existingTerms.find? fun item => item.active ∧ item.IsPrimaryAnchor

def candidateTerms (seedResumes negativeResumes : List ScoredCandidate)
    (existingTerms : List QueryTermCandidate) (sentQueryTerms : List String) :
    List FeedbackCandidateTerm :=
  Py.sortedBy (fun item : FeedbackCandidateTerm =>
      (toLex (-item.score, toLex (-(item.supportingResumeIds.length : Int),
        Py.casefold tables item.term)) : Int ×ₗ Int ×ₗ String))
    (scoreTerms tables seedResumes negativeResumes
      (existingTerms.map (termKey tables ·.term) ++ sentQueryTerms.map (termKey tables)))

def buildFeedbackDecision (seedResumes negativeResumes : List ScoredCandidate)
    (existingTerms : List QueryTermCandidate) (sentQueryTerms : List String) (roundNo : Int) :
    CandidateFeedbackDecision :=
  let seedResumeIds := seedResumes.map (·.resumeId)
  if seedResumes.length < 2 then
    { seedResumeIds, skippedReason := some "fewer_than_two_feedback_seed_resumes" }
  else match activeAnchor existingTerms with
    | none => { seedResumeIds, skippedReason := some "missing_active_anchor" }
    | some anchor =>
      let candidateTerms :=
        candidateTerms tables seedResumes negativeResumes existingTerms sentQueryTerms
      let rejectedTerms := candidateTerms.filter (·.rejectionReason.isSome)
      match candidateTerms.find? fun item => item.rejectionReason = none ∧ 8 ≤ item.score with
      | none =>
        { seedResumeIds, candidateTerms, rejectedTerms
          skippedReason := some "no_safe_feedback_term" }
      | some accepted =>
        let acceptedTerm :=
          materializeTerm tables accepted.term roundNo accepted.supportingResumeIds
        { seedResumeIds, candidateTerms, rejectedTerms
          acceptedCandidates := [accepted]
          acceptedTerm := some acceptedTerm
          forcedQueryTerms := [anchor.term, acceptedTerm.term] }

def selectFeedbackSeedResumes (candidates : List ScoredCandidate) : List ScoredCandidate :=
  (Py.sortedBy (fun candidate : ScoredCandidate =>
      (toLex (-(candidate.overallScore : Int), toLex (-(candidate.mustHaveMatchScore : Int),
        toLex (candidate.riskScore, candidate.resumeId))) : Int ×ₗ Int ×ₗ Nat ×ₗ String))
    (candidates.filter fun candidate =>
      candidate.fitBucket = .fit ∧ 75 ≤ candidate.overallScore ∧
        70 ≤ candidate.mustHaveMatchScore ∧ candidate.riskScore ≤ 45)).take 5

end Decision

/-! ## The accepted term -/

section Accepted

variable {tables : Py.UnicodeTables} {term : String} {seeds negatives : List ScoredCandidate}
variable {existingTerms : List QueryTermCandidate} {sentQueryTerms : List String} {roundNo : Int}

structure SurfaceTerm (term : String) : Prop where
  tidy : Py.Tidy term
  ne_empty : term ≠ ""
  plain : ∀ c ∈ term.toList, Py.isPlain c = true

theorem isPlain_of_lt {c : Char} (h : c.toNat < 0x80) : Py.isPlain c = true := by
  simp [Py.isPlain, h]

theorem isPlain_of_isAlphanum {c : Char} (h : c.isAlphanum = true) : Py.isPlain c = true := by
  apply isPlain_of_lt
  rw [Py.isAlphanum_iff] at h
  omega

def PlainOrSpace (c : Char) : Prop := Py.isPlain c = true ∨ Py.isSpace c = true

theorem reads_space : space.Reads PlainOrSpace := fun _ h => .inr h

theorem reads_isUpper : (Regex.char Char.isUpper).Reads PlainOrSpace := by
  intro c hc
  exact .inl (isPlain_of_isAlphanum (Bool.or_inl (Bool.or_inl hc)))

theorem reads_isAlpha : (Regex.char Char.isAlpha).Reads PlainOrSpace := by
  intro c hc
  exact .inl (isPlain_of_isAlphanum (Bool.or_inl hc))

theorem reads_letterOrDigit : letterOrDigit.Reads PlainOrSpace :=
  fun _ hc => .inl (isPlain_of_isAlphanum hc)

theorem reads_hump : hump.Reads PlainOrSpace := by
  refine Regex.reads_all.mpr ?_
  simp only [List.mem_cons, List.not_mem_nil, or_false, forall_eq_or_imp, forall_eq]
  refine ⟨reads_isUpper, Regex.reads_atLeast 1 ?_⟩
  intro c hc
  refine .inl (isPlain_of_isAlphanum ?_)
  simp only [Bool.or_eq_true] at hc
  rcases hc with hc | hc
  · exact Bool.or_inl (Bool.or_inr hc)
  · exact Bool.or_inr hc

theorem reads_acronym : (acronym tables).Reads PlainOrSpace := by
  refine Regex.reads_all.mpr ?_
  simp only [List.mem_cons, List.not_mem_nil, or_false, forall_eq_or_imp, forall_eq]
  refine ⟨trivial, Regex.reads_atLeast 2 reads_isUpper, ?_, trivial⟩
  show (Regex.all _).Reads PlainOrSpace
  refine Regex.reads_all.mpr ?_
  simp only [List.mem_cons, List.not_mem_nil, or_false, forall_eq_or_imp, forall_eq]
  exact ⟨Regex.reads_atLeast 1 reads_space, Regex.reads_atLeast 2 reads_isUpper⟩

theorem reads_camelCase : (camelCase tables).Reads PlainOrSpace := by
  refine Regex.reads_all.mpr ?_
  simp only [List.mem_cons, List.not_mem_nil, or_false, forall_eq_or_imp, forall_eq]
  exact ⟨trivial, reads_hump, Regex.reads_atLeast 1 reads_hump, trivial⟩

theorem reads_ascii {s : String} (h : s.toList.all (·.toNat < 0x80) = true) :
    (Regex.text s).Reads PlainOrSpace := by
  apply Regex.reads_text.mpr
  intro c hc
  have hlt := List.all_eq_true.mp h c hc
  exact .inl (isPlain_of_lt (by simpa using hlt))

theorem reads_symbolToken : (symbolToken tables).Reads PlainOrSpace := by
  refine Regex.reads_any.mpr ?_
  simp only [List.mem_cons, List.not_mem_nil, or_false, forall_eq_or_imp, forall_eq]
  refine ⟨Regex.reads_all.mpr ?_, reads_ascii (by decide), reads_ascii (by decide)⟩
  simp only [List.mem_cons, List.not_mem_nil, or_false, forall_eq_or_imp, forall_eq]
  refine ⟨trivial, Regex.reads_atLeast 1 reads_letterOrDigit, Regex.reads_atLeast 1 ?_, trivial⟩
  refine Regex.reads_all.mpr ?_
  simp only [List.mem_cons, List.not_mem_nil, or_false, forall_eq_or_imp, forall_eq]
  refine ⟨fun c hc => .inl (isPlain_of_lt ?_), Regex.reads_atLeast 1 reads_letterOrDigit⟩
  have hsigns : "./+_-".toList.all (·.toNat < 0x80) = true := by decide
  have hlt := List.all_eq_true.mp hsigns c (by simpa using hc)
  simpa using hlt

theorem reads_shortChinesePhrase : shortChinesePhrase.Reads PlainOrSpace :=
  Regex.reads_between 2 6 fun _ hc => .inl (by simp [Py.isPlain, hc])

theorem reads_englishWords : englishWords.Reads PlainOrSpace := by
  refine Regex.reads_all.mpr ?_
  simp only [List.mem_cons, List.not_mem_nil, or_false, forall_eq_or_imp, forall_eq]
  refine ⟨Regex.reads_atLeast 1 reads_isAlpha, Regex.reads_between 1 2 ?_⟩
  refine Regex.reads_all.mpr ?_
  simp only [List.mem_cons, List.not_mem_nil, or_false, forall_eq_or_imp, forall_eq]
  exact ⟨Regex.reads_atLeast 1 reads_space, Regex.reads_atLeast 1 reads_isAlpha⟩

theorem plainOrSpace_of_allowed (h : isAllowedSurfaceTerm tables term = true) :
    term ≠ "" ∧ ∀ c ∈ term.toList, PlainOrSpace c := by
  unfold isAllowedSurfaceTerm at h
  dsimp only at h
  by_cases hempty : term = ""
  · simp [hempty] at h
  refine ⟨hempty, ?_⟩
  rw [if_neg hempty] at h
  split at h
  · simp at h
  split at h
  · simp at h
  split at h
  · simp at h
  split at h
  · simp at h
  split at h
  · simp at h
  split at h
  · rename_i henglish
    exact Regex.mem_of_fullmatch reads_englishWords henglish
  · obtain ⟨pattern, hpattern, hmatch⟩ := List.any_eq_true.mp h
    refine Regex.mem_of_fullmatch ?_ hmatch
    simp only [namePatterns, List.cons_append, List.nil_append, List.mem_cons, List.not_mem_nil,
      or_false] at hpattern
    rcases hpattern with rfl | rfl | rfl | rfl
    · exact reads_acronym
    · exact reads_camelCase
    · exact reads_symbolToken
    · exact reads_shortChinesePhrase

theorem tidy_cleanTerm (value : String) : Py.Tidy (cleanTerm value) :=
  Py.tidy_stripChars _ _ (by decide)

theorem surfaceTerm_cleanTerm {value : String}
    (h : isAllowedSurfaceTerm tables (cleanTerm value) = true) : SurfaceTerm (cleanTerm value) := by
  obtain ⟨hempty, hchars⟩ := plainOrSpace_of_allowed h
  refine ⟨tidy_cleanTerm value, hempty, fun c hc => ?_⟩
  rcases hchars c hc with hplain | hspace
  · exact hplain
  · obtain rfl := (tidy_cleanTerm value).eq_blank hc hspace
    rfl

theorem mem_of_mem_keepFirst {α : Type} {key : α → String} {seen : List String} {items : List α}
    {item : α} (h : item ∈ keepFirst key seen items) : item ∈ items := by
  induction items generalizing seen with
  | nil => exact h
  | cons first rest ih =>
    unfold keepFirst at h
    split at h
    · exact List.mem_cons_of_mem first (ih h)
    · rcases List.mem_cons.mp h with rfl | h
      · exact List.mem_cons_self ..
      · exact List.mem_cons_of_mem first (ih h)

theorem surfaceTerm_of_extract {texts : List String} (h : term ∈ extractSurfaceTerms tables texts) :
    SurfaceTerm term := by
  obtain ⟨hfound, hallowed⟩ := List.mem_filter.mp (mem_of_mem_keepFirst h)
  obtain ⟨clean, -, hclean⟩ := List.mem_flatMap.mp hfound
  obtain ⟨pattern, -, hpattern⟩ := List.mem_flatMap.mp hclean
  obtain ⟨value, -, rfl⟩ := List.mem_map.mp hpattern
  exact surfaceTerm_cleanTerm hallowed

theorem surfaceTerm_of_mention {resumes : List ScoredCandidate} {mention : String × String}
    (h : mention ∈ mentions tables resumes) : SurfaceTerm mention.2 := by
  obtain ⟨resume, -, hresume⟩ := List.mem_flatMap.mp h
  obtain ⟨term, hterm, rfl⟩ := List.mem_map.mp hresume
  obtain ⟨texts, -, htexts⟩ := List.mem_flatMap.mp hterm
  exact surfaceTerm_of_extract htexts

theorem candidateTerms_spec {item : FeedbackCandidateTerm}
    (h : item ∈ candidateTerms tables seeds negatives existingTerms sentQueryTerms) :
    SurfaceTerm item.term ∧ (item.rejectionReason = none →
      termKey tables item.term ∉ existingTerms.map (termKey tables ·.term)) := by
  obtain ⟨term, hterm, rfl⟩ := List.mem_map.mp (Py.mem_sortedBy.mp h)
  obtain ⟨mention, hmention, rfl⟩ := List.mem_map.mp (mem_of_mem_keepFirst hterm)
  constructor
  · rcases List.mem_append.mp hmention with hmention | hmention
    · exact surfaceTerm_of_mention hmention
    · exact surfaceTerm_of_mention hmention
  · intro hnone hkey
    have hexcluded : termKey tables mention.2 ∈ existingTerms.map (termKey tables ·.term) ++
        sentQueryTerms.map (termKey tables) := List.mem_append_left _ hkey
    simp only [scoreTerm, hexcluded, if_true, reduceCtorEq] at hnone

theorem accepted_spec {accepted : QueryTermCandidate}
    (h : (buildFeedbackDecision tables seeds negatives existingTerms sentQueryTerms
      roundNo).acceptedTerm = some accepted) :
    ∃ (anchor : QueryTermCandidate) (item : FeedbackCandidateTerm),
      activeAnchor existingTerms = some anchor ∧ SurfaceTerm item.term ∧
      termKey tables item.term ∉ existingTerms.map (termKey tables ·.term) ∧
      accepted = materializeTerm tables item.term roundNo item.supportingResumeIds ∧
      (buildFeedbackDecision tables seeds negatives existingTerms sentQueryTerms
        roundNo).forcedQueryTerms = [anchor.term, accepted.term] := by
  unfold buildFeedbackDecision at h ⊢
  dsimp only at h ⊢
  split at h
  · cases h
  · rename_i hseeds
    rw [if_neg hseeds]
    cases hanchor : activeAnchor existingTerms with
    | none =>
      rw [hanchor] at h
      cases h
    | some anchor =>
      rw [hanchor] at h
      dsimp only at h ⊢
      cases hfind : (candidateTerms tables seeds negatives existingTerms sentQueryTerms).find?
          fun item => item.rejectionReason = none ∧ 8 ≤ item.score with
      | none =>
        rw [hfind] at h
        cases h
      | some item =>
        rw [hfind] at h
        obtain ⟨hterm, hkey⟩ := candidateTerms_spec (List.mem_of_find?_eq_some hfind)
        have hreason : item.rejectionReason = none := by
          have hitem := List.find?_some hfind
          simp only [decide_eq_true_eq] at hitem
          exact hitem.1
        obtain rfl : materializeTerm tables item.term roundNo item.supportingResumeIds =
          accepted := by simpa using h
        exact ⟨anchor, item, rfl, hterm, hkey hreason, rfl, rfl⟩

end Accepted

end Feedback

end SeekTalent

import Mathlib.Algebra.Order.Floor.Ring
import Mathlib.Data.Rat.Floor
import Mathlib.Order.Monotone.Basic
import SeekTalent.Feedback.Families
import SeekTalent.Query.Feedback
import SeekTalent.Workbench.Redaction

/-!
# The gate for proposed phrases

The records that grounding accepted are gathered by family, each family becomes an
expression with its support by resumes that fit and by resumes that do not, and the gate
takes the first expression against which nothing speaks.

A reason against an expression may come from its classification, from the families that are
in use, or from the gate itself, which also renames some. `accepted_spec` says what is left
of all that for the expression that is taken.
-/

namespace SeekTalent

namespace Prf

open Grounding Py

/-! ## 1. Expressions -/

/-- What else the program is handed besides the source texts. -/
structure PrfPayload extends LLMPRFInput where
  existingQueryTerms : List String := []
  sentQueryTerms : List String := []
  seedResumeIds : List String := []
  negativeResumeIds : List String := []
  negativeSourceTexts : List LLMPRFSourceText := []

structure FeedbackCandidateExpression where
  termFamilyId : String
  canonicalExpression : String
  surfaceForms : List String
  candidateTermType : CandidateTermType
  sourceSeedResumeIds : List String
  fieldHits : List (String × Nat)
  positiveSeedSupportCount : Nat
  negativeSupportCount : Nat
  fitSupportRate : ℚ
  notFitSupportRate : ℚ
  score : Int
  rejectReasons : List String

/-- The marks outside ASCII that `_clean_term` strips. -/
def marks : List Char := ['，', '。', '；', '：']

/-- The text forms, with what they make of ASCII, of the CJK ideographs and of a few marks; and
    the quotient of two whole numbers as the interpreter has it, which is the exact one
    rounded. -/
structure PrfLibrary extends TextForms where
  isAlnum_plain : ∀ c, isPlain c = true → isAlnum c = (c.isAlphanum || isCjk c)
  isAlnum_mark : ∀ c ∈ marks, isAlnum c = false
  nfkc_plain : ∀ cs, (∀ c ∈ cs, isPlain c = true ∨ c ∈ marks) → nfkc cs = cs.map narrow
  round : ℚ → ℚ
  round_mono : Monotone round

section Expressions

variable (lib : PrfLibrary)

/-- `_MIXED_CASE_TOKEN_RE` -/
def mixedCaseToken : Regex :=
  .all [Feedback.wordBoundary lib.toUnicodeTables, .char Char.isUpper,
    .star Feedback.letterOrDigit, .char Char.isUpper, .star Feedback.letterOrDigit,
    Feedback.wordBoundary lib.toUnicodeTables]

/-- `_TITLE_CASE_TOKEN_RE` -/
def titleCaseToken : Regex :=
  .all [Feedback.wordBoundary lib.toUnicodeTables, .char Char.isUpper,
    .atLeast 2 (.char fun c => c.isLower || c.isDigit), Feedback.wordBoundary lib.toUnicodeTables]

/-- `_PRODUCT_OR_PLATFORM_HINT_RE` -/
def productOrPlatformHint : Regex :=
  .any (["ai", "gpt", "copilot", "sdk", "api", "cloud", "platform", "studio", "workspace", "graph",
    "chain", "db"].map Redaction.textIgnoreCase)

def isAllowedExpressionSurfaceTerm (term : String) : Bool :=
  if Feedback.isAllowedSurfaceTerm lib.toUnicodeTables term then true
  else if term = "" then false
  else if (Feedback.filterLike lib.toUnicodeTables).search term then false
  else if Feedback.termKey lib.toUnicodeTables term ∈
      Feedback.genericTerms.map (Feedback.termKey lib.toUnicodeTables) then false
  else if 32 < term.length then false
  else (mixedCaseToken lib).fullmatch term || (titleCaseToken lib).fullmatch term

def looksLikeProductOrPlatform (term : String) : Bool :=
  if (Feedback.symbolToken lib.toUnicodeTables).fullmatch term then true
  else if (Feedback.camelCase lib.toUnicodeTables).fullmatch term ||
      (mixedCaseToken lib).fullmatch term then true
  else productOrPlatformHint.search term

/-- `_candidate_term_type`, where no product is known -/
def candidateTermTypeOf (term : String) : CandidateTermType :=
  if looksLikeProductOrPlatform lib term then .productOrPlatform
  else if contains term " " || term.toList.any isCjk then .technicalPhrase
  else .skill

/-- `classify_feedback_expressions` of one expression, where no product is known: its type and
    the reasons against it. -/
def classifyExpression (knownCompanyEntities : List String) (expression : String) :
    CandidateTermType × List String :=
  let normalized := Feedback.cleanTerm expression
  if normalized = "" then (.technicalPhrase, ["empty_expression"])
  else if !isAllowedExpressionSurfaceTerm lib normalized then
    (candidateTermTypeOf lib normalized, ["generic_or_filter_like"])
  else if Feedback.termKey lib.toUnicodeTables normalized ∈
      knownCompanyEntities.map (Feedback.termKey lib.toUnicodeTables) then
    (.companyEntity, ["company_entity"])
  else (candidateTermTypeOf lib normalized, [])

/-- `_normalize_reject_reasons`, with the reasons that are renamed. -/
def normalizeRejectReasons (renamed : List (String × String)) (reasons : List String) :
    List String :=
  uniqueStrings lib.toUnicodeTables (reasons.map fun reason => (renamed.lookup reason).getD reason)

def renamedForExpressions : List (String × String) := [("company_entity", "company_entity_rejected")]

def renamedForPolicy : List (String × String) :=
  [("company_entity", "company_entity_rejected"), ("tried_term_family", "existing_or_tried_family")]

def isAmbiguousCompanyOrProduct (expression : String) : Bool := expression = "腾讯云"

/-- `support_eligible_by_ref.get`: of two texts with one reference the later one counts. -/
def supportEligible (payload : PrfPayload) (record : LLMPRFGroundingRecord) : Bool :=
  match payload.sourceTexts.reverse.find? fun source =>
      source.resumeId = record.resumeId ∧ source.sourceTextId = record.sourceTextId ∧
        source.sourceTextIndex = record.sourceTextIndex ∧
        source.sourceTextHash = record.sourceTextHash with
  | some source => source.supportEligible
  | none => record.supportEligible

def conflictingPrfFamilyIds (payload : PrfPayload) (triedTermFamilyIds : List String) :
    List String :=
  (triedTermFamilyIds.map fun familyId =>
      String.ofList (normalizePrfFamilyId lib.toTextForms familyId.toList)) ++
    (payload.existingQueryTerms ++ payload.sentQueryTerms).map fun term =>
      String.ofList (buildConservativePrfFamilyId lib.toTextForms term.toList)

def familyIdOf (record : LLMPRFGroundingRecord) : String :=
  String.ofList (familyOf lib.toTextForms record)

def familyRecords (records : List LLMPRFGroundingRecord) (familyId : String) :
    List LLMPRFGroundingRecord :=
  records.filter fun record => record.accepted ∧ familyIdOf lib record = familyId

def seedSupport (payload : PrfPayload) (records : List LLMPRFGroundingRecord) (familyId : String) :
    List String :=
  sortedSet (((familyRecords lib records familyId).filter (supportEligible payload)).map (·.resumeId))

/-- The name of a section, as records have it. -/
def SourceSection.value : SourceSection → String
  | .skill => "skill"
  | .recentExperienceSummary => "recent_experience_summary"
  | .keyAchievement => "key_achievement"
  | .rawTextExcerpt => "raw_text_excerpt"
  | .scorecardEvidence => "scorecard_evidence"
  | .scorecardMatchedMustHave => "scorecard_matched_must_have"
  | .scorecardMatchedPreference => "scorecard_matched_preference"
  | .scorecardStrength => "scorecard_strength"

def fieldHits (records : List LLMPRFGroundingRecord) : List (String × Nat) :=
  let sections := records.map fun record => SourceSection.value record.sourceSection
  (Feedback.keepFirst id [] sections).map fun name => (name, sections.count name)

/-- `part / whole if whole else 0.0` -/
def supportRate (part whole : Nat) : ℚ := if whole = 0 then 0 else lib.round (part / whole)

def feedbackExpression (payload : PrfPayload) (records : List LLMPRFGroundingRecord)
    (knownCompanyEntities triedTermFamilyIds : List String) (expression : String) :
    FeedbackCandidateExpression :=
  let familyId := String.ofList (buildConservativePrfFamilyId lib.toTextForms expression.toList)
  let classification := classifyExpression lib knownCompanyEntities expression
  let candidateTermType :=
    if isAmbiguousCompanyOrProduct expression then .companyEntity else classification.1
  let rejectReasons := normalizeRejectReasons lib renamedForExpressions classification.2
  let rejectReasons :=
    if isAmbiguousCompanyOrProduct expression then
      uniqueStrings lib.toUnicodeTables
        (rejectReasons ++ ["ambiguous_company_or_product_entity", "company_entity_rejected"])
    else rejectReasons
  let rejectReasons :=
    if familyId ∈ conflictingPrfFamilyIds lib payload triedTermFamilyIds then
      uniqueStrings lib.toUnicodeTables (rejectReasons ++ ["existing_or_tried_family"])
    else rejectReasons
  let seedIds := seedSupport lib payload records familyId
  let negativeIds :=
    negativeSupportResumeIds lib.toTextForms payload.negativeSourceTexts familyId.toList
  let found := familyRecords lib records familyId
  { termFamilyId := familyId
    canonicalExpression := expression
    surfaceForms := sortedBy (casefold lib.toUnicodeTables) (Feedback.keepFirst id []
      (found.map fun record => if record.rawSurface = "" then record.surface else record.rawSurface))
    candidateTermType
    sourceSeedResumeIds := seedIds
    fieldHits := fieldHits found
    positiveSeedSupportCount := seedIds.length
    negativeSupportCount := negativeIds.length
    fitSupportRate := supportRate lib seedIds.length payload.seedResumeIds.length
    notFitSupportRate := supportRate lib negativeIds.length payload.negativeResumeIds.length
    score := seedIds.length * 4 - negativeIds.length * 4
    rejectReasons }

/-- `feedback_expressions_from_llm_grounding`: a family is named by the first record of it. -/
def feedbackExpressionsFromLLMGrounding (payload : PrfPayload)
    (records : List LLMPRFGroundingRecord) (knownCompanyEntities triedTermFamilyIds : List String) :
    List FeedbackCandidateExpression :=
  let canonical := Feedback.keepFirst
    (fun expression => String.ofList (buildConservativePrfFamilyId lib.toTextForms expression.toList))
    [] ((records.filter (·.accepted)).map fun record =>
      String.ofList (expressionOf lib.toTextForms record))
  sortedBy (fun item : FeedbackCandidateExpression =>
      (toLex (-item.score, toLex (-(item.positiveSeedSupportCount : Int),
        casefold lib.toUnicodeTables item.canonicalExpression)) : Int ×ₗ Int ×ₗ String))
    (canonical.map (feedbackExpression lib payload records knownCompanyEntities triedTermFamilyIds))

end Expressions

/-! ## 2. The gate -/

section Policy

def MIN_PRF_SEED_COUNT : Int := 2

variable (lib : PrfLibrary)

/-- `0.4` -/
def MAX_NEGATIVE_SUPPORT_RATE : ℚ := lib.round (2 / 5)

structure PRFGateInput where
  roundNo : Int
  seedResumeIds : List String := []
  seedCount : Int
  negativeResumeIds : List String := []
  candidateExpressions : List FeedbackCandidateExpression := []
  candidateExpressionCount : Int
  triedTermFamilyIds : List String := []
  triedQueryFingerprints : List String := []
  minSeedCount : Int := MIN_PRF_SEED_COUNT
  maxNegativeSupportRate : ℚ := MAX_NEGATIVE_SUPPORT_RATE lib
  policyVersion : String := "prf-policy-v1"

structure PRFPolicyDecision where
  attempted : Bool
  gatePassed : Bool
  acceptedExpression : Option FeedbackCandidateExpression := none
  candidateExpressions : List FeedbackCandidateExpression := []
  rejectReasons : List String := []
  gateInput : PRFGateInput lib

variable {lib}

def hasStrengthsOnlyGrounding (expression : FeedbackCandidateExpression) : Bool :=
  match expression.fieldHits with
  | [] => false
  | hits => hits.all (·.1 = "strengths") && decide (0 < (hits.lookup "strengths").getD 0)

/-- `if applies and reason not in reject_reasons: reject_reasons.append(reason)` -/
def addReason (applies : Bool) (reason : String) (reasons : List String) : List String :=
  if applies && reason ∉ reasons then reasons ++ [reason] else reasons

/-- The body of the loop of `_evaluate_candidate_expressions`. -/
def evaluateExpression (gate : PRFGateInput lib) (expression : FeedbackCandidateExpression) :
    FeedbackCandidateExpression :=
  let reasons := normalizeRejectReasons lib renamedForPolicy expression.rejectReasons
  let reasons := addReason (expression.candidateTermType = .responsibilityPhrase)
    "shadow_only_responsibility_phrase" reasons
  let reasons := addReason (expression.candidateTermType = .companyEntity)
    "company_entity_rejected" reasons
  let reasons := addReason (hasStrengthsOnlyGrounding expression)
    "derived_summary_only_grounding" reasons
  let reasons := addReason (expression.termFamilyId ∈ gate.triedTermFamilyIds)
    "existing_or_tried_family" reasons
  let reasons := addReason ((expression.positiveSeedSupportCount : Int) < gate.minSeedCount)
    "insufficient_seed_support" reasons
  let reasons := addReason (gate.maxNegativeSupportRate ≤ expression.notFitSupportRate)
    "negative_support_too_high" reasons
  { expression with rejectReasons := uniqueStrings lib.toUnicodeTables reasons }

def normalizeGateInput (policyInput : PRFGateInput lib) : PRFGateInput lib :=
  { policyInput with
    seedResumeIds := uniqueStrings lib.toUnicodeTables policyInput.seedResumeIds
    negativeResumeIds := uniqueStrings lib.toUnicodeTables policyInput.negativeResumeIds
    triedTermFamilyIds := uniqueStrings lib.toUnicodeTables policyInput.triedTermFamilyIds
    triedQueryFingerprints := uniqueStrings lib.toUnicodeTables policyInput.triedQueryFingerprints }

def buildPrfPolicyDecision (policyInput : PRFGateInput lib) : PRFPolicyDecision lib :=
  let gateInput := normalizeGateInput policyInput
  let candidateExpressions := gateInput.candidateExpressions.map (evaluateExpression gateInput)
  if gateInput.seedCount < gateInput.minSeedCount then
    { attempted := true, gatePassed := false, candidateExpressions
      rejectReasons := ["insufficient_high_quality_seeds"], gateInput }
  else
    match candidateExpressions.find? (·.rejectReasons = []) with
    | none =>
      { attempted := true, gatePassed := false, candidateExpressions
        rejectReasons := ["no_safe_prf_expression"], gateInput }
    | some acceptedExpression =>
      { attempted := true, gatePassed := true, acceptedExpression := some acceptedExpression
        candidateExpressions, gateInput }

end Policy

/-! ## 3. Families in use

The families in use are written as ids. Cutting an id into tokens again gives the same id, for
the families of allowed expressions: their keys are small letters, digits and ideographs. -/

section InUse

variable {lib : PrfLibrary} {term : String} {cs surface : List Char} {c : Char}

theorem reads_mixedCaseToken : (mixedCaseToken lib).Reads Feedback.PlainOrSpace := by
  refine Regex.reads_all.mpr ?_
  simp only [List.mem_cons, List.not_mem_nil, or_false, forall_eq_or_imp, forall_eq]
  exact ⟨trivial, Feedback.reads_isUpper, Feedback.reads_letterOrDigit, Feedback.reads_isUpper,
    Feedback.reads_letterOrDigit, trivial⟩

theorem reads_titleCaseToken : (titleCaseToken lib).Reads Feedback.PlainOrSpace := by
  refine Regex.reads_all.mpr ?_
  simp only [List.mem_cons, List.not_mem_nil, or_false, forall_eq_or_imp, forall_eq]
  refine ⟨trivial, Feedback.reads_isUpper, Regex.reads_atLeast 2 ?_, trivial⟩
  intro c hc
  refine .inl (Feedback.isPlain_of_isAlphanum ?_)
  rcases Bool.or_eq_true_iff.mp hc with hc | hc
  · exact Bool.or_inl (Bool.or_inr hc)
  · exact Bool.or_inr hc

theorem plainOrSpace_of_allowedExpression (h : isAllowedExpressionSurfaceTerm lib term = true) :
    ∀ c ∈ term.toList, Feedback.PlainOrSpace c := by
  unfold isAllowedExpressionSurfaceTerm at h
  split at h
  · rename_i hallowed
    exact (Feedback.plainOrSpace_of_allowed hallowed).2
  split at h
  · cases h
  split at h
  · cases h
  split at h
  · cases h
  split at h
  · cases h
  rcases Bool.or_eq_true_iff.mp h with h | h
  · exact Regex.mem_of_fullmatch reads_mixedCaseToken h
  · exact Regex.mem_of_fullmatch reads_titleCaseToken h

theorem mem_flatten_splitFrom {word : List Char} (hc : c ∈ word ∨ c ∈ cs ∧ isSpace c = false) :
    c ∈ (splitFrom word cs).flatten := by
  induction cs generalizing word with
  | nil =>
    rcases hc with hc | ⟨hc, -⟩
    · cases word with
      | nil => cases hc
      | cons d word => simpa [splitFrom] using Or.symm (List.mem_cons.mp hc)
    · cases hc
  | cons d cs ih =>
    unfold splitFrom
    split
    · rename_i hspace
      split
      · rename_i hword
        rw [List.isEmpty_iff] at hword
        subst hword
        apply ih
        rcases hc with hc | ⟨hc, hletter⟩
        · exact .inl hc
        · rcases List.mem_cons.mp hc with rfl | hc
          · rw [hspace] at hletter
            cases hletter
          · exact .inr ⟨hc, hletter⟩
      · rw [List.flatten_cons, List.mem_append]
        rcases hc with hc | ⟨hc, hletter⟩
        · exact .inl (List.mem_reverse.mpr hc)
        · rcases List.mem_cons.mp hc with rfl | hc
          · rw [hspace] at hletter
            cases hletter
          · exact .inr (ih (.inr ⟨hc, hletter⟩))
    · apply ih
      rcases hc with hc | ⟨hc, hletter⟩
      · exact .inl (List.mem_cons_of_mem d hc)
      · rcases List.mem_cons.mp hc with rfl | hc
        · exact .inl List.mem_cons_self
        · exact .inr ⟨hc, hletter⟩

theorem mem_intercalate {words : List (List Char)} {separator : List Char}
    (h : c ∈ words.flatten) : c ∈ separator.intercalate words := by
  induction words with
  | nil => exact h
  | cons word words ih =>
    rw [List.flatten_cons, List.mem_append] at h
    cases words with
    | nil =>
      rw [List.intercalate_singleton]
      rcases h with h | h
      · exact h
      · cases h
    | cons next words =>
      rw [List.intercalate_cons_cons, List.append_assoc, List.mem_append, List.mem_append]
      rcases h with h | h
      · exact .inl h
      · exact .inr (.inr (ih h))

theorem mem_cleanTerm (hc : c ∈ term.toList) (hletter : isSpace c = false) :
    c ∈ (Feedback.cleanTerm term).toList ∨ isPlain c = true ∨ c ∈ marks := by
  have hjoined : c ∈ (join " " (split term)).toList := by
    rw [toList_join_split]
    exact mem_intercalate (mem_flatten_splitFrom (.inr ⟨hc, hletter⟩))
  have hstripped : (" \t\r\n,.;:，。；：!?".toList.all fun c => isPlain c || marks.contains c) = true := by
    decide
  have hstrip : ∀ c, decide (c ∈ " \t\r\n,.;:，。；：!?".toList) = true →
      isPlain c = true ∨ c ∈ marks := by
    intro c hc
    simpa using List.all_eq_true.mp hstripped c (of_decide_eq_true hc)
  obtain ⟨pre, post, hsplit, hpre, hpost⟩ :=
    trim_ends (· ∈ " \t\r\n,.;:，。；：!?".toList) (join " " (split term)).toList
  rw [hsplit] at hjoined
  rcases List.mem_append.mp hjoined with hc | hc
  · exact .inr (hstrip c (hpre c hc))
  · rcases List.mem_append.mp hc with hc | hc
    · left
      unfold Feedback.cleanTerm stripChars
      rw [String.toList_ofList]
      exact hc
    · exact .inr (hstrip c (hpost c hc))

structure KeyChar (c : Char) : Prop where
  small : c.toLower = c
  letter : (c.isAlphanum || isCjk c) = true

theorem toLower_toLower (c : Char) : c.toLower.toLower = c.toLower := by
  apply Char.toNat_inj.mp
  rw [toNat_toLower, toNat_toLower]
  split
  · rw [if_neg (by omega)]
  · rfl

theorem isCjk_toLower (c : Char) : isCjk c.toLower = isCjk c := by
  rw [Bool.eq_iff_iff]
  simp only [isCjk, Bool.and_eq_true, decide_eq_true_eq, toNat_toLower]
  split <;> omega

theorem keyChar_toLower (h : (c.isAlphanum || isCjk c) = true) : KeyChar c.toLower where
  small := toLower_toLower c
  letter := by rw [isAlphanum_toLower, isCjk_toLower, h]

theorem KeyChar.isPlain (h : KeyChar c) : isPlain c = true := by
  rcases Bool.or_eq_true_iff.mp h.letter with hc | hc
  · exact Feedback.isPlain_of_isAlphanum hc
  · simp [Py.isPlain, hc]

theorem KeyChar.ne_sign {sign : Char} (h : KeyChar c) (hsign : sign ∈ ['+', '#', '.']) :
    c ≠ sign := by
  have hsigns : (['+', '#', '.'].all fun sign => !(sign.isAlphanum || isCjk sign)) = true := by
    decide
  intro heq
  have hnot := List.all_eq_true.mp hsigns sign hsign
  rw [← heq, h.letter] at hnot
  cases hnot

theorem exists_sign {symbol : List Char} (h : symbol ∈ symbolicFamilySurfaces) :
    ∃ sign ∈ ['+', '#', '.'], sign ∈ symbol := by
  simp only [symbolicFamilySurfaces, List.mem_cons, List.not_mem_nil, or_false] at h
  rcases h with rfl | rfl | rfl
  · exact ⟨'+', by simp, by simp⟩
  · exact ⟨'#', by simp, by simp⟩
  · exact ⟨'.', by simp, by simp⟩

theorem narrow_of_isPlain (h : isPlain c = true) : narrow c = c := by
  have hc : c.toNat < 0x80 ∨ 0x4E00 ≤ c.toNat ∧ c.toNat ≤ 0x9FFF := by
    simpa [isPlain, isCjk] using h
  unfold narrow
  rw [if_neg (by omega), if_neg (by omega)]

theorem plain_narrow (h : isPlain c = true ∨ c ∈ marks) :
    isPlain (narrow c) = true ∨ narrow c ∈ marks := by
  rcases h with h | h
  · rw [narrow_of_isPlain h]
    exact .inl h
  · have hmarks : (marks.all fun c => isPlain (narrow c) || marks.contains (narrow c)) = true := by
      decide
    simpa using List.all_eq_true.mp hmarks c h

theorem isAlnum_of_plain (h : isPlain c = true ∨ c ∈ marks) (halnum : lib.isAlnum c = true) :
    isPlain c = true ∧ (c.isAlphanum || isCjk c) = true := by
  rcases h with h | h
  · exact ⟨h, by rw [← lib.isAlnum_plain c h, halnum]⟩
  · rw [lib.isAlnum_mark c h] at halnum
    cases halnum

theorem keyChar_collapse (h : ∀ c ∈ cs, isPlain c = true ∨ c ∈ marks) :
    ∀ c ∈ collapseFamilySurface lib.toTextForms cs, KeyChar c := by
  intro c hc
  unfold collapseFamilySurface at hc
  dsimp only at hc
  cases hlookup : symbolicFamilyKeys.lookup
      (lib.toTextForms.fold (trim isSpace (lib.nfkc cs))) with
  | some key =>
    rw [hlookup] at hc
    have hkeys : (symbolicFamilyKeys.all fun entry =>
        entry.2.all fun c => decide (c.toLower = c) && (c.isAlphanum || isCjk c)) = true := by
      decide
    have hmem : ∃ name, (name, key) ∈ symbolicFamilyKeys := by
      obtain ⟨before, after, heq, -⟩ := List.lookup_eq_some_iff.mp hlookup
      exact ⟨_, heq ▸ List.mem_append_right _ List.mem_cons_self⟩
    obtain ⟨name, hmem⟩ := hmem
    have hkey := List.all_eq_true.mp (List.all_eq_true.mp hkeys _ hmem) c hc
    rw [Bool.and_eq_true, decide_eq_true_eq] at hkey
    exact ⟨hkey.1, hkey.2⟩
  | none =>
    rw [hlookup] at hc
    obtain ⟨d, hd, hfold⟩ := List.mem_flatMap.mp hc
    obtain ⟨hd, halnum⟩ := List.mem_filter.mp hd
    rw [lib.nfkc_plain cs h] at hd
    obtain ⟨e, he, rfl⟩ := List.mem_map.mp hd
    obtain ⟨hplain, hletter⟩ := isAlnum_of_plain (plain_narrow (h e he)) halnum
    rw [lib.casefold_plain _ hplain] at hfold
    obtain rfl := List.mem_singleton.mp hfold
    exact keyChar_toLower hletter

theorem keyChar_familyKey (h : ∀ c ∈ surface, isPlain c = true ∨ c ∈ marks) :
    ∀ c ∈ familyKey lib.toTextForms surface, KeyChar c := by
  have hunknown : ("unknown".toList.all fun c =>
      decide (c.toLower = c) && (c.isAlphanum || isCjk c)) = true := by
    decide
  refine mem_familyKey ?_ ?_ (keyChar_collapse h)
  · intro c hc
    have hkey := List.all_eq_true.mp hunknown c hc
    rw [Bool.and_eq_true, decide_eq_true_eq] at hkey
    exact ⟨hkey.1, hkey.2⟩
  · intro token htoken
    apply keyChar_collapse
    intro c hc
    have hc := mem_familyTokenSurfaces htoken hc
    rw [lib.nfkc_plain surface h] at hc
    obtain ⟨d, hd, rfl⟩ := List.mem_map.mp hc
    exact plain_narrow (h d hd)

/-- **A key is its own key.** -/
theorem familyKey_of_keyChars (hne : cs ≠ []) (h : ∀ c ∈ cs, KeyChar c) :
    familyKey lib.toTextForms cs = cs := by
  have hnfkc : lib.nfkc cs = cs := by
    rw [lib.nfkc_plain cs fun c hc => .inl (h c hc).isPlain]
    have hself : cs.map narrow = cs.map id :=
      List.map_congr_left fun c hc => narrow_of_isPlain (h c hc).isPlain
    rw [hself, List.map_id]
  have halnum : ∀ c ∈ cs, lib.isAlnum c = true := by
    intro c hc
    rw [lib.isAlnum_plain c (h c hc).isPlain, (h c hc).letter]
  have hfold : cs.flatMap lib.casefold = cs := by
    have hself : cs.flatMap lib.casefold = cs.flatMap fun c => [c] := by
      apply List.flatMap_congr
      intro c hc
      rw [lib.casefold_plain c (h c hc).isPlain, (h c hc).small]
    rw [hself, List.flatMap_singleton']
  have htokens : familyTokenSurfaces lib.toTextForms cs = [cs] := by
    unfold familyTokenSurfaces
    rw [hnfkc, tokensFrom_letters halnum]
    · simp [currentToken, hne]
    · intro symbol hsymbol hword
      obtain ⟨sign, hsign, hmem⟩ := exists_sign hsymbol
      obtain ⟨d, hd, hlower⟩ := List.mem_map.mp (hword.subset hmem)
      rw [(h d hd).small] at hlower
      exact (h d hd).ne_sign hsign hlower
  have hcollapse : collapseFamilySurface lib.toTextForms cs = cs := by
    unfold collapseFamilySurface
    dsimp only
    rw [hnfkc]
    have hnone : symbolicFamilyKeys.lookup (lib.toTextForms.fold (trim isSpace cs)) = none := by
      rw [List.lookup_eq_none_iff]
      intro entry hentry
      rw [bne_iff_ne]
      intro heq
      have hname : entry.1 ∈ symbolicFamilySurfaces := by
        simp only [symbolicFamilyKeys, List.mem_cons, List.not_mem_nil, or_false] at hentry
        rcases hentry with rfl | rfl | rfl <;> simp [symbolicFamilySurfaces]
      obtain ⟨sign, hsign, hmem⟩ := exists_sign hname
      rw [← heq] at hmem
      obtain ⟨d, hd, hsignD⟩ := List.mem_flatMap.mp hmem
      obtain ⟨pre, post, hsplit, -, -⟩ := trim_ends isSpace cs
      have hd : d ∈ cs := by
        rw [hsplit]
        exact List.mem_append_right _ (List.mem_append_left _ hd)
      rw [lib.casefold_plain d (h d hd).isPlain, (h d hd).small] at hsignD
      exact (h d hd).ne_sign hsign (List.mem_singleton.mp hsignD).symm
    rw [hnone, List.filter_eq_self.mpr halnum]
    exact hfold
  unfold familyKey collapsedTokens
  rw [htokens, List.map_singleton, hcollapse]
  simp [hne]

theorem normalizePrfFamilyId_build (h : ∀ c ∈ surface, isPlain c = true ∨ c ∈ marks) :
    normalizePrfFamilyId lib.toTextForms (buildConservativePrfFamilyId lib.toTextForms surface) =
      buildConservativePrfFamilyId lib.toTextForms surface := by
  unfold normalizePrfFamilyId buildConservativePrfFamilyId
  rw [withoutFeedback_append,
    familyKey_of_keyChars (familyKey_ne_nil surface) (keyChar_familyKey h)]

end InUse

/-! ## 4. The expression that is taken -/

section Accepted

variable {lib : PrfLibrary} {tables : UnicodeTables} {reasons values : List String} {reason : String}
variable {payload : PrfPayload} {records : List LLMPRFGroundingRecord}
variable {knownCompanyEntities triedTermFamilyIds : List String}
variable {gate : PRFGateInput lib} {expression : FeedbackCandidateExpression}

def Silent (reasons : List String) : Prop := ∀ reason ∈ reasons, strip reason = ""

theorem silent_of_uniqueStrings (h : Silent (uniqueStrings tables values)) : Silent values := by
  unfold uniqueStrings at h
  induction values with
  | nil => exact h
  | cons value values ih =>
    rw [uniqueStringsFrom] at h
    by_cases hvalue : strip value = ""
    · rw [if_pos (.inl hvalue)] at h
      intro reason hreason
      rcases List.mem_cons.mp hreason with rfl | hreason
      · exact hvalue
      · exact ih h reason hreason
    · rw [if_neg (by simp [hvalue])] at h
      have hstripped := h (strip value) List.mem_cons_self
      rw [strip_eq_empty_iff, blank_strip_iff, ← strip_eq_empty_iff] at hstripped
      exact absurd hstripped hvalue

theorem silent_of_normalize {renamed : List (String × String)}
    (hrenamed : ∀ entry ∈ renamed, strip entry.2 ≠ "")
    (h : Silent (normalizeRejectReasons lib renamed reasons)) : Silent reasons := by
  intro reason hreason
  have hsilent := silent_of_uniqueStrings h _ (List.mem_map_of_mem hreason)
  cases hlookup : renamed.lookup reason with
  | none =>
    rw [hlookup] at hsilent
    exact hsilent
  | some other =>
    rw [hlookup] at hsilent
    obtain ⟨before, after, heq, -⟩ := List.lookup_eq_some_iff.mp hlookup
    have hmem : (reason, other) ∈ renamed := heq ▸ List.mem_append_right _ List.mem_cons_self
    exact absurd hsilent (hrenamed (reason, other) hmem)

theorem mem_addReason_of_mem {applies : Bool} {other : String} (h : reason ∈ reasons) :
    reason ∈ addReason applies other reasons := by
  unfold addReason
  split
  · exact List.mem_append_left _ h
  · exact h

theorem mem_addReason : reason ∈ addReason true reason reasons := by
  unfold addReason
  by_cases h : reason ∈ reasons
  · simp [h]
  · simp [h]

theorem addReason_eq_false {applies : Bool} (hreason : strip reason ≠ "")
    (h : Silent (addReason applies reason reasons)) : applies = false := by
  cases applies with
  | false => rfl
  | true => exact absurd (h reason mem_addReason) hreason

theorem Silent.of_addReason {applies : Bool} (h : Silent (addReason applies reason reasons)) :
    Silent reasons :=
  fun other hother => h other (mem_addReason_of_mem hother)

/-- Nothing speaks against an expression, at the gate and before. -/
structure Passes (gate : PRFGateInput lib) (expression : FeedbackCandidateExpression) : Prop where
  silent : Silent expression.rejectReasons
  notResponsibility : expression.candidateTermType ≠ .responsibilityPhrase
  notCompany : expression.candidateTermType ≠ .companyEntity
  supported : gate.minSeedCount ≤ expression.positiveSeedSupportCount
  unopposed : expression.notFitSupportRate < gate.maxNegativeSupportRate

theorem passes_of_evaluated (h : (evaluateExpression gate expression).rejectReasons = []) :
    Passes gate expression := by
  have hwords : ∀ reason ∈ ["shadow_only_responsibility_phrase", "company_entity_rejected",
      "derived_summary_only_grounding", "existing_or_tried_family", "insufficient_seed_support",
      "negative_support_too_high"], strip reason ≠ "" := by
    decide
  have hnone : Silent (evaluateExpression gate expression).rejectReasons := by
    rw [h]
    exact fun _ hmem => absurd hmem List.not_mem_nil
  unfold evaluateExpression at hnone
  dsimp only at hnone
  have hopposed := silent_of_uniqueStrings hnone
  have hsupport := hopposed.of_addReason
  have htried := hsupport.of_addReason
  have hstrengths := htried.of_addReason
  have hcompany := hstrengths.of_addReason
  have hphrase := hcompany.of_addReason
  refine ⟨silent_of_normalize ?_ hphrase.of_addReason, ?_, ?_, ?_, ?_⟩
  · decide
  · exact of_decide_eq_false (addReason_eq_false (hwords _ (by simp)) hphrase)
  · exact of_decide_eq_false (addReason_eq_false (hwords _ (by simp)) hcompany)
  · exact not_lt.mp (of_decide_eq_false (addReason_eq_false (hwords _ (by simp)) hsupport))
  · exact not_le.mp (of_decide_eq_false (addReason_eq_false (hwords _ (by simp)) hopposed))

theorem accepted_of_decision
    (h : (buildPrfPolicyDecision gate).acceptedExpression = some expression) :
    ∃ candidate ∈ gate.candidateExpressions,
      expression = evaluateExpression (normalizeGateInput gate) candidate ∧
      (evaluateExpression (normalizeGateInput gate) candidate).rejectReasons = [] := by
  unfold buildPrfPolicyDecision at h
  dsimp only at h
  split at h
  · cases h
  · split at h
    · cases h
    · rename_i accepted haccepted
      obtain rfl := Option.some.inj h
      have hreasons := List.find?_some haccepted
      obtain ⟨candidate, hcandidate, rfl⟩ := List.mem_map.mp (List.mem_of_find?_eq_some haccepted)
      exact ⟨candidate, hcandidate, rfl, of_decide_eq_true hreasons⟩

theorem feedbackExpression_silent {phrase : String}
    (h : Silent (feedbackExpression lib payload records knownCompanyEntities triedTermFamilyIds
      phrase).rejectReasons) :
    isAllowedExpressionSurfaceTerm lib (Feedback.cleanTerm phrase) = true ∧
      String.ofList (buildConservativePrfFamilyId lib.toTextForms phrase.toList) ∉
        conflictingPrfFamilyIds lib payload triedTermFamilyIds := by
  have hadded : ∀ {others : List String}, "existing_or_tried_family" ∈ others →
      ¬Silent (uniqueStrings lib.toUnicodeTables others) := by
    intro others hmem hsilent
    have hword : strip "existing_or_tried_family" ≠ "" := by decide
    exact hword (silent_of_uniqueStrings hsilent _ hmem)
  have hambiguous : ∀ {others : List String}, "company_entity_rejected" ∈ others →
      ¬Silent (uniqueStrings lib.toUnicodeTables others) := by
    intro others hmem hsilent
    have hword : strip "company_entity_rejected" ≠ "" := by decide
    exact hword (silent_of_uniqueStrings hsilent _ hmem)
  unfold feedbackExpression at h
  dsimp only at h
  split at h
  · exact absurd h (hadded (by simp))
  · rename_i hconflict
    refine ⟨?_, hconflict⟩
    split at h
    · exact absurd h (hambiguous (by simp))
    · have hreasons : Silent (classifyExpression lib knownCompanyEntities phrase).2 :=
        silent_of_normalize (by decide) h
      by_contra hallowed
      have hallowed : isAllowedExpressionSurfaceTerm lib (Feedback.cleanTerm phrase) = false := by
        simpa using hallowed
      unfold classifyExpression at hreasons
      dsimp only at hreasons
      split at hreasons
      · have hword : strip "empty_expression" ≠ "" := by decide
        exact hword (hreasons "empty_expression" (List.mem_singleton_self _))
      · rw [hallowed] at hreasons
        have hword : strip "generic_or_filter_like" ≠ "" := by decide
        exact hword (hreasons "generic_or_filter_like" (List.mem_singleton_self _))

theorem exists_record (h : expression ∈ feedbackExpressionsFromLLMGrounding lib payload records
      knownCompanyEntities triedTermFamilyIds) :
    ∃ record ∈ records, record.accepted = true ∧
      expression = feedbackExpression lib payload records knownCompanyEntities triedTermFamilyIds
        (String.ofList (expressionOf lib.toTextForms record)) := by
  obtain ⟨phrase, hphrase, rfl⟩ := List.mem_map.mp (mem_sortedBy.mp h)
  obtain ⟨record, hrecord, rfl⟩ := List.mem_map.mp (Feedback.mem_of_mem_keepFirst hphrase)
  obtain ⟨hrecord, haccepted⟩ := List.mem_filter.mp hrecord
  exact ⟨record, hrecord, haccepted, rfl⟩

/-- The resumes that speak against a family. -/
def negativeSupporters (lib : PrfLibrary) (payload : PrfPayload) (familyId : String) : List String :=
  negativeSupportResumeIds lib.toTextForms payload.negativeSourceTexts familyId.toList

/-- What the gate is for: the expression is supported by enough accepted records of different
    resumes, opposed by few, of no forbidden type, and of a family that is not in use. -/
structure Safe (lib : PrfLibrary) (payload : PrfPayload) (records : List LLMPRFGroundingRecord)
    (triedTermFamilyIds : List String) (expression : FeedbackCandidateExpression) : Prop where
  supported : ∃ resumeIds : List String, resumeIds.Nodup ∧ MIN_PRF_SEED_COUNT ≤ resumeIds.length ∧
    ∀ resumeId ∈ resumeIds, ∃ record ∈ records, record.accepted = true ∧
      supportEligible payload record = true ∧ record.resumeId = resumeId ∧
      familyIdOf lib record = expression.termFamilyId
  unopposed : ((negativeSupporters lib payload expression.termFamilyId).length : ℚ) /
    payload.negativeResumeIds.length < 2 / 5
  notCompany : expression.candidateTermType ≠ .companyEntity
  notResponsibility : expression.candidateTermType ≠ .responsibilityPhrase
  notExisting : ∀ term ∈ payload.existingQueryTerms,
    String.ofList (buildConservativePrfFamilyId lib.toTextForms term.toList) ≠
      expression.termFamilyId
  notSent : ∀ term ∈ payload.sentQueryTerms,
    String.ofList (buildConservativePrfFamilyId lib.toTextForms term.toList) ≠
      expression.termFamilyId
  notTried : ∀ familyId ∈ triedTermFamilyIds, familyId ≠ expression.termFamilyId ∧
    String.ofList (normalizePrfFamilyId lib.toTextForms familyId.toList) ≠ expression.termFamilyId

/-- The gate on the expressions that grounding has led to. -/
def decisionOn (gate : PRFGateInput lib) (expressions : List FeedbackCandidateExpression) :
    PRFPolicyDecision lib :=
  buildPrfPolicyDecision
    { gate with
      candidateExpressions := expressions
      candidateExpressionCount := expressions.length
      minSeedCount := MIN_PRF_SEED_COUNT
      maxNegativeSupportRate := MAX_NEGATIVE_SUPPORT_RATE lib }

theorem familyId_of_phrase (phrase : String) (htried : triedTermFamilyIds.contains
      (String.ofList (buildConservativePrfFamilyId lib.toTextForms phrase.toList)) = true)
    (hplain : ∀ c ∈ phrase.toList, isPlain c = true ∨ c ∈ marks) :
    String.ofList (buildConservativePrfFamilyId lib.toTextForms phrase.toList) ∈
      conflictingPrfFamilyIds lib payload triedTermFamilyIds := by
  refine List.mem_append_left _ (List.mem_map.mpr ⟨_, List.contains_iff_mem.mp htried, ?_⟩)
  rw [String.toList_ofList, normalizePrfFamilyId_build hplain]

/-- **What the gate lets through**, whatever the payload, the records and the families in use
    are. The support by resumes that do not fit is measured by the entries of their list. -/
theorem accepted_safe (lib : PrfLibrary) (payload : PrfPayload)
    (records : List LLMPRFGroundingRecord) (knownCompanyEntities triedTermFamilyIds : List String)
    (gate : PRFGateInput lib) (accepted : FeedbackCandidateExpression)
    (h : (decisionOn gate (feedbackExpressionsFromLLMGrounding lib payload records
      knownCompanyEntities triedTermFamilyIds)).acceptedExpression = some accepted) :
    Safe lib payload records triedTermFamilyIds accepted := by
  obtain ⟨candidate, hcandidate, rfl, hreasons⟩ := accepted_of_decision h
  have hpasses := passes_of_evaluated hreasons
  obtain ⟨record, hrecord, haccepted, rfl⟩ := exists_record hcandidate
  obtain ⟨hallowed, hconflict⟩ := feedbackExpression_silent hpasses.silent
  generalize hphrase : String.ofList (expressionOf lib.toTextForms record) = phrase at *
  have hplain : ∀ c ∈ phrase.toList, isPlain c = true ∨ c ∈ marks := by
    intro c hc
    cases hspace : isSpace c with
    | true =>
      rw [← hphrase, String.toList_ofList] at hc
      rw [isSpace_canonical hc hspace]
      exact .inl rfl
    | false =>
      rcases mem_cleanTerm hc hspace with hclean | hmark
      · rcases plainOrSpace_of_allowedExpression hallowed c hclean with hplain | hc
        · exact .inl hplain
        · rw [hspace] at hc
          cases hc
      · exact hmark
  refine ⟨?_, ?_, hpasses.notCompany, hpasses.notResponsibility, ?_, ?_, ?_⟩
  · refine ⟨_, nodup_sortedSet, hpasses.supported, ?_⟩
    intro resumeId hresume
    obtain ⟨supporter, hsupporter, rfl⟩ := List.mem_map.mp (mem_sortedSet.mp hresume)
    obtain ⟨hfamily, heligible⟩ := List.mem_filter.mp hsupporter
    obtain ⟨hmem, hfamily⟩ := List.mem_filter.mp hfamily
    obtain ⟨haccepted, hfamily⟩ := of_decide_eq_true hfamily
    exact ⟨supporter, hmem, haccepted, heligible, rfl, hfamily⟩
  · by_contra hopposed
    have hrate := lib.round_mono (not_lt.mp hopposed)
    refine absurd hpasses.unopposed (not_lt.mpr ?_)
    show lib.round (2 / 5) ≤ supportRate lib _ _
    unfold supportRate
    split
    · rename_i hzero
      rw [hzero] at hopposed
      norm_num at hopposed
    · exact hrate
  · intro term hterm heq
    refine hconflict (List.mem_append_right _ (List.mem_map.mpr ⟨term, ?_, heq⟩))
    exact List.mem_append_left _ hterm
  · intro term hterm heq
    refine hconflict (List.mem_append_right _ (List.mem_map.mpr ⟨term, ?_, heq⟩))
    exact List.mem_append_right _ hterm
  · intro familyId hfamily
    constructor
    · rintro rfl
      exact hconflict (familyId_of_phrase phrase (List.contains_iff_mem.mpr hfamily) hplain)
    · intro heq
      exact hconflict (List.mem_append_left _ (List.mem_map.mpr ⟨familyId, hfamily, heq⟩))

end Accepted

/-! ### Negative resumes listed more than once -/

/-- Quotients between 1/4 and 1/2 as binary64 numbers. -/
def roundQuarters (q : ℚ) : ℚ := ⌊q * 2 ^ 54 + 1 / 2⌋ / 2 ^ 54

theorem roundQuarters_mono : Monotone roundQuarters := by
  intro p q hpq
  unfold roundQuarters
  gcongr

def sampleLibrary : PrfLibrary where
  toTextForms := ideographs
  isAlnum_plain _ _ := rfl
  isAlnum_mark c hc := by
    have hmarks : (marks.all fun c => !ideographs.isAlnum c) = true := by decide
    simpa using List.all_eq_true.mp hmarks c hc
  nfkc_plain _ _ := rfl
  round := roundQuarters
  round_mono := roundQuarters_mono

def kafkaText (resumeId : String) : LLMPRFSourceText where
  resumeId
  sourceSection := .scorecardEvidence
  sourceTextId := resumeId
  sourceTextIndex := 0
  sourceTextRaw := "Kafka"
  sourceTextHash := "hash"
  supportEligible := true
  hintOnly := false

def kafkaRecord (resumeId : String) : LLMPRFGroundingRecord where
  surface := "Kafka"
  normalizedSurface := "Kafka"
  advisoryCandidateTermType := .skill
  accepted := true
  resumeId
  sourceSection := .scorecardEvidence
  sourceTextId := resumeId
  sourceTextIndex := 0
  sourceTextHash := "hash"
  supportEligible := true
  startChar := some 0
  endChar := some 5
  rawSurface := "Kafka"

/-- Two resumes fit and name Kafka, one of those that do not fit names it too. -/
def kafkaPayload (negativeResumeIds : List String) : PrfPayload where
  sourceTexts := [kafkaText "fit-1", kafkaText "fit-2"]
  seedResumeIds := ["fit-1", "fit-2"]
  negativeResumeIds
  negativeSourceTexts := [kafkaText "unfit-1"]

def kafkaDecision (negativeResumeIds : List String) : PRFPolicyDecision sampleLibrary :=
  decisionOn { roundNo := 2, seedCount := 2, candidateExpressionCount := 1 }
    (feedbackExpressionsFromLLMGrounding sampleLibrary (kafkaPayload negativeResumeIds)
      [kafkaRecord "fit-1", kafkaRecord "fit-2"] [] ["feedback.flink"])

theorem accepted_safe_kafka : ∃ accepted,
    (kafkaDecision ["unfit-1", "unfit-2", "unfit-3"]).acceptedExpression = some accepted ∧
      Safe sampleLibrary (kafkaPayload ["unfit-1", "unfit-2", "unfit-3"])
        [kafkaRecord "fit-1", kafkaRecord "fit-2"] ["feedback.flink"] accepted := by
  have hsome : (kafkaDecision ["unfit-1", "unfit-2", "unfit-3"]).acceptedExpression.isSome = true := by
    decide +kernel
  obtain ⟨accepted, haccepted⟩ := Option.isSome_iff_exists.mp hsome
  exact ⟨accepted, haccepted, accepted_safe sampleLibrary _ _ [] _ _ accepted haccepted⟩

/-- One of two resumes that do not fit has the family, and the first is listed three times. -/
theorem not_unopposed_listedTwice :
    ¬∀ (lib : PrfLibrary) (payload : PrfPayload) (records : List LLMPRFGroundingRecord)
      (knownCompanyEntities triedTermFamilyIds : List String) (gate : PRFGateInput lib)
      (accepted : FeedbackCandidateExpression),
      (decisionOn gate (feedbackExpressionsFromLLMGrounding lib payload records
        knownCompanyEntities triedTermFamilyIds)).acceptedExpression = some accepted →
      ((payload.negativeResumeIds.dedup.filter
          (· ∈ negativeSupporters lib payload accepted.termFamilyId)).length : ℚ) /
        payload.negativeResumeIds.dedup.length < 2 / 5 := by
  intro hall
  have hfamily : (kafkaDecision ["unfit-1", "unfit-1", "unfit-1", "unfit-2"]).acceptedExpression.map
      (·.termFamilyId) = some "feedback.kafka" := by
    decide +kernel
  obtain ⟨accepted, haccepted, hid⟩ := Option.map_eq_some_iff.mp hfamily
  have hrate := hall sampleLibrary _ _ _ _ _ accepted haccepted
  have hone : (kafkaPayload ["unfit-1", "unfit-1", "unfit-1", "unfit-2"]).negativeResumeIds.dedup.filter
      (· ∈ negativeSupporters sampleLibrary
        (kafkaPayload ["unfit-1", "unfit-1", "unfit-1", "unfit-2"]) "feedback.kafka") =
      ["unfit-1"] := by
    decide
  have htwo : (kafkaPayload ["unfit-1", "unfit-1", "unfit-1", "unfit-2"]).negativeResumeIds.dedup =
      ["unfit-1", "unfit-2"] := by
    decide
  rw [hid, hone, htwo] at hrate
  norm_num at hrate

end Prf

end SeekTalent

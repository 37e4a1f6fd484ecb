import Mathlib.Data.Prod.Lex
import SeekTalent.Base.OffsetMap
import SeekTalent.Base.TextForms

/-!
# Grounding the phrases a model proposes

A language model proposes surfaces and says which source texts it took them from. Grounding
looks a surface up in its source text: as it is, then in the NFKC form of the text, then in
the case folded form of that. What is found in a form is mapped back to the characters it
comes from. A match may then be rejected as part of a longer token.

The check for a longer token asks whether the surface as proposed is ASCII, not what it was
matched as. And what is mapped back are whole characters, which may expand to more than was
found. `grounded_iff` says when the records that are accepted are what they should be.
-/

namespace SeekTalent

namespace Grounding

open OffsetMap Py

/-! ## 1. Payloads and records -/

/-- `LLMPRFSourceSection` -/
inductive SourceSection where
  | skill
  | recentExperienceSummary
  | keyAchievement
  | rawTextExcerpt
  | scorecardEvidence
  | scorecardMatchedMustHave
  | scorecardMatchedPreference
  | scorecardStrength
  deriving DecidableEq

def sourceSectionOrder : List SourceSection :=
  [.skill, .recentExperienceSummary, .keyAchievement, .rawTextExcerpt, .scorecardEvidence,
    .scorecardMatchedMustHave, .scorecardMatchedPreference, .scorecardStrength]

def sourceSectionRank (sourceSection : SourceSection) : Nat :=
  sourceSectionOrder.idxOf sourceSection

inductive CandidateTermType where
  | skill
  | toolOrFramework
  | productOrPlatform
  | technicalPhrase
  | responsibilityPhrase
  | companyEntity
  | location
  | degree
  | compensation
  | administrative
  | generic
  | unknownHighRisk
  | unknown
  deriving DecidableEq

structure LLMPRFSourceText where
  resumeId : String
  sourceSection : SourceSection
  sourceTextId : String
  sourceTextIndex : Nat
  sourceTextRaw : String
  sourceTextHash : String
  supportEligible : Bool
  hintOnly : Bool
  deriving DecidableEq

structure LLMPRFInput where
  sourceTexts : List LLMPRFSourceText := []

structure LLMPRFSourceEvidenceRef where
  resumeId : String
  sourceSection : SourceSection
  sourceTextId : String
  sourceTextIndex : Nat
  sourceTextHash : String

def LLMPRFSourceText.key (source : LLMPRFSourceText) : String × SourceSection × String :=
  (source.resumeId, source.sourceSection, source.sourceTextId)

def LLMPRFSourceEvidenceRef.key (ref : LLMPRFSourceEvidenceRef) :
    String × SourceSection × String :=
  (ref.resumeId, ref.sourceSection, ref.sourceTextId)

def normalizeSurface (forms : TextForms) (surface : List Char) : List Char :=
  collapse (forms.nfkc surface)

/-- A candidate as its validator lets it through: its surface does not normalize to nothing. -/
structure LLMPRFCandidate (forms : TextForms) where
  surface : String
  candidateTermType : CandidateTermType := .unknown
  sourceEvidenceRefs : List LLMPRFSourceEvidenceRef := []
  normalize_ne : normalizeSurface forms surface.toList ≠ []

structure LLMPRFGroundingRecord where
  surface : String
  normalizedSurface : String
  advisoryCandidateTermType : CandidateTermType
  accepted : Bool
  rejectReasons : List String := []
  resumeId : String
  sourceSection : SourceSection
  sourceTextId : String
  sourceTextIndex : Nat
  sourceTextHash : String
  supportEligible : Bool := false
  hintOnly : Bool := false
  startChar : Option Nat := none
  endChar : Option Nat := none
  rawSurface : String := ""
  deriving DecidableEq

def LLMPRFGroundingRecord.key (record : LLMPRFGroundingRecord) :
    String × SourceSection × String :=
  (record.resumeId, record.sourceSection, record.sourceTextId)

/-! ## 2. Matching -/

inductive MatchKind where
  | exact
  | nfkc
  | nfkcCasefold

structure RawMatch where
  startChar : Nat
  endChar : Nat
  kind : MatchKind

variable (forms : TextForms)

def nfkcChar (c : Char) : List Char := forms.nfkc [c]

def nfkcWithRawOffsetMap (text : List Char) : List Char × List Nat :=
  (text.flatMap (nfkcChar forms), offsets (nfkcChar forms) text)

def casefoldWithOffsetMap (text : List Char) : List Char × List Nat :=
  (text.flatMap forms.casefold, offsets forms.casefold text)

def findRawMatch (text surface : List Char) : Option RawMatch :=
  match find text surface with
  | some startChar => some ⟨startChar, startChar + surface.length, .exact⟩
  | none =>
    let (normalizedText, rawOffsetMap) := nfkcWithRawOffsetMap forms text
    let normalizedSurface := forms.nfkc surface
    match find normalizedText normalizedSurface with
    | some normalizedStart =>
      let normalizedEnd := normalizedStart + normalizedSurface.length
      some ⟨rawOffsetMap.getD normalizedStart 0, rawOffsetMap.getD (normalizedEnd - 1) 0 + 1,
        .nfkc⟩
    | none =>
      let (foldedText, foldedOffsetMap) := casefoldWithOffsetMap forms normalizedText
      let foldedSurface := forms.fold normalizedSurface
      match find foldedText foldedSurface with
      | none => none
      | some foldedStart =>
        let foldedEnd := foldedStart + foldedSurface.length
        let normalizedStart := foldedOffsetMap.getD foldedStart 0
        let normalizedEnd := foldedOffsetMap.getD (foldedEnd - 1) 0 + 1
        some ⟨rawOffsetMap.getD normalizedStart 0, rawOffsetMap.getD (normalizedEnd - 1) 0 + 1,
          .nfkcCasefold⟩

def isAscii (text : List Char) : Bool := text.all fun c => decide (c.toNat < 0x80)

/-- `_is_ascii_token_char` of a character that may not be there. -/
def isAsciiTokenChar : Option Char → Bool
  | none => false
  | some c => c.isAlphanum || c == '_'

def charBefore (text : List Char) (startChar : Nat) : Option Char :=
  if startChar > 0 then text[startChar - 1]? else none

def unsafeSubstringPairs : List (String × String) :=
  [("C", "C++"), ("C", "C#"), ("Java", "JavaScript"), ("React", "React Native"), ("阿里", "阿里云")]

def isUnsafeSubstringMatch (text : List Char) (startChar endChar : Nat) (surface : List Char) :
    Bool :=
  let lowerTail := forms.fold (text.drop startChar)
  if unsafeSubstringPairs.any fun (unsafeSurface, unsafeContainer) =>
      forms.fold surface == forms.fold unsafeSurface.toList &&
        decide (forms.fold unsafeContainer.toList <+: lowerTail) then
    true
  else if isAscii surface then
    isAsciiTokenChar (charBefore text startChar) || isAsciiTokenChar text[endChar]?
  else false

def groundSurface (candidate : LLMPRFCandidate forms) (source : LLMPRFSourceText) :
    LLMPRFGroundingRecord :=
  let text := source.sourceTextRaw.toList
  let surface := candidate.surface.toList
  match findRawMatch forms text surface with
  | none =>
    { surface := candidate.surface
      normalizedSurface := String.ofList (normalizeSurface forms surface)
      advisoryCandidateTermType := candidate.candidateTermType
      accepted := false
      rejectReasons := ["substring_not_found"]
      resumeId := source.resumeId
      sourceSection := source.sourceSection
      sourceTextId := source.sourceTextId
      sourceTextIndex := source.sourceTextIndex
      sourceTextHash := source.sourceTextHash
      supportEligible := source.supportEligible
      hintOnly := source.hintOnly }
  | some m =>
    let rawSurface := slice text m.startChar m.endChar
    let rejectReasons :=
      if isUnsafeSubstringMatch forms text m.startChar m.endChar surface then
        ["unsafe_substring_match"]
      else []
    { surface := candidate.surface
      normalizedSurface := String.ofList (normalizeSurface forms rawSurface)
      advisoryCandidateTermType := candidate.candidateTermType
      accepted := rejectReasons.isEmpty
      rejectReasons := rejectReasons
      resumeId := source.resumeId
      sourceSection := source.sourceSection
      sourceTextId := source.sourceTextId
      sourceTextIndex := source.sourceTextIndex
      sourceTextHash := source.sourceTextHash
      supportEligible := source.supportEligible
      hintOnly := source.hintOnly
      startChar := some m.startChar
      endChar := some m.endChar
      rawSurface := String.ofList rawSurface }

/-- `sources_by_ref.get`: of two texts with one key the later one counts. -/
def LLMPRFInput.sourceByRef (payload : LLMPRFInput) (key : String × SourceSection × String) :
    Option LLMPRFSourceText :=
  payload.sourceTexts.reverse.find? (·.key = key)

def rejectedRecord (candidate : LLMPRFCandidate forms) (ref : LLMPRFSourceEvidenceRef)
    (reason : String) : LLMPRFGroundingRecord :=
  { surface := candidate.surface
    normalizedSurface := String.ofList (normalizeSurface forms candidate.surface.toList)
    advisoryCandidateTermType := candidate.candidateTermType
    accepted := false
    rejectReasons := [reason]
    resumeId := ref.resumeId
    sourceSection := ref.sourceSection
    sourceTextId := ref.sourceTextId
    sourceTextIndex := ref.sourceTextIndex
    sourceTextHash := ref.sourceTextHash }

/-- The body of the loop of `ground_llm_prf_candidates`. -/
def groundRef (payload : LLMPRFInput) (candidate : LLMPRFCandidate forms)
    (ref : LLMPRFSourceEvidenceRef) : LLMPRFGroundingRecord :=
  match payload.sourceByRef ref.key with
  | none => rejectedRecord forms candidate ref "source_reference_not_found"
  | some source =>
    if ref.sourceTextHash ≠ source.sourceTextHash then
      { rejectedRecord forms candidate ref "source_hash_mismatch" with
        sourceTextIndex := source.sourceTextIndex
        supportEligible := source.supportEligible
        hintOnly := source.hintOnly }
    else if ref.sourceTextIndex ≠ source.sourceTextIndex then
      { rejectedRecord forms candidate ref "source_index_mismatch" with
        sourceTextHash := source.sourceTextHash
        supportEligible := source.supportEligible
        hintOnly := source.hintOnly }
    else groundSurface forms candidate source

def LLMPRFGroundingRecord.sortKey (record : LLMPRFGroundingRecord) :
    Nat ×ₗ Nat ×ₗ Nat ×ₗ String :=
  toLex (sourceSectionRank record.sourceSection,
    toLex (record.sourceTextIndex, toLex (record.startChar.getD (10 ^ 9), record.resumeId)))

def groundLLMPRFCandidates (payload : LLMPRFInput) (candidates : List (LLMPRFCandidate forms)) :
    List LLMPRFGroundingRecord :=
  sortedBy LLMPRFGroundingRecord.sortKey
    (candidates.flatMap fun candidate =>
      candidate.sourceEvidenceRefs.map (groundRef forms payload candidate))

/-! ## 3. What a match covers -/

def foldedChar (c : Char) : List Char := forms.fold (nfkcChar forms c)

/-- What the characters of the match expand to beyond what was found. -/
def sticksOut (text surface : List Char) : List Char :=
  match find text surface with
  | some _ => []
  | none =>
    match find (text.flatMap (nfkcChar forms)) (forms.nfkc surface) with
    | some p =>
      restBefore (nfkcChar forms) text p ++
        restAfter (nfkcChar forms) text p (forms.nfkc surface).length
    | none =>
      match find (text.flatMap (foldedChar forms)) (forms.fold (forms.nfkc surface)) with
      | some p =>
        restBefore (foldedChar forms) text p ++
          restAfter (foldedChar forms) text p (forms.fold (forms.nfkc surface)).length
      | none => []

def surfaceKey (surface : List Char) : List Char := forms.fold (normalizeSurface forms surface)

def FoldsByCharacter (text : List Char) : Prop :=
  surfaceKey forms text = collapse (text.flatMap (foldedChar forms))

variable {forms} {text surface : List Char} {m : RawMatch}

theorem surfaceKey_eq : surfaceKey forms surface = collapse (forms.fold (forms.nfkc surface)) :=
  fold_collapse

theorem total_surfaceKey : forms.total (surfaceKey forms surface) = forms.total surface := by
  rw [surfaceKey_eq, total_collapse, TextForms.total_fold, TextForms.total_nfkc]

theorem fold_flatMap_nfkcChar (text : List Char) :
    forms.fold (text.flatMap (nfkcChar forms)) = text.flatMap (foldedChar forms) :=
  List.flatMap_assoc

theorem total_flatMap_foldedChar (text : List Char) :
    forms.total (text.flatMap (foldedChar forms)) = forms.total text := by
  induction text with
  | nil => rfl
  | cons c text ih =>
    have hc : forms.total (foldedChar forms c) = forms.weight c := by
      unfold foldedChar nfkcChar
      rw [TextForms.total_fold, TextForms.total_nfkc]
      simp [TextForms.total]
    rw [List.flatMap_cons, TextForms.total_append, ih, hc]
    rfl

theorem nfkc_ne_nil (h : normalizeSurface forms surface ≠ []) : forms.nfkc surface ≠ [] := by
  intro hnil
  apply h
  unfold normalizeSurface
  rw [hnil]
  rfl

theorem fold_ne_nil {cs : List Char} (h : cs ≠ []) : forms.fold cs ≠ [] := by
  cases cs with
  | nil => exact absurd rfl h
  | cons c cs =>
    intro hnil
    exact TextForms.casefold_ne_nil c (List.append_eq_nil_iff.mp hnil).1

/-- **The three levels.** The slice is the surface; or its characters fold to the surface's
    form, with what sticks out before it and behind. -/
theorem findRawMatch_cases (hne : forms.nfkc surface ≠ [])
    (h : findRawMatch forms text surface = some m) :
    (m.kind = .exact ∧ slice text m.startChar m.endChar = surface) ∨
    (m.kind ≠ .exact ∧ ∃ before after,
      (Blank (sticksOut forms text surface) ↔ Blank before ∧ Blank after) ∧
      (slice text m.startChar m.endChar).flatMap (foldedChar forms) =
        before ++ forms.fold (forms.nfkc surface) ++ after) := by
  have hblank : ∀ before after : List Char,
      Blank (before ++ after) ↔ Blank before ∧ Blank after := fun _ _ => List.forall_mem_append
  unfold findRawMatch at h
  unfold sticksOut
  cases hexact : find text surface with
  | some p =>
    rw [hexact] at h
    cases h
    exact .inl ⟨rfl, slice_find hexact⟩
  | none =>
    rw [hexact] at h
    right
    dsimp only [nfkcWithRawOffsetMap, casefoldWithOffsetMap] at h ⊢
    cases hnfkc : find (text.flatMap (nfkcChar forms)) (forms.nfkc surface) with
    | some p =>
      rw [hnfkc] at h
      cases h
      refine ⟨by simp, forms.fold (restBefore (nfkcChar forms) text p),
        forms.fold (restAfter (nfkcChar forms) text p (forms.nfkc surface).length), ?_, ?_⟩
      · dsimp only
        rw [hblank, TextForms.blank_fold_iff, TextForms.blank_fold_iff]
      · rw [← fold_flatMap_nfkcChar, expand_slice hne hnfkc, TextForms.fold_append,
          TextForms.fold_append]
    | none =>
      rw [hnfkc] at h
      dsimp only at h ⊢
      have hsame : (text.flatMap (nfkcChar forms)).flatMap forms.casefold =
          text.flatMap (foldedChar forms) := fold_flatMap_nfkcChar text
      rw [hsame] at h
      cases hfold : find (text.flatMap (foldedChar forms)) (forms.fold (forms.nfkc surface)) with
      | none =>
        rw [hfold] at h
        cases h
      | some p =>
        rw [hfold] at h
        cases h
        have hfne : forms.fold (forms.nfkc surface) ≠ [] := fold_ne_nil hne
        have hpos := List.length_pos_iff.mpr hfne
        have hlen := find_length_le hfne hfold
        rw [← hsame] at hlen
        have hfirst := getD_offsets_comp (nfkcChar forms) forms.casefold text
          (show p < ((text.flatMap (nfkcChar forms)).flatMap forms.casefold).length by omega)
        have hlast := getD_offsets_comp (nfkcChar forms) forms.casefold text
          (show p + (forms.fold (forms.nfkc surface)).length - 1 <
            ((text.flatMap (nfkcChar forms)).flatMap forms.casefold).length by omega)
        refine ⟨by simp, _, _, hblank _ _, ?_⟩
        dsimp only
        rw [Nat.add_sub_cancel, hfirst, hlast]
        exact expand_slice hfne hfold

/-- **When the slice is the surface.** Nothing sticks out but white space, and the slice folds
    to what its characters fold to. -/
theorem surfaceKey_slice_iff (hne : forms.nfkc surface ≠ [])
    (h : findRawMatch forms text surface = some m) :
    surfaceKey forms (slice text m.startChar m.endChar) = surfaceKey forms surface ↔
      m.kind = .exact ∨ Blank (sticksOut forms text surface) ∧
        FoldsByCharacter forms (slice text m.startChar m.endChar) := by
  rcases findRawMatch_cases hne h with ⟨hkind, hslice⟩ | ⟨hkind, before, after, hblank, hfolds⟩
  · simp [hkind, hslice]
  · generalize slice text m.startChar m.endChar = found at hfolds ⊢
    have hcollapse : Blank before → Blank after →
        collapse (found.flatMap (foldedChar forms)) = surfaceKey forms surface := by
      intro hbefore hafter
      rw [hfolds, collapse_blank_append_blank hbefore hafter, surfaceKey_eq]
    rw [or_iff_right hkind, hblank]
    unfold FoldsByCharacter
    constructor
    · intro hkey
      -- what sticks out weighs nothing, since the slice weighs what the surface weighs
      have htotal := congrArg forms.total hkey
      have hparts := congrArg forms.total hfolds
      rw [total_surfaceKey, total_surfaceKey] at htotal
      rw [total_flatMap_foldedChar, TextForms.total_append, TextForms.total_append,
        TextForms.total_fold, TextForms.total_nfkc] at hparts
      have hbefore := TextForms.total_eq_zero_iff.mp (show forms.total before = 0 by omega)
      have hafter := TextForms.total_eq_zero_iff.mp (show forms.total after = 0 by omega)
      exact ⟨⟨hbefore, hafter⟩, hkey.trans (hcollapse hbefore hafter).symm⟩
    · intro hcond
      obtain ⟨⟨hbefore, hafter⟩, hsame⟩ := hcond
      exact hsame.trans (hcollapse hbefore hafter)

/-! ## 4. The records that are accepted -/

/-- The slice of an accepted record is its surface, and stands in no longer ASCII token. -/
def Grounded (forms : TextForms) (text : List Char) (record : LLMPRFGroundingRecord) : Prop :=
  ∃ startChar endChar, record.startChar = some startChar ∧ record.endChar = some endChar ∧
    surfaceKey forms (slice text startChar endChar) = surfaceKey forms record.surface.toList ∧
    (isAscii (surfaceKey forms record.surface.toList) = true →
      isAsciiTokenChar (charBefore text startChar) = false ∧
      isAsciiTokenChar text[endChar]? = false)

/-- Where a surface is looked up so that nothing goes wrong. The match is rejected; or it cuts
    no character apart and folds by character, and no ASCII token goes on beside it if the
    surface is ASCII in its normal form only. -/
def WellPlaced (forms : TextForms) (text surface : List Char) : Prop :=
  ∀ m, findRawMatch forms text surface = some m →
    isUnsafeSubstringMatch forms text m.startChar m.endChar surface = true ∨
    (m.kind = .exact ∨ Blank (sticksOut forms text surface) ∧
      FoldsByCharacter forms (slice text m.startChar m.endChar)) ∧
    (isAscii surface = true ∨ isAscii (surfaceKey forms surface) = false ∨
      isAsciiTokenChar (charBefore text m.startChar) = false ∧
      isAsciiTokenChar text[m.endChar]? = false)

variable {candidate : LLMPRFCandidate forms} {source : LLMPRFSourceText}
variable {payload : LLMPRFInput} {candidates : List (LLMPRFCandidate forms)}

@[simp] theorem groundSurface_key : (groundSurface forms candidate source).key = source.key := by
  unfold groundSurface
  dsimp only
  split <;> rfl

@[simp] theorem groundSurface_surface :
    (groundSurface forms candidate source).surface = candidate.surface := by
  unfold groundSurface
  dsimp only
  split <;> rfl

theorem groundSurface_accepted_iff :
    (groundSurface forms candidate source).accepted = true ↔
      ∃ m, findRawMatch forms source.sourceTextRaw.toList candidate.surface.toList = some m ∧
        isUnsafeSubstringMatch forms source.sourceTextRaw.toList m.startChar m.endChar
          candidate.surface.toList = false := by
  unfold groundSurface
  dsimp only
  split
  · rename_i hnone
    simp [hnone]
  · rename_i m hsome
    rw [hsome]
    cases hlonger : isUnsafeSubstringMatch forms source.sourceTextRaw.toList m.startChar m.endChar
      candidate.surface.toList <;> simp [hlonger]

theorem groundSurface_chars {m : RawMatch}
    (h : findRawMatch forms source.sourceTextRaw.toList candidate.surface.toList = some m) :
    (groundSurface forms candidate source).startChar = some m.startChar ∧
      (groundSurface forms candidate source).endChar = some m.endChar := by
  unfold groundSurface
  dsimp only
  rw [h]
  exact ⟨rfl, rfl⟩

theorem not_tokenChar_of_safe {m : RawMatch} (hascii : isAscii surface = true)
    (hsafe : isUnsafeSubstringMatch forms text m.startChar m.endChar surface = false) :
    isAsciiTokenChar (charBefore text m.startChar) = false ∧
      isAsciiTokenChar text[m.endChar]? = false := by
  unfold isUnsafeSubstringMatch at hsafe
  dsimp only at hsafe
  split at hsafe
  · cases hsafe
  · exact Bool.or_eq_false_iff.mp hsafe

/-- **One surface in one text.** -/
theorem groundSurface_iff :
    ((groundSurface forms candidate source).accepted = true →
      Grounded forms source.sourceTextRaw.toList (groundSurface forms candidate source)) ↔
    WellPlaced forms source.sourceTextRaw.toList candidate.surface.toList := by
  have hne := nfkc_ne_nil candidate.normalize_ne
  constructor
  · intro hgrounded m hm
    cases hlonger : isUnsafeSubstringMatch forms source.sourceTextRaw.toList m.startChar
      m.endChar candidate.surface.toList with
    | true => exact .inl rfl
    | false =>
      right
      obtain ⟨startChar, endChar, hstart, hend, hkey, htoken⟩ :=
        hgrounded (groundSurface_accepted_iff.mpr ⟨m, hm, hlonger⟩)
      obtain ⟨hstart', hend'⟩ := groundSurface_chars hm
      obtain rfl := Option.some.inj (hstart'.symm.trans hstart)
      obtain rfl := Option.some.inj (hend'.symm.trans hend)
      rw [groundSurface_surface] at hkey htoken
      refine ⟨(surfaceKey_slice_iff hne hm).mp hkey, ?_⟩
      cases hascii : isAscii (surfaceKey forms candidate.surface.toList) with
      | false => exact .inr (.inl rfl)
      | true => exact .inr (.inr (htoken hascii))
  · intro hplaced haccepted
    obtain ⟨m, hm, hsafe⟩ := groundSurface_accepted_iff.mp haccepted
    obtain ⟨hstart, hend⟩ := groundSurface_chars hm
    rcases hplaced m hm with hlonger | ⟨hmatch, hbeside⟩
    · rw [hsafe] at hlonger
      cases hlonger
    · refine ⟨m.startChar, m.endChar, hstart, hend, ?_, ?_⟩
      · rw [groundSurface_surface]
        exact (surfaceKey_slice_iff hne hm).mpr hmatch
      · rw [groundSurface_surface]
        intro hkey
        rcases hbeside with hascii | hascii | hbeside
        · exact not_tokenChar_of_safe hascii hsafe
        · rw [hkey] at hascii
          cases hascii
        · exact hbeside

/-- The source text a reference leads to, if its hash and index are the text's. -/
def LLMPRFInput.resolve (payload : LLMPRFInput) (ref : LLMPRFSourceEvidenceRef) :
    Option LLMPRFSourceText :=
  (payload.sourceByRef ref.key).filter fun source =>
    ref.sourceTextHash = source.sourceTextHash ∧ ref.sourceTextIndex = source.sourceTextIndex

theorem sourceByRef_key {key : String × SourceSection × String}
    (h : payload.sourceByRef key = some source) : source.key = key := by
  have hkey := List.find?_some h
  simpa using hkey

theorem groundRef_cases (payload : LLMPRFInput) (candidate : LLMPRFCandidate forms)
    (ref : LLMPRFSourceEvidenceRef) :
    (payload.resolve ref = none ∧ (groundRef forms payload candidate ref).accepted = false) ∨
    ∃ source, payload.resolve ref = some source ∧ payload.sourceByRef source.key = some source ∧
      groundRef forms payload candidate ref = groundSurface forms candidate source := by
  unfold groundRef LLMPRFInput.resolve
  cases hsource : payload.sourceByRef ref.key with
  | none => exact .inl ⟨rfl, rfl⟩
  | some source =>
    dsimp only
    have hfound : payload.sourceByRef source.key = some source := by
      rw [sourceByRef_key hsource, hsource]
    by_cases hhash : ref.sourceTextHash = source.sourceTextHash
    · by_cases hindex : ref.sourceTextIndex = source.sourceTextIndex
      · exact .inr ⟨source, by simp [hhash, hindex], hfound, by simp [hhash, hindex]⟩
      · left
        simp [hhash, hindex, Option.filter, rejectedRecord]
    · left
      simp [hhash, Option.filter, rejectedRecord]

/-- **When grounding does what it is for.** Every record that is accepted, of any payload and
    any candidates, covers its surface and stands in no longer ASCII token, exactly when
    every surface is well placed in every text that it refers to. -/
theorem grounded_iff (forms : TextForms) (payload : LLMPRFInput)
    (candidates : List (LLMPRFCandidate forms)) :
    (∀ record ∈ groundLLMPRFCandidates forms payload candidates, record.accepted = true →
      ∃ source, payload.sourceByRef record.key = some source ∧
        Grounded forms source.sourceTextRaw.toList record) ↔
    ∀ candidate ∈ candidates, ∀ ref ∈ candidate.sourceEvidenceRefs, ∀ source,
      payload.resolve ref = some source →
      WellPlaced forms source.sourceTextRaw.toList candidate.surface.toList := by
  unfold groundLLMPRFCandidates
  simp only [mem_sortedBy, List.mem_flatMap, List.mem_map]
  constructor
  · intro hrecords candidate hcandidate ref href source hresolve
    apply groundSurface_iff.mp
    intro haccepted
    rcases groundRef_cases payload candidate ref with
      ⟨hnone, -⟩ | ⟨source', hsome, hfound, hrecord⟩
    · rw [hresolve] at hnone
      cases hnone
    · obtain rfl := Option.some.inj (hresolve.symm.trans hsome)
      obtain ⟨source', hsource', hgrounded⟩ :=
        hrecords _ ⟨candidate, hcandidate, ref, href, hrecord⟩ haccepted
      rw [groundSurface_key, hfound] at hsource'
      obtain rfl := Option.some.inj hsource'
      exact hgrounded
  · intro hplaced record hrecord haccepted
    obtain ⟨candidate, hcandidate, ref, href, rfl⟩ := hrecord
    rcases groundRef_cases payload candidate ref with
      ⟨-, hrejected⟩ | ⟨source, hsome, hfound, hrecord⟩
    · rw [hrejected] at haccepted
      cases haccepted
    · rw [hrecord] at haccepted ⊢
      refine ⟨source, by rw [groundSurface_key, hfound], ?_⟩
      exact groundSurface_iff.mpr (hplaced candidate hcandidate ref href source hsome) haccepted

/-! ### A full-width surface -/

def javaText : LLMPRFSourceText where
  resumeId := "seed-1"
  sourceSection := .scorecardEvidence
  sourceTextId := "seed-1|scorecard_evidence|0"
  sourceTextIndex := 0
  sourceTextRaw := "Used JavaScript"
  sourceTextHash := "hash-1"
  supportEligible := true
  hintOnly := false

/-- A model that answers in full-width letters. -/
def javaCandidate : LLMPRFCandidate .fullWidth where
  surface := "ｊａｖａ"
  candidateTermType := .skill
  sourceEvidenceRefs :=
    [{ resumeId := "seed-1"
       sourceSection := .scorecardEvidence
       sourceTextId := "seed-1|scorecard_evidence|0"
       sourceTextIndex := 0
       sourceTextHash := "hash-1" }]
  normalize_ne := by decide

def javaRecord : LLMPRFGroundingRecord where
  surface := "ｊａｖａ"
  normalizedSurface := "Java"
  advisoryCandidateTermType := .skill
  accepted := true
  resumeId := "seed-1"
  sourceSection := .scorecardEvidence
  sourceTextId := "seed-1|scorecard_evidence|0"
  sourceTextIndex := 0
  sourceTextHash := "hash-1"
  supportEligible := true
  startChar := some 5
  endChar := some 9
  rawSurface := "Java"

/-- The surface is not ASCII, so nothing asks what stands beside the match. -/
theorem not_grounded_fullWidth :
    ¬∀ (forms : TextForms) (payload : LLMPRFInput) (candidates : List (LLMPRFCandidate forms)),
      ∀ record ∈ groundLLMPRFCandidates forms payload candidates, record.accepted = true →
        ∃ source, payload.sourceByRef record.key = some source ∧
          Grounded forms source.sourceTextRaw.toList record := by
  intro hall
  have hrecords : groundLLMPRFCandidates .fullWidth ⟨[javaText]⟩ [javaCandidate] =
      [javaRecord] := by
    decide
  have hjava : javaRecord ∈ groundLLMPRFCandidates .fullWidth ⟨[javaText]⟩ [javaCandidate] :=
    hrecords ▸ List.mem_singleton_self javaRecord
  obtain ⟨source, hsource, startChar, endChar, hstart, hend, -, htoken⟩ :=
    hall .fullWidth ⟨[javaText]⟩ [javaCandidate] javaRecord hjava rfl
  have hfound : LLMPRFInput.sourceByRef ⟨[javaText]⟩ javaRecord.key = some javaText := by
    decide
  obtain rfl := Option.some.inj (hfound.symm.trans hsource)
  obtain rfl := Option.some.inj hend
  -- the match ends before the `S` of `JavaScript`
  have hbeside := (htoken (by decide)).2
  have hletter : isAsciiTokenChar javaText.sourceTextRaw.toList[9]? = true := by decide
  rw [hletter] at hbeside
  cases hbeside

end Grounding

end SeekTalent

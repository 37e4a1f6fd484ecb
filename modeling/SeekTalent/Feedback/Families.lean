import SeekTalent.Base.Regex
import SeekTalent.Feedback.Grounding

/-!
# Families of surfaces

A phrase that a model proposes belongs to the family of its letters and digits: the phrase is
cut into tokens, each token is collapsed, and what is left is joined. `C++`, `C#` and `.NET`
are tokens of their own, with keys of their own.

Whether a resume that did not fit has the phrase too is looked up by families: the text of
the resume is cut into tokens the same way, and up to four of them in a row are joined
(`mem_familyKeysInText`).
-/

namespace SeekTalent

namespace Prf

open Grounding Py

variable (forms : TextForms)

/-! ## 1. Tokens -/

/-- `_SYMBOLIC_FAMILY_SURFACE_RE` -/
def symbolicFamilySurfaces : List (List Char) := [['c', '+', '+'], ['c', '#'], ['.', 'n', 'e', 't']]

def symbolicMatch (cs : List Char) : Option (List Char) :=
  (symbolicFamilySurfaces.find? fun symbol => symbol <+: cs.map Char.toLower).map fun symbol =>
    cs.take symbol.length

/-- The token that has been read, if there is one; `current` holds its characters, last one
    first. -/
def currentToken (current : List Char) : List (List Char) :=
  if current.isEmpty then [] else [current.reverse]

/-- The loop of `_family_token_surfaces`; the next `skip` characters belong to a symbol. -/
def tokensFrom (current : List Char) : Nat → List Char → List (List Char)
  | _, [] => currentToken current
  | skip + 1, _ :: cs => tokensFrom current skip cs
  | 0, c :: cs =>
    match symbolicMatch (c :: cs) with
    | some symbol => currentToken current ++ symbol :: tokensFrom [] (symbol.length - 1) cs
    | none =>
      if forms.isAlnum c then tokensFrom (c :: current) 0 cs
      else currentToken current ++ tokensFrom [] 0 cs

def familyTokenSurfaces (text : List Char) : List (List Char) :=
  tokensFrom forms [] 0 (forms.nfkc text)

def symbolicFamilyKeys : List (List Char × List Char) :=
  [(['c', '+', '+'], ['c', 'p', 'p']), (['c', '#'], ['c', 's', 'h', 'a', 'r', 'p']),
    (['.', 'n', 'e', 't'], ['d', 'o', 't', 'n', 'e', 't'])]

def collapseFamilySurface (surface : List Char) : List Char :=
  let normalized := forms.nfkc surface
  match symbolicFamilyKeys.lookup (forms.fold (trim isSpace normalized)) with
  | some symbolicKey => symbolicKey
  | none => (normalized.filter forms.isAlnum).flatMap forms.casefold

def collapsedTokens (text : List Char) : List (List Char) :=
  ((familyTokenSurfaces forms text).map (collapseFamilySurface forms)).filter (· ≠ [])

/-- What stands behind `feedback.` in the family id of a surface. -/
def familyKey (surface : List Char) : List Char :=
  let collapsed := (collapsedTokens forms surface).flatten
  let collapsed := if collapsed = [] then collapseFamilySurface forms surface else collapsed
  if collapsed = [] then "unknown".toList else collapsed

def feedbackPrefix : List Char := "feedback.".toList

def buildConservativePrfFamilyId (surface : List Char) : List Char :=
  feedbackPrefix ++ familyKey forms surface

/-- `family_id.removeprefix("feedback.")` -/
def withoutFeedback (familyId : List Char) : List Char :=
  if feedbackPrefix <+: familyId then familyId.drop feedbackPrefix.length else familyId

def normalizePrfFamilyId (familyId : List Char) : List Char :=
  buildConservativePrfFamilyId forms (withoutFeedback familyId)

/-! ## 2. Which surface stands for a phrase -/

/-- `[A-Za-z][A-Za-z0-9.+#_-]*` -/
def asciiWord : Regex :=
  .all [.char Char.isAlpha, .star (.char fun c => c.isAlphanum || c ∈ ['.', '+', '#', '_', '-'])]

/-- `_MIXED_CJK_ASCII_CORE_RE` -/
def mixedCjkAsciiCore : Regex :=
  .all [asciiWord, .star (.all [.atLeast 1 (.char isSpace), asciiWord])]

/-- `_MIXED_CJK_ASCII_GENERIC_WRAPPERS`, the longest first -/
def mixedCjkAsciiGenericWrappers : List String :=
  ["工作流", "框架", "平台", "系统", "工具", "引擎", "服务", "组件", "模块"]

def mixedCjkAsciiUnsafeCores : List (List Char) := ["agent", "ai", "llm", "ml", "nlp"].map (·.toList)

/-- `text.replace(token, "")`; the next `skip` characters are part of an occurrence. -/
def dropOccurrences (token : List Char) : Nat → List Char → List Char
  | _, [] => []
  | skip + 1, _ :: cs => dropOccurrences token skip cs
  | 0, c :: cs =>
    if token <+: c :: cs then dropOccurrences token (token.length - 1) cs
    else c :: dropOccurrences token 0 cs

def isGenericMixedCjkAsciiWrapper (wrapper : List Char) : Bool :=
  (mixedCjkAsciiGenericWrappers.foldl (fun remaining token => dropOccurrences token.toList 0 remaining)
    (splitFrom [] wrapper).flatten).isEmpty

/-- `_canonical_llm_prf_expression_surface` -/
def canonicalExpressionSurface (surface : List Char) : List Char :=
  let clean := normalizeSurface forms surface
  if !clean.any isCjk then clean
  else
    let pieces := mixedCjkAsciiCore.scan clean.length ⟨none, clean⟩
    match pieces.filterMap Sum.getRight? with
    | [found] =>
      let core := trim isSpace found
      if collapseFamilySurface forms core ∈ mixedCjkAsciiUnsafeCores then clean
      else
        let wrapper := trim isSpace (pieces.filterMap Sum.getLeft?)
        if wrapper ≠ [] ∧ isGenericMixedCjkAsciiWrapper wrapper then core else clean
    | _ => clean

/-- The phrase an accepted record stands for: `record.normalized_surface or record.surface`. -/
def expressionOf (record : LLMPRFGroundingRecord) : List Char :=
  canonicalExpressionSurface forms
    (if record.normalizedSurface = "" then record.surface else record.normalizedSurface).toList

def familyOf (record : LLMPRFGroundingRecord) : List Char :=
  buildConservativePrfFamilyId forms (expressionOf forms record)

/-! ## 3. Families in a text -/

/-- `_family_keys_in_text`: the tokens, and every two to four of them in a row. -/
def familyKeysInText (text : List Char) : List (List Char) :=
  let tokens := collapsedTokens forms text
  tokens ++ (List.range tokens.length).flatMap fun startIndex =>
    (List.range' (startIndex + 2) (min tokens.length (startIndex + 4) + 1 - (startIndex + 2))).map
      fun endIndex => ((tokens.take endIndex).drop startIndex).flatten

def negativeSupportResumeIds (negativeSourceTexts : List LLMPRFSourceText) (familyId : List Char) :
    List String :=
  let key := withoutFeedback familyId
  sortedSet ((negativeSourceTexts.filter fun source =>
    key ≠ [] ∧ key ∈ familyKeysInText forms source.sourceTextRaw.toList).map (·.resumeId))

/-- ASCII, its full-width forms and the CJK ideographs. -/
def ideographs : TextForms :=
  { TextForms.fullWidth with
    isAlnum := fun c => c.isAlphanum || isCjk c
    filter_casefold := fun c _ => filter_ideographs c }

/-! ## 4. The characters of a key -/

section Keys

variable {forms : TextForms} {token surface text current cs : List Char} {c : Char} {skip : Nat}

theorem mem_symbolicMatch (h : symbolicMatch cs = some token) (hc : c ∈ token) : c ∈ cs := by
  unfold symbolicMatch at h
  rw [Option.map_eq_some_iff] at h
  obtain ⟨symbol, -, rfl⟩ := h
  exact List.mem_of_mem_take hc

theorem mem_tokensFrom (h : token ∈ tokensFrom forms current skip cs) (hc : c ∈ token) :
    c ∈ current ∨ c ∈ cs := by
  have hcurrent : ∀ {current : List Char}, token ∈ currentToken current → c ∈ current := by
    intro current hmem
    unfold currentToken at hmem
    split at hmem
    · simp at hmem
    · obtain rfl := List.mem_singleton.mp hmem
      exact List.mem_reverse.mp hc
  induction cs generalizing current skip with
  | nil =>
    rw [tokensFrom] at h
    exact .inl (hcurrent h)
  | cons d cs ih =>
    cases skip with
    | succ skip =>
      rw [tokensFrom] at h
      rcases ih h with hc | hc
      · exact .inl hc
      · exact .inr (List.mem_cons_of_mem d hc)
    | zero =>
      rw [tokensFrom] at h
      cases hsymbol : symbolicMatch (d :: cs) with
      | some symbol =>
        rw [hsymbol] at h
        rcases List.mem_append.mp h with h | h
        · exact .inl (hcurrent h)
        · rcases List.mem_cons.mp h with rfl | h
          · exact .inr (mem_symbolicMatch hsymbol hc)
          · rcases ih h with hc | hc
            · cases hc
            · exact .inr (List.mem_cons_of_mem d hc)
      | none =>
        rw [hsymbol] at h
        dsimp only at h
        split at h
        · rcases ih h with hc | hc
          · rcases List.mem_cons.mp hc with rfl | hc
            · exact .inr List.mem_cons_self
            · exact .inl hc
          · exact .inr (List.mem_cons_of_mem d hc)
        · rcases List.mem_append.mp h with h | h
          · exact .inl (hcurrent h)
          · rcases ih h with hc | hc
            · cases hc
            · exact .inr (List.mem_cons_of_mem d hc)

theorem mem_familyTokenSurfaces (h : token ∈ familyTokenSurfaces forms text) (hc : c ∈ token) :
    c ∈ forms.nfkc text := by
  rcases mem_tokensFrom h hc with hc | hc
  · cases hc
  · exact hc

theorem familyKey_ne_nil (surface : List Char) : familyKey forms surface ≠ [] := by
  have horElse : ∀ collapsed : List Char,
      (if collapsed = [] then "unknown".toList else collapsed) ≠ [] := by
    intro collapsed
    split
    · decide
    · assumption
  exact horElse _

theorem withoutFeedback_append (key : List Char) : withoutFeedback (feedbackPrefix ++ key) = key := by
  unfold withoutFeedback
  rw [if_pos (List.prefix_append _ _), List.drop_left]

theorem mem_familyKey {P : Char → Prop} (hunknown : ∀ c ∈ "unknown".toList, P c)
    (htokens : ∀ token ∈ familyTokenSurfaces forms surface,
      ∀ c ∈ collapseFamilySurface forms token, P c)
    (hsurface : ∀ c ∈ collapseFamilySurface forms surface, P c) :
    ∀ c ∈ familyKey forms surface, P c := by
  have horElse : ∀ (fallback collapsed : List Char), (∀ c ∈ fallback, P c) →
      (∀ c ∈ collapsed, P c) → ∀ c ∈ if collapsed = [] then fallback else collapsed, P c := by
    intro fallback collapsed hfallback hcollapsed
    split
    · exact hfallback
    · exact hcollapsed
  have hjoined : ∀ c ∈ (collapsedTokens forms surface).flatten, P c := by
    intro c hc
    obtain ⟨collapsed, hmem, hc⟩ := List.mem_flatten.mp hc
    obtain ⟨token, htoken, rfl⟩ := List.mem_map.mp (List.mem_of_mem_filter hmem)
    exact htokens token htoken c hc
  exact horElse _ _ hunknown (horElse _ _ hsurface hjoined)

theorem tokensFrom_letters (hletters : ∀ c ∈ cs, forms.isAlnum c = true)
    (hsymbols : ∀ symbol ∈ symbolicFamilySurfaces, ¬symbol <:+: cs.map Char.toLower) :
    tokensFrom forms current 0 cs = currentToken (cs.reverse ++ current) := by
  induction cs generalizing current with
  | nil => rfl
  | cons c cs ih =>
    have hnone : symbolicMatch (c :: cs) = none := by
      unfold symbolicMatch
      rw [Option.map_eq_none_iff, List.find?_eq_none]
      intro symbol hsymbol hprefix
      exact hsymbols symbol hsymbol (of_decide_eq_true hprefix).isInfix
    rw [tokensFrom, hnone]
    dsimp only
    rw [if_pos (hletters c List.mem_cons_self)]
    rw [ih (fun d hd => hletters d (List.mem_cons_of_mem c hd))]
    · simp
    · intro symbol hsymbol hinfix
      apply hsymbols symbol hsymbol
      rw [List.map_cons]
      exact hinfix.trans (List.suffix_cons _ _).isInfix

theorem isSpace_canonical (hc : c ∈ canonicalExpressionSurface forms surface)
    (hspace : isSpace c = true) : c = ' ' := by
  have hclean : ∀ c ∈ normalizeSurface forms surface, isSpace c = true → c = ' ' := by
    intro c hc hspace
    have htidy : Tidy (String.ofList (normalizeSurface forms surface)) := by
      unfold Tidy normalizeSurface collapse
      rw [String.toList_ofList]
      by_cases hne : splitFrom [] (forms.nfkc surface) = []
      · exact .inl (by rw [hne]; rfl)
      · exact .inr (tidyFrom_intercalate hne (mem_splitFrom fun _ h => absurd h List.not_mem_nil))
    exact htidy.eq_blank (by rw [String.toList_ofList]; exact hc) hspace
  apply hclean c ?_ hspace
  unfold canonicalExpressionSurface at hc
  dsimp only at hc
  split at hc
  · exact hc
  · split at hc
    · rename_i found hfound
      split at hc
      · exact hc
      · split at hc
        · have hmem : found ∈ (mixedCjkAsciiCore.scan (normalizeSurface forms surface).length
              ⟨none, normalizeSurface forms surface⟩).filterMap Sum.getRight? := by
            rw [hfound]
            exact List.mem_singleton_self found
          obtain ⟨piece, hpiece, hright⟩ := List.mem_filterMap.mp hmem
          obtain rfl := Sum.getRight?_eq_some_iff.mp hright
          obtain ⟨pre, post, hsplit, -, -⟩ := trim_ends isSpace found
          refine Regex.mem_of_mem_scan hpiece c ?_
          rw [hsplit]
          exact List.mem_append_right _ (List.mem_append_left _ hc)
        · exact hc
    · exact hc

end Keys

end Prf

end SeekTalent

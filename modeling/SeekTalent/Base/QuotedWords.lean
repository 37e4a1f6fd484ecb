import SeekTalent.Base.Words

/-!
# Lists of terms, written as one line of words

A term of one word is written as it is. One of several words stands between double quotes, with
its quotes and backslashes escaped, and is still a stretch of words of the line (`tokens`). Only
the words of a line can be told from it, so the line can be read in one way only if no stretch
of its words might be a term between quotes (`unique_iff`).
-/

namespace QuotedWords

open Py (IsWord)

variable {cs ds : List Char} {c : Char} {words words' : List (List Char)}
variable {terms others : List (List (List Char))}

/-! ## 1. Escaping -/

def escape (cs : List Char) : List Char :=
  cs.flatMap fun c => if c = '\\' ∨ c = '"' then ['\\', c] else [c]

/-- A text that escaping might have made: every quote and every backslash follows a backslash. -/
def isEscaped : List Char → Bool
  | [] => true
  | '\\' :: c :: rest => (c = '\\' ∨ c = '"') && isEscaped rest
  | c :: rest => c ≠ '\\' && c ≠ '"' && isEscaped rest

theorem escape_cons_special (hc : c = '\\' ∨ c = '"') :
    escape (c :: cs) = '\\' :: c :: escape cs := by
  simp [escape, hc]

theorem escape_cons_plain (hc : ¬(c = '\\' ∨ c = '"')) : escape (c :: cs) = c :: escape cs := by
  simp [escape, hc]

theorem escape_append : escape (cs ++ ds) = escape cs ++ escape ds := List.flatMap_append

theorem isEscaped_escape (cs : List Char) : isEscaped (escape cs) = true := by
  induction cs with
  | nil => rfl
  | cons c cs ih =>
    by_cases hc : c = '\\' ∨ c = '"'
    · rw [escape_cons_special hc, isEscaped, ih, Bool.and_true]
      exact decide_eq_true hc
    · rw [escape_cons_plain hc]
      obtain ⟨hslash, hquote⟩ := not_or.mp hc
      rw [isEscaped.eq_3 _ _ fun _ _ h => absurd h hslash, ih]
      simp [hslash, hquote]

theorem exists_escape (h : isEscaped cs = true) : ∃ ds, escape ds = cs := by
  fun_induction isEscaped cs with
  | case1 => exact ⟨[], rfl⟩
  | case2 c rest ih =>
    rw [Bool.and_eq_true, decide_eq_true_eq] at h
    obtain ⟨ds, rfl⟩ := ih h.2
    exact ⟨c :: ds, escape_cons_special h.1⟩
  | case3 c rest hshape ih =>
    simp only [Bool.and_eq_true, decide_eq_true_eq] at h
    obtain ⟨ds, rfl⟩ := ih h.2
    exact ⟨c :: ds, escape_cons_plain (not_or.mpr h.1)⟩

theorem mem_escape : c ∈ escape cs → c ∈ cs ∨ c = '\\' := by
  intro h
  obtain ⟨d, hd, hc⟩ := List.mem_flatMap.mp h
  split at hc
  · rcases List.mem_cons.mp hc with rfl | hc
    · exact .inr rfl
    · exact .inl (List.mem_singleton.mp hc ▸ hd)
  · exact .inl (List.mem_singleton.mp hc ▸ hd)

theorem mem_escape_of_mem (h : c ∈ cs) : c ∈ escape cs := by
  refine List.mem_flatMap.mpr ⟨c, h, ?_⟩
  split <;> simp

theorem isWord_escape : IsWord (escape cs) ↔ IsWord cs := by
  constructor
  · intro h
    refine ⟨?_, fun c hc => h.2 c (mem_escape_of_mem hc)⟩
    rintro rfl
    exact h.1 rfl
  · intro h
    constructor
    · obtain ⟨c, hc⟩ := List.exists_mem_of_ne_nil cs h.1
      exact List.ne_nil_of_mem (mem_escape_of_mem hc)
    · intro c hc
      rcases mem_escape hc with hc | rfl
      · exact h.2 c hc
      · rfl

/-! ## 2. Terms of several words -/

/-- The last words of a term, up to the closing quote. -/
def closed : List (List Char) → List (List Char)
  | [] => []
  | [word] => [escape word ++ ['"']]
  | word :: rest => escape word :: closed rest

/-- The words of the line for a term of several words. -/
def quoted : List (List Char) → List (List Char)
  | [] => []
  | word :: rest => ('"' :: escape word) :: closed rest

/-- A stretch of words that might be a term between quotes. -/
def ReadsAsQuoted (stretch : List (List Char)) : Prop :=
  ∃ first middle last, stretch = ('"' :: first) :: (middle ++ [last ++ ['"']]) ∧
    first ≠ [] ∧ isEscaped first = true ∧ (∀ word ∈ middle, isEscaped word = true) ∧
    last ≠ [] ∧ isEscaped last = true

theorem closed_snoc (words : List (List Char)) (last : List Char) :
    closed (words ++ [last]) = words.map escape ++ [escape last ++ ['"']] := by
  induction words with
  | nil => rfl
  | cons word words ih =>
    rw [List.cons_append, closed, ih]
    · rfl
    · simp

theorem quoted_eq (first : List Char) (middle : List (List Char)) (last : List Char) :
    quoted (first :: (middle ++ [last])) =
      ('"' :: escape first) :: (middle.map escape ++ [escape last ++ ['"']]) := by
  rw [quoted, closed_snoc]

theorem exists_ends (h : 2 ≤ words.length) : ∃ first middle last,
    words = first :: (middle ++ [last]) := by
  cases words with
  | nil => simp at h
  | cons first rest =>
    rcases List.eq_nil_or_concat rest with rfl | ⟨middle, last, rfl⟩
    · simp at h
    · exact ⟨first, middle, last, by simp⟩

theorem readsAsQuoted_iff (hwords : ∀ word ∈ words, IsWord word) :
    ReadsAsQuoted words ↔
      ∃ term, 2 ≤ term.length ∧ (∀ word ∈ term, IsWord word) ∧ quoted term = words := by
  constructor
  · rintro ⟨first, middle, last, rfl, hfirst, hfirst', hmiddle, hlast, hlast'⟩
    obtain ⟨first, rfl⟩ := exists_escape hfirst'
    obtain ⟨last, rfl⟩ := exists_escape hlast'
    have hmiddle' : ∃ plain : List (List Char), plain.map escape = middle := by
      clear hwords
      induction middle with
      | nil => exact ⟨[], rfl⟩
      | cons word middle ih =>
        rw [List.forall_mem_cons] at hmiddle
        obtain ⟨plain, rfl⟩ := ih hmiddle.2
        obtain ⟨word, rfl⟩ := exists_escape hmiddle.1
        exact ⟨word :: plain, rfl⟩
    obtain ⟨middle, rfl⟩ := hmiddle'
    refine ⟨first :: (middle ++ [last]), by simp, ?_, quoted_eq first middle last⟩
    have hmem : ∀ word ∈ middle, IsWord word := fun word hword =>
      isWord_escape.mp (hwords _ (by simp [List.mem_map_of_mem hword]))
    have hends : IsWord first ∧ IsWord last := by
      constructor
      · apply isWord_escape.mp
        exact ⟨hfirst, fun c hc => (hwords _ List.mem_cons_self).2 c (List.mem_cons_of_mem _ hc)⟩
      · apply isWord_escape.mp
        refine ⟨hlast, fun c hc => (hwords (escape last ++ ['"']) (by simp)).2 c ?_⟩
        exact List.mem_append_left _ hc
    intro word hword
    simp only [List.mem_cons, List.mem_append, List.not_mem_nil, or_false] at hword
    rcases hword with rfl | hword | rfl
    · exact hends.1
    · exact hmem word hword
    · exact hends.2
  · rintro ⟨term, htwo, hterm, rfl⟩
    obtain ⟨first, middle, last, rfl⟩ := exists_ends htwo
    rw [quoted_eq]
    refine ⟨escape first, middle.map escape, escape last, rfl, ?_, isEscaped_escape first, ?_, ?_,
      isEscaped_escape last⟩
    · exact (isWord_escape.mpr (hterm first (by simp))).1
    · intro word hword
      obtain ⟨plain, -, rfl⟩ := List.mem_map.mp hword
      exact isEscaped_escape plain
    · exact (isWord_escape.mpr (hterm last (by simp))).1

theorem isWord_of_mem_quoted (htwo : 2 ≤ words.length) (hwords : ∀ word ∈ words, IsWord word) :
    ∀ word ∈ quoted words, IsWord word := by
  obtain ⟨first, middle, last, rfl⟩ := exists_ends htwo
  rw [quoted_eq]
  intro word hword
  simp only [List.mem_cons, List.mem_append, List.mem_map, List.not_mem_nil, or_false] at hword
  have hquote : Py.isSpace '"' = false := rfl
  rcases hword with rfl | ⟨plain, hplain, rfl⟩ | rfl
  · refine ⟨by simp, fun c hc => ?_⟩
    rcases List.mem_cons.mp hc with rfl | hc
    · exact hquote
    · exact (isWord_escape.mpr (hwords first (by simp))).2 c hc
  · exact isWord_escape.mpr (hwords plain (by simp [hplain]))
  · refine ⟨by simp, fun c hc => ?_⟩
    rcases List.mem_append.mp hc with hc | hc
    · exact (isWord_escape.mpr (hwords last (by simp))).2 c hc
    · rw [List.mem_singleton.mp hc]
      exact hquote

theorem two_le_length_quoted (htwo : 2 ≤ words.length) : 2 ≤ (quoted words).length := by
  obtain ⟨first, middle, last, rfl⟩ := exists_ends htwo
  simp [quoted_eq]

theorem closed_cons (word : List Char) (hne : words ≠ []) :
    closed (word :: words) = escape word :: closed words := by
  cases words with
  | nil => exact absurd rfl hne
  | cons next words => rfl

theorem closed_ne_nil (hne : words ≠ []) : closed words ≠ [] := by
  cases words with
  | nil => exact absurd rfl hne
  | cons word words =>
    cases words with
    | nil => exact List.cons_ne_nil _ _
    | cons next words => exact List.cons_ne_nil _ _

theorem escape_blank_append : escape (cs ++ [' '] ++ ds) = escape cs ++ [' '] ++ escape ds := by
  rw [escape_append, escape_append]
  rfl

theorem intercalate_closed (hne : words ≠ []) :
    [' '].intercalate (closed words) = escape ([' '].intercalate words) ++ ['"'] := by
  induction words with
  | nil => exact absurd rfl hne
  | cons word words ih =>
    by_cases hrest : words = []
    · simp [hrest, closed]
    · rw [closed_cons word hrest, List.intercalate_cons_of_ne_nil (closed_ne_nil hrest), ih hrest,
        List.intercalate_cons_of_ne_nil hrest, escape_blank_append]
      simp

theorem intercalate_quoted (htwo : 2 ≤ words.length) :
    [' '].intercalate (quoted words) = '"' :: (escape ([' '].intercalate words) ++ ['"']) := by
  cases words with
  | nil => simp at htwo
  | cons word words =>
    have hrest : words ≠ [] := by
      rintro rfl
      simp at htwo
    rw [quoted, List.intercalate_cons_of_ne_nil (closed_ne_nil hrest), intercalate_closed hrest,
      List.intercalate_cons_of_ne_nil hrest, escape_blank_append]
    simp

/-! ## 3. Lists of terms -/

def IsTerm (term : List (List Char)) : Prop := term ≠ [] ∧ ∀ word ∈ term, IsWord word

def written (term : List (List Char)) : List (List Char) :=
  if 2 ≤ term.length then quoted term else term

/-- The words of the line for a list of terms. -/
def tokens (terms : List (List (List Char))) : List (List Char) := terms.flatMap written

theorem IsTerm.written (h : IsTerm words) : IsTerm (written words) := by
  unfold QuotedWords.written
  split
  · next htwo =>
    refine ⟨?_, isWord_of_mem_quoted htwo h.2⟩
    exact List.ne_nil_of_length_pos (by have := two_le_length_quoted htwo; omega)
  · exact h

theorem isWord_of_mem_tokens (hterms : ∀ term ∈ terms, IsTerm term) :
    ∀ word ∈ tokens terms, IsWord word := by
  intro word hword
  obtain ⟨term, hterm, hword⟩ := List.mem_flatMap.mp hword
  exact (hterms term hterm).written.2 word hword

/-- The terms that are the words of a line. -/
def single (words : List (List Char)) : List (List (List Char)) := words.map fun word => [word]

theorem tokens_single (words : List (List Char)) : tokens (single words) = words := by
  unfold tokens single
  rw [List.flatMap_map]
  exact List.flatMap_singleton' words

theorem tokens_append : tokens (terms ++ others) = tokens terms ++ tokens others :=
  List.flatMap_append

theorem isTerm_of_mem_single (hwords : ∀ word ∈ words, IsWord word) :
    ∀ term ∈ single words, IsTerm term := by
  intro term hterm
  obtain ⟨word, hword, rfl⟩ := List.mem_map.mp hterm
  exact ⟨List.cons_ne_nil _ _, by simpa using hwords word hword⟩

theorem eq_single (hterms : ∀ term ∈ terms, term.length = 1) : terms = single (tokens terms) := by
  induction terms with
  | nil => rfl
  | cons term terms ih =>
    rw [List.forall_mem_cons] at hterms
    obtain ⟨word, rfl⟩ := List.length_eq_one_iff.mp hterms.1
    have hcons : tokens ([word] :: terms) = word :: tokens terms := rfl
    rw [hcons, single, List.map_cons, ← single, ← ih hterms.2]

/-- **Which lists can be read in one way only**: those of terms of one word each, no stretch of
which might be a term between quotes. -/
theorem unique_iff (hterms : ∀ term ∈ terms, IsTerm term) :
    (∀ others, (∀ term ∈ others, IsTerm term) → tokens others = tokens terms → others = terms) ↔
      (∀ term ∈ terms, term.length = 1) ∧
        ∀ stretch, stretch <:+: tokens terms → ¬ReadsAsQuoted stretch := by
  have hwords := isWord_of_mem_tokens hterms
  constructor
  · intro hunique
    -- the words of the line, taken as terms of one word each, are another reading
    have hsingle : single (tokens terms) = terms :=
      hunique _ (isTerm_of_mem_single hwords) (tokens_single _)
    have hone : ∀ term ∈ terms, term.length = 1 := by
      intro term hterm
      rw [← hsingle] at hterm
      obtain ⟨word, -, rfl⟩ := List.mem_map.mp hterm
      rfl
    refine ⟨hone, ?_⟩
    rintro stretch ⟨before, after, hsplit⟩ hquoted
    have hmem : ∀ word ∈ before ++ stretch ++ after, IsWord word := by
      rwa [hsplit]
    simp only [List.mem_append] at hmem
    obtain ⟨term, htwo, hterm, hwritten⟩ :=
      (readsAsQuoted_iff fun word hword => hmem word (.inl (.inr hword))).mp hquoted
    have hne : term ≠ [] := by
      rintro rfl
      simp at htwo
    have hother : single before ++ [term] ++ single after = terms := by
      apply hunique
      · intro other hother
        simp only [List.mem_append, List.mem_singleton] at hother
        rcases hother with (hother | rfl) | hother
        · exact isTerm_of_mem_single (fun word hword => hmem word (.inl (.inl hword))) other hother
        · exact ⟨hne, hterm⟩
        · exact isTerm_of_mem_single (fun word hword => hmem word (.inr hword)) other hother
      · rw [tokens_append, tokens_append, tokens_single, tokens_single, ← hsplit, ← hwritten]
        simp [tokens, written, htwo]
    have hlength := hone term (by rw [← hother]; simp)
    omega
  · rintro ⟨hone, hnone⟩ others hothers htokens
    have hshort : ∀ term ∈ others, term.length = 1 := by
      intro term hterm
      obtain ⟨hne, hmem⟩ := hothers term hterm
      have hpos := List.length_pos_iff.mpr hne
      by_contra hlength
      have htwo : 2 ≤ term.length := by omega
      obtain ⟨before, after, rfl⟩ := List.append_of_mem hterm
      refine hnone (quoted term) ⟨tokens before, tokens after, ?_⟩ ?_
      · rw [← htokens, tokens_append]
        simp [tokens, written, htwo]
      · exact (readsAsQuoted_iff (isWord_of_mem_quoted htwo hmem)).mpr ⟨term, htwo, hmem, rfl⟩
    rw [eq_single hshort, htokens, ← eq_single hone]

end QuotedWords

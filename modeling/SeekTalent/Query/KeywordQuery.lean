import SeekTalent.Base.QuotedWords
import SeekTalent.Query.Plan

/-!
# Keyword queries

`serialize_keyword_query` puts a term of several words between double quotes, and escapes the
quotes and backslashes in it; a term of one word is written as it is, whatever it contains. So
a list of terms can be told from its query unless it has a term of several words, or words that
look like one: `serializeKeywordQuery_unique_iff`.
-/

namespace SeekTalent

open QuotedWords

/-- A term as `normalize_term` leaves it, and not empty. -/
structure NormalizedTerm where
  text : String
  normalized : normalizeTerm text = text
  ne_empty : text ≠ ""

namespace NormalizedTerm

theorem ext_text {term term' : NormalizedTerm} (h : term.text = term'.text) : term = term' := by
  cases term
  cases term'
  cases h
  rfl

variable (term : NormalizedTerm)

theorem tidy : Py.Tidy term.text := by
  rw [← term.normalized]
  exact Py.tidy_join_split _

def words : List (List Char) := Py.splitFrom [] term.text.toList

theorem toList_ne_nil : term.text.toList ≠ [] := fun h =>
  term.ne_empty (String.toList_inj.mp h)

theorem intercalate_words : [' '].intercalate term.words = term.text.toList :=
  @Py.joinWords_splitFrom _ [] (term.tidy.resolve_left term.toList_ne_nil)

theorem isTerm_words : IsTerm term.words := by
  constructor
  · intro hnil
    have h := term.intercalate_words
    rw [hnil] at h
    exact term.toList_ne_nil h.symm
  · exact Py.mem_splitFrom fun _ h => absurd h List.not_mem_nil

theorem exists_words {words : List (List Char)} (h : IsTerm words) :
    ∃ term : NormalizedTerm, term.words = words := by
  have hlist : (String.ofList ([' '].intercalate words)).toList = [' '].intercalate words :=
    String.toList_ofList
  have htidy : Py.Tidy (String.ofList ([' '].intercalate words)) := by
    refine .inr ?_
    rw [hlist]
    exact Py.tidyFrom_intercalate h.1 h.2
  refine ⟨⟨String.ofList ([' '].intercalate words), normalizeTerm_eq htidy, ?_⟩, ?_⟩
  · intro hempty
    have hsplit := Py.splitFrom_intercalate h.2
    rw [← hlist, hempty] at hsplit
    exact h.1 hsplit.symm
  · rw [NormalizedTerm.words, hlist]
    exact Py.splitFrom_intercalate h.2

theorem exists_map_words {terms : List (List (List Char))} (h : ∀ term ∈ terms, IsTerm term) :
    ∃ others : List NormalizedTerm, others.map words = terms := by
  induction terms with
  | nil => exact ⟨[], rfl⟩
  | cons term terms ih =>
    rw [List.forall_mem_cons] at h
    obtain ⟨first, rfl⟩ := exists_words h.1
    obtain ⟨rest, rfl⟩ := ih h.2
    exact ⟨first :: rest, rfl⟩

theorem words_injective : Function.Injective words := by
  intro term term' h
  apply ext_text
  apply String.toList_inj.mp
  rw [← intercalate_words, h, intercalate_words]

theorem blank_mem_iff : ' ' ∈ term.text.toList ↔ 2 ≤ term.words.length := by
  obtain ⟨hne, hwords⟩ := term.isTerm_words
  rw [← term.intercalate_words]
  generalize term.words = words at hne hwords
  cases words with
  | nil => exact absurd rfl hne
  | cons word words =>
    cases words with
    | nil =>
      have hblank : ' ' ∉ word := fun h => by
        have := (hwords word List.mem_cons_self).2 ' ' h
        cases this
      simpa using hblank
    | cons next words =>
      rw [List.intercalate_cons_cons]
      simp

end NormalizedTerm

/-! ## The query -/

variable {terms others : List NormalizedTerm}

theorem toList_quote (text : String) :
    (quote text).toList = '"' :: (escape text.toList ++ ['"']) := String.toList_ofList

theorem contains_singleton {text : String} {c : Char} :
    Py.contains text (String.ofList [c]) = true ↔ c ∈ text.toList := by
  rw [Py.contains, decide_eq_true_eq, String.toList_ofList, List.singleton_infix_iff]

theorem toList_serialized (term : NormalizedTerm) :
    (if Py.contains (normalizeTerm term.text) " " || Py.contains (normalizeTerm term.text) "\t" then
      quote (normalizeTerm term.text) else normalizeTerm term.text).toList =
        [' '].intercalate (written term.words) := by
  rw [term.normalized]
  have htab : Py.contains term.text "\t" = false := by
    rw [Bool.eq_false_iff]
    intro h
    have heq := term.tidy.eq_blank ((contains_singleton (c := '\t')).mp h) rfl
    cases heq
  have hblank : Py.contains term.text " " = true ↔ 2 ≤ term.words.length :=
    (contains_singleton (c := ' ')).trans term.blank_mem_iff
  rw [htab, Bool.or_false, written]
  by_cases htwo : 2 ≤ term.words.length
  · rw [if_pos (hblank.mpr htwo), if_pos htwo, toList_quote, intercalate_quoted htwo,
      term.intercalate_words]
  · rw [if_neg (fun h => htwo (hblank.mp h)), if_neg htwo, term.intercalate_words]

theorem toList_serializeKeywordQuery (terms : List NormalizedTerm) :
    (serializeKeywordQuery (terms.map (·.text))).toList =
      [' '].intercalate (tokens (terms.map (·.words))) := by
  unfold serializeKeywordQuery Py.join
  rw [String.toList_intercalate, List.map_map, List.map_map]
  have hmap : terms.map (fun term => (written term.words)) = (terms.map (·.words)).map written := by
    rw [List.map_map]
    rfl
  have hblank : " ".toList = [' '] := rfl
  rw [hblank, tokens, List.flatMap_def, ← hmap, ← Py.intercalate_flatten]
  · rw [List.map_map]
    apply congrArg [' '].intercalate
    apply List.map_congr_left
    intro term _
    exact toList_serialized term
  · intro words hwords
    obtain ⟨term, -, rfl⟩ := List.mem_map.mp hwords
    exact term.isTerm_words.written.1

theorem isTerm_of_mem_words : ∀ term ∈ terms.map (·.words), IsTerm term := by
  intro words hwords
  obtain ⟨term, -, rfl⟩ := List.mem_map.mp hwords
  exact term.isTerm_words

theorem serializeKeywordQuery_eq_iff :
    serializeKeywordQuery (others.map (·.text)) = serializeKeywordQuery (terms.map (·.text)) ↔
      tokens (others.map (·.words)) = tokens (terms.map (·.words)) := by
  rw [← String.toList_inj, toList_serializeKeywordQuery, toList_serializeKeywordQuery]
  constructor
  · exact Py.intercalate_inj (isWord_of_mem_tokens isTerm_of_mem_words)
      (isWord_of_mem_tokens isTerm_of_mem_words)
  · exact congrArg _

theorem length_words_eq_one {term : NormalizedTerm} :
    term.words.length = 1 ↔ ' ' ∉ term.text.toList := by
  rw [term.blank_mem_iff]
  have hpos := List.length_pos_iff.mpr term.isTerm_words.1
  omega

theorem tokens_words (h : ∀ term ∈ terms, ' ' ∉ term.text.toList) :
    tokens (terms.map (·.words)) = terms.map (·.text.toList) := by
  induction terms with
  | nil => rfl
  | cons term terms ih =>
    rw [List.forall_mem_cons] at h
    obtain ⟨word, hword⟩ := List.length_eq_one_iff.mp (length_words_eq_one.mpr h.1)
    have htext := term.intercalate_words
    rw [hword, List.intercalate_singleton] at htext
    have hcons : tokens ([word] :: terms.map (·.words)) =
        word :: tokens (terms.map (·.words)) := rfl
    rw [List.map_cons, hword, hcons, ih h.2, List.map_cons, htext]

/-- **Which keyword queries can be read in one way only**: those of terms without blanks, no
stretch of which opens with a quote and closes with one, with nothing in between that escaping
would have changed. -/
theorem serializeKeywordQuery_unique_iff (terms : List NormalizedTerm) :
    (∀ others : List NormalizedTerm, serializeKeywordQuery (others.map (·.text)) =
        serializeKeywordQuery (terms.map (·.text)) → others = terms) ↔
      (∀ term ∈ terms, ' ' ∉ term.text.toList) ∧
        ∀ stretch, stretch <:+: terms.map (·.text.toList) → ¬ReadsAsQuoted stretch := by
  have hunique := @unique_iff (terms.map (·.words)) isTerm_of_mem_words
  have hshort : (∀ words ∈ terms.map (·.words), words.length = 1) ↔
      ∀ term ∈ terms, ' ' ∉ term.text.toList := by
    simp only [List.forall_mem_map, length_words_eq_one]
  rw [hshort] at hunique
  constructor
  · intro h
    have hwords := hunique.mp fun others hothers htokens => by
      obtain ⟨others, rfl⟩ := NormalizedTerm.exists_map_words hothers
      rw [h others (serializeKeywordQuery_eq_iff.mpr htokens)]
    exact ⟨hwords.1, tokens_words hwords.1 ▸ hwords.2⟩
  · rintro ⟨hblank, hnone⟩ others hsame
    have hwords := hunique.mpr ⟨hblank, (tokens_words hblank).symm ▸ hnone⟩
    exact NormalizedTerm.words_injective.list_map
      (hwords _ isTerm_of_mem_words (serializeKeywordQuery_eq_iff.mp hsame))

/-- Two words, one with a quote in front and one with a quote at the end, are written like the
term of the two words. -/
theorem not_serializeKeywordQuery_injective :
    ¬∀ terms others : List NormalizedTerm, serializeKeywordQuery (terms.map (·.text)) =
      serializeKeywordQuery (others.map (·.text)) → terms = others := by
  intro h
  have hsame := h [⟨"\"a", by decide, by decide⟩, ⟨"b\"", by decide, by decide⟩]
    [⟨"a b", by decide, by decide⟩] (by decide)
  have hlength := congrArg List.length hsame
  cases hlength

end SeekTalent

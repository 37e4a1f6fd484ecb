import SeekTalent.Base.TextForms

/-!
# Words

A line is a list of words with blanks between them, and words can be told from their line
(`splitFrom_intercalate`). Where terms are made of words, the blanks between terms and those between
words are the same (`intercalate_flatten`).
-/

namespace Py

/-- What separates words does not occur in them. -/
def IsWord (word : List Char) : Prop := word ≠ [] ∧ ∀ c ∈ word, isSpace c = false

variable {words words' : List (List Char)}
variable {terms : List (List (List Char))}

theorem splitFrom_intercalate (hwords : ∀ word ∈ words, IsWord word) :
    splitFrom [] ([' '].intercalate words) = words := by
  induction words with
  | nil => rfl
  | cons word words ih =>
    rw [List.forall_mem_cons] at hwords
    obtain ⟨hne, hspace⟩ := hwords.1
    by_cases hrest : words = []
    · rw [hrest, List.intercalate_singleton]
      have h : splitFrom [] (word ++ []) = splitFrom (word.reverse ++ []) [] :=
        splitFrom_append_letters hspace
      rw [List.append_nil, List.append_nil] at h
      rw [h]
      simp [splitFrom, hne]
    · rw [List.intercalate_cons_of_ne_nil hrest, List.append_assoc, splitFrom_append_letters hspace,
        List.append_nil, List.singleton_append, splitFrom, if_pos isSpace_blank,
        if_neg (by simpa using hne), List.reverse_reverse, ih hwords.2]

theorem intercalate_inj (hwords : ∀ word ∈ words, IsWord word)
    (hwords' : ∀ word ∈ words', IsWord word)
    (h : [' '].intercalate words = [' '].intercalate words') : words = words' := by
  rw [← splitFrom_intercalate hwords, h, splitFrom_intercalate hwords']

theorem intercalate_append (hwords : words ≠ []) (hwords' : words' ≠ []) :
    [' '].intercalate (words ++ words') =
      [' '].intercalate words ++ [' '] ++ [' '].intercalate words' := by
  induction words with
  | nil => exact absurd rfl hwords
  | cons word words ih =>
    rw [List.cons_append]
    by_cases hrest : words = []
    · rw [hrest, List.nil_append, List.intercalate_cons_of_ne_nil hwords',
        List.intercalate_singleton]
    · rw [List.intercalate_cons_of_ne_nil (by simp [hrest]), ih hrest,
        List.intercalate_cons_of_ne_nil hrest]
      simp

theorem intercalate_flatten (hterms : ∀ term ∈ terms, term ≠ []) :
    [' '].intercalate (terms.map ([' '].intercalate ·)) = [' '].intercalate terms.flatten := by
  induction terms with
  | nil => rfl
  | cons term terms ih =>
    rw [List.forall_mem_cons] at hterms
    have ih := ih hterms.2
    rw [List.map_cons, List.flatten_cons]
    by_cases hrest : terms = []
    · simp [hrest]
    · have hflat : terms.flatten ≠ [] := by
        obtain ⟨next, rest, rfl⟩ := List.exists_cons_of_ne_nil hrest
        simp [hterms.2 next List.mem_cons_self]
      rw [List.intercalate_cons_of_ne_nil (by simpa using hrest), ih,
        intercalate_append hterms.1 hflat]

end Py

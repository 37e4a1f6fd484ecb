import SeekTalent.Base.Loops
import SeekTalent.Base.Runs
import SeekTalent.Base.TextForms
import SeekTalent.Requirements.Normalization

/-!
# Chinese numerals in requirements

A requirement on age or experience is read with its Chinese numerals written in digits. What is
taken for a numeral is a run of numeral characters, whatever their order. A run with two digits on
a side of the tens marker, or with a second marker, is looked up as one character and raises; all
other runs can be read, and the standard numerals are read as their numbers (`readsNumerals_iff`).
-/

namespace Py

/-! ## 1. Runs of a collapsed text -/

/-- The words of a text, the first of which goes on from a word that was begun, with blanks between
    them. -/
def joined (word cs : List Char) : List Char := [' '].intercalate (splitFrom word cs)

variable {word cs xs : List Char} {c : Char}

theorem joined_letter (h : isSpace c = false) : joined word (c :: cs) = joined (c :: word) cs := by
  unfold joined
  rw [splitFrom, if_neg (by simp [h])]

theorem joined_blank (h : isSpace c = true) : joined [] (c :: cs) = collapse cs := by
  unfold joined collapse
  rw [splitFrom, if_pos h]
  rfl

theorem joined_nil (word : List Char) : joined word [] = word.reverse := by
  cases word <;> simp [joined, splitFrom]

theorem joined_space (h : isSpace c = true) (hword : word ≠ []) :
    joined word (c :: cs) =
      word.reverse ++ if splitFrom [] cs = [] then [] else ' ' :: collapse cs := by
  unfold joined collapse
  rw [splitFrom, if_pos h, if_neg (by simpa using hword)]
  by_cases hnil : splitFrom [] cs = []
  · rw [hnil]
    simp
  · rw [List.intercalate_cons_of_ne_nil hnil, if_neg hnil]
    simp

theorem exists_after_word (cs : List Char) :
    ∃ after, (∀ word, word ≠ [] → joined word cs = word.reverse ++ after) ∧
      ∀ c, after.head? = some c → c = ' ' ∨ cs.head? = some c := by
  induction cs with
  | nil => exact ⟨[], fun word _ => by rw [joined_nil, List.append_nil], by simp⟩
  | cons c cs ih =>
    cases hc : isSpace c with
    | true =>
      refine ⟨_, fun word hword => joined_space hc hword, ?_⟩
      intro d hd
      split at hd
      · cases hd
      · exact .inl (Option.some.inj hd).symm
    | false =>
      obtain ⟨after, hafter, -⟩ := ih
      refine ⟨c :: after, ?_, fun d hd => .inr hd⟩
      intro word _
      rw [joined_letter hc, hafter _ (List.cons_ne_nil _ _)]
      simp

theorem exists_before_word (word xs : List Char) :
    ∃ before, (∀ c cs, isSpace c = false →
        joined word (xs ++ c :: cs) = before ++ collapse (c :: cs)) ∧
      ∀ c, before.getLast? = some c → c = ' ' ∨ (word.reverse ++ xs).getLast? = some c := by
  induction xs generalizing word with
  | nil =>
    refine ⟨word.reverse, ?_, fun c hc => .inr (by simpa using hc)⟩
    intro c cs hc
    obtain ⟨after, hafter, -⟩ := exists_after_word cs
    show joined word (c :: cs) = word.reverse ++ joined [] (c :: cs)
    rw [joined_letter hc, joined_letter hc, hafter _ (List.cons_ne_nil _ _),
      hafter _ (List.cons_ne_nil _ _)]
    simp
  | cons x xs ih =>
    cases hx : isSpace x with
    | false =>
      obtain ⟨before, hbefore, hlast⟩ := ih (x :: word)
      refine ⟨before, ?_, ?_⟩
      · intro c cs hc
        rw [List.cons_append, joined_letter hx]
        exact hbefore c cs hc
      · intro c hc
        simpa using hlast c hc
    | true =>
      obtain ⟨before, hbefore, hlast⟩ := ih []
      -- the last character of what is before is a blank, or the last of the rest
      have hend : ∀ c, before.getLast? = some c →
          c = ' ' ∨ (word.reverse ++ x :: xs).getLast? = some c := by
        intro c hc
        rcases hlast c hc with hblank | hxs
        · exact .inl hblank
        · refine .inr ?_
          rw [List.reverse_nil, List.nil_append] at hxs
          rw [List.getLast?_append, List.getLast?_cons, hxs]
          rfl
      by_cases hword : word = []
      · subst hword
        refine ⟨before, ?_, hend⟩
        intro c cs hc
        rw [List.cons_append, joined_blank hx]
        exact hbefore c cs hc
      · refine ⟨word.reverse ++ ' ' :: before, ?_, ?_⟩
        · intro c cs hc
          have hne : splitFrom [] (xs ++ c :: cs) ≠ [] := by
            intro hnil
            have hjoined := hbefore c cs hc
            obtain ⟨after, hafter, -⟩ := exists_after_word cs
            have hrest : collapse (c :: cs) = [c] ++ after := by
              show joined [] (c :: cs) = _
              rw [joined_letter hc, hafter _ (List.cons_ne_nil _ _)]
              rfl
            unfold joined at hjoined
            rw [hnil, hrest] at hjoined
            simp at hjoined
          rw [List.cons_append, joined_space hx hword, if_neg hne]
          have hrest : collapse (xs ++ c :: cs) = before ++ collapse (c :: cs) := hbefore c cs hc
          rw [hrest]
          simp
        · intro c hc
          rw [List.getLast?_append, List.getLast?_cons] at hc
          cases hbefore : before.getLast? with
          | none =>
            rw [hbefore] at hc
            exact .inl (Option.some.inj hc).symm
          | some d =>
            rw [hbefore] at hc
            obtain rfl := Option.some.inj hc
            exact hend _ hbefore

theorem exists_around_word (xs ys : List Char) :
    ∃ before after, (∀ word, word ≠ [] → (∀ c ∈ word, isSpace c = false) →
        collapse (xs ++ word ++ ys) = before ++ word ++ after) ∧
      (∀ c, before.getLast? = some c → c = ' ' ∨ xs.getLast? = some c) ∧
      ∀ c, after.head? = some c → c = ' ' ∨ ys.head? = some c := by
  obtain ⟨before, hbefore, hlast⟩ := exists_before_word [] xs
  obtain ⟨after, hafter, hhead⟩ := exists_after_word ys
  refine ⟨before, after, ?_, by simpa using hlast, hhead⟩
  intro word hne hword
  cases word with
  | nil => exact absurd rfl hne
  | cons c word =>
    rw [List.append_assoc, List.cons_append]
    refine (hbefore c (word ++ ys) (hword c List.mem_cons_self)).trans ?_
    have hread : joined [] ((c :: word) ++ ys) = joined ((c :: word).reverse ++ []) ys := by
      unfold joined
      rw [splitFrom_append_letters hword]
    show before ++ joined [] ((c :: word) ++ ys) = _
    rw [hread, List.append_nil, hafter _ (by simp)]
    simp

theorem runs_collapse {ok : Char → Bool} (hok : ∀ c, isSpace c = true → ok c = false)
    (cs : List Char) : Runs.runs ok (collapse cs) = Runs.runs ok cs := by
  suffices h : ∀ word, Runs.runs ok (joined word cs) = Runs.runs ok (word.reverse ++ cs) from h []
  induction cs with
  | nil =>
    intro word
    rw [joined_nil, List.append_nil]
  | cons c cs ih =>
    intro word
    cases hc : isSpace c with
    | false =>
      rw [joined_letter hc, ih]
      simp
    | true =>
      have hrest : Runs.runs ok (collapse cs) = Runs.runs ok cs := ih []
      rw [Runs.runs_append_cons (hok c hc)]
      by_cases hword : word = []
      · subst hword
        rw [joined_blank hc, hrest]
        rfl
      · rw [joined_space hc hword]
        split
        · rename_i hnil
          have hempty : collapse cs = [] := by
            unfold collapse
            rw [hnil]
            rfl
          rw [hempty] at hrest
          rw [← hrest, List.append_nil]
          exact (List.append_nil _).symm
        · rw [Runs.runs_append_cons (hok ' ' isSpace_blank), hrest]

end Py

namespace SeekTalent

namespace Requirements

open QueryCompiler (cleanText)
open Stateful (bind_eq_ok map_eq_ok)

/-! ## 2. Numerals -/

def isNumeral (c : Char) : Bool := c = '十' ∨ c ∈ chineseDigits.map (·.1)

def numeralRuns (text : String) : List (List Char) := Runs.runs isNumeral text.toList

/-- A run without the tens marker, or with one and at most one digit on each side of it. -/
def Readable (run : List Char) : Prop :=
  '十' ∉ run ∨ (run.takeWhile (· ≠ '十')).length ≤ 1 ∧
    ((run.dropWhile (· ≠ '十')).drop 1).length ≤ 1 ∧ '十' ∉ (run.dropWhile (· ≠ '十')).drop 1

instance (run : List Char) : Decidable (Readable run) := inferInstanceAs (Decidable (_ ∨ _))

def numeralDigit (n : Nat) : List Char := (['一', '二', '三', '四', '五', '六', '七', '八', '九'][n - 1]?).toList

/-- A number from one to ninety-nine, written in the standard way. -/
def numeral (n : Nat) : List Char :=
  if n < 10 then numeralDigit n
  else
    (if n < 20 then [] else numeralDigit (n / 10)) ++ '十' ::
      (if n % 10 = 0 then [] else numeralDigit (n % 10))

/-- A requirement text is read, and reads as it does with any of its numerals in digits. -/
structure ReadsNumerals (tables : NumberTables) (text : String) : Prop where
  experience : ∃ requirement,
    normalizeExperienceRequirement tables (some text) = .ok requirement
  age : ∃ requirement, normalizeAgeRequirement tables (some text) = .ok requirement
  numerals : ∀ xs n ys, 1 ≤ n → n ≤ 99 → text.toList = xs ++ numeral n ++ ys →
    Runs.NoEnd isNumeral xs → Runs.NoStart isNumeral ys →
    normalizeExperienceRequirement tables (some text) =
        normalizeExperienceRequirement tables
          (some (String.ofList (xs ++ (toString n).toList ++ ys))) ∧
      normalizeAgeRequirement tables (some text) =
        normalizeAgeRequirement tables (some (String.ofList (xs ++ (toString n).toList ++ ys)))

/-! ## 3. Reading a run -/

section Reading

variable {run : List Char} {key : String}

theorem chineseDigit_ok_iff :
    (∃ value, chineseDigit key = .ok value) ↔ ∃ c ∈ chineseDigits.map (·.1), key.toList = [c] := by
  unfold chineseDigit
  cases hfind : chineseDigits.find? fun entry => key.toList = [entry.1] with
  | some entry =>
    have hmem := List.mem_of_find?_eq_some hfind
    have hkey : key.toList = [entry.1] := by simpa using List.find?_some hfind
    simp only [Except.ok.injEq, exists_eq', true_iff]
    exact ⟨entry.1, List.mem_map_of_mem hmem, hkey⟩
  | none =>
    simp only [reduceCtorEq, exists_const, false_iff]
    intro h
    obtain ⟨c, hc, hkey⟩ := h
    obtain ⟨entry, hentry, rfl⟩ := List.mem_map.mp hc
    exact absurd (List.find?_eq_none.mp hfind entry hentry) (by simpa using hkey)

theorem isNumeral_iff {c : Char} :
    isNumeral c = true ↔ c = '十' ∨ c ∈ chineseDigits.map (·.1) := by
  simp [isNumeral]

theorem ten_not_digit : '十' ∉ chineseDigits.map (·.1) := by
  decide

def readSide (default : Nat) (side : List Char) : Except RequirementError Nat :=
  if String.ofList side = "" then .ok default else chineseDigit (String.ofList side)

theorem readSide_ok_iff {side : List Char} {default : Nat} (h : ∀ c ∈ side, isNumeral c = true) :
    (∃ value, readSide default side = .ok value) ↔ side.length ≤ 1 ∧ '十' ∉ side := by
  unfold readSide
  cases side with
  | nil => simp
  | cons c side =>
    have hne : String.ofList (c :: side) ≠ "" := by simp
    rw [if_neg hne, chineseDigit_ok_iff, String.toList_ofList]
    constructor
    · intro h
      obtain ⟨d, hd, heq⟩ := h
      rw [heq]
      exact ⟨Nat.le_refl 1, fun hten => ten_not_digit (List.mem_singleton.mp hten ▸ hd)⟩
    · intro h'
      obtain ⟨hle, hten⟩ := h'
      have hnil : side = [] :=
        List.length_eq_zero_iff.mp (Nat.le_zero.mp (Nat.le_of_succ_le_succ hle))
      subst hnil
      refine ⟨c, (isNumeral_iff.mp (h c List.mem_cons_self)).resolve_left ?_, rfl⟩
      rintro rfl
      exact hten List.mem_cons_self

theorem replaceChineseNumber_of_ten (h : '十' ∈ run) :
    replaceChineseNumber (String.ofList run) =
      (readSide 1 (run.takeWhile (· ≠ '十'))) >>= fun tens =>
        (readSide 0 ((run.dropWhile (· ≠ '十')).drop 1)) >>= fun ones =>
          .ok (toString (tens * 10 + ones)) := by
  unfold replaceChineseNumber readSide
  rw [String.toList_ofList, if_neg (not_not.mpr h)]
  simp only [Py.splitOnce, String.toList_ofList]
  split <;> split <;> rfl

theorem replaceChineseNumber_ok_iff (hrun : ∀ c ∈ run, isNumeral c = true) :
    (∃ text, replaceChineseNumber (String.ofList run) = .ok text) ↔ Readable run := by
  unfold Readable
  by_cases hten : '十' ∈ run
  · have hleft : ∀ c ∈ run.takeWhile (· ≠ '十'), isNumeral c = true := fun c hc =>
      hrun c ((List.takeWhile_prefix _).subset hc)
    have hright : ∀ c ∈ (run.dropWhile (· ≠ '十')).drop 1, isNumeral c = true := fun c hc =>
      hrun c ((List.dropWhile_suffix _).subset (List.mem_of_mem_drop hc))
    have hnone : '十' ∉ run.takeWhile (· ≠ '十') := fun h => by
      simpa using List.all_eq_true.mp List.all_takeWhile _ h
    have htens := @readSide_ok_iff _ 1 hleft
    have hones := @readSide_ok_iff _ 0 hright
    rw [and_iff_left hnone] at htens
    rw [replaceChineseNumber_of_ten hten, ← htens, ← hones]
    simp only [hten, not_true_eq_false, false_or]
    constructor
    · intro h
      obtain ⟨text, h⟩ := h
      obtain ⟨tens, htens, h⟩ := bind_eq_ok h
      obtain ⟨ones, hones, -⟩ := bind_eq_ok h
      exact ⟨⟨tens, htens⟩, ones, hones⟩
    · intro h
      obtain ⟨⟨tens, htens⟩, ones, hones⟩ := h
      refine ⟨toString (tens * 10 + ones), ?_⟩
      rw [htens, hones]
      rfl
  · have hdigits := Loops.exists_ok_iff.mpr fun c (hc : c ∈ run) =>
      (@chineseDigit_ok_iff (String.singleton c)).mpr
        ⟨c, (isNumeral_iff.mp (hrun c hc)).resolve_left fun h => hten (h ▸ hc),
          String.toList_singleton c⟩
    obtain ⟨digits, hdigits⟩ := hdigits
    unfold replaceChineseNumber
    rw [String.toList_ofList, if_pos hten, hdigits]
    simp [hten]

theorem numerals_checked :
    ((List.range' 1 99).all fun n =>
      replaceChineseNumber (String.ofList (numeral n)) = .ok (toString n) && !(numeral n).isEmpty &&
        (numeral n).all isNumeral && !(toString n).toList.isEmpty &&
        (toString n).toList.all fun c => !isNumeral c && !Py.isSpace c) = true := by
  decide +kernel

structure NumeralSpec (n : Nat) : Prop where
  reads : replaceChineseNumber (String.ofList (numeral n)) = .ok (toString n)
  nonempty : numeral n ≠ []
  numeral : ∀ c ∈ numeral n, isNumeral c = true
  digits_nonempty : (toString n).toList ≠ []
  not_numeral : ∀ c ∈ (toString n).toList, isNumeral c = false
  not_space : ∀ c ∈ (toString n).toList, Py.isSpace c = false

theorem numeralSpec {n : Nat} (hone : 1 ≤ n) (hmost : n ≤ 99) : NumeralSpec n := by
  have hmem : n ∈ List.range' 1 99 := List.mem_range'_1.mpr ⟨hone, by omega⟩
  have hchecked := List.all_eq_true.mp numerals_checked n hmem
  simp only [Bool.and_eq_true, decide_eq_true_eq, Bool.not_eq_true', List.isEmpty_eq_false_iff,
    List.all_eq_true] at hchecked
  obtain ⟨⟨⟨⟨hreads, hnonempty⟩, hnumeral⟩, hdigits⟩, hboth⟩ := hchecked
  exact ⟨hreads, hnonempty, hnumeral, hdigits, fun c hc => (hboth c hc).1,
    fun c hc => (hboth c hc).2⟩

theorem not_isNumeral_of_isSpace {c : Char} (h : Py.isSpace c = true) : isNumeral c = false := by
  cases hnumeral : isNumeral c with
  | false => rfl
  | true =>
    have hnone : (('十' :: chineseDigits.map (·.1)).all fun d => !Py.isSpace d) = true := by
      decide +kernel
    have hc := List.all_eq_true.mp hnone c (List.mem_cons.mpr (isNumeral_iff.mp hnumeral))
    rw [h] at hc
    cases hc

end Reading

/-! ## 4. Rewriting a text -/

def rewritePieces (parts : List (Char ⊕ List Char)) : Except RequirementError (List String) :=
  parts.mapM fun
    | .inl c => .ok (String.singleton c)
    | .inr found => replaceChineseNumber (String.ofList found)

section Rewriting

variable {text : String} {xs ys : List Char} {n : Nat}

theorem normalizeNumericText_eq (text : String) :
    normalizeNumericText text =
      (rewritePieces (Runs.pieces isNumeral text.toList)) >>= fun parts =>
        .ok (String.join parts) := by
  unfold normalizeNumericText Regex.subWith
  have hscan := @Runs.scan_atLeast_one isNumeral text.toList text.toList.length none (Nat.le_refl _)
  unfold Regex.Place.start
  unfold isNumeral at hscan
  rw [hscan]
  rfl

theorem normalizeNumericText_ok_iff (text : String) :
    (∃ result, normalizeNumericText text = .ok result) ↔
      ∀ run ∈ numeralRuns text, Readable run := by
  have hpieces : (∃ parts, rewritePieces (Runs.pieces isNumeral text.toList) = .ok parts) ↔
      ∀ run ∈ numeralRuns text, Readable run := by
    unfold rewritePieces numeralRuns
    rw [Loops.exists_ok_iff]
    constructor
    · intro h run hrun
      have hpiece := Runs.mem_runs.mp hrun
      exact (replaceChineseNumber_ok_iff (Runs.mem_pieces hpiece).2).mp (h _ hpiece)
    · intro h piece hpiece
      cases piece with
      | inl c => exact ⟨_, rfl⟩
      | inr run =>
        exact (replaceChineseNumber_ok_iff (Runs.mem_pieces hpiece).2).mpr
          (h run (Runs.mem_runs.mpr hpiece))
  rw [← hpieces, normalizeNumericText_eq]
  constructor
  · intro h
    obtain ⟨result, h⟩ := h
    obtain ⟨parts, hparts, -⟩ := bind_eq_ok h
    exact ⟨parts, hparts⟩
  · intro h
    obtain ⟨parts, hparts⟩ := h
    exact ⟨String.join parts, by rw [hparts]; rfl⟩

theorem rewritePieces_append (parts parts' : List (Char ⊕ List Char)) :
    rewritePieces (parts ++ parts') =
      rewritePieces parts >>= fun texts => rewritePieces parts' >>= fun texts' =>
        .ok (texts ++ texts') := by
  unfold rewritePieces
  rw [List.mapM_append]
  rfl

theorem rewritePieces_letters (cs : List Char) :
    rewritePieces (cs.map .inl) = .ok (cs.map String.singleton) := by
  unfold rewritePieces
  rw [List.mapM_map]
  exact Loops.mapM_ok fun _ _ => rfl

theorem toList_join (texts : List String) : (String.join texts).toList = texts.flatMap (·.toList) := by
  simp

theorem normalizeNumericText_numeral (hn : NumeralSpec n) (hxs : Runs.NoEnd isNumeral xs)
    (hys : Runs.NoStart isNumeral ys) :
    normalizeNumericText (String.ofList (xs ++ numeral n ++ ys)) =
      normalizeNumericText (String.ofList (xs ++ (toString n).toList ++ ys)) := by
  have hnumeral : Runs.pieces isNumeral (xs ++ numeral n ++ ys) =
      Runs.pieces isNumeral xs ++ ([.inr (numeral n)] ++ Runs.pieces isNumeral ys) := by
    rw [List.append_assoc, Runs.pieces_append hxs, Runs.pieces_run hn.nonempty hn.numeral hys]
    rfl
  have hend : Runs.NoEnd isNumeral (toString n).toList := fun c hc =>
    hn.not_numeral c (List.mem_of_getLast? hc)
  have hdigits : Runs.pieces isNumeral (xs ++ (toString n).toList ++ ys) =
      Runs.pieces isNumeral xs ++
        ((toString n).toList.map .inl ++ Runs.pieces isNumeral ys) := by
    rw [List.append_assoc, Runs.pieces_append hxs, Runs.pieces_append hend,
      Runs.pieces_of_none hn.not_numeral]
  have hone : rewritePieces [.inr (numeral n)] = .ok [toString n] := by
    show (do return [← replaceChineseNumber (String.ofList (numeral n))]) = _
    rw [hn.reads]
    rfl
  rw [normalizeNumericText_eq, normalizeNumericText_eq, String.toList_ofList, String.toList_ofList,
    hnumeral, hdigits, rewritePieces_append, rewritePieces_append, rewritePieces_append,
    rewritePieces_append, hone, rewritePieces_letters]
  cases rewritePieces (Runs.pieces isNumeral xs) with
  | error e => rfl
  | ok before =>
    cases rewritePieces (Runs.pieces isNumeral ys) with
    | error e => rfl
    | ok after =>
      show Except.ok (String.join (before ++ ([toString n] ++ after))) =
        Except.ok (String.join (before ++ ((toString n).toList.map String.singleton ++ after)))
      congr 1
      apply String.toList_injective
      simp only [toList_join, List.flatMap_append, List.flatMap_map, List.flatMap_singleton,
        String.toList_singleton]
      simp

/-! ## 5. Requirements -/

theorem toList_cleanText (text : String) : (cleanText text).toList = Py.collapse text.toList := by
  unfold cleanText
  rw [(Py.tidy_join_split text).strip_eq, Py.toList_join_split]
  rfl

theorem numeralRuns_cleanText (text : String) : numeralRuns (cleanText text) = numeralRuns text := by
  unfold numeralRuns
  rw [toList_cleanText, Py.runs_collapse fun _ => not_isNumeral_of_isSpace]

theorem NumeralSpec.numeral_not_space (hn : NumeralSpec n) :
    ∀ c ∈ Requirements.numeral n, Py.isSpace c = false := by
  intro c hc
  cases hspace : Py.isSpace c with
  | false => rfl
  | true => exact absurd (hn.numeral c hc) (by simp [not_isNumeral_of_isSpace hspace])

theorem normalizeNumericText_cleanText (hn : NumeralSpec n) (hxs : Runs.NoEnd isNumeral xs)
    (hys : Runs.NoStart isNumeral ys) (htext : text.toList = xs ++ numeral n ++ ys) :
    normalizeNumericText (cleanText text) =
      normalizeNumericText (cleanText (String.ofList (xs ++ (toString n).toList ++ ys))) := by
  obtain ⟨before, after, haround, hbefore, hafter⟩ := Py.exists_around_word xs ys
  have hblank : isNumeral ' ' = false := not_isNumeral_of_isSpace Py.isSpace_blank
  have hnumeral : cleanText text = String.ofList (before ++ numeral n ++ after) := by
    apply String.toList_injective
    rw [toList_cleanText, htext, haround _ hn.nonempty hn.numeral_not_space, String.toList_ofList]
  have hdigits : cleanText (String.ofList (xs ++ (toString n).toList ++ ys)) =
      String.ofList (before ++ (toString n).toList ++ after) := by
    apply String.toList_injective
    rw [toList_cleanText, String.toList_ofList, haround _ hn.digits_nonempty hn.not_space,
      String.toList_ofList]
  rw [hnumeral, hdigits]
  apply normalizeNumericText_numeral hn
  · intro c hc
    rcases hbefore c hc with rfl | hxs'
    · exact hblank
    · exact hxs c hxs'
  · intro c hc
    rcases hafter c hc with rfl | hys'
    · exact hblank
    · exact hys c hys'

variable {tables : NumberTables} {unit : String} {minEndings unlimitedTokens : List String}

theorem normalizeBounds_ok_iff :
    (∃ bounds, normalizeBounds tables unit minEndings unlimitedTokens (some text) = .ok bounds) ↔
      ∃ clean, normalizeNumericText (cleanText text) = .ok clean := by
  unfold normalizeBounds
  show (∃ bounds, (normalizeNumericText (cleanText text) >>= _) = Except.ok bounds) ↔ _
  constructor
  · intro h
    obtain ⟨bounds, h⟩ := h
    obtain ⟨clean, hclean, -⟩ := bind_eq_ok h
    exact ⟨clean, hclean⟩
  · intro h
    obtain ⟨clean, hclean⟩ := h
    rw [hclean]
    show ∃ bounds, (if clean = "" then Except.ok none
      else if unlimitedTokens.any (Py.contains clean ·) then .ok (some (clean, none, none))
      else .ok (some (clean, boundsOf tables unit minEndings clean))) = Except.ok bounds
    split
    · exact ⟨_, rfl⟩
    · split
      · exact ⟨_, rfl⟩
      · exact ⟨_, rfl⟩

theorem normalizeBounds_congr {text' : String}
    (h : normalizeNumericText (cleanText text) = normalizeNumericText (cleanText text')) :
    normalizeBounds tables unit minEndings unlimitedTokens (some text) =
      normalizeBounds tables unit minEndings unlimitedTokens (some text') := by
  show (normalizeNumericText (cleanText text) >>= _) = normalizeNumericText (cleanText text') >>= _
  rw [h]

theorem exists_map_ok {α β ε : Type} {f : α → β} {x : Except ε α} :
    (∃ b, (do return f (← x)) = Except.ok b) ↔ ∃ a, x = .ok a := by
  cases x with
  | error e => exact ⟨fun ⟨_, h⟩ => (by cases h), fun ⟨_, h⟩ => (by cases h)⟩
  | ok a => exact ⟨fun _ => ⟨a, rfl⟩, fun _ => ⟨f a, rfl⟩⟩

end Rewriting

/-- **The requirements.** For every text: both requirements are read, and as with any numeral in
    digits, exactly if every run of numeral characters is without the tens marker or has one with
    at most one digit on each side. -/
theorem readsNumerals_iff (tables : NumberTables) (text : String) :
    ReadsNumerals tables text ↔ ∀ run ∈ numeralRuns text, Readable run := by
  rw [← numeralRuns_cleanText, ← normalizeNumericText_ok_iff]
  constructor
  · intro h
    exact normalizeBounds_ok_iff.mp (exists_map_ok.mp h.experience)
  · intro h
    refine ⟨exists_map_ok.mpr (normalizeBounds_ok_iff.mpr h),
      exists_map_ok.mpr (normalizeBounds_ok_iff.mpr h), ?_⟩
    intro xs n ys hone hmost htext hxs hys
    have hsame := normalizeNumericText_cleanText (numeralSpec hone hmost) hxs hys htext
    unfold normalizeExperienceRequirement normalizeAgeRequirement
    rw [normalizeBounds_congr hsame, normalizeBounds_congr hsame]
    exact ⟨rfl, rfl⟩

/-- An age of thirty to forty, in words: the run has two digits before the marker. -/
theorem not_readsNumerals_thirtyToForty :
    normalizeAgeRequirement .ascii (some "三四十岁") = .error (.keyError "三四") ∧
      ¬ReadsNumerals .ascii "三四十岁" := by
  have hraises : normalizeAgeRequirement .ascii (some "三四十岁") = .error (.keyError "三四") := by
    decide +kernel
  refine ⟨hraises, ?_⟩
  intro h
  obtain ⟨requirement, hrequirement⟩ := h.age
  rw [hraises] at hrequirement
  cases hrequirement

end Requirements

end SeekTalent

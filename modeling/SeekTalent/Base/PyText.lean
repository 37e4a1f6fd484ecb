import Mathlib.Data.List.Dedup
import Mathlib.Data.List.Infix
import Mathlib.Data.List.MinMax
import Mathlib.Data.List.Sort
import Mathlib.Data.String.Basic

/-!
# Python strings and sorted lists

The string methods the program uses, on the characters of a string. Which characters are
white space is a short list. Case folding, the decimal digits and what is alphanumeric are
large Unicode tables that vary with the interpreter's version, so they are a parameter
(`UnicodeTables`), with what every version says about ASCII and the CJK ideographs.
`sorted(set(xs))` is `sortedSet`.

A text is tidy if its words are separated by single blanks: `" ".join(s.split())` makes a
text tidy (`tidy_joinWords`) and leaves a tidy one alone (`join_split`).
-/

namespace Py

def isCjk (c : Char) : Bool := 0x4E00 ≤ c.toNat && c.toNat ≤ 0x9FFF

/-- A character of ASCII or a CJK ideograph. -/
def isPlain (c : Char) : Bool := c.toNat < 0x80 || isCjk c

structure UnicodeTables where
  /-- `str.casefold` of one character -/
  casefold : Char → List Char
  /-- the class `\d` of a regular expression on `str` -/
  isDecimal : Char → Bool
  /-- `str.isalnum` of one character -/
  isAlnum : Char → Bool
  casefold_plain : ∀ c, isPlain c → casefold c = [c.toLower]
  /-- what folds to plain characters is alphanumeric if they are, and not if they are not -/
  filter_casefold : ∀ c, (∀ d ∈ casefold c, isPlain d) →
    (casefold c).filter isAlnum = if isAlnum c then casefold c else []

theorem toNat_toLower (c : Char) :
    c.toLower.toNat = if 0x41 ≤ c.toNat ∧ c.toNat ≤ 0x5A then c.toNat + 32 else c.toNat := by
  have hA : ('A' : Char).val.toNat = 0x41 := rfl
  have hZ : ('Z' : Char).val.toNat = 0x5A := rfl
  have hshift : ('a'.val - 'A'.val).toNat = 32 := rfl
  unfold Char.toLower
  simp only [ge_iff_le, UInt32.le_iff_toNat_le, hA, hZ]
  show _ = if 0x41 ≤ c.val.toNat ∧ c.val.toNat ≤ 0x5A then c.val.toNat + 32 else c.val.toNat
  split
  · show (c.val + ('a'.val - 'A'.val)).toNat = _
    rw [UInt32.toNat_add, hshift]
    omega
  · rfl

theorem isAlphanum_iff {c : Char} : c.isAlphanum = true ↔
    (0x41 ≤ c.toNat ∧ c.toNat ≤ 0x5A) ∨ (0x61 ≤ c.toNat ∧ c.toNat ≤ 0x7A) ∨
      (0x30 ≤ c.toNat ∧ c.toNat ≤ 0x39) := by
  delta Char.isAlphanum Char.isAlpha Char.isUpper Char.isLower Char.isDigit
  simp only [UInt32.le_iff_toNat_le, Bool.or_eq_true, Bool.and_eq_true, decide_eq_true_eq, ge_iff_le,
    or_assoc]
  exact Iff.rfl

theorem isAlphanum_toLower (c : Char) : c.toLower.isAlphanum = c.isAlphanum := by
  rw [Bool.eq_iff_iff, isAlphanum_iff, isAlphanum_iff, toNat_toLower]
  split <;> omega

def UnicodeTables.ascii : UnicodeTables where
  casefold c := [c.toLower]
  isDecimal c := c.isDigit
  isAlnum c := c.isAlphanum
  casefold_plain _ _ := rfl
  filter_casefold c _ := by
    rw [← isAlphanum_toLower c]
    cases h : c.toLower.isAlphanum <;> simp [h]

theorem filter_ideographs (c : Char) :
    [c.toLower].filter (fun c => c.isAlphanum || isCjk c) =
      if (c.isAlphanum || isCjk c) = true then [c.toLower] else [] := by
  have hcjk : isCjk c.toLower = isCjk c := by
    rw [Bool.eq_iff_iff]
    simp only [isCjk, Bool.and_eq_true, decide_eq_true_eq, toNat_toLower]
    split <;> omega
  cases halnum : c.isAlphanum || isCjk c with
  | true => simp [isAlphanum_toLower, hcjk, halnum]
  | false => simp [isAlphanum_toLower, hcjk, halnum]

/-- The tables of ASCII and the CJK ideographs. -/
def UnicodeTables.ideographs : UnicodeTables where
  casefold c := [c.toLower]
  isDecimal c := c.isDigit
  isAlnum c := c.isAlphanum || isCjk c
  casefold_plain := UnicodeTables.ascii.casefold_plain
  filter_casefold c _ := filter_ideographs c

/-- `str.isspace` of one character, which is also what `strip` and `split` look for. -/
def isSpace (c : Char) : Bool :=
  let n := c.toNat
  (0x09 ≤ n && n ≤ 0x0D) || (0x1C ≤ n && n ≤ 0x20) || n == 0x85 || n == 0xA0 || n == 0x1680 ||
    (0x2000 ≤ n && n ≤ 0x200A) || n == 0x2028 || n == 0x2029 || n == 0x202F || n == 0x205F ||
    n == 0x3000

/-- A list without what is dropped from both ends. -/
def trim (drop : Char → Bool) (cs : List Char) : List Char :=
  ((cs.dropWhile drop).reverse.dropWhile drop).reverse

/-- `str.strip()` -/
def strip (s : String) : String := String.ofList (trim isSpace s.toList)

/-- `str.rstrip()` -/
def rstrip (s : String) : String :=
  String.ofList (s.toList.reverse.dropWhile isSpace).reverse

/-- `str.strip(chars)` -/
def stripChars (chars s : String) : String := String.ofList (trim (· ∈ chars.toList) s.toList)

/-- The words of a text; `word` holds the letters of the word being read, last one first. -/
def splitFrom (word : List Char) : List Char → List (List Char)
  | [] => if word.isEmpty then [] else [word.reverse]
  | c :: cs =>
    if isSpace c then
      if word.isEmpty then splitFrom [] cs else word.reverse :: splitFrom [] cs
    else splitFrom (c :: word) cs

/-- `str.split()` -/
def split (s : String) : List String := (splitFrom [] s.toList).map String.ofList

/-- `str.split(sep, 1)` for a separator of one character that occurs. -/
def splitOnce (sep : Char) (s : String) : String × String :=
  (String.ofList (s.toList.takeWhile (· ≠ sep)),
    String.ofList ((s.toList.dropWhile (· ≠ sep)).drop 1))

/-- `str.casefold()` -/
def casefold (tables : UnicodeTables) (s : String) : String :=
  String.ofList (s.toList.flatMap tables.casefold)

/-- The case folded alphanumeric characters of a text. -/
def foldedAlnum (tables : UnicodeTables) (s : String) : String :=
  String.ofList ((s.toList.filter tables.isAlnum).flatMap tables.casefold)

/-- `sep.join(parts)` -/
def join (sep : String) (parts : List String) : String := sep.intercalate parts

/-- `needle in s` -/
def contains (s needle : String) : Bool := decide (needle.toList <:+: s.toList)

/-- `s.startswith(pre)` -/
def startsWith (s pre : String) : Bool := decide (pre.toList <+: s.toList)

/-- `s.endswith(post)` -/
def endsWith (s post : String) : Bool := decide (post.toList <:+ s.toList)

/-- `s[:-n]` for a positive `n` -/
def dropLast (n : Nat) (s : String) : String := String.ofList (s.toList.take (s.toList.length - n))

/-! ## Case folding -/

section Casefold

variable {tables : UnicodeTables} {c : Char} {cs : List Char} {s t : String}

theorem isPlain_toLower (h : isPlain c = true) : isPlain c.toLower = true := by
  simp only [isPlain, isCjk, Bool.or_eq_true, Bool.and_eq_true, decide_eq_true_eq] at h ⊢
  rw [toNat_toLower]
  split <;> omega

theorem flatMap_filter_casefold (h : ∀ d ∈ cs.flatMap tables.casefold, isPlain d = true) :
    (cs.filter tables.isAlnum).flatMap tables.casefold =
      (cs.flatMap tables.casefold).filter tables.isAlnum := by
  induction cs with
  | nil => rfl
  | cons c cs ih =>
    rw [List.flatMap_cons] at h ⊢
    have hc := tables.filter_casefold c fun d hd => h d (List.mem_append_left _ hd)
    have hcs := ih fun d hd => h d (List.mem_append_right _ hd)
    rw [List.filter_append, hc, ← hcs]
    cases htable : tables.isAlnum c <;> simp [htable]

theorem foldedAlnum_eq (hplain : ∀ c ∈ s.toList, isPlain c = true)
    (h : casefold tables s = casefold tables t) : foldedAlnum tables s = foldedAlnum tables t := by
  have hchars : s.toList.flatMap tables.casefold = t.toList.flatMap tables.casefold := by
    simpa [casefold] using congrArg String.toList h
  have hfolded : ∀ d ∈ s.toList.flatMap tables.casefold, isPlain d = true := by
    intro d hd
    obtain ⟨c, hc, hd⟩ := List.mem_flatMap.mp hd
    rw [tables.casefold_plain c (hplain c hc), List.mem_singleton] at hd
    rw [hd]
    exact isPlain_toLower (hplain c hc)
  unfold foldedAlnum
  rw [flatMap_filter_casefold hfolded, flatMap_filter_casefold (hchars ▸ hfolded), hchars]

end Casefold

/-! ## Tidy texts -/

section Tidy

/-- Single blanks between words, and nothing else that is white space; `inWord` says that the
    character before was in a word. -/
def TidyFrom : Bool → List Char → Prop
  | inWord, [] => inWord = true
  | inWord, c :: cs =>
    if isSpace c then c = ' ' ∧ inWord = true ∧ TidyFrom false cs else TidyFrom true cs

/-- The text is empty, or its words are separated by single blanks. -/
def Tidy (s : String) : Prop := s.toList = [] ∨ TidyFrom false s.toList

variable {cs ds word : List Char} {c : Char} {inWord : Bool} {s : String}

theorem isSpace_blank : isSpace ' ' = true := rfl

theorem TidyFrom.drop (h : TidyFrom inWord (cs ++ ds)) : ∃ inWord', TidyFrom inWord' ds := by
  induction cs generalizing inWord with
  | nil => exact ⟨inWord, h⟩
  | cons c cs ih =>
    simp only [List.cons_append, TidyFrom] at h
    split at h
    · exact ih h.2.2
    · exact ih h

theorem TidyFrom.take (h : TidyFrom inWord (cs ++ ds)) (hcs : cs ≠ [])
    (hlast : ∀ c, cs.getLast? = some c → isSpace c = false) : TidyFrom inWord cs := by
  induction cs generalizing inWord with
  | nil => exact absurd rfl hcs
  | cons c cs ih =>
    cases cs with
    | nil =>
      have hc := hlast c rfl
      simp [hc, TidyFrom]
    | cons d cs =>
      have hlast' : ∀ e, (d :: cs).getLast? = some e → isSpace e = false := fun e he =>
        hlast e (by rw [List.getLast?_cons_cons]; exact he)
      rw [List.cons_append, TidyFrom] at h
      rw [TidyFrom]
      split at h
      · rename_i hc
        rw [if_pos hc]
        exact ⟨h.1, h.2.1, ih h.2.2 (List.cons_ne_nil d cs) hlast'⟩
      · rename_i hc
        rw [if_neg hc]
        exact ih h (List.cons_ne_nil d cs) hlast'

theorem TidyFrom.of_head (h : TidyFrom inWord (c :: cs)) (hc : isSpace c = false) :
    TidyFrom false (c :: cs) := by
  simpa [TidyFrom, hc] using h

theorem TidyFrom.head (h : TidyFrom false (c :: cs)) : isSpace c = false := by
  by_contra hc
  have hc : isSpace c = true := by simpa using hc
  simp [TidyFrom, hc] at h

theorem TidyFrom.getLast (h : TidyFrom inWord cs) (hlast : cs.getLast? = some c) :
    isSpace c = false := by
  induction cs generalizing inWord with
  | nil => simp at hlast
  | cons d cs ih =>
    cases cs with
    | nil =>
      obtain rfl : d = c := by simpa using hlast
      by_contra hd
      have hd : isSpace d = true := by simpa using hd
      simp [TidyFrom, hd] at h
    | cons e cs =>
      rw [List.getLast?_cons_cons] at hlast
      unfold TidyFrom at h
      split at h
      · exact ih h.2.2 hlast
      · exact ih h hlast

theorem joinWords_splitFrom (h : TidyFrom (!word.isEmpty) cs) :
    [' '].intercalate (splitFrom word cs) = word.reverse ++ cs := by
  induction cs generalizing word with
  | nil =>
    have hword : word.isEmpty = false := by simpa [TidyFrom] using h
    simp [splitFrom, hword]
  | cons c cs ih =>
    unfold TidyFrom at h
    unfold splitFrom
    split at h
    · rename_i hc
      obtain ⟨rfl, hword, htail⟩ := h
      have hword : word.isEmpty = false := by simpa using hword
      have hrest : [' '].intercalate (splitFrom [] cs) = cs := ih htail
      have hne : splitFrom [] cs ≠ [] := by
        intro hnil
        rw [hnil] at hrest
        rw [← hrest] at htail
        simp [TidyFrom] at htail
      simp only [hc, hword, if_true, Bool.false_eq_true, if_false]
      rw [List.intercalate_cons_of_ne_nil hne, hrest]
      simp
    · rename_i hc
      have hrest : [' '].intercalate (splitFrom (c :: word) cs) = (c :: word).reverse ++ cs :=
        ih (by simpa using h)
      simp only [hc, Bool.false_eq_true, if_false]
      simpa using hrest

theorem mem_splitFrom (hword : ∀ c ∈ word, isSpace c = false) :
    ∀ w ∈ splitFrom word cs, w ≠ [] ∧ ∀ c ∈ w, isSpace c = false := by
  induction cs generalizing word with
  | nil =>
    intro w hw
    cases word with
    | nil => simp [splitFrom] at hw
    | cons c word =>
      obtain rfl : w = (c :: word).reverse := by simpa [splitFrom] using hw
      exact ⟨by simp, fun d hd => hword d (List.mem_reverse.mp hd)⟩
  | cons c cs ih =>
    intro w hw
    unfold splitFrom at hw
    split at hw
    · cases word with
      | nil => exact ih (fun _ h => absurd h List.not_mem_nil) w (by simpa using hw)
      | cons d word =>
        rcases List.mem_cons.mp (by simpa using hw) with rfl | hw
        · refine ⟨by simp, fun e he => hword e ?_⟩
          rw [← List.mem_reverse, List.reverse_cons]
          exact he
        · exact ih (fun _ h => absurd h List.not_mem_nil) w hw
    · rename_i hc
      apply ih _ w hw
      intro d hd
      rcases List.mem_cons.mp hd with rfl | hd
      · simpa using hc
      · exact hword d hd

theorem TidyFrom.word_append (hcs : cs ≠ []) (hword : ∀ c ∈ cs, isSpace c = false)
    (h : TidyFrom true ds) : TidyFrom inWord (cs ++ ds) := by
  induction cs generalizing inWord with
  | nil => exact absurd rfl hcs
  | cons c cs ih =>
    have hc := hword c (List.mem_cons_self ..)
    simp only [List.cons_append, TidyFrom, hc, Bool.false_eq_true, if_false]
    cases cs with
    | nil => exact h
    | cons d cs =>
      exact ih (List.cons_ne_nil d cs) fun e he => hword e (List.mem_cons_of_mem c he)

theorem tidyFrom_intercalate {words : List (List Char)} (hne : words ≠ [])
    (hwords : ∀ w ∈ words, w ≠ [] ∧ ∀ c ∈ w, isSpace c = false) :
    TidyFrom false ([' '].intercalate words) := by
  induction words with
  | nil => exact absurd rfl hne
  | cons w words ih =>
    obtain ⟨hw, hspace⟩ := hwords w (List.mem_cons_self ..)
    cases words with
    | nil =>
      rw [List.intercalate_singleton, ← List.append_nil w]
      exact TidyFrom.word_append hw hspace rfl
    | cons v words =>
      rw [List.intercalate_cons_cons, List.append_assoc]
      apply TidyFrom.word_append hw hspace
      have hrest := ih (List.cons_ne_nil v words) fun u hu => hwords u (List.mem_cons_of_mem w hu)
      exact ⟨rfl, rfl, hrest⟩

theorem toList_join_split (s : String) :
    (join " " (split s)).toList = [' '].intercalate (splitFrom [] s.toList) := by
  simp [join, split, List.map_map, Function.comp_def]

/-- `" ".join(s.split())` is tidy. -/
theorem tidy_join_split (s : String) : Tidy (join " " (split s)) := by
  unfold Tidy
  rw [toList_join_split]
  by_cases hne : splitFrom [] s.toList = []
  · exact .inl (by rw [hne]; rfl)
  · exact .inr (tidyFrom_intercalate hne (mem_splitFrom fun _ h => absurd h List.not_mem_nil))

theorem join_split (h : Tidy s) : join " " (split s) = s := by
  apply String.toList_inj.mp
  rw [toList_join_split]
  rcases h with h | h
  · rw [h]
    rfl
  · exact joinWords_splitFrom h

theorem head_dropWhile {drop : Char → Bool} (h : (cs.dropWhile drop).head? = some c) :
    drop c = false := by
  have hnot := List.head?_dropWhile_not drop cs
  rw [h] at hnot
  exact hnot

/-- Trimming keeps a middle part that begins and ends with what is not dropped. -/
theorem trim_spec (drop : Char → Bool) (cs : List Char) :
    ∃ pre post, cs = pre ++ (trim drop cs ++ post) ∧
      (∀ c, (trim drop cs).head? = some c → drop c = false) ∧
      ∀ c, (trim drop cs).getLast? = some c → drop c = false := by
  have hsplit : trim drop cs ++ ((cs.dropWhile drop).reverse.takeWhile drop).reverse =
      cs.dropWhile drop := by
    rw [trim, ← List.reverse_append, List.takeWhile_append_dropWhile, List.reverse_reverse]
  refine ⟨cs.takeWhile drop, ((cs.dropWhile drop).reverse.takeWhile drop).reverse, ?_, ?_, ?_⟩
  · rw [hsplit, List.takeWhile_append_dropWhile]
  · intro c hc
    have hcut : (cs.dropWhile drop).head? = some c := by
      rw [← hsplit]
      cases htrim : trim drop cs with
      | nil => simp [htrim] at hc
      | cons d ds => simpa [htrim] using hc
    exact head_dropWhile hcut
  · intro c hc
    rw [trim, List.getLast?_reverse] at hc
    exact head_dropWhile hc

theorem dropWhile_eq_self {drop : Char → Bool} (h : ∀ c, cs.head? = some c → drop c = false) :
    cs.dropWhile drop = cs := by
  cases cs with
  | nil => rfl
  | cons d ds => simp [h d rfl]

/-- A text without white space is left by `strip`. -/
theorem strip_eq_self {s : String} (h : ∀ c ∈ s.toList, isSpace c = false) : strip s = s := by
  have hfront : s.toList.dropWhile isSpace = s.toList :=
    dropWhile_eq_self fun c hc => h c (List.mem_of_mem_head? hc)
  have hback : s.toList.reverse.dropWhile isSpace = s.toList.reverse :=
    dropWhile_eq_self fun c hc => h c (List.mem_reverse.mp (List.mem_of_mem_head? hc))
  rw [strip, trim, hfront, hback, List.reverse_reverse, String.ofList_toList]

theorem toDigits_inj {m n : Nat} (h : Nat.toDigits 10 m = Nat.toDigits 10 n) : m = n := by
  rw [← @Nat.ofDigitChars_ten_toDigits m, ← @Nat.ofDigitChars_ten_toDigits n, h]

theorem isDigit_of_mem_repr {n : Nat} {c : Char} (h : c ∈ (toString n).toList) :
    c.isDigit = true := by
  have hdigits : (toString n).toList = Nat.toDigits 10 n := Nat.toList_repr
  rw [hdigits] at h
  exact Nat.isDigit_of_mem_toDigits (by decide) (by decide) h

theorem trim_trim (drop : Char → Bool) (cs : List Char) : trim drop (trim drop cs) = trim drop cs := by
  obtain ⟨-, -, -, hhead, hlast⟩ := trim_spec drop cs
  have hback : (trim drop cs).reverse.dropWhile drop = (trim drop cs).reverse := by
    apply dropWhile_eq_self
    intro c hc
    exact hlast c (by simpa using hc)
  show (((trim drop cs).dropWhile drop).reverse.dropWhile drop).reverse = trim drop cs
  rw [dropWhile_eq_self hhead, hback, List.reverse_reverse]

theorem TidyFrom.eq_blank (h : TidyFrom inWord cs) (hc : c ∈ cs) (hs : isSpace c = true) :
    c = ' ' := by
  induction cs generalizing inWord with
  | nil => cases hc
  | cons d cs ih =>
    unfold TidyFrom at h
    rcases List.mem_cons.mp hc with rfl | hc
    · rw [if_pos hs] at h
      exact h.1
    · split at h
      · exact ih h.2.2 hc
      · exact ih h hc

theorem Tidy.eq_blank (h : Tidy s) (hc : c ∈ s.toList) (hs : isSpace c = true) : c = ' ' := by
  rcases h with h | h
  · rw [h] at hc
    cases hc
  · exact h.eq_blank hc hs

theorem Tidy.trim {drop : Char → Bool} (hdrop : drop ' ' = true) (h : Tidy s) :
    Tidy (String.ofList (trim drop s.toList)) := by
  obtain ⟨pre, post, hsplit, hhead, hlast⟩ := trim_spec drop s.toList
  have hspace : ∀ c ∈ s.toList, drop c = false → Py.isSpace c = false := by
    intro c hmem hc
    by_contra hs
    rw [h.eq_blank hmem (by simpa using hs), hdrop] at hc
    exact absurd hc (by simp)
  unfold Tidy
  rw [String.toList_ofList]
  cases htrim : Py.trim drop s.toList with
  | nil => exact .inl rfl
  | cons c cs =>
    have hmem : ∀ d ∈ c :: cs, d ∈ s.toList := by
      intro d hd
      rw [hsplit, htrim]
      exact List.mem_append_right _ (List.mem_append_left _ hd)
    rw [htrim] at hsplit hhead hlast
    right
    rcases h with h | h
    · rw [h] at hsplit
      simp at hsplit
    · rw [hsplit] at h
      obtain ⟨inWord, hmiddle⟩ := h.drop
      have hcut : TidyFrom inWord (c :: cs) :=
        hmiddle.take (List.cons_ne_nil c cs) fun d hd =>
          hspace d (hmem d (List.mem_of_getLast? hd)) (hlast d hd)
      exact hcut.of_head (hspace c (hmem c (List.mem_cons_self ..)) (hhead c rfl))

/-- `" ".join(s.split()).strip(chars)` is tidy. -/
theorem tidy_stripChars (chars s : String) (hblank : ' ' ∈ chars.toList) :
    Tidy (stripChars chars (join " " (split s))) :=
  (tidy_join_split s).trim (by simpa using hblank)

theorem Tidy.strip_eq (h : Tidy s) : strip s = s := by
  unfold strip
  rcases h with h | h
  · rw [h]
    exact String.toList_inj.mp (by rw [h]; rfl)
  · apply String.toList_inj.mp
    rw [String.toList_ofList]
    have hdrop : ∀ ds : List Char, (∀ c, ds.head? = some c → isSpace c = false) →
        ds.dropWhile isSpace = ds := by
      intro ds hds
      cases ds with
      | nil => rfl
      | cons d ds => simp [hds d rfl]
    have hhead : ∀ c, s.toList.head? = some c → isSpace c = false := by
      intro c hc
      cases hs : s.toList with
      | nil => simp [hs] at hc
      | cons d ds =>
        rw [hs] at h hc
        obtain rfl : d = c := by simpa using hc
        exact h.head
    have hlast : ∀ c, s.toList.reverse.head? = some c → isSpace c = false := by
      intro c hc
      rw [List.head?_reverse] at hc
      exact h.getLast hc
    rw [Py.trim, hdrop _ hhead, hdrop _ hlast, List.reverse_reverse]

end Tidy

section Sorted

variable {α : Type} [LinearOrder α] {xs ys : List α} {x : α}

/-- `sorted(xs)` -/
def sorted (xs : List α) : List α := xs.insertionSort (· ≤ ·)

/-- `sorted(set(xs))` -/
def sortedSet (xs : List α) : List α := sorted xs.dedup

@[simp] theorem mem_sorted : x ∈ sorted xs ↔ x ∈ xs := List.mem_insertionSort _

@[simp] theorem mem_sortedSet : x ∈ sortedSet xs ↔ x ∈ xs := by
  simp [sortedSet]

theorem nodup_sortedSet : (sortedSet xs).Nodup :=
  (List.perm_insertionSort _ _).nodup_iff.mpr xs.nodup_dedup

end Sorted

section SortedBy

variable {α β : Type} [LinearOrder β]

/-- `sorted(xs, key=key)` -/
def sortedBy (key : α → β) (xs : List α) : List α := xs.insertionSort fun a b => key a ≤ key b

/-- `max(xs, key=key)`, which is the first of the greatest. -/
def maxBy (key : α → β) (xs : List α) : Option α := xs.argmax key

/-- `min(xs, key=key, default=None)`, which is the first of the least. -/
def minBy (key : α → β) (xs : List α) : Option α := xs.argmin key

variable {key : α → β} {xs : List α} {x : α}

theorem mem_of_minBy (h : minBy key xs = some x) : x ∈ xs := List.argmin_mem h

theorem minBy_eq_none : minBy key xs = none ↔ xs = [] := List.argmin_eq_none

theorem mem_of_maxBy (h : maxBy key xs = some x) : x ∈ xs := List.argmax_mem h

@[simp] theorem mem_sortedBy : x ∈ sortedBy key xs ↔ x ∈ xs := List.mem_insertionSort _

theorem perm_sortedBy : (sortedBy key xs).Perm xs := List.perm_insertionSort _ _

end SortedBy

end Py

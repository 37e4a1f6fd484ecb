import Mathlib
import SeekTalent.Base.PyText

/-!
# Normal forms of text

NFKC is a large table too, so it is a parameter beside the other tables (`TextForms`). All
that is used of it and of case folding is that neither makes text disappear or appear: every
character that is not white space has a weight, and both keep the weight of a text. Words
are left words by case folding, so a text may be folded before or after its white space is
collapsed (`flatMap_casefold_words`), and collapsing drops white space at the ends.
-/

namespace Py

structure TextForms extends UnicodeTables where
  /-- `unicodedata.normalize("NFKC", text)` -/
  nfkc : List Char → List Char
  /-- how many characters there are to see in one, its folded decomposition taken apart -/
  weight : Char → Nat
  weight_eq_zero_iff : ∀ c, weight c = 0 ↔ isSpace c = true
  weight_nfkc : ∀ cs, ((nfkc cs).map weight).sum = (cs.map weight).sum
  weight_casefold : ∀ c, ((casefold c).map weight).sum = weight c
  casefold_space : ∀ c, isSpace c = true → casefold c = [c]
  casefold_letter : ∀ c, isSpace c = false → ∀ d ∈ casefold c, isSpace d = false

/-- `" ".join(text.split())` -/
def collapse (cs : List Char) : List Char := [' '].intercalate (splitFrom [] cs)

def Blank (cs : List Char) : Prop := ∀ c ∈ cs, isSpace c = true

instance (cs : List Char) : Decidable (Blank cs) := inferInstanceAs (Decidable (∀ c ∈ cs, _))

namespace TextForms

variable {forms : TextForms} {cs ds word : List Char} {c : Char}

def fold (forms : TextForms) (cs : List Char) : List Char := cs.flatMap forms.casefold

def total (forms : TextForms) (cs : List Char) : Nat := (cs.map forms.weight).sum

@[simp] theorem fold_nil : forms.fold [] = [] := rfl

@[simp] theorem fold_append : forms.fold (cs ++ ds) = forms.fold cs ++ forms.fold ds :=
  List.flatMap_append

@[simp] theorem total_nil : forms.total [] = 0 := rfl

@[simp] theorem total_append : forms.total (cs ++ ds) = forms.total cs + forms.total ds := by
  simp [total]

@[simp] theorem total_nfkc : forms.total (forms.nfkc cs) = forms.total cs := forms.weight_nfkc cs

@[simp] theorem total_fold : forms.total (forms.fold cs) = forms.total cs := by
  induction cs with
  | nil => rfl
  | cons c cs ih =>
    have hc : forms.total (forms.casefold c) = forms.weight c := forms.weight_casefold c
    show forms.total (forms.casefold c ++ forms.fold cs) = forms.weight c + forms.total cs
    rw [total_append, hc, ih]

theorem total_eq_zero_iff : forms.total cs = 0 ↔ Blank cs := by
  unfold total Blank
  rw [List.sum_eq_zero_iff]
  simp [forms.weight_eq_zero_iff]

theorem blank_fold_iff : Blank (forms.fold cs) ↔ Blank cs := by
  have h : forms.total (forms.fold cs) = 0 ↔ forms.total cs = 0 := by rw [total_fold]
  rwa [total_eq_zero_iff, total_eq_zero_iff] at h

theorem casefold_ne_nil (c : Char) : forms.casefold c ≠ [] := by
  intro hnil
  cases hspace : isSpace c with
  | true =>
    rw [forms.casefold_space c hspace] at hnil
    cases hnil
  | false =>
    have hweight := forms.weight_casefold c
    rw [hnil] at hweight
    have hzero := (forms.weight_eq_zero_iff c).mp hweight.symm
    rw [hspace] at hzero
    cases hzero

end TextForms

/-! ## Full-width forms -/

/-- The ASCII character that a full-width form stands for. -/
def narrow (c : Char) : Char :=
  if 0xFF01 ≤ c.toNat ∧ c.toNat ≤ 0xFF5E then Char.ofNat (c.toNat - 0xFEE0)
  else if c.toNat = 0x3000 then ' '
  else c

theorem isSpace_iff {c : Char} : isSpace c = true ↔
    (0x09 ≤ c.toNat ∧ c.toNat ≤ 0x0D) ∨ (0x1C ≤ c.toNat ∧ c.toNat ≤ 0x20) ∨ c.toNat = 0x85 ∨
      c.toNat = 0xA0 ∨ c.toNat = 0x1680 ∨ (0x2000 ≤ c.toNat ∧ c.toNat ≤ 0x200A) ∨
      c.toNat = 0x2028 ∨ c.toNat = 0x2029 ∨ c.toNat = 0x202F ∨ c.toNat = 0x205F ∨
      c.toNat = 0x3000 := by
  simp [isSpace, or_assoc]

theorem isSpace_narrow (c : Char) : isSpace (narrow c) = isSpace c := by
  rw [Bool.eq_iff_iff, isSpace_iff, isSpace_iff]
  unfold narrow
  split
  · have hvalid : (c.toNat - 0xFEE0).isValidChar := Or.inl (by omega)
    have hn : (Char.ofNat (c.toNat - 0xFEE0)).toNat = c.toNat - 0xFEE0 := by
      rw [Char.ofNat, dif_pos hvalid]
      rfl
    rw [hn]
    omega
  · split
    · rename_i hspace
      have hn : (' ' : Char).toNat = 0x20 := rfl
      rw [hn]
      omega
    · exact Iff.rfl

theorem isSpace_toLower (c : Char) : isSpace c.toLower = isSpace c := by
  rw [Bool.eq_iff_iff, isSpace_iff, isSpace_iff, toNat_toLower]
  split <;> omega

/-- ASCII and the full-width forms of its characters. -/
def TextForms.fullWidth : TextForms where
  toUnicodeTables := .ascii
  nfkc cs := cs.map narrow
  weight c := if isSpace c then 0 else 1
  weight_eq_zero_iff c := by simp
  weight_nfkc cs := by simp [Function.comp_def, isSpace_narrow]
  weight_casefold c := by simp [UnicodeTables.ascii, isSpace_toLower]
  casefold_space c h := by
    have hsame : c.toLower.toNat = c.toNat := by
      rw [toNat_toLower, if_neg]
      have := isSpace_iff.mp h
      omega
    exact congrArg (fun d => [d]) (Char.toNat_inj.mp hsame)
  casefold_letter c h := by simp [UnicodeTables.ascii, isSpace_toLower, h]

/-! ## Words -/

section Words

variable {forms : TextForms} {cs ds word : List Char}

theorem splitFrom_append_letters (hcs : ∀ c ∈ cs, isSpace c = false) :
    splitFrom word (cs ++ ds) = splitFrom (cs.reverse ++ word) ds := by
  induction cs generalizing word with
  | nil => rfl
  | cons c cs ih =>
    obtain ⟨hc, hcs⟩ := List.forall_mem_cons.mp hcs
    rw [List.cons_append, splitFrom, if_neg (by simp [hc]), ih hcs]
    simp

theorem splitFrom_blank_append (hcs : Blank cs) : splitFrom [] (cs ++ ds) = splitFrom [] ds := by
  induction cs with
  | nil => rfl
  | cons c cs ih =>
    obtain ⟨hc, hcs⟩ := List.forall_mem_cons.mp hcs
    rw [List.cons_append, splitFrom, if_pos hc]
    exact ih hcs

theorem splitFrom_append_blank (hds : Blank ds) : splitFrom word (cs ++ ds) = splitFrom word cs := by
  induction cs generalizing word with
  | nil =>
    cases ds with
    | nil => rfl
    | cons d ds =>
      obtain ⟨hd, hds⟩ := List.forall_mem_cons.mp hds
      have hrest : splitFrom [] ds = [] := by
        rw [← List.append_nil ds, splitFrom_blank_append hds]
        rfl
      simp only [List.nil_append, splitFrom, hd, if_true, hrest]
  | cons c cs ih =>
    rw [List.cons_append, splitFrom, splitFrom, ih, ih]

theorem splitFrom_cons_ne_nil (c : Char) : splitFrom (c :: word) cs ≠ [] := by
  induction cs generalizing c word with
  | nil => simp [splitFrom]
  | cons d cs ih =>
    unfold splitFrom
    split
    · simp
    · exact ih d

theorem splitFrom_eq_nil_iff : splitFrom [] cs = [] ↔ Blank cs := by
  induction cs with
  | nil => simp [splitFrom, Blank]
  | cons c cs ih =>
    unfold splitFrom
    cases hc : isSpace c with
    | true => simpa [Blank, hc] using ih
    | false => simpa [Blank, hc] using splitFrom_cons_ne_nil c

theorem trim_ends (drop : Char → Bool) (cs : List Char) :
    ∃ pre post, cs = pre ++ (trim drop cs ++ post) ∧
      (∀ c ∈ pre, drop c = true) ∧ ∀ c ∈ post, drop c = true := by
  have hsplit : trim drop cs ++ ((cs.dropWhile drop).reverse.takeWhile drop).reverse =
      cs.dropWhile drop := by
    rw [trim, ← List.reverse_append, List.takeWhile_append_dropWhile, List.reverse_reverse]
  refine ⟨cs.takeWhile drop, ((cs.dropWhile drop).reverse.takeWhile drop).reverse, ?_, ?_, ?_⟩
  · rw [hsplit, List.takeWhile_append_dropWhile]
  · exact fun c hc => List.mem_takeWhile_imp hc
  · exact fun c hc => List.mem_takeWhile_imp (List.mem_reverse.mp hc)

theorem split_strip (s : String) : split (strip s) = split s := by
  obtain ⟨pre, post, hsplit, hpre, hpost⟩ := trim_ends isSpace s.toList
  unfold split strip
  rw [String.toList_ofList]
  conv_rhs => rw [hsplit, splitFrom_blank_append hpre, splitFrom_append_blank hpost]

theorem strip_eq_empty_iff {s : String} : strip s = "" ↔ Blank s.toList := by
  have hempty : strip s = "" ↔ trim isSpace s.toList = [] := by
    rw [← String.toList_inj]
    simp [strip]
  rw [hempty]
  constructor
  · intro htrim c hc
    obtain ⟨pre, post, hsplit, hpre, hpost⟩ := trim_ends isSpace s.toList
    rw [hsplit, htrim, List.nil_append] at hc
    rcases List.mem_append.mp hc with hc | hc
    · exact hpre c hc
    · exact hpost c hc
  · intro hblank
    have hdrop : s.toList.dropWhile isSpace = [] := List.dropWhile_eq_nil_iff.mpr hblank
    simp [trim, hdrop]

theorem blank_strip_iff {s : String} : Blank (strip s).toList ↔ Blank s.toList := by
  have hsplit : split (strip s) = [] ↔ split s = [] := by rw [split_strip]
  unfold split at hsplit
  rwa [List.map_eq_nil_iff, List.map_eq_nil_iff, splitFrom_eq_nil_iff, splitFrom_eq_nil_iff]
    at hsplit

theorem collapse_blank_append_blank (hcs : Blank cs) (hds : Blank ds) (word : List Char) :
    collapse (cs ++ word ++ ds) = collapse word := by
  unfold collapse
  rw [List.append_assoc, splitFrom_blank_append hcs, splitFrom_append_blank hds]

theorem total_splitFrom : forms.total (splitFrom word cs).flatten =
    forms.total word + forms.total cs := by
  induction cs generalizing word with
  | nil =>
    cases word with
    | nil => rfl
    | cons c word =>
      simp [splitFrom, TextForms.total, Nat.add_comm]
  | cons c cs ih =>
    have hcons : forms.total (c :: cs) = forms.weight c + forms.total cs := rfl
    unfold splitFrom
    split
    · rename_i hc
      rw [hcons, (forms.weight_eq_zero_iff c).mpr hc, Nat.zero_add]
      split
      · rename_i hempty
        rw [ih, List.isEmpty_iff.mp hempty]
      · rw [List.flatten_cons, TextForms.total_append, ih]
        simp [TextForms.total]
    · have hword : forms.total (c :: word) = forms.weight c + forms.total word := rfl
      rw [ih, hcons, hword]
      omega

@[simp] theorem total_collapse : forms.total (collapse cs) = forms.total cs := by
  have hblank : forms.weight ' ' = 0 := (forms.weight_eq_zero_iff ' ').mpr rfl
  have hjoin : ∀ words : List (List Char),
      forms.total ([' '].intercalate words) = forms.total words.flatten := by
    intro words
    induction words with
    | nil => rfl
    | cons w words ih =>
      cases words with
      | nil => simp
      | cons v words =>
        rw [List.intercalate_cons_cons, TextForms.total_append, TextForms.total_append, ih,
          List.flatten_cons, TextForms.total_append]
        simp [TextForms.total, hblank]
  unfold collapse
  rw [hjoin, total_splitFrom, TextForms.total_nil, Nat.zero_add]

theorem splitFrom_fold :
    splitFrom (forms.fold word.reverse).reverse (forms.fold cs) =
      (splitFrom word cs).map forms.fold := by
  have hempty : ∀ word : List Char,
      ((forms.fold word.reverse).reverse.isEmpty) = word.isEmpty := by
    intro word
    cases word with
    | nil => rfl
    | cons c word => simp [TextForms.fold, TextForms.casefold_ne_nil]
  induction cs generalizing word with
  | nil =>
    rw [TextForms.fold_nil]
    simp only [splitFrom, hempty]
    split <;> simp
  | cons c cs ih =>
    have hfold : forms.fold (c :: cs) = forms.casefold c ++ forms.fold cs := rfl
    cases hc : isSpace c with
    | true =>
      have hnil : splitFrom [] (forms.fold cs) = (splitFrom [] cs).map forms.fold :=
        @ih []
      rw [hfold, forms.casefold_space c hc, List.singleton_append, splitFrom, splitFrom,
        if_pos hc, if_pos hc, hempty, hnil]
      split
      · rfl
      · simp
    | false =>
      have hword : (forms.fold (c :: word).reverse).reverse =
          (forms.casefold c).reverse ++ (forms.fold word.reverse).reverse := by
        simp [TextForms.fold]
      rw [hfold, splitFrom_append_letters (forms.casefold_letter c hc), ← hword, ih, splitFrom,
        if_neg (by simp [hc])]

/-- **Folding and collapsing commute.** -/
theorem fold_collapse : forms.fold (collapse cs) = collapse (forms.fold cs) := by
  have hblank : forms.casefold ' ' = [' '] := forms.casefold_space ' ' rfl
  have hjoin : ∀ words : List (List Char),
      forms.fold ([' '].intercalate words) = [' '].intercalate (words.map forms.fold) := by
    intro words
    induction words with
    | nil => rfl
    | cons w words ih =>
      cases words with
      | nil => simp
      | cons v words =>
        have hsep : forms.fold [' '] = [' '] := by simp [TextForms.fold, hblank]
        rw [List.intercalate_cons_cons, TextForms.fold_append, TextForms.fold_append, ih, hsep]
        simp only [List.map_cons, List.intercalate_cons_cons]
  have hwords : splitFrom [] (forms.fold cs) = (splitFrom [] cs).map forms.fold :=
    @splitFrom_fold forms cs []
  unfold collapse
  rw [hjoin, hwords]

end Words

end Py

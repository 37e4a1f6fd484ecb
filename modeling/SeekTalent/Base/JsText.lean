import Mathlib.Algebra.GroupWithZero.Nat
import Mathlib.Data.List.TakeWhile
import SeekTalent.Base.PyText
import SeekTalent.Base.Regex

/-!
# Strings and patterns in JavaScript

What differs from Python: the byte order mark is white space while the separators of ASCII are
not, a letter in either case is one of ASCII, and the length of a string counts the code units
of UTF-16.
-/

namespace Js

/-- `\s`, which is also what `trim` removes. -/
def isSpace (c : Char) : Bool :=
  let n := c.toNat
  (0x09 ≤ n && n ≤ 0x0D) || n == 0x20 || n == 0xA0 || n == 0x1680 || (0x2000 ≤ n && n ≤ 0x200A) ||
    n == 0x2028 || n == 0x2029 || n == 0x202F || n == 0x205F || n == 0x3000 || n == 0xFEFF

/-- `s.trim()` -/
def trim (s : String) : String := String.ofList (Py.trim isSpace s.toList)

def length (s : String) : Nat := (s.toList.map fun c => if c.toNat < 0x10000 then 1 else 2).sum

/-- The lower case of a character. Outside ASCII only the Kelvin sign and the dotted capital I
have a letter of ASCII in theirs, and the others are left as they are. -/
def lowerChar (c : Char) : List Char :=
  if c.toNat = 0x212A then ['k']
  else if c.toNat = 0x130 then ['i', Char.ofNat 0x307]
  else [c.toLower]

/-- `s.toLowerCase()`, as far as texts in ASCII are looked for in it. -/
def toLowerCase (s : String) : String := String.ofList (s.toList.flatMap lowerChar)

@[simp] theorem trim_trim (s : String) : trim (trim s) = trim s := by
  simp [trim, Py.trim_trim]

theorem trim_ne_empty {s : String} {c : Char} (hc : c ∈ s.toList) (h : isSpace c = false) :
    trim s ≠ "" := by
  intro htrim
  have hnil : Py.trim isSpace s.toList = [] := by
    rw [← String.toList_inj] at htrim
    simpa [trim] using htrim
  rw [Py.trim, List.reverse_eq_nil_iff, List.dropWhile_eq_nil_iff] at hnil
  rw [← List.takeWhile_append_dropWhile (p := isSpace) (l := s.toList)] at hc
  rcases List.mem_append.mp hc with hc | hc
  · rw [List.mem_takeWhile_imp hc] at h
    cases h
  · rw [hnil c (List.mem_reverse.mpr hc)] at h
    cases h

theorem trim_of_no_space {s : String} (h : ∀ c ∈ s.toList, isSpace c = false) : trim s = s := by
  have hfront : s.toList.dropWhile isSpace = s.toList :=
    Py.dropWhile_eq_self fun c hc => h c (List.mem_of_mem_head? hc)
  have hback : s.toList.reverse.dropWhile isSpace = s.toList.reverse :=
    Py.dropWhile_eq_self fun c hc => h c (List.mem_reverse.mp (List.mem_of_mem_head? hc))
  rw [trim, Py.trim, hfront, hback, List.reverse_reverse, String.ofList_toList]

/-! ## Patterns -/

/-- `\b` -/
def wordEdge : Regex := .boundary fun c => c.isAlphanum || c == '_'

/-- `\s` -/
def space : Regex := .char isSpace

/-- `[\s\S]` -/
def anything : Regex := .char fun _ => true

/-- `[…]` of some characters -/
def oneOf (cs : List Char) : Regex := .char fun c => c ∈ cs

/-- `[^…]` of some characters -/
def noneOf (cs : List Char) : Regex := .char fun c => c ∉ cs

/-- A text with the flag `i`: outside ASCII nothing is the same as a letter of it. -/
def textIgnoreCase (s : String) : Regex :=
  .all (s.toList.map fun d => .char fun c => c.toLower == d.toLower)

end Js

import SeekTalent.Base.PyText

/-!
# Lines of a text

`str.splitlines` ends a line at any line boundary of Unicode, not only at a line feed.
-/

namespace Py

def isLineEnd (c : Char) : Bool :=
  let n := c.toNat
  (0x0A ≤ n && n ≤ 0x0D) || (0x1C ≤ n && n ≤ 0x1E) || n == 0x85 || n == 0x2028 || n == 0x2029

/-- The lines of a text; `line` holds the characters of the line being read, last one first. -/
def linesFrom (line : List Char) : List Char → List (List Char)
  | [] => if line.isEmpty then [] else [line.reverse]
  | '\r' :: '\n' :: cs => line.reverse :: linesFrom [] cs
  | c :: cs => if isLineEnd c then line.reverse :: linesFrom [] cs else linesFrom (c :: line) cs

/-- `str.splitlines()` -/
def splitlines (s : String) : List String := (linesFrom [] s.toList).map String.ofList

end Py

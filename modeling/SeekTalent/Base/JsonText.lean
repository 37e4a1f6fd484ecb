import Mathlib.Algebra.Field.Rat
import SeekTalent.Base.Json

/-!
# JSON as text

Python writes a text with every character outside ASCII as the code units of UTF-16
(`quoted`), and a dictionary with sorted keys without blanks (`dumps`). `parse` is `JSON.parse`,
with exact numbers: it reads code units, and refuses a text with half of a surrogate pair, which
is no string here. What Python writes is read back (`parse_dumps`).
-/

namespace SeekTalent

namespace Json

/-! ## 1. Writing -/

def utf16 (c : Char) : List Nat :=
  if c.toNat < 0x10000 then [c.toNat]
  else [0xD800 + (c.toNat - 0x10000) / 0x400, 0xDC00 + (c.toNat - 0x10000) % 0x400]

def hexDigit (n : Nat) : Char := "0123456789abcdef".toList.getD n '0'

/-- `'\\u{0:04x}'.format(unit)` -/
def unitEscape (unit : Nat) : List Char :=
  ['\\', 'u', hexDigit (unit / 0x1000 % 16), hexDigit (unit / 0x100 % 16), hexDigit (unit / 16 % 16),
    hexDigit (unit % 16)]

/-- The letter that stands for a character after a backslash. -/
def shortEscape (c : Char) : Option Char :=
  if c = '"' then some '"' else if c = '\\' then some '\\' else if c = '\n' then some 'n'
  else if c = '\r' then some 'r' else if c = '\t' then some 't' else if c = '\x0c' then some 'f'
  else if c = '\x08' then some 'b' else none

def escapeAscii (c : Char) : List Char :=
  match shortEscape c with
  | some letter => ['\\', letter]
  | none => if ' ' ≤ c ∧ c ≤ '~' then [c] else (utf16 c).flatMap unitEscape

/-- `json.dumps` of a text -/
def quoted (s : String) : List Char := '"' :: s.toList.flatMap escapeAscii ++ ['"']

/-- `json.dumps(mapping, sort_keys=True, separators=(",", ":"))` of members with sorted keys whose
    values are written already -/
def dumps (members : List (String × List Char)) : List Char :=
  '{' :: List.intercalate [','] (members.map fun member => quoted member.1 ++ ':' :: member.2) ++ ['}']

/-- A character of a text, with `ensure_ascii=False`. -/
def escapeControl (c : Char) : List Char :=
  match shortEscape c with
  | some letter => ['\\', letter]
  | none => if c.toNat < 0x20 then unitEscape c.toNat else [c]

mutual

/-- `json.dumps(value, ensure_ascii=False)`, of whole numbers -/
def write : Json → List Char
  | .null => "null".toList
  | .bool true => "true".toList
  | .bool false => "false".toList
  | .number value => (toString value.num).toList
  | .string value => '"' :: value.toList.flatMap escapeControl ++ ['"']
  | .array items => '[' :: writeItems items ++ [']']
  | .object members => '{' :: writeMembers members ++ ['}']

def writeItems : List Json → List Char
  | [] => []
  | [item] => write item
  | item :: next :: items => write item ++ ", ".toList ++ writeItems (next :: items)

def writeMembers : List (String × Json) → List Char
  | [] => []
  | [(key, value)] => '"' :: key.toList.flatMap escapeControl ++ "\": ".toList ++ write value
  | (key, value) :: next :: members =>
    '"' :: key.toList.flatMap escapeControl ++ "\": ".toList ++ write value ++ ", ".toList ++
      writeMembers (next :: members)

end

/-! ## 2. Reading -/

def skipSpace (cs : List Char) : List Char := cs.dropWhile (· ∈ [' ', '\t', '\n', '\r'])

def expect (c : Char) : List Char → Option (List Char)
  | [] => none
  | d :: cs => if c = d then some cs else none

def hexValue (c : Char) : Option Nat :=
  if c.isDigit then some (c.toNat - 48)
  else if 'a' ≤ c ∧ c ≤ 'f' then some (c.toNat - 87)
  else if 'A' ≤ c ∧ c ≤ 'F' then some (c.toNat - 55)
  else none

/-- The code unit that four digits stand for. -/
def unitOf (a b c d : Char) : Option Nat := do
  return (← hexValue a) * 0x1000 + (← hexValue b) * 0x100 + (← hexValue c) * 16 + (← hexValue d)

/-- The character that a letter after a backslash stands for. -/
def escaped (c : Char) : Option Nat :=
  if c = '"' ∨ c = '\\' ∨ c = '/' then some c.toNat else if c = 'b' then some 0x08
  else if c = 'f' then some 0x0C else if c = 'n' then some 0x0A else if c = 'r' then some 0x0D
  else if c = 't' then some 0x09 else none

/-- The code units of a text up to its closing quotation mark, and what follows. -/
def readUnits : List Char → Option (List Nat × List Char)
  | [] => none
  | c :: cs =>
    if c = '"' then some ([], cs)
    else if c = '\\' then
      match cs with
      | 'u' :: a :: b :: c :: d :: cs =>
        match unitOf a b c d with
        | some unit => (readUnits cs).map fun read => (unit :: read.1, read.2)
        | none => none
      | letter :: cs =>
        match escaped letter with
        | some unit => (readUnits cs).map fun read => (unit :: read.1, read.2)
        | none => none
      | [] => none
    else if c.toNat < 0x20 then none
    else (readUnits cs).map fun read => (utf16 c ++ read.1, read.2)

/-- The characters of code units, where no half of a pair stands alone. -/
def characters : List Nat → Option (List Char)
  | [] => some []
  | unit :: units =>
    if 0xD800 ≤ unit ∧ unit < 0xDC00 then
      match units with
      | low :: units =>
        if 0xDC00 ≤ low ∧ low < 0xE000 then
          (characters units).map
            (.ofNat (0x10000 + (unit - 0xD800) * 0x400 + (low - 0xDC00)) :: ·)
        else none
      | [] => none
    else if 0xDC00 ≤ unit ∧ unit < 0xE000 then none
    else (characters units).map (.ofNat unit :: ·)

/-- A text after its opening quotation mark. -/
def readText (cs : List Char) : Option (String × List Char) := do
  let (units, rest) ← readUnits cs
  let text ← characters units
  return (String.ofList text, rest)

def decimal (digits : List Char) : Nat := digits.foldl (fun n c => n * 10 + (c.toNat - 48)) 0

def readDigits (cs : List Char) : Option (List Char × List Char) :=
  let digits := cs.takeWhile Char.isDigit
  if digits = [] then none else some (digits, cs.dropWhile Char.isDigit)

/-- The digits after a point, if there is one. -/
def readFraction : List Char → Option (List Char × List Char)
  | '.' :: cs => readDigits cs
  | cs => some ([], cs)

def readExponent : List Char → Option (ℤ × List Char)
  | c :: cs =>
    if c = 'e' ∨ c = 'E' then
      match cs with
      | '+' :: cs => (readDigits cs).map fun read => ((decimal read.1 : ℤ), read.2)
      | '-' :: cs => (readDigits cs).map fun read => (-(decimal read.1 : ℤ), read.2)
      | cs => (readDigits cs).map fun read => ((decimal read.1 : ℤ), read.2)
    else some (0, c :: cs)
  | [] => some (0, [])

def readUnsigned (cs : List Char) : Option (ℚ × List Char) := do
  let (whole, cs) ← readDigits cs
  if whole.head? = some '0' ∧ whole.length ≠ 1 then none
  let (fraction, cs) ← readFraction cs
  let (exponent, cs) ← readExponent cs
  return ((decimal whole + (decimal fraction : ℚ) / 10 ^ fraction.length) * 10 ^ exponent, cs)

def readNumber : List Char → Option (ℚ × List Char)
  | '-' :: cs => (readUnsigned cs).map fun read => (-read.1, read.2)
  | cs => readUnsigned cs

/-- A member of an object: its name, a colon and its value. -/
def readMember (value : List Char → Option (Json × List Char)) (cs : List Char) :
    Option ((String × Json) × List Char) := do
  let cs ← expect '"' (skipSpace cs)
  let (key, cs) ← readText cs
  let cs ← expect ':' (skipSpace cs)
  let (value, cs) ← value cs
  return ((key, value), cs)

/-- Nothing before the closing bracket, or what is read. -/
def unlessClosed (close : Char) (empty : Json) (read : List Char → Option (Json × List Char))
    (cs : List Char) : Option (Json × List Char) :=
  match expect close (skipSpace cs) with
  | some cs => some (empty, cs)
  | none => read cs

mutual

/-- A value; every value inside it costs one of `n`. -/
def readValue : Nat → List Char → Option (Json × List Char)
  | 0, _ => none
  | n + 1, cs =>
    match skipSpace cs with
    | '"' :: cs => (readText cs).map fun read => (.string read.1, read.2)
    | '{' :: cs => unlessClosed '}' (.object []) (readMembers n []) cs
    | '[' :: cs => unlessClosed ']' (.array []) (readItems n []) cs
    | 't' :: 'r' :: 'u' :: 'e' :: cs => some (.bool true, cs)
    | 'f' :: 'a' :: 'l' :: 's' :: 'e' :: cs => some (.bool false, cs)
    | 'n' :: 'u' :: 'l' :: 'l' :: cs => some (.null, cs)
    | cs => (readNumber cs).map fun read => (.number read.1, read.2)

/-- The rest of an object, after the members read so far. -/
def readMembers : Nat → JsonObject → List Char → Option (Json × List Char)
  | 0, _, _ => none
  | n + 1, members, cs => do
    let (member, cs) ← readMember (readValue n) cs
    match skipSpace cs with
    | ',' :: cs => readMembers n (members.set member.1 member.2) cs
    | '}' :: cs => some (.object (members.set member.1 member.2), cs)
    | _ => none

/-- The rest of an array, after the items read so far. -/
def readItems : Nat → List Json → List Char → Option (Json × List Char)
  | 0, _, _ => none
  | n + 1, items, cs => do
    let (value, cs) ← readValue n cs
    match skipSpace cs with
    | ',' :: cs => readItems n (items ++ [value]) cs
    | ']' :: cs => some (.array (items ++ [value]), cs)
    | _ => none

end

/-- `JSON.parse`, where it does not throw -/
def parse (text : String) : Option Json := do
  let (value, rest) ← readValue (text.toList.length + 1) text.toList
  if skipSpace rest = [] then some value else none

/-! ## 3. Texts -/

section RoundTrip

variable {c : Char} {cs rest : List Char} {units : List Nat}

theorem toNat_ranges (c : Char) :
    c.toNat < 0xD800 ∨ (0xE000 ≤ c.toNat ∧ c.toNat < 0x110000) := by
  have hvalid := c.valid
  simp only [UInt32.isValidChar, Nat.isValidChar] at hvalid
  show c.val.toNat < 0xD800 ∨ (0xE000 ≤ c.val.toNat ∧ c.val.toNat < 0x110000)
  omega

theorem characters_utf16 :
    characters (utf16 c ++ units) = (characters units).map (c :: ·) := by
  have hrange := toNat_ranges c
  unfold utf16
  split
  · rename_i hsmall
    rw [List.singleton_append, characters.eq_def]
    dsimp only
    rw [if_neg (by omega), if_neg (by omega), Char.ofNat_toNat]
  · rename_i hlarge
    have hback : 0x10000 + (0xD800 + (c.toNat - 0x10000) / 0x400 - 0xD800) * 0x400 +
        (0xDC00 + (c.toNat - 0x10000) % 0x400 - 0xDC00) = c.toNat := by omega
    rw [List.cons_append, List.singleton_append, characters.eq_def]
    dsimp only
    rw [if_pos (by omega), if_pos (by omega), hback, Char.ofNat_toNat]

theorem characters_flatMap_utf16 (cs : List Char) : characters (cs.flatMap utf16) = some cs := by
  induction cs with
  | nil => rfl
  | cons c cs ih => rw [List.flatMap_cons, characters_utf16, ih, Option.map_some]

theorem hexValue_hexDigit {n : Nat} (h : n < 16) : hexValue (hexDigit n) = some n := by
  have hall : ∀ n : Fin 16, hexValue (hexDigit n) = some n.val := by decide
  exact hall ⟨n, h⟩

theorem readUnits_unitEscape {unit : Nat} (h : unit < 0x10000) :
    readUnits (unitEscape unit ++ cs) =
      (readUnits cs).map fun read => (unit :: read.1, read.2) := by
  have hunit : unitOf (hexDigit (unit / 0x1000 % 16)) (hexDigit (unit / 0x100 % 16))
      (hexDigit (unit / 16 % 16)) (hexDigit (unit % 16)) = some unit := by
    simp only [unitOf, hexValue_hexDigit (Nat.mod_lt _ (by decide : 0 < 16)), Option.pure_def,
      Option.bind_eq_bind, Option.bind_some, Option.some.injEq]
    omega
  rw [unitEscape, List.cons_append, List.cons_append, List.cons_append, List.cons_append,
    List.cons_append, List.cons_append, List.nil_append, readUnits.eq_def]
  simp [hunit]

theorem escaped_of_shortEscape {letter : Char} (h : shortEscape c = some letter) :
    letter ≠ 'u' ∧ escaped letter = some c.toNat ∧ c.toNat < 0x10000 := by
  unfold shortEscape at h
  split_ifs at h with hq hb hn hr ht hf h8 <;>
    (obtain rfl := Option.some.inj h; subst c; decide)

theorem readUnits_escapeAscii :
    readUnits (escapeAscii c ++ cs) =
      (readUnits cs).map fun read => (utf16 c ++ read.1, read.2) := by
  unfold escapeAscii
  cases hshort : shortEscape c with
  | some letter =>
    obtain ⟨hletter, hescaped, hsmall⟩ := escaped_of_shortEscape hshort
    have hunits : utf16 c = [c.toNat] := if_pos hsmall
    rw [hunits]
    dsimp only
    rw [List.cons_append, List.singleton_append, readUnits.eq_def]
    dsimp only
    rw [if_neg (by decide), if_pos rfl]
    split
    · rename_i heq
      exact absurd (List.cons.inj heq).1 hletter
    · rename_i letter' cs' _ heq
      obtain ⟨rfl, rfl⟩ := List.cons.inj heq
      rw [hescaped]
      rfl
    · rename_i heq
      cases heq
  | none =>
    have hplain : c ≠ '"' ∧ c ≠ '\\' := by
      constructor
      · rintro rfl
        exact absurd hshort (by decide)
      · rintro rfl
        exact absurd hshort (by decide)
    dsimp only
    split
    · rename_i hprintable
      have hlarge : ¬c.toNat < 0x20 := by
        have hle : (0x20 : Nat) ≤ c.toNat := hprintable.1
        omega
      rw [List.singleton_append, readUnits.eq_def]
      dsimp only
      rw [if_neg hplain.1, if_neg hplain.2, if_neg hlarge]
    · have hrange := toNat_ranges c
      unfold utf16
      split
      · rename_i hsmall
        rw [List.flatMap_singleton, readUnits_unitEscape hsmall]
        rfl
      · rename_i hpair
        rw [List.flatMap_cons, List.flatMap_singleton, List.append_assoc,
          readUnits_unitEscape (by omega), readUnits_unitEscape (by omega), Option.map_map]
        rfl

theorem readText_quoted (s : String) :
    readText (s.toList.flatMap escapeAscii ++ '"' :: rest) = some (s, rest) := by
  have hunits : ∀ cs : List Char, readUnits (cs.flatMap escapeAscii ++ '"' :: rest) =
      some (cs.flatMap utf16, rest) := by
    intro cs
    induction cs with
    | nil =>
      rw [List.flatMap_nil, List.nil_append, readUnits.eq_def]
      rfl
    | cons c cs ih =>
      rw [List.flatMap_cons, List.append_assoc, readUnits_escapeAscii, ih]
      rfl
  unfold readText
  rw [hunits]
  simp [characters_flatMap_utf16]

/-! ## 4. Objects -/

theorem skipSpace_of_ne (h : c ∉ [' ', '\t', '\n', '\r']) : skipSpace (c :: cs) = c :: cs := by
  rw [skipSpace, List.dropWhile_cons_of_neg (by simpa using h)]

/-- The text of a value is read up to a comma or the end of the object. -/
def ReadsAs (text : List Char) (value : Json) : Prop :=
  ∀ n rest, (∃ cs, rest = ',' :: cs ∨ rest = '}' :: cs) →
    readValue (n + 1) (text ++ rest) = some (value, rest)

theorem readsAs_quoted (s : String) : ReadsAs (quoted s) (.string s) := by
  intro n rest _
  rw [quoted, List.cons_append, List.cons_append, List.append_assoc, List.singleton_append,
    readValue.eq_def]
  dsimp only
  rw [skipSpace_of_ne (by decide)]
  show (readText (s.toList.flatMap escapeAscii ++ '"' :: rest)).map _ = _
  rw [readText_quoted]
  rfl

theorem readNumber_one {c : Char} (h : c = ',' ∨ c = '}') :
    readNumber ('1' :: c :: cs) = some (1, c :: cs) := by
  have hdigits : readDigits ('1' :: c :: cs) = some (['1'], c :: cs) := by
    rcases h with rfl | rfl
    · rfl
    · rfl
  have hfraction : readFraction (c :: cs) = some ([], c :: cs) := by
    rcases h with rfl | rfl
    · rfl
    · rfl
  have hexponent : readExponent (c :: cs) = some (0, c :: cs) := by
    rcases h with rfl | rfl
    · rfl
    · rfl
  show readUnsigned ('1' :: c :: cs) = _
  simp [readUnsigned, hdigits, hfraction, hexponent, decimal]

theorem readsAs_one : ReadsAs ['1'] (.number 1) := by
  intro n rest hrest
  obtain ⟨c, cs, hc, rfl⟩ : ∃ c cs, (c = ',' ∨ c = '}') ∧ rest = c :: cs := by
    obtain ⟨cs, rfl | rfl⟩ := hrest
    · exact ⟨',', cs, .inl rfl, rfl⟩
    · exact ⟨'}', cs, .inr rfl, rfl⟩
  rw [List.singleton_append, readValue.eq_def]
  dsimp only
  rw [skipSpace_of_ne (by decide)]
  show (readNumber ('1' :: c :: cs)).map _ = _
  rw [readNumber_one hc]
  rfl

theorem readsAs_null : ReadsAs ['n', 'u', 'l', 'l'] .null := by
  intro n rest _
  rw [List.cons_append, readValue.eq_def]
  dsimp only
  rw [skipSpace_of_ne (by decide)]
  rfl

/-- A dictionary with the values of some members. -/
def ofMembers (values : List (String × Json)) (members : JsonObject) : JsonObject :=
  values.foldl (fun members value => members.set value.1 value.2) members

/-- The text of a member is read as its value. -/
def Writes (written : String × List Char) (value : String × Json) : Prop :=
  written.1 = value.1 ∧ ReadsAs written.2 value.2

theorem writes_quoted (key s : String) : Writes (key, quoted s) (key, .string s) :=
  ⟨rfl, readsAs_quoted s⟩

theorem writes_one (key : String) : Writes (key, ['1']) (key, .number 1) := ⟨rfl, readsAs_one⟩

theorem readMember_written {key : String} {text : List Char} {value : Json} {n : Nat}
    (hreads : ReadsAs text value) (hrest : ∃ cs, rest = ',' :: cs ∨ rest = '}' :: cs) :
    readMember (readValue (n + 1)) (quoted key ++ ':' :: (text ++ rest)) =
      some ((key, value), rest) := by
  unfold readMember
  rw [quoted, List.cons_append, List.cons_append, List.append_assoc, List.singleton_append,
    skipSpace_of_ne (by decide)]
  simp only [expect, if_true, Option.bind_eq_bind, Option.bind_some, readText_quoted]
  rw [skipSpace_of_ne (by decide)]
  simp only [if_true, Option.bind_some, hreads n rest hrest, Option.pure_def]

/-- The members of an object are read one after the other. -/
theorem readMembers_written {written : List (String × List Char)} {values : List (String × Json)}
    (h : List.Forall₂ Writes written values) (hne : written ≠ []) {n : Nat}
    (hn : written.length < n) (members : JsonObject) :
    readMembers n members (List.intercalate [','] (written.map fun member =>
      quoted member.1 ++ ':' :: member.2) ++ '}' :: rest) =
        some (.object (ofMembers values members), rest) := by
  induction h generalizing n members with
  | nil => exact absurd rfl hne
  | @cons member value written values hmember htail ih =>
    obtain ⟨hkey, hreads⟩ := hmember
    obtain ⟨n, rfl⟩ : ∃ m, n = m + 2 := ⟨n - 2, by simp at hn; omega⟩
    cases htail with
    | nil =>
      simp only [List.map_cons, List.map_nil, List.intercalate_singleton, List.append_assoc,
        List.cons_append]
      rw [readMembers.eq_def]
      dsimp only
      rw [readMember_written hreads ⟨rest, .inr rfl⟩]
      simp only [Option.bind_eq_bind, Option.bind_some]
      rw [skipSpace_of_ne (by decide), hkey]
      rfl
    | @cons member' value' written values hmember' htail =>
      have hlength : written.length + 1 < n + 1 := by
        simp only [List.length_cons] at hn
        omega
      have hrest := ih (List.cons_ne_nil _ _) hlength (members.set member.1 value.2)
      rw [List.map_cons] at hrest
      simp only [List.map_cons, List.intercalate_cons_cons, List.append_assoc, List.cons_append,
        List.nil_append] at hrest ⊢
      rw [readMembers.eq_def]
      dsimp only
      rw [readMember_written hreads ⟨_, .inl rfl⟩]
      simp only [Option.bind_eq_bind, Option.bind_some]
      rw [skipSpace_of_ne (by decide)]
      exact hrest.trans (by rw [hkey]; rfl)

/-- The text of some members begins with a quotation mark and has a letter for each of them. -/
theorem written_spec {written : List (String × List Char)} (hne : written ≠ []) :
    ∃ cs, List.intercalate [','] (written.map fun member =>
      quoted member.1 ++ ':' :: member.2) = '"' :: cs ∧ written.length ≤ cs.length := by
  induction written with
  | nil => exact absurd rfl hne
  | cons member written ih =>
    cases written with
    | nil =>
      refine ⟨member.1.toList.flatMap escapeAscii ++ '"' :: ':' :: member.2, ?_, ?_⟩
      · simp [quoted]
      · simp
        omega
    | cons member' written =>
      obtain ⟨cs, hcs, hlength⟩ := ih (List.cons_ne_nil _ _)
      rw [List.map_cons] at hcs
      refine ⟨member.1.toList.flatMap escapeAscii ++ '"' :: ':' :: (member.2 ++ ',' :: '"' :: cs),
        ?_, ?_⟩
      · rw [List.map_cons, List.map_cons, List.intercalate_cons_cons, hcs]
        simp [quoted]
      · simp only [List.length_cons, List.length_append] at hlength ⊢
        omega

/-- What Python writes of a dictionary is read back. -/
theorem parse_dumps {written : List (String × List Char)} {values : List (String × Json)}
    (h : List.Forall₂ Writes written values) (hne : written ≠ []) :
    parse (String.ofList (dumps written)) = some (.object (ofMembers values [])) := by
  obtain ⟨cs, hcs, hlength⟩ := written_spec hne
  have htext : dumps written = '{' :: '"' :: (cs ++ ['}']) := by
    rw [dumps, hcs]
    rfl
  have hfuel : written.length < (dumps written).length := by
    rw [htext]
    simp only [List.length_cons, List.length_append]
    omega
  unfold parse
  rw [String.toList_ofList]
  generalize (dumps written).length = n at hfuel
  have hmembers : readMembers n [] ('"' :: (cs ++ ['}'])) =
      some (.object (ofMembers values []), []) := by
    rw [← List.cons_append, ← hcs]
    exact readMembers_written h hne hfuel []
  have hvalue : readValue (n + 1) (dumps written) = some (.object (ofMembers values []), []) := by
    rw [readValue.eq_def]
    dsimp only
    rw [htext, skipSpace_of_ne (by decide)]
    show unlessClosed '}' _ _ ('"' :: (cs ++ ['}'])) = _
    rw [unlessClosed, skipSpace_of_ne (by decide)]
    exact hmembers
  rw [hvalue]
  rfl

end RoundTrip

end Json

end SeekTalent

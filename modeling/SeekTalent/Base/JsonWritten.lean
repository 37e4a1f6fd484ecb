import SeekTalent.Base.JsonMask

/-!
# JSON that is written is read back

`parse` reads what `json.dumps` has written, wherever the texts of the numbers are read back and no
object has a key twice (`parse_dumped`). Among these are the values whose numbers are natural
(`parse_write`), so that two of those with the same text are the same value (`write_inj`).
-/

namespace SeekTalent

namespace Json

variable {c : Char} {cs rest : List Char} {value : Json} {n : Nat}

/-- Natural numbers only, and no key twice in one object. -/
inductive Plain : Json → Prop
  | null : Plain .null
  | bool (value : Bool) : Plain (.bool value)
  | number (value : Nat) : Plain (.number value)
  | string (value : String) : Plain (.string value)
  | array {items : List Json} (hitems : ∀ item ∈ items, Plain item) : Plain (.array items)
  | object {members : List (String × Json)} (hkeys : (members.map (·.1)).Nodup)
      (hmembers : ∀ member ∈ members, Plain member.2) : Plain (.object members)

/-! ## 1. Texts -/

theorem readUnits_escapeControl :
    readUnits (escapeControl c ++ cs) =
      (readUnits cs).map fun read => (utf16 c ++ read.1, read.2) := by
  unfold escapeControl
  cases hshort : shortEscape c with
  | some letter =>
    have hascii : escapeAscii c = ['\\', letter] := by
      unfold escapeAscii
      rw [hshort]
    have hread : readUnits (escapeAscii c ++ cs) = _ := readUnits_escapeAscii
    rw [hascii] at hread
    exact hread
  | none =>
    have hplain : c ≠ '"' ∧ c ≠ '\\' := by
      constructor
      · rintro rfl
        exact absurd hshort (by decide)
      · rintro rfl
        exact absurd hshort (by decide)
    dsimp only
    split
    · rename_i hcontrol
      have hunits : utf16 c = [c.toNat] := if_pos (by omega)
      rw [readUnits_unitEscape (by omega), hunits]
      rfl
    · rename_i hlarge
      rw [List.singleton_append, readUnits.eq_def]
      dsimp only
      rw [if_neg hplain.1, if_neg hplain.2, if_neg hlarge]

theorem readText_escaped (s : String) :
    readText (s.toList.flatMap escapeControl ++ '"' :: rest) = some (s, rest) := by
  have hunits : ∀ cs : List Char, readUnits (cs.flatMap escapeControl ++ '"' :: rest) =
      some (cs.flatMap utf16, rest) := by
    intro cs
    induction cs with
    | nil =>
      rw [List.flatMap_nil, List.nil_append, readUnits.eq_def]
      rfl
    | cons c cs ih =>
      rw [List.flatMap_cons, List.append_assoc, readUnits_escapeControl, ih]
      rfl
  unfold readText
  rw [hunits]
  simp [characters_flatMap_utf16]

/-! ## 2. Numbers -/

/-- A value ends here: nothing follows, or a comma or a closing bracket does. -/
def Ends (rest : List Char) : Prop := ∀ c ∈ rest.head?, c ∈ [',', '}', ']']

theorem ends_cons (h : c ∈ [',', '}', ']']) : Ends (c :: cs) := by
  intro d hd
  obtain rfl := Option.some.inj hd
  exact h

theorem ends_nil : Ends [] := by
  intro d hd
  cases hd

theorem decimal_eq (digits : List Char) : decimal digits = Nat.ofDigitChars 10 digits 0 := by
  have hfold : ∀ n, digits.foldl (fun n c => n * 10 + (c.toNat - 48)) n =
      Nat.ofDigitChars 10 digits n := by
    induction digits with
    | nil => simp
    | cons c digits ih =>
      intro n
      rw [List.foldl_cons, ih, Nat.ofDigitChars_cons]
      congr 1
      show n * 10 + (c.toNat - 48) = 10 * n + (c.toNat - 48)
      omega
  exact hfold 0

theorem head?_toDigits : ∀ n : Nat, (Nat.toDigits 10 n).head? = some '0' → n = 0 := by
  intro n
  induction n using Nat.strongRecOn with
  | ind n ih =>
    intro h
    by_cases hn : n < 10
    · rw [Nat.toDigits_of_lt_base hn, List.head?_cons] at h
      have hall : ∀ n : Fin 10, n.val.digitChar = '0' → n.val = 0 := by decide
      exact hall ⟨n, hn⟩ (Option.some.inj h)
    · rw [Nat.toDigits_of_base_le (by decide) (by omega),
        List.head?_append_of_ne_nil _ Nat.toDigits_ne_nil] at h
      have := ih (n / 10) (by omega) h
      omega

theorem readDigits_digits (n : Nat) (h : Ends rest) :
    readDigits (Nat.toDigits 10 n ++ rest) = some (Nat.toDigits 10 n, rest) := by
  have hdigits : ∀ c ∈ Nat.toDigits 10 n, c.isDigit = true := fun c hc =>
    Nat.isDigit_of_mem_toDigits (by decide) (by decide) hc
  have htake : rest.takeWhile Char.isDigit = [] ∧ rest.dropWhile Char.isDigit = rest := by
    cases rest with
    | nil => exact ⟨rfl, rfl⟩
    | cons c cs =>
      have hc : c.isDigit = false := by
        have hmem := h c rfl
        simp only [List.mem_cons, List.not_mem_nil, or_false] at hmem
        rcases hmem with rfl | rfl | rfl <;> rfl
      simp [hc]
  unfold readDigits
  rw [List.takeWhile_append_of_pos hdigits, List.dropWhile_append_of_pos hdigits, htake.1, htake.2,
    List.append_nil, if_neg Nat.toDigits_ne_nil]

theorem readUnsigned_digits (n : Nat) (h : Ends rest) :
    readUnsigned (Nat.toDigits 10 n ++ rest) = some ((n : ℚ), rest) := by
  have hwhole : ¬((Nat.toDigits 10 n).head? = some '0' ∧ (Nat.toDigits 10 n).length ≠ 1) := by
    rintro ⟨hhead, hlength⟩
    obtain rfl := head?_toDigits n hhead
    exact hlength rfl
  have hfraction : readFraction rest = some ([], rest) := by
    unfold readFraction
    split
    · rename_i cs
      have hmem := h '.' rfl
      simp at hmem
    · rfl
  have hexponent : readExponent rest = some (0, rest) := by
    cases rest with
    | nil => rfl
    | cons c cs =>
      have hmem := h c rfl
      unfold readExponent
      dsimp only
      rw [if_neg]
      rintro (rfl | rfl)
      · simp at hmem
      · simp at hmem
  unfold readUnsigned
  rw [readDigits_digits n h]
  simp only [Option.bind_eq_bind, Option.bind_some, if_neg hwhole, hfraction, hexponent,
    decimal_eq, Nat.ofDigitChars_ten_toDigits, Option.pure_def]
  simp

theorem readNumber_digits (n : Nat) (h : Ends rest) :
    readNumber (Nat.toDigits 10 n ++ rest) = some ((n : ℚ), rest) := by
  unfold readNumber
  split
  · rename_i cs heq
    cases hdigits : Nat.toDigits 10 n with
    | nil => exact absurd hdigits Nat.toDigits_ne_nil
    | cons d ds =>
      rw [hdigits, List.cons_append] at heq
      have hd : d.isDigit = true :=
        Nat.isDigit_of_mem_toDigits (by decide) (by decide) (hdigits ▸ List.mem_cons_self)
      rw [(List.cons.inj heq).1] at hd
      exact absurd hd (by decide)
  · exact readUnsigned_digits n h

theorem readNumber_negative (n : Nat) (h : Ends rest) :
    readNumber ('-' :: (Nat.toDigits 10 n ++ rest)) = some (-(n : ℚ), rest) := by
  show (readUnsigned (Nat.toDigits 10 n ++ rest)).map _ = _
  rw [readUnsigned_digits n h]
  rfl

/-! ## 3. Values -/

/-- A character that the text of a number may have. -/
def NumberChar (c : Char) : Prop := c.isDigit = true ∨ c ∈ ['-', '+', '.', 'e', 'E']

instance : DecidablePred NumberChar := fun c =>
  inferInstanceAs (Decidable (c.isDigit = true ∨ c ∈ ['-', '+', '.', 'e', 'E']))

variable {numberText : ℚ → String}

/-- The text of a number is read up to its end. -/
structure NumberReads (numberText : ℚ → String) (value : ℚ) : Prop where
  chars : ∀ c ∈ (numberText value).toList, NumberChar c
  ne_nil : (numberText value).toList ≠ []
  reads : ∀ rest, Ends rest →
    readNumber ((numberText value).toList ++ rest) = some (value, rest)

variable (numberText) in
/-- Numbers that are read back only, and no key twice in one object. -/
inductive Readable : Json → Prop
  | null : Readable .null
  | bool (value : Bool) : Readable (.bool value)
  | number (value : ℚ) (h : NumberReads numberText value) : Readable (.number value)
  | string (value : String) : Readable (.string value)
  | array {items : List Json} (hitems : ∀ item ∈ items, Readable item) : Readable (.array items)
  | object {members : List (String × Json)} (hkeys : (members.map (·.1)).Nodup)
      (hmembers : ∀ member ∈ members, Readable member.2) : Readable (.object members)

theorem dumped_eq_cons (h : Readable numberText value) :
    ∃ c cs, dumped numberText value = c :: cs ∧ c ∉ [' ', '\t', '\n', '\r', ']', '}'] := by
  cases h with
  | null => exact ⟨'n', _, String.toList_ofList, by decide⟩
  | bool value =>
    cases value with
    | true => exact ⟨'t', _, String.toList_ofList, by decide⟩
    | false => exact ⟨'f', _, String.toList_ofList, by decide⟩
  | string value => exact ⟨'"', _, by rw [dumped, quotedText, List.cons_append], by decide⟩
  | array hitems => exact ⟨'[', _, by rw [dumped, List.cons_append], by decide⟩
  | object hkeys hmembers => exact ⟨'{', _, by rw [dumped, List.cons_append], by decide⟩
  | number value h =>
    cases hchars : (numberText value).toList with
    | nil => exact absurd hchars h.ne_nil
    | cons c cs =>
      refine ⟨c, cs, by rw [dumped, hchars], ?_⟩
      intro hmem
      simp only [List.mem_cons, List.not_mem_nil, or_false] at hmem
      have hc : NumberChar c := h.chars c (hchars ▸ List.mem_cons_self)
      rcases hmem with rfl | rfl | rfl | rfl | rfl | rfl <;> exact absurd hc (by decide)

theorem readValue_space : readValue n (' ' :: cs) = readValue n cs := by
  cases n with
  | zero => simp [readValue]
  | succ n =>
    have hskip : skipSpace (' ' :: cs) = skipSpace cs := by
      rw [skipSpace, List.dropWhile_cons_of_pos (by decide)]
      rfl
    rw [readValue.eq_def, readValue.eq_def]
    dsimp only
    rw [hskip]

/-- What is written of a value is read up to its end, by a reader that goes deep enough. -/
def ReadBack (numberText : ℚ → String) (value : Json) : Prop :=
  ∀ n rest, (dumped numberText value).length < n → Ends rest →
    readValue n (dumped numberText value ++ rest) = some (value, rest)

theorem readItems_space {items : List Json} :
    readItems n items (' ' :: cs) = readItems n items cs := by
  cases n with
  | zero => simp [readItems]
  | succ n =>
    rw [readItems.eq_def, readItems.eq_def]
    dsimp only
    rw [readValue_space]

theorem readMembers_space {members : JsonObject} :
    readMembers n members (' ' :: cs) = readMembers n members cs := by
  cases n with
  | zero => simp [readMembers]
  | succ n =>
    have hskip : skipSpace (' ' :: cs) = skipSpace cs := by
      rw [skipSpace, List.dropWhile_cons_of_pos (by decide)]
      rfl
    rw [readMembers.eq_def, readMembers.eq_def]
    dsimp only
    unfold readMember
    rw [hskip]

variable (rest) in
/-- The items of an array are read one after the other. -/
theorem readItems_dumpedItems {items : List Json} (hitems : ∀ item ∈ items, ReadBack numberText item)
    (hne : items ≠ []) (before : List Json) (hn : (dumpedItems numberText items).length + 1 < n) :
    readItems n before (dumpedItems numberText items ++ ']' :: rest) = some (.array (before ++ items), rest) := by
  induction items generalizing n before with
  | nil => exact absurd rfl hne
  | cons item items ih =>
    obtain ⟨n, rfl⟩ : ∃ m, n = m + 1 := ⟨n - 1, by omega⟩
    have hitem := hitems item List.mem_cons_self
    rw [readItems.eq_def]
    dsimp only
    cases items with
    | nil =>
      rw [dumpedItems] at hn ⊢
      rw [hitem n _ (by omega) (ends_cons (by decide))]
      simp only [Option.bind_eq_bind, Option.bind_some]
      rw [skipSpace_of_ne (by decide)]
      rfl
    | cons next items =>
      have hsep : ", ".toList = [',', ' '] := String.toList_ofList
      rw [dumpedItems, hsep] at hn ⊢
      simp only [List.length_append, List.length_cons, List.length_nil] at hn
      rw [List.append_assoc, List.append_assoc, List.cons_append,
        hitem n _ (by omega) (ends_cons (by decide))]
      simp only [Option.bind_eq_bind, Option.bind_some]
      rw [skipSpace_of_ne (by decide)]
      show readItems n (before ++ [item]) (' ' :: (dumpedItems numberText (next :: items) ++ ']' :: rest)) = _
      rw [readItems_space, ih (fun other hother => hitems other (List.mem_cons_of_mem item hother))
        (List.cons_ne_nil _ _) (before ++ [item]) (by omega), List.append_assoc]
      rfl

theorem set_of_notMem {members : JsonObject} {key : String} (h : key ∉ members.map (·.1)) :
    members.set key value = members ++ [(key, value)] := by
  unfold JsonObject.set
  rw [if_neg]
  intro hany
  obtain ⟨member, hmember, hkey⟩ := List.any_eq_true.mp hany
  exact h (List.mem_map.mpr ⟨member, hmember, of_decide_eq_true hkey⟩)

theorem readMember_dumped {key : String} (hvalue : ReadBack numberText value)
    (hn : (dumped numberText value).length < n) (hends : Ends rest) :
    readMember (readValue n) (quotedText key ++ (": ".toList ++ (dumped numberText value ++ rest))) =
      some ((key, value), rest) := by
  have hcolon : ": ".toList = [':', ' '] := String.toList_ofList
  have htext : quotedText key ++ (": ".toList ++ (dumped numberText value ++ rest)) =
      '"' :: (key.toList.flatMap escapeControl ++
        '"' :: ':' :: ' ' :: (dumped numberText value ++ rest)) := by
    simp [hcolon, quotedText]
  unfold readMember
  rw [htext, skipSpace_of_ne (by decide)]
  simp only [expect, if_true, Option.bind_eq_bind, Option.bind_some, readText_escaped]
  rw [skipSpace_of_ne (by decide)]
  simp only [if_true, Option.bind_some, readValue_space, hvalue n rest hn hends, Option.pure_def]

variable (rest) in
/-- The members of an object are read one after the other. -/
theorem readMembers_dumpedMembers {members : List (String × Json)}
    (hmembers : ∀ member ∈ members, ReadBack numberText member.2) (hne : members ≠ []) (before : JsonObject)
    (hkeys : ((before ++ members).map (·.1)).Nodup) (hn : (dumpedMembers numberText members).length + 1 < n) :
    readMembers n before (dumpedMembers numberText members ++ '}' :: rest) =
      some (.object (before ++ members), rest) := by
  induction members generalizing n before with
  | nil => exact absurd rfl hne
  | cons member members ih =>
    obtain ⟨key, value⟩ := member
    obtain ⟨n, rfl⟩ : ∃ m, n = m + 1 := ⟨n - 1, by omega⟩
    have hvalue : ReadBack numberText value := hmembers (key, value) List.mem_cons_self
    have hset : before.set key value = before ++ [(key, value)] := by
      apply set_of_notMem
      rw [List.map_append, List.nodup_append] at hkeys
      intro hmem
      exact hkeys.2.2 key hmem key (by simp) rfl
    rw [readMembers.eq_def]
    dsimp only
    cases members with
    | nil =>
      rw [dumpedMembers] at hn ⊢
      simp only [List.length_append] at hn
      rw [List.append_assoc, List.append_assoc,
        readMember_dumped hvalue (by omega) (ends_cons (by decide))]
      simp only [Option.bind_eq_bind, Option.bind_some]
      rw [skipSpace_of_ne (by decide), ← hset]
      rfl
    | cons next members =>
      have hsep : ", ".toList = [',', ' '] := String.toList_ofList
      rw [dumpedMembers, hsep] at hn ⊢
      simp only [List.length_append, List.length_cons, List.length_nil] at hn
      have hshape : quotedText key ++ (": ".toList ++ (dumped numberText value ++ ([',', ' '] ++
            dumpedMembers numberText (next :: members)))) ++ '}' :: rest =
          quotedText key ++ (": ".toList ++ (dumped numberText value ++
            ',' :: ' ' :: (dumpedMembers numberText (next :: members) ++ '}' :: rest))) := by
        simp
      rw [hshape, readMember_dumped hvalue (by omega) (ends_cons (by decide))]
      simp only [Option.bind_eq_bind, Option.bind_some]
      rw [skipSpace_of_ne (by decide)]
      show readMembers n (before.set key value)
        (' ' :: (dumpedMembers numberText (next :: members) ++ '}' :: rest)) = _
      rw [readMembers_space, hset, ih (fun other hother =>
        hmembers other (List.mem_cons_of_mem _ hother)) (List.cons_ne_nil _ _) _
          (by rw [List.append_assoc]; exact hkeys) (by omega), List.append_assoc]
      rfl

/-- The first character of what follows an opening bracket is not the closing one. -/
theorem unlessClosed_of_ne {close : Char} {empty : Json}
    {read : List Char → Option (Json × List Char)} (hspace : c ∉ [' ', '\t', '\n', '\r'])
    (hclose : close ≠ c) : unlessClosed close empty read (c :: cs) = read (c :: cs) := by
  unfold unlessClosed
  rw [skipSpace_of_ne hspace, expect, if_neg hclose]

theorem dumpedItems_eq_cons {items : List Json} (hitems : ∀ item ∈ items, Readable numberText item)
    (hne : items ≠ []) :
    ∃ c cs, dumpedItems numberText items = c :: cs ∧ c ∉ [' ', '\t', '\n', '\r', ']', '}'] := by
  cases items with
  | nil => exact absurd rfl hne
  | cons item items =>
    obtain ⟨c, cs, hwrite, hc⟩ := dumped_eq_cons (hitems item List.mem_cons_self)
    cases items with
    | nil => exact ⟨c, cs, by rw [dumpedItems, hwrite], hc⟩
    | cons next items =>
      exact ⟨c, _, by rw [dumpedItems, hwrite, List.cons_append], hc⟩

theorem dumpedMembers_eq_cons {members : List (String × Json)} (hne : members ≠ []) :
    ∃ cs, dumpedMembers numberText members = '"' :: cs := by
  cases members with
  | nil => exact absurd rfl hne
  | cons member members =>
    obtain ⟨key, value⟩ := member
    cases members with
    | nil =>
      exact ⟨_, by rw [dumpedMembers, quotedText, List.cons_append, List.cons_append]⟩
    | cons next members =>
      exact ⟨_, by rw [dumpedMembers, quotedText, List.cons_append, List.cons_append]⟩

theorem readValue_number {value : ℚ} (h : NumberReads numberText value) (hends : Ends rest) :
    readValue (n + 1) ((numberText value).toList ++ rest) = some (.number value, rest) := by
  obtain ⟨c, cs, hwrite, hc⟩ := dumped_eq_cons (.number value h)
  rw [dumped] at hwrite
  have hnumber := h.reads rest hends
  have hskip : skipSpace ((numberText value).toList ++ rest) = (numberText value).toList ++ rest := by
    rw [hwrite, List.cons_append]
    apply skipSpace_of_ne
    intro hmem
    apply hc
    simp only [List.mem_cons] at hmem ⊢
    tauto
  have hchar : NumberChar c := h.chars c (hwrite ▸ List.mem_cons_self)
  rw [readValue.eq_def]
  dsimp only
  rw [hskip]
  rw [hwrite, List.cons_append] at hnumber ⊢
  split
  · rename_i heq
    rw [(List.cons.inj heq).1] at hchar
    exact absurd hchar (by decide)
  · rename_i heq
    rw [(List.cons.inj heq).1] at hchar
    exact absurd hchar (by decide)
  · rename_i heq
    rw [(List.cons.inj heq).1] at hchar
    exact absurd hchar (by decide)
  · rename_i heq
    rw [(List.cons.inj heq).1] at hchar
    exact absurd hchar (by decide)
  · rename_i heq
    rw [(List.cons.inj heq).1] at hchar
    exact absurd hchar (by decide)
  · rename_i heq
    rw [(List.cons.inj heq).1] at hchar
    exact absurd hchar (by decide)
  · rw [hnumber]
    rfl

theorem readBack_of_readable (h : Readable numberText value) : ReadBack numberText value := by
  induction value using Json.induction with
  | null =>
    intro n rest hn _
    obtain ⟨n, rfl⟩ : ∃ m, n = m + 1 := ⟨n - 1, by omega⟩
    have htext : dumped numberText .null = ['n', 'u', 'l', 'l'] := String.toList_ofList
    rw [htext, readValue.eq_def]
    rfl
  | bool value =>
    intro n rest hn _
    obtain ⟨n, rfl⟩ : ∃ m, n = m + 1 := ⟨n - 1, by omega⟩
    cases value with
    | true =>
      have htext : dumped numberText (.bool true) = ['t', 'r', 'u', 'e'] := String.toList_ofList
      rw [htext, readValue.eq_def]
      rfl
    | false =>
      have htext : dumped numberText (.bool false) = ['f', 'a', 'l', 's', 'e'] := String.toList_ofList
      rw [htext, readValue.eq_def]
      rfl
  | number value =>
    intro n rest hn hends
    obtain ⟨n, rfl⟩ : ∃ m, n = m + 1 := ⟨n - 1, by omega⟩
    cases h with
    | number value h =>
      rw [dumped]
      exact readValue_number h hends
  | string value =>
    intro n rest hn _
    obtain ⟨n, rfl⟩ : ∃ m, n = m + 1 := ⟨n - 1, by omega⟩
    rw [dumped, quotedText, List.cons_append, List.cons_append, List.append_assoc,
      List.singleton_append, readValue.eq_def]
    dsimp only
    rw [skipSpace_of_ne (by decide)]
    show (readText (value.toList.flatMap escapeControl ++ '"' :: rest)).map _ = _
    rw [readText_escaped]
    rfl
  | array items ih =>
    intro n rest hn _
    obtain ⟨n, rfl⟩ : ∃ m, n = m + 1 := ⟨n - 1, by omega⟩
    cases h with
    | array hitems =>
      rw [dumped] at hn ⊢
      rw [List.cons_append, List.cons_append, List.append_assoc, List.singleton_append,
        readValue.eq_def]
      dsimp only
      rw [skipSpace_of_ne (by decide)]
      show unlessClosed ']' (.array []) (readItems n []) (dumpedItems numberText items ++ ']' :: rest) = _
      by_cases hne : items = []
      · subst hne
        rw [dumpedItems, List.nil_append, unlessClosed, skipSpace_of_ne (by decide)]
        rfl
      · obtain ⟨c, cs, hwrite, hc⟩ := dumpedItems_eq_cons hitems hne
        have hread := readItems_dumpedItems rest (fun item hitem =>
          ih item hitem (hitems item hitem)) hne [] (n := n) (by
            simp only [List.length_append, List.length_cons, List.length_nil] at hn
            omega)
        rw [hwrite, List.cons_append] at hread ⊢
        rw [unlessClosed_of_ne, hread]
        · rfl
        · intro hmem
          apply hc
          simp only [List.mem_cons] at hmem ⊢
          tauto
        · rintro rfl
          simp at hc
  | object members ih =>
    intro n rest hn _
    obtain ⟨n, rfl⟩ : ∃ m, n = m + 1 := ⟨n - 1, by omega⟩
    cases h with
    | object hkeys hmembers =>
      rw [dumped] at hn ⊢
      rw [List.cons_append, List.cons_append, List.append_assoc, List.singleton_append,
        readValue.eq_def]
      dsimp only
      rw [skipSpace_of_ne (by decide)]
      show unlessClosed '}' (.object []) (readMembers n []) (dumpedMembers numberText members ++ '}' :: rest) = _
      by_cases hne : members = []
      · subst hne
        rw [dumpedMembers, List.nil_append, unlessClosed, skipSpace_of_ne (by decide)]
        rfl
      · obtain ⟨cs, hwrite⟩ := dumpedMembers_eq_cons hne
        have hread := readMembers_dumpedMembers rest (fun member hmember =>
          ih member hmember (hmembers member hmember)) hne [] (n := n) hkeys (by
            simp only [List.length_append, List.length_cons, List.length_nil] at hn
            omega)
        rw [hwrite, List.cons_append] at hread ⊢
        rw [unlessClosed_of_ne (by decide) (by decide), hread]
        rfl

/-- **What is dumped is read back.** -/
theorem parse_dumped (h : Readable numberText value) :
    parse (String.ofList (dumped numberText value)) = some value := by
  unfold parse
  rw [String.toList_ofList]
  have hread := readBack_of_readable h ((dumped numberText value).length + 1) [] (by omega) ends_nil
  rw [List.append_nil] at hread
  rw [hread]
  rfl

/-! ## 4. Natural numbers -/

/-- What `write` writes of a number. -/
def wholeText (value : ℚ) : String := toString value.num

theorem numberReads_natural (n : Nat) : NumberReads wholeText n := by
  have htext : (wholeText n).toList = Nat.toDigits 10 n := by
    unfold wholeText
    rw [Rat.num_natCast]
    exact Nat.toList_repr
  refine ⟨fun c hc => ?_, ?_, fun rest hends => ?_⟩
  · rw [htext] at hc
    exact .inl (Nat.isDigit_of_mem_toDigits (by decide) (by decide) hc)
  · rw [htext]
    exact Nat.toDigits_ne_nil
  · rw [htext]
    exact readNumber_digits n hends

theorem numberReads_whole (n : ℤ) : NumberReads wholeText n := by
  cases n with
  | ofNat n => exact numberReads_natural n
  | negSucc n =>
    have htext : (wholeText (Int.negSucc n : ℤ)).toList = '-' :: Nat.toDigits 10 (n + 1) := by
      unfold wholeText
      rw [Rat.num_intCast]
      show ("-" ++ Nat.repr (n + 1)).toList = _
      rw [String.toList_append, Nat.toList_repr]
      rfl
    refine ⟨fun c hc => ?_, ?_, fun rest hends => ?_⟩
    · rw [htext] at hc
      rcases List.mem_cons.mp hc with rfl | hc
      · decide
      · exact .inl (Nat.isDigit_of_mem_toDigits (by decide) (by decide) hc)
    · rw [htext]
      exact List.cons_ne_nil _ _
    · rw [htext, List.cons_append, readNumber_negative (n + 1) hends]
      simp [Int.negSucc_eq]

theorem readable_of_plain (h : Plain value) : Readable wholeText value := by
  induction h with
  | null => exact .null
  | bool value => exact .bool value
  | number value => exact .number _ (numberReads_natural value)
  | string value => exact .string value
  | array _ ih => exact .array ih
  | object hkeys _ ih => exact .object hkeys ih

theorem write_eq_dumped : write value = dumped wholeText value := by
  have hitems : ∀ items : List Json, (∀ item ∈ items, write item = dumped wholeText item) →
      writeItems items = dumpedItems wholeText items := by
    intro items h
    induction items with
    | nil => rw [writeItems, dumpedItems]
    | cons item items ih =>
      obtain ⟨hitem, hitems⟩ := List.forall_mem_cons.mp h
      cases items with
      | nil => rw [writeItems, dumpedItems, hitem]
      | cons next items => rw [writeItems, dumpedItems, hitem, ih hitems, List.append_assoc]
  have hmembers : ∀ members : List (String × Json),
      (∀ member ∈ members, write member.2 = dumped wholeText member.2) →
        writeMembers members = dumpedMembers wholeText members := by
    have hcolon : "\": ".toList = '"' :: ": ".toList := by
      rw [show "\": ".toList = ['"', ':', ' '] from String.toList_ofList,
        show ": ".toList = [':', ' '] from String.toList_ofList]
    intro members h
    induction members with
    | nil => rw [writeMembers, dumpedMembers]
    | cons member members ih =>
      obtain ⟨key, value⟩ := member
      obtain ⟨hmember, hmembers⟩ := List.forall_mem_cons.mp h
      have hmember : write value = dumped wholeText value := hmember
      cases members with
      | nil => simp [writeMembers, dumpedMembers, quotedText, hmember, hcolon]
      | cons next members =>
        rw [writeMembers, dumpedMembers, ih hmembers]
        simp [quotedText, hmember, hcolon]
  induction value using Json.induction with
  | null => rw [write, dumped]
  | bool value => cases value <;> rw [write, dumped]
  | number value =>
    rw [write, dumped]
    rfl
  | string value =>
    rw [write, dumped]
    rfl
  | array items ih => rw [write, dumped, hitems items ih]
  | object members ih => rw [write, dumped, hmembers members ih]

/-- **What is written is read back.** -/
theorem parse_write (h : Plain value) : parse (String.ofList (write value)) = some value := by
  rw [write_eq_dumped]
  exact parse_dumped (readable_of_plain h)

end Json

end SeekTalent

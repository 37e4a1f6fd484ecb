import Mathlib.Data.Finset.Card
import SeekTalent.Base.JsonTree
import SeekTalent.Base.Table
import SeekTalent.Workbench.Redaction

/-!
# Redaction of any payload

`redact_event_payload` is given whatever a caller has: mappings with keys of any kind, tuples, and
objects of which it keeps only their text. A member whose key looks like a secret is renamed to the
next `redacted_0`, `redacted_1`, …; the names are not looked up among the members that are there,
nor are two keys with one text told apart. The text of an object is not looked at.
-/

namespace SeekTalent

/-- A Python value, with `ν` for its numbers. A key of a mapping, and an object that is nothing
    else, are given by `str`. -/
inductive Payload (ν : Type) where
  | none
  | bool (value : Bool)
  | number (value : ν)
  | string (value : String)
  | list (items : List (Payload ν))
  | tuple (items : List (Payload ν))
  | mapping (entries : List (String × Payload ν))
  | other (text : String)

namespace Payload

variable {ν : Type}

/-! ## 1. The values -/

/-- **The rule for payloads**: a property of the items is one of the list, and so on. -/
theorem induction {P : Payload ν → Prop} (none : P .none) (bool : ∀ value, P (.bool value))
    (number : ∀ value, P (.number value)) (string : ∀ value, P (.string value))
    (list : ∀ items, (∀ item ∈ items, P item) → P (.list items))
    (tuple : ∀ items, (∀ item ∈ items, P item) → P (.tuple items))
    (mapping : ∀ entries, (∀ entry ∈ entries, P entry.2) → P (.mapping entries))
    (other : ∀ text, P (.other text)) (value : Payload ν) : P value := by
  refine @Payload.rec ν P (fun items => ∀ item ∈ items, P item)
    (fun entries => ∀ entry ∈ entries, P entry.2) (fun entry => P entry.2)
    none bool number string list tuple mapping other ?_ ?_ ?_ ?_ ?_ value
  · simp
  · intro item items hitem hitems
    exact List.forall_mem_cons.mpr ⟨hitem, hitems⟩
  · simp
  · intro entry entries hentry hentries
    exact List.forall_mem_cons.mpr ⟨hentry, hentries⟩
  · exact fun _ _ h => h

/-- The value stands in the other, at any depth. -/
inductive Occurs : Payload ν → Payload ν → Prop where
  | here {value : Payload ν} : Occurs value value
  | list {items : List (Payload ν)} {item value : Payload ν} (hitem : item ∈ items)
      (h : Occurs item value) : Occurs (.list items) value
  | tuple {items : List (Payload ν)} {item value : Payload ν} (hitem : item ∈ items)
      (h : Occurs item value) : Occurs (.tuple items) value
  | mapping {entries : List (String × Payload ν)} {key : String} {item value : Payload ν}
      (hitem : (key, item) ∈ entries) (h : Occurs item value) : Occurs (.mapping entries) value

/-! ## 2. The redaction -/

variable (tables : Py.UnicodeTables)

/-- The name that the `index`th secret member of a mapping gets. -/
def numbered (index : Nat) : String := s!"redacted_{index}"

mutual

def redactEventPayload : Payload ν → Payload ν
  | .mapping entries => .mapping (redactEntries [] 0 entries)
  | .list items => .list (redactItems items)
  | .tuple items => .list (redactItems items)
  | .string value => .string (Redaction.redactText tables value)
  | .none => .none
  | .bool value => .bool value
  | .number value => .number value
  | .other text => .string text

def redactItems : List (Payload ν) → List (Payload ν)
  | [] => []
  | item :: items => redactEventPayload item :: redactItems items

/-- The loop over the members: `redacted` is the mapping so far, and `index` how many of its
    members are secrets. -/
def redactEntries (redacted : List (String × Payload ν)) (index : Nat) :
    List (String × Payload ν) → List (String × Payload ν)
  | [] => redacted
  | (key, item) :: entries =>
    if Redaction.containsForbiddenKey tables key then
      redactEntries (Table.upsert Prod.fst redacted (numbered index, .string Redaction.REDACTED))
        (index + 1) entries
    else
      redactEntries (Table.upsert Prod.fst redacted (key, redactEventPayload item)) index entries

end

theorem redactItems_eq (items : List (Payload ν)) :
    redactItems tables items = items.map (redactEventPayload tables) := by
  induction items with
  | nil => rw [redactItems, List.map_nil]
  | cons item items ih => rw [redactItems, ih, List.map_cons]

def renamed (index : Nat) : List (String × Payload ν) → List (String × Payload ν)
  | [] => []
  | (key, item) :: entries =>
    if Redaction.containsForbiddenKey tables key then
      (numbered index, .string Redaction.REDACTED) :: renamed (index + 1) entries
    else (key, redactEventPayload tables item) :: renamed index entries

def names (index : Nat) (entries : List (String × Payload ν)) : List String :=
  (renamed tables index entries).map Prod.fst

variable {tables}
variable {redacted entries : List (String × Payload ν)} {index : Nat} {value item : Payload ν}

theorem length_renamed : (renamed tables index entries).length = entries.length := by
  induction entries generalizing index with
  | nil => rfl
  | cons entry entries ih =>
    obtain ⟨key, item⟩ := entry
    unfold renamed
    split
    · rw [List.length_cons, ih, List.length_cons]
    · rw [List.length_cons, ih, List.length_cons]

/-- **The loop writes the renamed members**, one after the other. -/
theorem redactEntries_eq : redactEntries tables redacted index entries =
    Table.upsertAll Prod.fst redacted (renamed tables index entries) := by
  induction entries generalizing redacted index with
  | nil =>
    rw [redactEntries]
    rfl
  | cons entry entries ih =>
    obtain ⟨key, item⟩ := entry
    rw [redactEntries, renamed]
    split
    · rw [ih]
      rfl
    · rw [ih]
      rfl

theorem redactEntries_of_nodup (h : (names tables 0 entries).Nodup) :
    redactEntries tables [] 0 entries = renamed tables 0 entries := by
  rw [redactEntries_eq, Table.upsertAll_eq_append h]
  · rw [List.nil_append]
  · simp

/-- **No entry is lost** exactly if the new names are distinct. -/
theorem length_redactEntries_iff :
    (redactEntries tables [] 0 entries).length = entries.length ↔ (names tables 0 entries).Nodup := by
  constructor
  · intro h
    have hkeys : ((redactEntries tables [] 0 entries).map Prod.fst).toFinset =
        (names tables 0 entries).toFinset := by
      ext name
      rw [List.mem_toFinset, List.mem_toFinset, redactEntries_eq, Table.mem_map_key_upsertAll]
      simp [names]
    have hnodup : ((redactEntries tables [] 0 entries).map Prod.fst).Nodup := by
      rw [redactEntries_eq]
      exact Table.nodup_keys_upsertAll List.nodup_nil
    have hlength : (names tables 0 entries).length = entries.length := by
      rw [names, List.length_map, length_renamed]
    have hcard := List.toFinset_card_of_nodup hnodup
    rw [hkeys, List.card_toFinset, List.length_map, h, ← hlength] at hcard
    exact List.dedup_eq_self.mp ((List.dedup_sublist _).eq_of_length hcard)
  · intro h
    rw [redactEntries_of_nodup h, length_renamed]

theorem mem_redactEntries {entry : String × Payload ν}
    (h : entry ∈ redactEntries tables [] 0 entries) : entry ∈ renamed tables 0 entries := by
  rw [redactEntries_eq] at h
  rcases Table.mem_of_mem_upsertAll h with hnone | hmem
  · cases hnone
  · exact hmem

theorem mem_renamed {entry : String × Payload ν} (h : entry ∈ renamed tables index entries) :
    (∃ index', entry = (numbered index', .string Redaction.REDACTED)) ∨
      ∃ key item, (key, item) ∈ entries ∧ Redaction.containsForbiddenKey tables key = false ∧
        entry = (key, redactEventPayload tables item) := by
  induction entries generalizing index with
  | nil => cases h
  | cons first entries ih =>
    obtain ⟨key, item⟩ := first
    unfold renamed at h
    split at h
    · rcases List.mem_cons.mp h with rfl | h
      · exact .inl ⟨index, rfl⟩
      · rcases ih h with hnumbered | ⟨key', item', hmem, hquiet, heq⟩
        · exact .inl hnumbered
        · exact .inr ⟨key', item', List.mem_cons_of_mem _ hmem, hquiet, heq⟩
    · rename_i hquiet
      rcases List.mem_cons.mp h with rfl | h
      · exact .inr ⟨key, item, List.mem_cons_self, eq_false_of_ne_true hquiet, rfl⟩
      · rcases ih h with hnumbered | ⟨key', item', hmem, hquiet', heq⟩
        · exact .inl hnumbered
        · exact .inr ⟨key', item', List.mem_cons_of_mem _ hmem, hquiet', heq⟩

theorem mem_renamed_of_mem {key : String} (hmem : (key, item) ∈ entries)
    (hquiet : Redaction.containsForbiddenKey tables key = false) :
    (key, redactEventPayload tables item) ∈ renamed tables index entries := by
  induction entries generalizing index with
  | nil => cases hmem
  | cons first entries ih =>
    obtain ⟨key', item'⟩ := first
    unfold renamed
    rcases List.mem_cons.mp hmem with heq | hmem
    · obtain ⟨rfl, rfl⟩ := Prod.mk.inj heq
      rw [if_neg (by simp [hquiet])]
      exact List.mem_cons_self
    · split
      · exact List.mem_cons_of_mem _ (ih hmem)
      · exact List.mem_cons_of_mem _ (ih hmem)

/-! ## 3. The names and the text of the redaction -/

section Marks

variable {tables : WordTables}

def plain (c : Char) : Bool := c ∈ ['r', 'e', 'd', 'a', 'c', 't', '_'] || c.isDigit

theorem plain_of_mem_numbered {c : Char} (h : c ∈ (numbered index).toList) : plain c = true := by
  have hname : (numbered index).toList = "redacted_".toList ++ (toString index).toList := by
    unfold numbered
    rw [String.toList_append]
    rfl
  rw [hname] at h
  rcases List.mem_append.mp h with hmem | hmem
  · have hall : ("redacted_".toList.all plain) = true := by decide
    exact List.all_eq_true.mp hall c hmem
  · simp [plain, Py.isDigit_of_mem_repr hmem]

theorem plain_ascii {c : Char} (h : plain c = true) : c.toNat < 0x80 ∧ c.toLower = c := by
  unfold plain at h
  rcases (Bool.or_eq_true _ _).mp h with hmem | hdigit
  · have hall : (['r', 'e', 'd', 'a', 'c', 't', '_'].all fun c =>
        decide (c.toNat < 0x80 ∧ c.toLower = c)) = true := by decide
    exact of_decide_eq_true (List.all_eq_true.mp hall c (of_decide_eq_true hmem))
  · have hrange : 0x30 ≤ c.toNat ∧ c.toNat ≤ 0x39 := by
      delta Char.isDigit at hdigit
      simpa [UInt32.le_iff_toNat_le] using hdigit
    refine ⟨by omega, Char.toNat_inj.mp ?_⟩
    rw [Py.toNat_toLower, if_neg (by omega)]

/-- **A numbered name is no secret**: every name of a secret has a character it has not. -/
theorem containsForbiddenKey_numbered (tables : WordTables) (index : Nat) :
    Redaction.containsForbiddenKey tables.toUnicodeTables (numbered index) = false := by
  rw [Redaction.containsForbiddenKey_ascii fun c hc => (plain_ascii (plain_of_mem_numbered hc)).1]
  have hcompact : ∀ c ∈ (Redaction.compactToken Py.UnicodeTables.ascii (numbered index)).toList,
      plain c = true := by
    intro c hc
    rw [Redaction.toList_compactToken] at hc
    obtain ⟨d, hd, hc⟩ := List.mem_flatMap.mp (List.mem_of_mem_filter hc)
    have hplain := plain_of_mem_numbered hd
    rw [List.mem_singleton.mp hc, (plain_ascii hplain).2]
    exact hplain
  have hlowered : ∀ c ∈ (Py.casefold Py.UnicodeTables.ascii (numbered index)).toList,
      plain c = true := by
    intro c hc
    simp only [Py.casefold, String.toList_ofList] at hc
    obtain ⟨d, hd, hc⟩ := List.mem_flatMap.mp hc
    have hplain := plain_of_mem_numbered hd
    rw [List.mem_singleton.mp hc, (plain_ascii hplain).2]
    exact hplain
  unfold Redaction.containsForbiddenKey
  rw [Bool.or_eq_false_iff, decide_eq_false_iff_not, List.any_eq_false]
  constructor
  · intro hexact
    have hall : (Redaction.SENSITIVE_EXACT_KEYS.all fun key =>
        key.toList.any fun c => !plain c) = true := by decide +kernel
    obtain ⟨c, hc, hloud⟩ := List.any_eq_true.mp (List.all_eq_true.mp hall _ hexact)
    rw [hcompact c hc] at hloud
    cases hloud
  · intro token htoken hcontains
    have hall : (Redaction.SENSITIVE_KEY_TOKENS.all fun token => token.toList.any fun c =>
        !plain c && (Redaction.compactToken Py.UnicodeTables.ascii token).toList.contains c) = true := by
      decide +kernel
    obtain ⟨c, hc, hloud⟩ := List.any_eq_true.mp (List.all_eq_true.mp hall _ htoken)
    obtain ⟨hloud, hmem⟩ := (Bool.and_eq_true _ _).mp hloud
    have hplain : plain c = true := by
      rcases (Bool.or_eq_true _ _).mp hcontains with hlow | hcomp
      · have hpart : token.toList <:+:
            (Py.casefold Py.UnicodeTables.ascii (numbered index)).toList := of_decide_eq_true hlow
        exact hlowered c (hpart.subset hc)
      · have hpart : (Redaction.compactToken Py.UnicodeTables.ascii token).toList <:+:
            (Redaction.compactToken Py.UnicodeTables.ascii (numbered index)).toList :=
          of_decide_eq_true hcomp
        exact hcompact c (hpart.subset (List.contains_iff_mem.mp hmem))
    rw [hplain] at hloud
    cases hloud

/-- **What a secret is replaced by is none.** -/
theorem containsSecretValue_redacted (tables : WordTables) :
    Redaction.containsSecretValue tables.toUnicodeTables Redaction.REDACTED = false := by
  have hascii : ∀ text : String, (text.toList.all fun c => decide (c.toNat < 0x80)) = true →
      Redaction.compactToken tables.toUnicodeTables text =
        Redaction.compactToken Py.UnicodeTables.ascii text := by
    intro text htext
    apply Redaction.compactToken_ascii
    intro c hc
    exact of_decide_eq_true (List.all_eq_true.mp htext c hc)
  unfold Redaction.containsSecretValue
  rw [Bool.or_eq_false_iff, List.any_eq_false, List.any_eq_false]
  constructor
  · intro marker hmarker
    have hall : (Redaction.SENSITIVE_VALUE_MARKERS.all fun marker =>
        marker.toList.all fun c => decide (c.toNat < 0x80)) = true := by decide +kernel
    have hnone : (Redaction.SENSITIVE_VALUE_MARKERS.all fun marker =>
        !Py.contains (Redaction.compactToken Py.UnicodeTables.ascii Redaction.REDACTED)
          (Redaction.compactToken Py.UnicodeTables.ascii marker)) = true := by decide +kernel
    rw [hascii _ (List.all_eq_true.mp hall marker hmarker), hascii _ (by decide)]
    simpa using List.all_eq_true.mp hnone marker hmarker
  · intro pattern hpattern
    rw [Regex.search_eq_false (Redaction.needs_sign hpattern)]
    · simp
    · have hall : (Redaction.REDACTED.toList.all fun c => !Redaction.sign c) = true := by decide
      intro c hc
      simpa using List.all_eq_true.mp hall c hc

theorem containsSecretValue_redactText (tables : WordTables) (text : String) :
    Redaction.containsSecretValue tables.toUnicodeTables
      (Redaction.redactText tables.toUnicodeTables text) = false := by
  unfold Redaction.redactText
  split
  · exact containsSecretValue_redacted tables
  · rename_i hquiet
    exact eq_false_of_ne_true hquiet

theorem redactText_of_quiet {tables : Py.UnicodeTables} {text : String}
    (h : Redaction.containsSecretValue tables text = false) :
    Redaction.redactText tables text = text := by
  unfold Redaction.redactText
  rw [h]
  rfl

end Marks

/-! ## 4. What is redacted -/

section Redacted

/-- The value stands in the other, and under no key of a secret. -/
inductive Reached (tables : Py.UnicodeTables) : Payload ν → Payload ν → Prop where
  | here {value : Payload ν} : Reached tables value value
  | list {items : List (Payload ν)} {item value : Payload ν} (hitem : item ∈ items)
      (h : Reached tables item value) : Reached tables (.list items) value
  | tuple {items : List (Payload ν)} {item value : Payload ν} (hitem : item ∈ items)
      (h : Reached tables item value) : Reached tables (.tuple items) value
  | mapping {entries : List (String × Payload ν)} {key : String} {item value : Payload ν}
      (hitem : (key, item) ∈ entries) (hquiet : Redaction.containsForbiddenKey tables key = false)
      (h : Reached tables item value) : Reached tables (.mapping entries) value

/-- What the redaction is for: no key of a secret is left and no text that is one, a second
    redaction changes nothing, and no mapping loses an entry. -/
structure Redacts (tables : Py.UnicodeTables) (value : Payload ν) : Prop where
  keys : ∀ entries, Occurs (redactEventPayload tables value) (.mapping entries) →
    ∀ entry ∈ entries, Redaction.containsForbiddenKey tables entry.1 = false
  texts : ∀ text, Occurs (redactEventPayload tables value) (.string text) →
    Redaction.containsSecretValue tables text = false
  again : redactEventPayload tables (redactEventPayload tables value) =
    redactEventPayload tables value
  entries : ∀ entries, Reached tables value (.mapping entries) →
    (redactEntries tables [] 0 entries).length = entries.length

/-- What a payload must be like: the texts of its objects are no secrets, and the keys of a mapping
    have distinct texts, none of which is a numbered name that is given away. -/
structure Redactable (tables : Py.UnicodeTables) (value : Payload ν) : Prop where
  others : ∀ text, Reached tables value (.other text) →
    Redaction.containsSecretValue tables text = false
  names : ∀ entries, Reached tables value (.mapping entries) → (names tables 0 entries).Nodup

variable {tables : WordTables} {value : Payload ν}

theorem keys_of_redacted (value : Payload ν) (entries : List (String × Payload ν))
    (h : Occurs (redactEventPayload tables.toUnicodeTables value) (.mapping entries)) :
    ∀ entry ∈ entries, Redaction.containsForbiddenKey tables.toUnicodeTables entry.1 = false := by
  induction value using Payload.induction with
  | none | bool | number | string | other =>
    simp only [redactEventPayload] at h
    cases h
  | list items ih | tuple items ih =>
    simp only [redactEventPayload, redactItems_eq] at h
    cases h with
    | list hitem h =>
      obtain ⟨item, hmem, rfl⟩ := List.mem_map.mp hitem
      exact ih item hmem h
  | mapping members ih =>
    simp only [redactEventPayload] at h
    have hnames : ∀ entry ∈ redactEntries tables.toUnicodeTables [] 0 members,
        Redaction.containsForbiddenKey tables.toUnicodeTables entry.1 = false := by
      intro entry hentry
      rcases mem_renamed (mem_redactEntries hentry) with ⟨index, rfl⟩ | ⟨key, item, -, hquiet, rfl⟩
      · exact containsForbiddenKey_numbered tables index
      · exact hquiet
    cases h with
    | here => exact hnames
    | mapping hitem h =>
      rcases mem_renamed (mem_redactEntries hitem) with ⟨index, heq⟩ | ⟨key, item, hmem, -, heq⟩
      · obtain ⟨-, rfl⟩ := Prod.mk.inj heq
        cases h
      · obtain ⟨-, rfl⟩ := Prod.mk.inj heq
        exact ih (key, item) hmem h

theorem texts_of_redacted
    (hothers : ∀ text, Reached tables.toUnicodeTables value (.other text) →
      Redaction.containsSecretValue tables.toUnicodeTables text = false) (text : String)
    (h : Occurs (redactEventPayload tables.toUnicodeTables value) (.string text)) :
    Redaction.containsSecretValue tables.toUnicodeTables text = false := by
  induction value using Payload.induction with
  | none | bool | number =>
    simp only [redactEventPayload] at h
    cases h
  | string text' =>
    simp only [redactEventPayload] at h
    cases h
    exact containsSecretValue_redactText tables text'
  | other text' =>
    simp only [redactEventPayload] at h
    cases h
    exact hothers text .here
  | list items ih =>
    simp only [redactEventPayload, redactItems_eq] at h
    cases h with
    | list hitem h =>
      obtain ⟨item, hmem, rfl⟩ := List.mem_map.mp hitem
      exact ih item hmem (fun text hreached => hothers text (.list hmem hreached)) h
  | tuple items ih =>
    simp only [redactEventPayload, redactItems_eq] at h
    cases h with
    | list hitem h =>
      obtain ⟨item, hmem, rfl⟩ := List.mem_map.mp hitem
      exact ih item hmem (fun text hreached => hothers text (.tuple hmem hreached)) h
  | mapping members ih =>
    simp only [redactEventPayload] at h
    cases h with
    | mapping hitem h =>
      rcases mem_renamed (mem_redactEntries hitem) with ⟨index, heq⟩ |
        ⟨key, item, hmem, hquiet, heq⟩
      · obtain ⟨-, rfl⟩ := Prod.mk.inj heq
        cases h
        exact containsSecretValue_redacted tables
      · obtain ⟨-, rfl⟩ := Prod.mk.inj heq
        exact ih (key, item) hmem
          (fun text hreached => hothers text (.mapping hmem hquiet hreached)) h

theorem renamed_of_quiet {tables : Py.UnicodeTables} {index : Nat}
    {entries : List (String × Payload ν)}
    (h : ∀ entry ∈ entries, Redaction.containsForbiddenKey tables entry.1 = false) :
    renamed tables index entries =
      entries.map fun entry => (entry.1, redactEventPayload tables entry.2) := by
  induction entries generalizing index with
  | nil => rfl
  | cons entry entries ih =>
    obtain ⟨hentry, hentries⟩ := List.forall_mem_cons.mp h
    obtain ⟨key, item⟩ := entry
    rw [renamed, hentry, if_neg Bool.false_ne_true, ih hentries]
    rfl

theorem Redactable.part {tables : Py.UnicodeTables} {value item : Payload ν}
    (h : Redactable tables value)
    (hpart : ∀ part, Reached tables item part → Reached tables value part) :
    Redactable tables item where
  others := fun text hreached => h.others text (hpart _ hreached)
  names := fun entries hreached => h.names entries (hpart _ hreached)

theorem again_of_redactable (h : Redactable tables.toUnicodeTables value) :
    redactEventPayload tables.toUnicodeTables (redactEventPayload tables.toUnicodeTables value) =
      redactEventPayload tables.toUnicodeTables value := by
  induction value using Payload.induction with
  | none | bool | number => simp only [redactEventPayload]
  | string text =>
    simp only [redactEventPayload]
    rw [redactText_of_quiet (containsSecretValue_redactText tables text)]
  | other text =>
    simp only [redactEventPayload]
    rw [redactText_of_quiet (h.others text .here)]
  | list items ih =>
    simp only [redactEventPayload, redactItems_eq, List.map_map]
    congr 1
    apply List.map_congr_left
    intro item hitem
    exact ih item hitem (h.part fun _ hreached => .list hitem hreached)
  | tuple items ih =>
    simp only [redactEventPayload, redactItems_eq, List.map_map]
    congr 1
    apply List.map_congr_left
    intro item hitem
    exact ih item hitem (h.part fun _ hreached => .tuple hitem hreached)
  | mapping members ih =>
    have hnodup := h.names members .here
    have hquiet : ∀ entry ∈ renamed tables.toUnicodeTables 0 members,
        Redaction.containsForbiddenKey tables.toUnicodeTables entry.1 = false := by
      intro entry hentry
      rcases mem_renamed hentry with ⟨index, rfl⟩ | ⟨key, item, -, hquiet, rfl⟩
      · exact containsForbiddenKey_numbered tables index
      · exact hquiet
    -- each member is redacted already
    have hfixed : renamed tables.toUnicodeTables 0 (renamed tables.toUnicodeTables 0 members) =
        renamed tables.toUnicodeTables 0 members := by
      rw [renamed_of_quiet hquiet]
      conv_rhs => rw [← List.map_id (renamed tables.toUnicodeTables 0 members)]
      apply List.map_congr_left
      intro entry hentry
      rcases mem_renamed hentry with ⟨index, rfl⟩ | ⟨key, item, hmem, hkey, rfl⟩
      · simp only [redactEventPayload, id_eq]
        rw [redactText_of_quiet (containsSecretValue_redacted tables)]
      · simp only [id_eq]
        rw [ih (key, item) hmem (h.part fun _ hreached => .mapping hmem hkey hreached)]
    simp only [redactEventPayload]
    rw [redactEntries_of_nodup hnodup, redactEntries_of_nodup, hfixed]
    unfold names
    rw [hfixed]
    exact hnodup

theorem Reached.occurs {tables : Py.UnicodeTables} {value part : Payload ν}
    (h : Reached tables value part)
    (hnames : ∀ entries, Reached tables value (.mapping entries) →
      (Payload.names tables 0 entries).Nodup) :
    Occurs (redactEventPayload tables value) (redactEventPayload tables part) := by
  induction h with
  | here => exact .here
  | list hitem _ ih =>
    simp only [redactEventPayload, redactItems_eq]
    exact .list (List.mem_map_of_mem hitem) (ih fun _ hreached => hnames _ (.list hitem hreached))
  | tuple hitem _ ih =>
    simp only [redactEventPayload, redactItems_eq]
    exact .list (List.mem_map_of_mem hitem) (ih fun _ hreached => hnames _ (.tuple hitem hreached))
  | mapping hitem hquiet _ ih =>
    have hoccurs := ih fun _ hreached => hnames _ (.mapping hitem hquiet hreached)
    simp only [redactEventPayload]
    rw [redactEntries_of_nodup (hnames _ .here)]
    exact .mapping (mem_renamed_of_mem hitem hquiet) hoccurs

/-- **A payload is redacted as it should be** exactly if the texts of its objects are no secrets and
    no two keys of one of its mappings end up under one name. -/
theorem redacts_iff (tables : WordTables) (value : Payload ν) :
    Redacts tables.toUnicodeTables value ↔ Redactable tables.toUnicodeTables value := by
  constructor
  · intro h
    have hnames : ∀ entries, Reached tables.toUnicodeTables value (.mapping entries) →
        (Payload.names tables.toUnicodeTables 0 entries).Nodup :=
      fun entries hreached => length_redactEntries_iff.mp (h.entries entries hreached)
    refine ⟨?_, hnames⟩
    intro text hreached
    apply h.texts
    have hoccurs := hreached.occurs hnames
    simpa only [redactEventPayload] using hoccurs
  · intro h
    exact ⟨keys_of_redacted value, texts_of_redacted h.others, again_of_redactable h,
      fun entries hreached => length_redactEntries_iff.mpr (h.names entries hreached)⟩

theorem isAlnum_ascii_words (c : Char) (_ : c.toNat < 0x80) :
    Py.UnicodeTables.ascii.isAlnum c = c.isAlphanum := rfl

def asciiWords : WordTables where
  toUnicodeTables := Py.UnicodeTables.ascii
  isAlnum_ascii := isAlnum_ascii_words

def sampleCookie : Payload Int := .mapping [("cookie", .none), ("redacted_0", .none)]

/-- The mapping loses an entry. -/
theorem not_redacts : ¬∀ (tables : WordTables) (value : Payload Int),
    Redacts tables.toUnicodeTables value := by
  intro h
  have hnames : names Py.UnicodeTables.ascii 0 [("cookie", (.none : Payload Int)), ("redacted_0", .none)] =
      ["redacted_0", "redacted_0"] := by
    decide +kernel
  have hlength := (h asciiWords sampleCookie).entries _ .here
  have hnodup := length_redactEntries_iff.mp hlength
  change (names Py.UnicodeTables.ascii 0 _).Nodup at hnodup
  rw [hnames] at hnodup
  simp at hnodup

end Redacted

/-! ## 5. Payloads of JSON -/

section Json

variable {tables : Py.UnicodeTables}

mutual

def ofJson : Json → Payload ℚ
  | .null => .none
  | .bool value => .bool value
  | .number value => .number value
  | .string value => .string value
  | .array items => .list (ofItems items)
  | .object members => .mapping (ofMembers members)

def ofItems : List Json → List (Payload ℚ)
  | [] => []
  | item :: items => ofJson item :: ofItems items

def ofMembers : JsonObject → List (String × Payload ℚ)
  | [] => []
  | (key, item) :: members => (key, ofJson item) :: ofMembers members

end

end Json

end Payload

end SeekTalent

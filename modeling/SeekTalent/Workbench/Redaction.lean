import SeekTalent.Base.Json
import SeekTalent.Base.Regex

/-!
# Redaction

What is written of an event is redacted first: a member whose name looks like a secret is
replaced by a numbered one, and a text that looks like one by `[REDACTED]`. Names and texts
are compared case folded, with only their letters and digits.
-/

namespace SeekTalent

/-- The tables, with what is alphanumeric of ASCII. -/
structure WordTables extends Py.UnicodeTables where
  isAlnum_ascii : ∀ c, c.toNat < 0x80 → isAlnum c = c.isAlphanum

namespace Redaction

def REDACTED : String := "[REDACTED]"

def SENSITIVE_KEY_TOKENS : List String :=
  ["access_token", "accesstoken", "api_key", "apikey", "authorization", "authheader", "bearer",
    "browsercontext", "cdp", "cookie", "csrf", "localstorage", "password", "playwright",
    "provider_payload", "raw_profile", "raw_provider_payload", "raw_resume", "rawpayload",
    "refresh_token", "refreshtoken", "secret", "sessionstorage", "set-cookie", "session_token",
    "sessiontoken", "storagestate", "websocketdebuggerurl", "websocket_endpoint", "wsendpoint"]

def SENSITIVE_EXACT_KEYS : List String :=
  ["authorization", "cookie", "csrf", "password", "secret", "token"]

def SENSITIVE_VALUE_MARKERS : List String :=
  ["authorization", "browsercontext", "cookie", "localstorage", "rawpayload", "sessionstorage",
    "set-cookie", "storagestate", "websocketdebuggerurl", "websocket_endpoint", "wsendpoint"]

/-! ## 1. What looks like a secret -/

section Patterns

/-- The long s, the Kelvin sign and the Turkish dotted and dotless i: for `re.IGNORECASE` they
    are letters of ASCII. -/
def disguised : List Char := ['\u017F', '\u212A', '\u0130', '\u0131']

/-- A letter in either case, as `re.IGNORECASE` compares. -/
def sameLetter (c d : Char) : Bool :=
  c.toLower == d.toLower || (c == '\u017F' && d.toLower == 's') ||
    (c == '\u212A' && d.toLower == 'k') || ((c == '\u0130' || c == '\u0131') && d.toLower == 'i')

def textIgnoreCase (s : String) : Regex :=
  .all (s.toList.map fun d => .char fun c => sameLetter c d)

/-- `[A-Za-z0-9]` and some others, in either case -/
def tokenChar (others : List Char) : Regex :=
  .char fun c => c.isAlphanum || c ∈ disguised || c ∈ others

variable (tables : Py.UnicodeTables)

/-- `\b` -/
def wordEdge : Regex := .boundary fun c => tables.isAlnum c || c == '_'

/-- `\s` -/
def blank : Regex := .char Py.isSpace

/-- `\S` -/
def visible : Regex := .char fun c => !Py.isSpace c

def SENSITIVE_VALUE_PATTERNS : List Regex :=
  [.all [wordEdge tables, textIgnoreCase "Bearer", .atLeast 1 blank,
      .atLeast 1 (tokenChar ['.', '_', '~', '+', '/', '=', '-'])],
    .all [wordEdge tables, textIgnoreCase "Basic", .atLeast 1 blank,
      .atLeast 1 (tokenChar ['+', '/', '=', '-'])],
    .all [wordEdge tables, .text "sk-",
      .atLeast 8 (.char fun c => c.isAlphanum || c ∈ ['_', '-']), wordEdge tables],
    .all [wordEdge tables, .text "eyJ", .atLeast 1 (.char fun c => c.isAlphanum || c ∈ ['_', '-']),
      .text ".", .atLeast 1 (.char fun c => c.isAlphanum || c ∈ ['_', '-']), .text ".",
      .atLeast 1 (.char fun c => c.isAlphanum || c ∈ ['_', '-']), wordEdge tables],
    .all [wordEdge tables, textIgnoreCase "cdp://", .atLeast 1 visible],
    .all [wordEdge tables, textIgnoreCase "ws", .opt (textIgnoreCase "s"), .text "://",
      .star visible,
      .any (["devtools", "debugger", "cdp", "playwright", "browser", "websocketdebuggerurl",
        "wsendpoint"].map textIgnoreCase),
      .star visible],
    -- the beginning of the text: an edge between any character and none, before a character
    .all [.any [.boundary fun _ => true, .char fun c => c == ';' || Py.isSpace c],
      .star (tokenChar ['-', '_']),
      .any [.all [textIgnoreCase "access", .opt (.char (· ∈ ['-', '_'])), textIgnoreCase "token"],
        .all [textIgnoreCase "api", .opt (.char (· ∈ ['-', '_'])), textIgnoreCase "key"],
        textIgnoreCase "auth", textIgnoreCase "cdp", textIgnoreCase "cookie",
        textIgnoreCase "csrf", textIgnoreCase "password",
        .all [textIgnoreCase "refresh", .opt (.char (· ∈ ['-', '_'])), textIgnoreCase "token"],
        textIgnoreCase "secret", textIgnoreCase "session", textIgnoreCase "token"],
      .star (tokenChar ['-', '_']), .text "=",
      .atLeast 1 (.char fun c => c != ';' && !Py.isSpace c)]]

def compactToken (value : String) : String :=
  String.ofList ((Py.casefold tables value).toList.filter tables.isAlnum)

def containsForbiddenKey (value : String) : Bool :=
  let compact := compactToken tables value
  let lowered := Py.casefold tables value
  compact ∈ SENSITIVE_EXACT_KEYS ||
    SENSITIVE_KEY_TOKENS.any fun token =>
      Py.contains lowered token || Py.contains compact (compactToken tables token)

def containsSecretValue (value : String) : Bool :=
  let compact := compactToken tables value
  SENSITIVE_VALUE_MARKERS.any (fun marker => Py.contains compact (compactToken tables marker)) ||
    (SENSITIVE_VALUE_PATTERNS tables).any fun pattern => pattern.search value

/-- `redact_text` of a text -/
def redactText (value : String) : String :=
  if containsSecretValue tables value then REDACTED else value

end Patterns

/-! ## 2. Events -/

section Events

variable (tables : Py.UnicodeTables)

mutual

def redactEventPayload : Json → Json
  | .object members => .object (redactMembers [] 0 members)
  | .array items => .array (redactItems items)
  | .string value => .string (redactText tables value)
  | .null => .null
  | .bool value => .bool value
  | .number value => .number value

def redactItems : List Json → List Json
  | [] => []
  | item :: items => redactEventPayload item :: redactItems items

/-- The members from the first that is not redacted yet: `redacted` is what there is so far,
    and `index` how many of it are secrets. -/
def redactMembers (redacted : JsonObject) (index : Nat) : List (String × Json) → JsonObject
  | [] => redacted
  | (key, item) :: members =>
    if containsForbiddenKey tables key then
      redactMembers (redacted.set s!"redacted_{index}" (.string REDACTED)) (index + 1) members
    else redactMembers (redacted.set key (redactEventPayload item)) index members

end

end Events

/-! ## 3. What is left alone -/

section Quiet

/-- The lower case letters but for t, k and w, the digits, `_` and `:`. -/
def quiet (c : Char) : Bool :=
  ((0x61 ≤ c.toNat && c.toNat ≤ 0x7A) || (0x30 ≤ c.toNat && c.toNat ≤ 0x39) || c.toNat == 0x5F ||
    c.toNat == 0x3A) && !(c.toNat == 0x74 || c.toNat == 0x6B || c.toNat == 0x77)

theorem quiet_iff {c : Char} : quiet c = true ↔
    (((0x61 ≤ c.toNat ∧ c.toNat ≤ 0x7A) ∨ (0x30 ≤ c.toNat ∧ c.toNat ≤ 0x39) ∨ c.toNat = 0x5F ∨
      c.toNat = 0x3A) ∧ c.toNat ≠ 0x74 ∧ c.toNat ≠ 0x6B ∧ c.toNat ≠ 0x77) := by
  simp [quiet, or_assoc, and_assoc]

variable {tables : WordTables} {value : String} {c : Char}

theorem quiet_eq_false_of_isSpace (h : Py.isSpace c = true) : quiet c = false := by
  rw [Bool.eq_false_iff, Ne, quiet_iff]
  simp [Py.isSpace] at h
  omega

/-- A space, or a character of which every pattern of a secret needs one. -/
def sign (c : Char) : Bool := Py.isSpace c || c ∈ ['-', '.', '=', '/']

theorem needs_sign {pattern : Regex}
    (h : pattern ∈ SENSITIVE_VALUE_PATTERNS tables.toUnicodeTables) :
    pattern.Needs fun c => sign c = true := by
  have hblank : (Regex.atLeast 1 blank).Needs fun c => sign c = true := by
    apply Regex.needs_atLeast
    intro c hc
    simp [sign, hc]
  have hslash : (textIgnoreCase "cdp://").Needs fun c => sign c = true := by
    apply Regex.needs_all.mpr
    refine ⟨.char fun c => sameLetter c '/', by simp, ?_⟩
    intro c hc
    have hlower : c.toLower = '/' := by simpa [sameLetter] using hc
    have hnat := congrArg Char.toNat hlower
    rw [Py.toNat_toLower] at hnat
    have hslash : c.toNat = '/'.toNat := by
      split at hnat
      · change c.toNat + 32 = 47 at hnat
        omega
      · exact hnat
    rw [Char.toNat_inj.mp hslash]
    rfl
  simp only [SENSITIVE_VALUE_PATTERNS, List.mem_cons, List.not_mem_nil, or_false] at h
  rcases h with rfl | rfl | rfl | rfl | rfl | rfl | rfl
  · exact Regex.needs_all.mpr ⟨_, by simp, hblank⟩
  · exact Regex.needs_all.mpr ⟨_, by simp, hblank⟩
  · exact Regex.needs_all.mpr ⟨.text "sk-", by simp, Regex.needs_text (c := '-') (by simp) rfl⟩
  · exact Regex.needs_all.mpr ⟨.text ".", by simp, Regex.needs_text (c := '.') (by simp) rfl⟩
  · exact Regex.needs_all.mpr ⟨_, by simp, hslash⟩
  · exact Regex.needs_all.mpr ⟨.text "://", by simp, Regex.needs_text (c := '/') (by simp) rfl⟩
  · exact Regex.needs_all.mpr ⟨.text "=", by simp, Regex.needs_text (c := '=') (by simp) rfl⟩

theorem sign_eq_false_of_quiet (h : quiet c = true) : sign c = false := by
  have hspace : Py.isSpace c = false := by
    by_contra hspace
    rw [quiet_eq_false_of_isSpace (eq_true_of_ne_false hspace)] at h
    cases h
  have hsigns : (['-', '.', '=', '/'].all fun c => !quiet c) = true := by decide
  have hmem : c ∉ ['-', '.', '=', '/'] := by
    intro hmem
    have hloud := List.all_eq_true.mp hsigns c hmem
    rw [h] at hloud
    cases hloud
  simp only [sign, hspace, hmem, decide_false, Bool.or_false]

theorem toList_compactToken (tables : Py.UnicodeTables) (value : String) :
    (compactToken tables value).toList =
      (value.toList.flatMap tables.casefold).filter tables.isAlnum := by
  simp [compactToken, Py.casefold]

theorem casefold_ascii (h : c.toNat < 0x80) : tables.casefold c = [c.toLower] :=
  tables.casefold_plain c (by simp [Py.isPlain, h])

theorem toNat_toLower_lt (h : c.toNat < 0x80) : c.toLower.toNat < 0x80 := by
  rw [Py.toNat_toLower]
  split <;> omega

theorem exists_loud (tables : WordTables) (marker : String) (h : marker ∈ SENSITIVE_VALUE_MARKERS) :
    ∃ c ∈ ['t', 'k', 'w'], c ∈ (compactToken tables.toUnicodeTables marker).toList := by
  have hloud : (SENSITIVE_VALUE_MARKERS.all fun marker =>
      ['t', 'k', 'w'].any fun c => marker.toList.contains c) = true := by
    decide
  obtain ⟨c, hc, hmem⟩ := List.any_eq_true.mp (List.all_eq_true.mp hloud marker h)
  have hmem : c ∈ marker.toList := by simpa using hmem
  have hc' : c.toNat < 0x80 ∧ c.toLower = c ∧ c.isAlphanum = true := by
    have hall : (['t', 'k', 'w'].all fun c =>
        decide (c.toNat < 0x80 ∧ c.toLower = c ∧ c.isAlphanum = true)) = true := by decide
    simpa using List.all_eq_true.mp hall c hc
  refine ⟨c, hc, ?_⟩
  rw [toList_compactToken, List.mem_filter, List.mem_flatMap]
  refine ⟨⟨c, hmem, ?_⟩, ?_⟩
  · rw [casefold_ascii hc'.1, hc'.2.1]
    exact List.mem_singleton_self c
  · rw [tables.isAlnum_ascii c hc'.1]
    exact hc'.2.2

theorem mem_of_mem_compactToken (hquiet : ∀ c ∈ value.toList, quiet c = true)
    (h : c ∈ (compactToken tables.toUnicodeTables value).toList) : quiet c = true := by
  rw [toList_compactToken] at h
  obtain ⟨d, hd, hc⟩ := List.mem_flatMap.mp (List.mem_of_mem_filter h)
  have hdquiet := hquiet d hd
  have hrange := quiet_iff.mp hdquiet
  rw [casefold_ascii (by omega), List.mem_singleton] at hc
  have hnat : c.toNat = d.toNat := by
    rw [hc, Py.toNat_toLower]
    split <;> omega
  rw [quiet_iff, hnat]
  exact hrange

theorem containsSecretValue_eq_false (hquiet : ∀ c ∈ value.toList, quiet c = true) :
    containsSecretValue tables.toUnicodeTables value = false := by
  unfold containsSecretValue
  rw [Bool.or_eq_false_iff, List.any_eq_false, List.any_eq_false]
  refine ⟨?_, ?_⟩
  · intro marker hmarker
    obtain ⟨c, hc, hmem⟩ := exists_loud tables marker hmarker
    intro hcontains
    have hpart : (compactToken tables.toUnicodeTables marker).toList <:+:
        (compactToken tables.toUnicodeTables value).toList := of_decide_eq_true hcontains
    have hcquiet := mem_of_mem_compactToken hquiet (hpart.subset hmem)
    have hloud : (['t', 'k', 'w'].all fun c => !quiet c) = true := by decide
    have hloudC := List.all_eq_true.mp hloud c hc
    rw [hcquiet] at hloudC
    cases hloudC
  · intro pattern hpattern
    rw [Regex.search_eq_false (needs_sign hpattern)]
    · simp
    · intro c hc
      simp [sign_eq_false_of_quiet (hquiet c hc)]

theorem redactText_quiet (tables : WordTables) (hquiet : ∀ c ∈ value.toList, quiet c = true) :
    redactText tables.toUnicodeTables value = value := by
  unfold redactText
  rw [containsSecretValue_eq_false hquiet]
  rfl

end Quiet

section Names

variable {tables : WordTables} {key : String}

theorem compactToken_ascii (h : ∀ c ∈ key.toList, c.toNat < 0x80) :
    compactToken tables.toUnicodeTables key = compactToken Py.UnicodeTables.ascii key := by
  have hfold : key.toList.flatMap tables.casefold =
      key.toList.flatMap Py.UnicodeTables.ascii.casefold := by
    apply List.flatMap_congr
    intro c hc
    exact casefold_ascii (h c hc)
  apply String.toList_inj.mp
  rw [toList_compactToken, toList_compactToken, hfold]
  apply List.filter_congr
  intro c hc
  obtain ⟨d, hd, hc⟩ := List.mem_flatMap.mp hc
  obtain rfl := List.mem_singleton.mp hc
  exact tables.isAlnum_ascii _ (toNat_toLower_lt (h d hd))

theorem casefold_ascii_text (h : ∀ c ∈ key.toList, c.toNat < 0x80) :
    Py.casefold tables.toUnicodeTables key = Py.casefold Py.UnicodeTables.ascii key := by
  unfold Py.casefold
  congr 1
  apply List.flatMap_congr
  intro c hc
  exact casefold_ascii (h c hc)

theorem any_congr_of_mem {α : Type} {p q : α → Bool} {l : List α} (h : ∀ a ∈ l, p a = q a) :
    l.any p = l.any q := by
  induction l with
  | nil => rfl
  | cons a l ih =>
    rw [List.any_cons, List.any_cons, h a List.mem_cons_self,
      ih fun b hb => h b (List.mem_cons_of_mem a hb)]

theorem containsForbiddenKey_ascii (h : ∀ c ∈ key.toList, c.toNat < 0x80) :
    containsForbiddenKey tables.toUnicodeTables key =
      containsForbiddenKey Py.UnicodeTables.ascii key := by
  have htokens : ∀ token ∈ SENSITIVE_KEY_TOKENS, ∀ c ∈ token.toList, c.toNat < 0x80 := by
    have hall : (SENSITIVE_KEY_TOKENS.all fun token =>
        token.toList.all fun c => decide (c.toNat < 0x80)) = true := by decide
    intro token htoken c hc
    simpa using List.all_eq_true.mp (List.all_eq_true.mp hall token htoken) c hc
  have hany : (SENSITIVE_KEY_TOKENS.any fun token =>
      Py.contains (Py.casefold Py.UnicodeTables.ascii key) token ||
        Py.contains (compactToken Py.UnicodeTables.ascii key)
          (compactToken tables.toUnicodeTables token)) =
      SENSITIVE_KEY_TOKENS.any fun token =>
        Py.contains (Py.casefold Py.UnicodeTables.ascii key) token ||
          Py.contains (compactToken Py.UnicodeTables.ascii key)
            (compactToken Py.UnicodeTables.ascii token) := by
    apply any_congr_of_mem
    intro token htoken
    rw [compactToken_ascii (htokens token htoken)]
  unfold containsForbiddenKey
  rw [compactToken_ascii h, casefold_ascii_text h]
  dsimp only
  rw [hany]

end Names

section Members

variable {tables : Py.UnicodeTables} {redacted members : JsonObject} {index : Nat} {key : String}
  {value : Json}

theorem ne_numbered (h : key.toList.head? ≠ some 'r') (index : Nat) : s!"redacted_{index}" ≠ key := by
  intro hkey
  apply h
  rw [← hkey]
  have hhead : (toString "redacted_").toList.head? = some 'r' := by decide
  simp [hhead]

theorem get_redactMembers (hkey : containsForbiddenKey tables key = false)
    (hnumbered : ∀ index : Nat, s!"redacted_{index}" ≠ key)
    (hmembers : (members.map (·.1)).Nodup) :
    (redactMembers tables redacted index members).get key =
      ((members.get key).map (redactEventPayload tables)).or (redacted.get key) := by
  induction members generalizing redacted index with
  | nil =>
    unfold redactMembers
    simp [JsonObject.get]
  | cons member members ih =>
    obtain ⟨name, item⟩ := member
    obtain ⟨hname, hrest⟩ := List.nodup_cons.mp hmembers
    unfold redactMembers
    rw [JsonObject.get_cons]
    split
    · rename_i hforbidden
      have hne : name ≠ key := by
        intro heq
        rw [heq, hkey] at hforbidden
        cases hforbidden
      rw [ih hrest, JsonObject.get_set, if_neg (hnumbered index), if_neg hne]
    · rw [ih hrest, JsonObject.get_set]
      by_cases hname' : name = key
      · have hnone : JsonObject.get members key = none := by
          rw [JsonObject.get_eq_none_iff, ← hname']
          exact hname
        simp [hname', hnone]
      · simp [hname']

theorem nodup_keys_redactMembers (h : (redacted.map (·.1)).Nodup) :
    ((redactMembers tables redacted index members).map (·.1)).Nodup := by
  induction members generalizing redacted index with
  | nil =>
    unfold redactMembers
    exact h
  | cons member members ih =>
    obtain ⟨name, item⟩ := member
    unfold redactMembers
    split
    · exact ih (JsonObject.nodup_keys_set h)
    · exact ih (JsonObject.nodup_keys_set h)

end Members

end Redaction

end SeekTalent

import SeekTalent.Base.JsonTree
import SeekTalent.Base.RegexFits
import SeekTalent.Liepin.PiExecutor

/-!
# Contacts that pass the firewall

The firewall goes through a payload and refuses it if a text in it has an e-mail address or a
mobile number, among other things. It looks for them with edges of words, and in a text a Chinese
character next to a digit or a letter leaves no edge. So a payload that exposes a contact is kept
out only if some contact in it stands at edges of words, or if there is something else to refuse
(`keepsContactsOut_iff`). A number in the middle of a Chinese text passes
(`not_keepsContactsOut_chineseNote`).
-/

namespace SeekTalent

namespace PiAgent

open Redaction (wordEdge)
open Regex (Fits lastOf)

/-! ## 1. The payload -/

section Payload

variable (tables : Py.UnicodeTables)

mutual

/-- `assert_safe_mapping`, where it does not raise -/
def assertSafeMapping : Json → Bool
  | .string text => safeValue tables text
  | .object members => membersSafe members
  | .array items => itemsSafe items
  | _ => true

def itemsSafe : List Json → Bool
  | [] => true
  | item :: items => assertSafeMapping item && itemsSafe items

def membersSafe : List (String × Json) → Bool
  | [] => true
  | (_, value) :: members => assertSafeMapping value && membersSafe members

end

def isArtifactRef (text : String) : Bool :=
  Py.startsWith text "artifact://protected/" || Py.startsWith text "artifact://public-summary/"

/-- The text stands in the payload, as a value or as a key. -/
def StandsIn (payload : Json) (text : String) : Prop :=
  payload.Part (.string text) ∨
    ∃ members value, payload.Part (.object members) ∧ (text, value) ∈ members

variable {tables} {items : List Json} {members : List (String × Json)} {payload : Json}
variable {text : String}

theorem itemsSafe_iff : itemsSafe tables items = true ↔
    ∀ item ∈ items, assertSafeMapping tables item = true := by
  induction items with
  | nil => simp [itemsSafe]
  | cons item items ih => rw [itemsSafe, Bool.and_eq_true, ih, List.forall_mem_cons]

theorem membersSafe_iff : membersSafe tables members = true ↔
    ∀ member ∈ members, assertSafeMapping tables member.2 = true := by
  induction members with
  | nil => simp [membersSafe]
  | cons member members ih => rw [membersSafe, Bool.and_eq_true, ih, List.forall_mem_cons]

theorem assertSafeMapping_iff : assertSafeMapping tables payload = true ↔
    ∀ text, payload.Part (.string text) → safeValue tables text = true := by
  constructor
  · intro h text hpart
    generalize hleaf : Json.string text = leaf at hpart
    induction hpart with
    | self value =>
      subst hleaf
      exact h
    | item hitem _ ih => exact ih (itemsSafe_iff.mp h _ hitem) hleaf
    | member hmember _ ih => exact ih (membersSafe_iff.mp h _ hmember) hleaf
  · induction payload using Json.induction with
    | null => exact fun _ => rfl
    | bool value => exact fun _ => rfl
    | number value => exact fun _ => rfl
    | string text => exact fun h => h text (.self _)
    | array items ih =>
      intro h
      exact itemsSafe_iff.mpr fun item hitem =>
        ih item hitem fun text hpart => h text (.item hitem hpart)
    | object members ih =>
      intro h
      exact membersSafe_iff.mpr fun member hmember =>
        ih member hmember fun text hpart => h text (.member hmember hpart)

end Payload

/-! ## 2. Contacts -/

def Email (cs : List Char) : Prop :=
  ∃ name domain top, cs = name ++ '@' :: (domain ++ '.' :: top) ∧
    (1 ≤ name.length ∧ ∀ c ∈ name, (c.isAlphanum || c ∈ ['.', '_', '%', '+', '-']) = true) ∧
    (1 ≤ domain.length ∧ ∀ c ∈ domain, (c.isAlphanum || c ∈ ['.', '-']) = true) ∧
    2 ≤ top.length ∧ ∀ c ∈ top, c.isAlpha = true

def Mobile (isDigit : Char → Bool) (cs : List Char) : Prop :=
  ∃ second digits, cs = '1' :: second :: digits ∧ ('3' ≤ second && second ≤ '9') = true ∧
    digits.length = 9 ∧ ∀ c ∈ digits, isDigit c = true

/-- The text has a contact without letters or digits of ASCII next to it. -/
def Exposes (text : String) : Prop :=
  ∃ before contact after, text.toList = before ++ (contact ++ after) ∧
    (Email contact ∨ Mobile Char.isDigit contact) ∧
    before.getLast?.any Char.isAlphanum = false ∧ after.head?.any Char.isAlphanum = false

section Contacts

variable (tables : Py.UnicodeTables)

/-- One of the two characters is in a word and the other one is not. -/
def EdgeBetween (before after : Option Char) : Prop :=
  (before.any fun c => tables.isAlnum c || c == '_') ≠
    after.any fun c => tables.isAlnum c || c == '_'

/-- The text has a contact with the edges of words that the firewall looks for: after it, and
    before an address as well. -/
def Caught (text : String) : Prop :=
  ∃ before contact after, text.toList = before ++ (contact ++ after) ∧
    (Email contact ∧ EdgeBetween tables before.getLast? (contact ++ after).head? ∨
      Mobile tables.isDecimal contact) ∧
    EdgeBetween tables contact.getLast? after.head?

def emailPattern : Regex :=
  .all [wordEdge tables, .atLeast 1 (.char fun c => c.isAlphanum || c ∈ ['.', '_', '%', '+', '-']),
    .text "@", .atLeast 1 (.char fun c => c.isAlphanum || c ∈ ['.', '-']), .text ".",
    .atLeast 2 (.char Char.isAlpha), wordEdge tables]

def countryCode : Regex :=
  .opt (.all [.opt (.text "+"), .text "86", .opt (.char fun c => c == '-' || Py.isSpace c)])

def mobilePattern : Regex :=
  .all [countryCode, .text "1", .char fun c => '3' ≤ c && c ≤ '9',
    .exactly 9 (.char tables.isDecimal), wordEdge tables]

/-- There is something else than a contact to refuse in a text. -/
def refusedOtherwise (text : String) : Bool :=
  if isArtifactRef text then !validPublicArtifactRef text
  else ((FORBIDDEN_TEXT_PATTERNS tables).drop 2).any (·.search text) || 2000 < text.length

variable {tables} {before : Option Char} {read rest : List Char} {text : String}

theorem fits_wordEdge : (wordEdge tables).Fits before read rest ↔
    read = [] ∧ EdgeBetween tables before rest.head? :=
  Regex.fits_boundary

theorem toList_at : "@".toList = ['@'] := String.toList_ofList

theorem toList_dot : ".".toList = ['.'] := String.toList_ofList

theorem toList_one : "1".toList = ['1'] := String.toList_ofList

theorem fits_emailPattern : (emailPattern tables).Fits before read rest ↔
    Email read ∧ EdgeBetween tables before (read ++ rest).head? ∧
      EdgeBetween tables (lastOf before read) rest.head? := by
  unfold emailPattern
  simp only [Regex.fits_all_cons, Regex.fits_all_nil, fits_wordEdge, Regex.fits_atLeast_char,
    Regex.fits_text, toList_at, toList_dot]
  constructor
  · rintro ⟨_, _, rfl, ⟨rfl, hedge⟩, name, _, rfl, hname, _, _, rfl, rfl, domain, _, rfl, hdomain,
      _, _, rfl, rfl, top, _, rfl, htop, _, _, rfl, ⟨rfl, hedge'⟩, rfl⟩
    refine ⟨⟨name, domain, top, ?_, hname, hdomain, htop⟩, ?_, ?_⟩
    · simp
    · simpa using hedge
    · simpa [Regex.lastOf_append, Regex.lastOf_cons] using hedge'
  · rintro ⟨⟨name, domain, top, rfl, hname, hdomain, htop⟩, hedge, hedge'⟩
    refine ⟨[], _, rfl, ⟨rfl, hedge⟩, name, _, rfl, hname, ['@'], domain ++ '.' :: top, rfl, rfl,
      domain, '.' :: top, rfl, hdomain, ['.'], top, rfl, rfl, top, [], ?_, htop, [], [], rfl,
      ⟨rfl, ?_⟩, rfl⟩
    · simp
    · simpa [Regex.lastOf_append, Regex.lastOf_cons] using hedge'

theorem fits_mobilePattern : (mobilePattern tables).Fits before read rest ↔
    ∃ code contact, read = code ++ contact ∧ countryCode.Fits before code (contact ++ rest) ∧
      Mobile tables.isDecimal contact ∧
      EdgeBetween tables (lastOf (lastOf before code) contact) rest.head? := by
  unfold mobilePattern
  simp only [Regex.fits_all_cons, Regex.fits_all_nil, fits_wordEdge, Regex.fits_exactly_char,
    Regex.fits_char, Regex.fits_text, toList_one]
  constructor
  · rintro ⟨code, _, rfl, hcode, _, _, rfl, rfl, _, _, rfl, ⟨second, rfl, hsecond⟩, digits, _, rfl,
      ⟨hlength, hdigits⟩, _, _, rfl, ⟨rfl, hedge⟩, rfl⟩
    refine ⟨code, '1' :: second :: digits, ?_, ?_, ⟨second, digits, rfl, hsecond, hlength, hdigits⟩,
      ?_⟩
    · simp
    · simpa using hcode
    · simpa [Regex.lastOf_append, Regex.lastOf_cons] using hedge
  · rintro ⟨code, _, rfl, hcode, ⟨second, digits, rfl, hsecond, hlength, hdigits⟩, hedge⟩
    refine ⟨code, _, rfl, hcode, ['1'], second :: digits, rfl, rfl, [second], digits, rfl,
      ⟨second, rfl, hsecond⟩, digits, [], ?_, ⟨hlength, hdigits⟩, [], [], rfl, ⟨rfl, ?_⟩, rfl⟩
    · simp
    · simpa [Regex.lastOf_append, Regex.lastOf_cons] using hedge

theorem lastOf_of_ne_nil (h : read ≠ []) : lastOf before read = read.getLast? := by
  obtain ⟨last, hlast⟩ := Option.isSome_iff_exists.mp (List.getLast?_isSome.mpr h)
  unfold lastOf
  rw [hlast, Option.some_or]

theorem Email.ne_nil (h : Email read) : read ≠ [] := by
  obtain ⟨name, domain, top, rfl, -⟩ := h
  simp

theorem Mobile.ne_nil {isDigit : Char → Bool} (h : Mobile isDigit read) : read ≠ [] := by
  obtain ⟨second, digits, rfl, -⟩ := h
  simp

theorem caught_iff : Caught tables text ↔
    (emailPattern tables).search text = true ∨ (mobilePattern tables).search text = true := by
  rw [Regex.search_iff, Regex.search_iff]
  constructor
  · rintro ⟨before, contact, after, htext, ⟨hemail, hedge⟩ | hmobile, hedge'⟩
    · refine .inl ⟨before, contact, after, htext, fits_emailPattern.mpr ⟨hemail, hedge, ?_⟩⟩
      rw [lastOf_of_ne_nil hemail.ne_nil]
      exact hedge'
    · refine .inr ⟨before, contact, after, htext, fits_mobilePattern.mpr
        ⟨[], contact, rfl, Regex.fits_opt.mpr (.inr rfl), hmobile, ?_⟩⟩
      rw [lastOf_of_ne_nil hmobile.ne_nil]
      exact hedge'
  · rintro (⟨before, contact, after, htext, hfits⟩ | ⟨before, read, after, htext, hfits⟩)
    · obtain ⟨hemail, hedge, hedge'⟩ := fits_emailPattern.mp hfits
      rw [lastOf_of_ne_nil hemail.ne_nil] at hedge'
      exact ⟨before, contact, after, htext, .inl ⟨hemail, hedge⟩, hedge'⟩
    · obtain ⟨code, contact, rfl, -, hmobile, hedge⟩ := fits_mobilePattern.mp hfits
      rw [lastOf_of_ne_nil hmobile.ne_nil] at hedge
      exact ⟨before ++ code, contact, after, by rw [htext]; simp, .inr hmobile, hedge⟩

theorem safeValue_eq_false_iff : safeValue tables text = false ↔
    isArtifactRef text = false ∧ Caught tables text ∨ refusedOtherwise tables text = true := by
  have hpatterns : FORBIDDEN_TEXT_PATTERNS tables = emailPattern tables :: mobilePattern tables ::
      (FORBIDDEN_TEXT_PATTERNS tables).drop 2 := rfl
  have hvalue : safeValue tables text =
      if isArtifactRef text then validPublicArtifactRef text else safeText tables text := rfl
  unfold refusedOtherwise
  rw [caught_iff, hvalue]
  cases href : isArtifactRef text with
  | true => simp
  | false =>
    have hothers : ∀ others : List Regex, others.all (fun pattern => !pattern.search text) =
        !others.any (·.search text) := by
      intro others
      rw [List.not_any_eq_all_not]
    rw [if_neg (by simp), if_neg (by simp), safeText, hothers, hpatterns]
    generalize (FORBIDDEN_TEXT_PATTERNS tables).drop 2 = others
    simp only [List.any_cons, List.drop_succ_cons, List.drop_zero, true_and, Bool.and_eq_false_iff,
      Bool.not_eq_false', Bool.or_eq_true, decide_eq_false_iff_not, decide_eq_true_eq, not_le,
      or_assoc]

end Contacts

/-! ## 3. What is kept out -/

/-- A payload with a contact that is exposed is refused. -/
def KeepsContactsOut (tables : Py.UnicodeTables) (payload : Json) : Prop :=
  assertSafeMapping tables payload = true →
    ∀ text, StandsIn payload text → isArtifactRef text = false → ¬Exposes text

/-- **When contacts are kept out**: a payload that exposes a contact has a contact at edges of words
in one of its values, or something else that is refused. -/
theorem keepsContactsOut_iff (tables : Py.UnicodeTables) (payload : Json) :
    KeepsContactsOut tables payload ↔
      ((∃ text, StandsIn payload text ∧ isArtifactRef text = false ∧ Exposes text) →
        ∃ text, payload.Part (.string text) ∧
          (isArtifactRef text = false ∧ Caught tables text ∨
            refusedOtherwise tables text = true)) := by
  have hrefused : assertSafeMapping tables payload = false ↔
      ∃ text, payload.Part (.string text) ∧
        (isArtifactRef text = false ∧ Caught tables text ∨
          refusedOtherwise tables text = true) := by
    rw [← Bool.not_eq_true, assertSafeMapping_iff]
    simp only [not_forall, exists_prop, Bool.not_eq_true, safeValue_eq_false_iff]
  rw [← hrefused, ← Bool.not_eq_true]
  constructor
  · rintro h ⟨text, hstands, href, hexposes⟩ hsafe
    exact h hsafe text hstands href hexposes
  · intro h hsafe text hstands href hexposes
    exact h ⟨text, hstands, href, hexposes⟩ hsafe

def chineseNote : Json := .object [("note", .array [.string "电话13812345678微信"])]

/-- Between Chinese characters there is no edge of a word, and the number passes. -/
theorem not_keepsContactsOut_chineseNote : ¬KeepsContactsOut .ideographs chineseNote := by
  intro h
  have hsafe : assertSafeMapping .ideographs chineseNote = true := by decide
  apply h hsafe "电话13812345678微信"
  · exact .inl (.member List.mem_cons_self (.item List.mem_cons_self (.self _)))
  · decide
  · refine ⟨['电', '话'], ['1', '3', '8', '1', '2', '3', '4', '5', '6', '7', '8'], ['微', '信'],
      String.toList_ofList, .inr ⟨'3', ['8', '1', '2', '3', '4', '5', '6', '7', '8'], rfl, ?_⟩, ?_⟩
    · exact ⟨by decide, rfl, List.all_eq_true.mp (by decide)⟩
    · decide

end PiAgent

end SeekTalent

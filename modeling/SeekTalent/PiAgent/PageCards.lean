import Mathlib.Data.List.Pairwise
import SeekTalent.PiAgent.CardArtifacts
import SeekTalent.PiAgent.PageRefs
import SeekTalent.Query.Feedback
import SeekTalent.Requirements.Normalization

/-!
# The cards of a page

The text of a page is cleaned line by line, and a card is read from every line that tells an age or
years of work: from that line and the eleven lines after it. Nothing ends a card before, so where
two cards begin within twelve lines of each other the first has the facts of the second in it. A
card belongs to one candidate exactly if that does not happen (`fromOwnLines_iff`).
-/

namespace Regex

/-- What is before the first match, which `re.split` has first. -/
def beforeFirst (r : Regex) (s : String) : String :=
  String.ofList (((r.scan s.toList.length (.start s)).takeWhile Sum.isLeft).filterMap Sum.getLeft?)

/-- The first match that begins here or later, of any of some patterns, with what its expressions
    read. -/
def searchAnyFrom (patterns : List (List Regex)) (before : Option Char) :
    List Char → Option (List String)
  | [] => patterns.findSome? (groups · ⟨before, []⟩)
  | c :: cs =>
    match patterns.findSome? (groups · ⟨before, c :: cs⟩) with
    | some texts => some texts
    | none => searchAnyFrom patterns (some c) cs

end Regex

namespace SeekTalent

namespace PiAgent

open Feedback (keepFirst)
open Redaction (wordEdge blank visible textIgnoreCase)
open Stateful (bind_eq_ok map_eq_ok)

/-! ## 1. Cleaning -/

def looksSensitive (text : String) : Bool :=
  ["document.cookie", "localstorage", "sessionstorage", "authorization:", "bearer ",
    "storagestate", "<script", "<html"].any (Py.contains (Js.toLowerCase text) ·)

def ACCESSIBILITY_NOISE_TOKENS : List String :=
  ["a", "aria-label", "button", "combobox", "div", "down", "img", "input", "role", "span", "svg",
    "tabindex", "table", "title"]

def dropAccessibilityNoiseTokens (text : String) : String :=
  let noise : String → Bool := fun token => Js.toLowerCase token ∈ ACCESSIBILITY_NOISE_TOKENS
  Py.join " " (((Py.split text).dropWhile noise).reverse.dropWhile noise).reverse

def spaces : Regex := .star blank

section Cleaning

variable (tables : NumberTables)

/-- What `_clean_state_lines` makes of a line. -/
def cleanStateLine (rawLine : String) : String :=
  let line := Regex.sub (.all [.text "[", .atLeast 1 (.char (· != ']')), .text "]"]) "" rawLine
  let line := Regex.sub (.all [.text "<", .star (.char (· != '>')), .text ">"]) " " line
  let line := Regex.sub
    (.all [wordEdge tables.toUnicodeTables,
      .any (["aria-label", "role", "tabindex", "title"].map textIgnoreCase), spaces, .text "=", spaces,
      .atLeast 1 visible]) " " line
  dropAccessibilityNoiseTokens (Py.stripChars " ·|" (Regex.sub (.atLeast 1 blank) " " line))

/-- The loop of `_clean_state_lines`; `recent` are the last two lines of the result. -/
def cleanLinesFrom (recent : List String) : List String → List String
  | [] => []
  | rawLine :: rest =>
    let line := cleanStateLine tables rawLine
    if line = "" ∨ 240 < line.length ∨ line ∈ recent then cleanLinesFrom recent rest
    else line :: cleanLinesFrom (line :: recent.take 1) rest

def cleanStateLines (text : String) : List String := cleanLinesFrom tables [] (Py.splitlines text)

def boundedPublicText (maxChars : Nat) (text : String) : Except String String :=
  let cleaned := Py.strip (Regex.sub (.atLeast 1 blank) " " text)
  if looksSensitive cleaned then .error "liepin_opencli_malformed_state"
  else .ok (String.ofList (cleaned.toList.take maxChars))

/-! ## 2. The facts of a card -/

def isHan (c : Char) : Bool := '一' ≤ c && c ≤ '龥'

/-- `\b\d{2}\s*岁\b|工作\s*\d+\s*年|\d+\s*年经验` -/
def profileFact : Regex :=
  .any [.all [wordEdge tables.toUnicodeTables, .exactly 2 (.char tables.isDecimal), spaces, .text "岁",
      wordEdge tables.toUnicodeTables],
    .all [.text "工作", spaces, .atLeast 1 (.char tables.isDecimal), spaces, .text "年"],
    .all [.atLeast 1 (.char tables.isDecimal), spaces, .text "年经验"]]

def yearMark : Regex := .all [.exactly 4 (.char tables.isDecimal), .char (· ∈ ['.', '/', '-'])]

def monthMark : Regex := .all [yearMark tables, .exactly 2 (.char tables.isDecimal)]

def looksLikeLiepinCardStart (line : String) : Bool := (profileFact tables).search line

def looksLikeLiepinCard (block : String) : Bool :=
  !(["筛选", "搜索职位", "搜索公司", "高级搜索", "登录", "验证码"].any (Py.contains block ·)) &&
    (profileFact tables).search block &&
    (Py.contains block "求职期望" || Py.contains block "·" || (monthMark tables).search block) &&
    ["本科", "硕士", "博士", "大专", "统招"].any (Py.contains block ·)

def companyTitleFromBlock (block : String) : Except String (Option String × Option String) :=
  let name : Regex := .char fun c =>
    isHan c || c.isAlphanum || c ∈ ['(', ')', '（', '）', '&', '·', '-']
  let found := (Py.splitlines block).findSome? (Regex.searchGroups
    [.between 2 40 name, .all [spaces, .text "·", spaces],
      .between 2 40 (.char fun c => c != '·' && c != '\n')])
  match found with
  | some [company, _, title] => do
    let company ← boundedPublicText 60 company
    let title ← boundedPublicText 80
      (Regex.beforeFirst (.all [.atLeast 1 blank, yearMark tables]) title)
    return (some company, some title)
  | _ => .ok (none, none)

/-- `求职期望[:：]\s*`, and what follows it -/
def jobIntentionPattern (group : Regex) : List Regex :=
  [.all [.text "求职期望", .char (· ∈ [':', '：']), spaces], group]

def jobIntentionFromBlock (block : String) : Except String (Option String) :=
  match Regex.searchGroups (jobIntentionPattern (.atLeast 1 (.char (· != '\n')))) block with
  | some [_, text] =>
    let parts := Py.split (Py.strip text)
    (boundedPublicText 80
      (if 2 ≤ parts.length then parts.getLastD "" else Py.strip text)).map some
  | _ => .ok none

def recentExperienceFromBlock (block : String) : Except String (Option String) :=
  match (Py.splitlines block).find? fun line =>
      Py.contains line "·" && (monthMark tables).search line with
  | some line => (boundedPublicText 180 line).map some
  | none => .ok none

def expectedCityFromBlock (block : String) : Option String :=
  (Regex.searchGroups (jobIntentionPattern (.between 2 8 (.char isHan))) block).bind (·[1]?)

def cityFromBlock (block : String) : Option String :=
  ["上海", "北京", "深圳", "广州", "杭州", "南京", "苏州", "成都", "武汉", "西安"].find? (Py.contains block ·)

def educationFromBlock (block : String) : Option String :=
  ["博士", "硕士", "本科", "大专"].find? (Py.contains block ·)

def schoolNamesFromBlock (block : String) : List String :=
  (Table.firsts (Regex.findAll
    (.all [.between 2 24 (.char isHan), .any [.text "大学", .text "学院"]]) block)).take 3

def skillTagsFromBlock (block : String) : List String :=
  let tokens := Regex.findAll
    (.all [wordEdge tables.toUnicodeTables, .char Char.isAlpha,
      .between 1 20 (.char fun c => c.isAlphanum || c ∈ ['+', '#', '.', '/', '-']),
      wordEdge tables.toUnicodeTables]) block
  (Table.firsts (tokens.filter fun token =>
    Js.toLowerCase token ∉ "staff" :: ACCESSIBILITY_NOISE_TOKENS)).take 12

def hasMaskedName (block : String) : Bool :=
  let letter : Regex := .char fun c => isHan c || c.isAlpha
  let star : Regex := .char (· ∈ ['*', '＊'])
  Regex.search (.any [.all [letter, .between 1 3 star], .all [star, letter]]) block

/-- `_int_match`, of patterns with one group each that reads digits -/
def intMatch (patterns : List (List Regex)) (group : Nat) (text : String) : Option Nat :=
  (Regex.searchAnyFrom patterns none text.toList).bind fun texts =>
    texts[group]?.map fun digits =>
      digits.toList.foldl (fun n c => 10 * n + tables.digit c) 0

def safeCardSummaryFromBlock (block : String) : Except String CardSummary := do
  let digits : Regex := .atLeast 1 (.char tables.isDecimal)
  let normalizedBlock ← boundedPublicText 900 block
  let (company, title) ← companyTitleFromBlock tables block
  let jobIntention ← jobIntentionFromBlock block
  let city := cityFromBlock block
  let recentExperience ← recentExperienceFromBlock tables block
  return {
    displayNameMasked := hasMaskedName block
    displayTitle := some (((title.filter (· ≠ "")).or (jobIntention.filter (· ≠ ""))).getD
      "Liepin candidate card")
    currentOrRecentCompany := company
    currentOrRecentTitle := title
    workYears := intMatch tables
      [[.all [.text "工作", spaces], digits, .all [spaces, .text "年"]],
        [.empty, digits, .all [spaces, .text "年经验"]]] 1 block
    age := intMatch tables
      [[.exactly 2 (.char tables.isDecimal), .all [spaces, .text "岁"]]] 0 block
    city
    expectedCity := (expectedCityFromBlock block).or city
    educationLevel := educationFromBlock block
    schoolNames := schoolNamesFromBlock block
    majorNames := []
    skillTags := skillTagsFromBlock tables block
    jobIntention
    recentExperienceText := recentExperience
    normalizedCardText := normalizedBlock }

/-! ## 3. The cards -/

def blockOf (lines : List String) : String := Py.join "\n" (lines.take 12)

def BeginsCard : List String → Prop
  | [] => False
  | line :: following =>
    looksLikeLiepinCardStart tables line = true ∧
      looksLikeLiepinCard tables (blockOf (line :: following)) = true

instance (lines : List String) : Decidable (BeginsCard tables lines) := by
  unfold BeginsCard
  cases lines <;> infer_instance

/-- The loop of `extract_liepin_card_summaries`, with the place of the line that each card begins
    with; `seen` are the fingerprints of the cards so far. -/
def cardsFrom (sha256 : String → String) (maxCards : Int) (seen : List String) (index : Nat) :
    List String → Except String (List (Nat × CardSummary))
  | [] => .ok []
  | line :: following =>
    if BeginsCard tables (line :: following) then do
      let summary ← safeCardSummaryFromBlock tables (blockOf (line :: following))
      let fingerprint := sha256 summary.normalizedCardText
      if fingerprint ∈ seen then cardsFrom sha256 maxCards seen (index + 1) following
      else if maxCards ≤ seen.length + 1 then return [(index, summary)]
      else
        let cards ← cardsFrom sha256 maxCards (fingerprint :: seen) (index + 1) following
        return (index, summary) :: cards
    else cardsFrom sha256 maxCards seen (index + 1) following

/-- The cards of a page, with their places among the cleaned lines. -/
def placedCards (sha256 : String → String) (text : String) (maxCards : Int) :
    Except String (List (Nat × CardSummary)) :=
  if looksSensitive text then .error "liepin_opencli_malformed_state"
  else cardsFrom tables sha256 maxCards [] 0 (cleanStateLines tables text)

def extractLiepinCardSummaries (sha256 : String → String) (text : String) (maxCards : Int) :
    Except String (List CardSummary) :=
  (placedCards tables sha256 text maxCards).map (·.map Prod.snd)

/-! ## 4. Whose lines a card is read from -/

/-- A card is what the lines before a later card's make of it, and the line that it begins with is
    among the lines of no other. -/
structure FromOwnLines (lines : List String) (found : List (Nat × CardSummary)) : Prop where
  fields : ∀ first ∈ found, ∀ later ∈ found, first.1 < later.1 →
    safeCardSummaryFromBlock tables (blockOf ((lines.take later.1).drop first.1)) = .ok first.2
  once : ∀ card ∈ found, ∀ other ∈ found, other.1 ≤ card.1 → card.1 < other.1 + 12 →
    other.1 = card.1

def cardPlaces (index : Nat) : List String → List (Nat × String)
  | [] => []
  | line :: following =>
    if BeginsCard tables (line :: following) then
      (index, blockOf (line :: following)) :: cardPlaces (index + 1) following
    else cardPlaces (index + 1) following

def cardFingerprint (sha256 : String → String) (place : Nat × String) : String :=
  sha256 (String.ofList ((Py.strip (Regex.sub (.atLeast 1 blank) " " place.2)).toList.take 900))

/-- The first places where cards begin that have a text of their own, as many as are asked for,
    but one at least. -/
def cardStarts (sha256 : String → String) (text : String) (maxCards : Int) : List Nat :=
  ((keepFirst (cardFingerprint sha256) [] (cardPlaces tables 0 (cleanStateLines tables text))).take
    (max 1 maxCards).toNat).map Prod.fst

end Cleaning

section Places

variable {tables : NumberTables} {sha256 : String → String} {maxCards : Int} {seen : List String}
variable {index : Nat} {line text block : String} {lines following : List String}
variable {found : List (Nat × CardSummary)} {summary : CardSummary}

theorem normalizedCardText_eq (h : safeCardSummaryFromBlock tables block = .ok summary) :
    sha256 summary.normalizedCardText = cardFingerprint sha256 (index, block) := by
  unfold safeCardSummaryFromBlock at h
  dsimp only at h
  obtain ⟨normalizedBlock, hbounded, h⟩ := bind_eq_ok h
  obtain ⟨_, -, h⟩ := bind_eq_ok h
  obtain ⟨_, -, h⟩ := bind_eq_ok h
  obtain ⟨_, -, h⟩ := bind_eq_ok h
  obtain rfl := Except.ok.inj h
  unfold boundedPublicText at hbounded
  dsimp only at hbounded
  split at hbounded
  · cases hbounded
  · obtain rfl := Except.ok.inj hbounded
    rfl

/-- What the loop finds: summaries of the blocks at increasing places, which are the first ones
    with texts of their own. -/
structure Finds (tables : NumberTables) (sha256 : String → String) (maxCards : Int)
    (seen : List String) (index : Nat) (lines : List String) (found : List (Nat × CardSummary)) :
    Prop where
  places : found.map Prod.fst =
    ((keepFirst (cardFingerprint sha256) seen (cardPlaces tables index lines)).take
      (max 1 (maxCards - seen.length)).toNat).map Prod.fst
  increasing : found.Pairwise fun first later => first.1 < later.1
  summaries : ∀ card ∈ found, index ≤ card.1 ∧
    safeCardSummaryFromBlock tables (blockOf (lines.drop (card.1 - index))) = .ok card.2

theorem Finds.skip (hskip : keepFirst (cardFingerprint sha256) seen
      (cardPlaces tables index (line :: following)) =
        keepFirst (cardFingerprint sha256) seen (cardPlaces tables (index + 1) following))
    (h : Finds tables sha256 maxCards seen (index + 1) following found) :
    Finds tables sha256 maxCards seen index (line :: following) found := by
  refine ⟨h.places.trans (by rw [hskip]), h.increasing, ?_⟩
  intro card hcard
  obtain ⟨hindex, hsummary⟩ := h.summaries card hcard
  have hdrop : (line :: following).drop (card.1 - index) =
      following.drop (card.1 - (index + 1)) := by
    have hsucc : card.1 - index = card.1 - (index + 1) + 1 := by omega
    rw [hsucc, List.drop_succ_cons]
  exact ⟨Nat.le_of_succ_le hindex, hdrop ▸ hsummary⟩

theorem cardsFrom_spec (h : cardsFrom tables sha256 maxCards seen index lines = .ok found) :
    Finds tables sha256 maxCards seen index lines found := by
  induction lines generalizing seen index found with
  | nil =>
    obtain rfl := Except.ok.inj h
    exact ⟨by simp [cardPlaces, keepFirst], .nil, by simp⟩
  | cons line following ih =>
    unfold cardsFrom at h
    by_cases hbegins : BeginsCard tables (line :: following)
    · rw [if_pos hbegins] at h
      obtain ⟨summary, hsummary, h⟩ := bind_eq_ok h
      have hkey := @normalizedCardText_eq _ sha256 index _ _ hsummary
      dsimp only at h
      rw [hkey] at h
      have hplaces : cardPlaces tables index (line :: following) =
          (index, blockOf (line :: following)) :: cardPlaces tables (index + 1) following := by
        rw [cardPlaces, if_pos hbegins]
      by_cases hseen : cardFingerprint sha256 (index, blockOf (line :: following)) ∈ seen
      · rw [if_pos hseen] at h
        exact (ih h).skip (by rw [hplaces, keepFirst, if_pos hseen])
      · rw [if_neg hseen] at h
        have hfirst : ∀ card : Nat × CardSummary, card = (index, summary) → index ≤ card.1 ∧
            safeCardSummaryFromBlock tables
              (blockOf ((line :: following).drop (card.1 - index))) = .ok card.2 := by
          rintro _ rfl
          refine ⟨Nat.le_refl index, ?_⟩
          rw [Nat.sub_self]
          exact hsummary
        by_cases hlast : maxCards ≤ seen.length + 1
        · rw [if_pos hlast] at h
          obtain rfl := Except.ok.inj h
          have hone : (max 1 (maxCards - seen.length)).toNat = 0 + 1 := by omega
          refine ⟨?_, List.pairwise_singleton _ _, ?_⟩
          · rw [hplaces, keepFirst, if_neg hseen, hone, List.take_succ_cons]
            rfl
          · intro card hcard
            exact hfirst card (List.mem_singleton.mp hcard)
        · rw [if_neg hlast] at h
          obtain ⟨rest, hrest, h⟩ := bind_eq_ok h
          obtain rfl := Except.ok.inj h
          have hfinds := ih hrest
          have hmore : (max 1 (maxCards - seen.length)).toNat =
              (max 1 (maxCards - (seen.length + 1 : Nat))).toNat + 1 := by omega
          refine ⟨?_, ?_, ?_⟩
          · rw [hplaces, keepFirst, if_neg hseen, hmore, List.take_succ_cons, List.map_cons,
              List.map_cons, hfinds.places]
            rfl
          · refine List.pairwise_cons.mpr ⟨?_, hfinds.increasing⟩
            intro card hcard
            exact (hfinds.summaries card hcard).1
          · intro card hcard
            rcases List.mem_cons.mp hcard with hcard | hcard
            · exact hfirst card hcard
            · obtain ⟨hindex, hsummary⟩ := hfinds.summaries card hcard
              have hsucc : card.1 - index = card.1 - (index + 1) + 1 := by omega
              refine ⟨Nat.le_of_succ_le hindex, ?_⟩
              rw [hsucc, List.drop_succ_cons]
              exact hsummary
    · rw [if_neg hbegins] at h
      exact (ih h).skip (by rw [cardPlaces, if_neg hbegins])

theorem placedCards_spec (h : placedCards tables sha256 text maxCards = .ok found) :
    Finds tables sha256 maxCards [] 0 (cleanStateLines tables text) found := by
  unfold placedCards at h
  split at h
  · cases h
  · exact cardsFrom_spec h

theorem places_eq_cardStarts (h : placedCards tables sha256 text maxCards = .ok found) :
    found.map Prod.fst = cardStarts tables sha256 text maxCards := by
  rw [(placedCards_spec h).places, List.length_nil, Nat.cast_zero, sub_zero]
  rfl

theorem length_placedCards_le (h : placedCards tables sha256 text maxCards = .ok found) :
    found.length ≤ (max 1 maxCards).toNat := by
  have hlength := congrArg List.length (places_eq_cardStarts h)
  simp only [cardStarts, List.length_map, List.length_take] at hlength
  omega

def RaisesMalformed {α : Type} (x : Except String α) : Prop :=
  ∀ code, x = .error code → code = "liepin_opencli_malformed_state"

theorem raisesMalformed_ok {α : Type} (a : α) : RaisesMalformed (.ok a) :=
  fun _ h => (by cases h)

theorem RaisesMalformed.bind {α β : Type} {x : Except String α} {f : α → Except String β}
    (hx : RaisesMalformed x) (hf : ∀ a, RaisesMalformed (f a)) : RaisesMalformed (x >>= f) := by
  cases x with
  | error code => exact fun _ h => hx _ (by rw [← Except.error.inj h])
  | ok a => exact hf a

theorem RaisesMalformed.map {α β : Type} {x : Except String α} {f : α → β}
    (hx : RaisesMalformed x) : RaisesMalformed (x.map f) := by
  cases x with
  | error code => exact fun _ h => hx _ (by rw [← Except.error.inj h])
  | ok a => exact raisesMalformed_ok (f a)

theorem raisesMalformed_boundedPublicText (maxChars : Nat) (text : String) :
    RaisesMalformed (boundedPublicText maxChars text) := by
  unfold boundedPublicText
  dsimp only
  split
  · exact fun _ h => (Except.error.inj h).symm
  · exact raisesMalformed_ok _

theorem raisesMalformed_summary (block : String) :
    RaisesMalformed (safeCardSummaryFromBlock tables block) := by
  have hbounded := raisesMalformed_boundedPublicText
  have htitle : RaisesMalformed (companyTitleFromBlock tables block) := by
    unfold companyTitleFromBlock
    dsimp only
    split
    · exact (hbounded _ _).bind fun _ => (hbounded _ _).bind fun _ => raisesMalformed_ok _
    · exact raisesMalformed_ok _
  have hintention : RaisesMalformed (jobIntentionFromBlock block) := by
    unfold jobIntentionFromBlock
    split
    · exact (hbounded _ _).map
    · exact raisesMalformed_ok _
  have hrecent : RaisesMalformed (recentExperienceFromBlock tables block) := by
    unfold recentExperienceFromBlock
    split
    · exact (hbounded _ _).map
    · exact raisesMalformed_ok _
  unfold safeCardSummaryFromBlock
  dsimp only
  exact (hbounded _ _).bind fun _ => htitle.bind fun _ => hintention.bind fun _ =>
    hrecent.bind fun _ => raisesMalformed_ok _

theorem raisesMalformed_cardsFrom :
    RaisesMalformed (cardsFrom tables sha256 maxCards seen index lines) := by
  induction lines generalizing seen index with
  | nil => exact raisesMalformed_ok _
  | cons line following ih =>
    unfold cardsFrom
    split
    · refine (raisesMalformed_summary _).bind fun _ => ?_
      dsimp only
      split
      · exact ih
      · split
        · exact raisesMalformed_ok _
        · exact ih.bind fun _ => raisesMalformed_ok _
    · exact ih

/-- **The extraction raises one code only.** -/
theorem raisesMalformed_extractLiepinCardSummaries :
    RaisesMalformed (extractLiepinCardSummaries tables sha256 text maxCards) := by
  unfold extractLiepinCardSummaries placedCards
  apply RaisesMalformed.map
  split
  · exact fun _ h => (Except.error.inj h).symm
  · exact raisesMalformed_cardsFrom

/-- **The cards.** For every page text from which cards are read: each is read from the lines of one
    card exactly if any two of the places where they begin are at least twelve lines apart. -/
theorem fromOwnLines_iff (h : placedCards tables sha256 text maxCards = .ok found) :
    FromOwnLines tables (cleanStateLines tables text) found ↔
      (cardStarts tables sha256 text maxCards).Pairwise fun i j => i + 12 ≤ j := by
  have hfinds := placedCards_spec h
  rw [← places_eq_cardStarts h, List.pairwise_map]
  constructor
  · intro hown
    refine hfinds.increasing.imp_of_mem ?_
    intro first later hfirst hlater hlt
    by_contra hnear
    have hsame := hown.once later hlater first hfirst (Nat.le_of_lt hlt) (not_le.mp hnear)
    exact absurd hlt (hsame ▸ Nat.lt_irrefl _)
  · intro hapart
    have hboth : ∀ first ∈ found, ∀ later ∈ found, first.1 < later.1 → first.1 + 12 ≤ later.1 := by
      intro first hfirst later hlater hlt
      have heither : found.Pairwise fun card other =>
          card.1 + 12 ≤ other.1 ∨ other.1 + 12 ≤ card.1 := hapart.imp fun h => .inl h
      have hsymm : Std.Symm fun card other : Nat × CardSummary =>
          card.1 + 12 ≤ other.1 ∨ other.1 + 12 ≤ card.1 := ⟨fun _ _ h => h.symm⟩
      have hne : first ≠ later := fun h => Nat.lt_irrefl _ (h ▸ hlt)
      rcases heither.forall hfirst hlater hne with h | h
      · exact h
      · omega
    refine ⟨?_, ?_⟩
    · intro first hfirst later hlater hlt
      have hsummary := (hfinds.summaries first hfirst).2
      rw [Nat.sub_zero] at hsummary
      rw [← hsummary]
      unfold blockOf
      rw [List.drop_take, List.take_take, Nat.min_eq_left]
      have hapart := hboth first hfirst later hlater hlt
      omega
    · intro card hcard other hother hle hlt
      rcases Nat.lt_or_eq_of_le hle with hless | heq
      · exact absurd (hboth other hother card hcard hless) (not_le.mpr hlt)
      · exact heq

end Places

/-- Two candidates on a page, with a line each. -/
def shortCardsPage : String := "工作9年·本科\n工作2年·本科 西南大学"

/-- The tables of ASCII and the CJK ideographs. -/
def ideographNumbers : NumberTables where
  toUnicodeTables := .ideographs
  digit c := c.toNat - '0'.toNat

theorem schools_shortCardsPage :
    (placedCards ideographNumbers id shortCardsPage 10).map
      (·.map fun card => (card.1, card.2.schoolNames)) =
        .ok [(0, ["西南大学"]), (1, ["西南大学"])] := by
  decide +kernel

theorem fromOwnLines_iff_shortCardsPage :
    ∃ found, placedCards ideographNumbers id shortCardsPage 10 = .ok found ∧
      (FromOwnLines ideographNumbers (cleanStateLines ideographNumbers shortCardsPage) found ↔
        (cardStarts ideographNumbers id shortCardsPage 10).Pairwise fun i j => i + 12 ≤ j) := by
  obtain ⟨found, hfound, -⟩ := map_eq_ok schools_shortCardsPage
  exact ⟨found, hfound, fromOwnLines_iff hfound⟩

/-- The second card begins among the lines of the first one. -/
theorem not_fromOwnLines_shortCardsPage :
    ∃ found, placedCards ideographNumbers id shortCardsPage 10 = .ok found ∧
      found.map (fun card => (card.1, card.2.schoolNames)) =
        [(0, ["西南大学"]), (1, ["西南大学"])] ∧
      ¬FromOwnLines ideographNumbers (cleanStateLines ideographNumbers shortCardsPage) found := by
  obtain ⟨found, hfound, hschools⟩ := map_eq_ok schools_shortCardsPage
  refine ⟨found, hfound, hschools, ?_⟩
  intro hown
  have hplaces := congrArg (List.map Prod.fst) hschools
  rw [List.map_map] at hplaces
  have hplace : ∀ place ∈ [0, 1], ∃ card ∈ found, card.1 = place := by
    intro place hmem
    have hmem : place ∈ found.map Prod.fst := hplaces ▸ hmem
    exact List.mem_map.mp hmem
  obtain ⟨first, hfirst, hzero⟩ := hplace 0 (by simp)
  obtain ⟨second, hsecond, hone⟩ := hplace 1 (by simp)
  have hsame := hown.once second hsecond first hfirst (by omega) (by omega)
  omega

end PiAgent

end SeekTalent

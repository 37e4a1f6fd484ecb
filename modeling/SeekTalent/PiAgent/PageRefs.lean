import SeekTalent.Base.Firsts
import SeekTalent.Base.JsText
import SeekTalent.Base.Lines
import SeekTalent.Workbench.Redaction

/-!
# The references that are clicked

The text of a page shows what can be clicked under references, of which a line may have several.
A known pop-up is closed by a click on the first reference of the line of its close anchor, and
what may be clicked are all references of a line that has an allowed label, on it or on the next
two lines, and no forbidden word; the next two lines are not asked for those. So the first
reference may be another's than the anchor's, and a label may be one beside a forbidden word
(`clicksSafely_iff`).
-/

namespace SeekTalent

namespace PiAgent

open Redaction (wordEdge blank)

/-! ## 1. What is clicked -/

def FORBIDDEN_ACTION_TARGET_FRAGMENTS : List String :=
  ["查看完整简历", "完整简历", "简历详情", "查看简历", "打开简历", "下载简历", "联系", "聊天", "沟通", "下载", "付费",
    "购买", "电话", "手机", "邮箱", "消息", "账号", "账户", "设置", "resume detail", "detail", "contact", "chat",
    "download", "payment", "phone", "email", "message", "account", "settings"]

def ALLOWED_CLICK_TARGET_FRAGMENTS : List String := ["搜索", "搜 索", "查询", "下一页", "下页", "next"]

section Page

variable (tables : Py.UnicodeTables)

/-- `_REF_PATTERN`, the second part of which is its group -/
def REF_PATTERN : List Regex :=
  [.any [.text "[ref=", .text "[", .all [wordEdge tables, .text "ref="]],
    .between 1 64 (.char fun c => c.isAlphanum || c ∈ ['_', '-']), .alt (.text "]") (wordEdge tables)]

def extractRefsFromLine (line : String) : List String :=
  Table.firsts ((Regex.findAllGroups (REF_PATTERN tables) line).filterMap (·[1]?))

/-- `" ".join(line.strip().lower().split())` -/
def normalizedLine (line : String) : String :=
  Py.join " " (Py.split (Js.toLowerCase (Py.strip line)))

def hasAllowedClickLabel (text : String) : Bool :=
  ALLOWED_CLICK_TARGET_FRAGMENTS.any (Py.contains text ·)

def Forbids (line : String) : Prop :=
  FORBIDDEN_ACTION_TARGET_FRAGMENTS.any (Py.contains (normalizedLine line) ·) = true

instance (line : String) : Decidable (Forbids line) := inferInstanceAs (Decidable (_ = true))

/-- Whether the references of a line are taken, which is asked of the line and the next two. -/
def Recognized (line : String) (following : List String) : Prop :=
  normalizedLine line ≠ "" ∧ ¬Forbids line ∧
    hasAllowedClickLabel (normalizedLine line ++ " " ++
      Js.toLowerCase (Py.join " " (following.take 2))) = true

instance (line : String) (following : List String) : Decidable (Recognized line following) :=
  inferInstanceAs (Decidable (_ ∧ _))

def clickRefsAt : List String → List String
  | [] => []
  | line :: following => if Recognized line following then extractRefsFromLine tables line else []

def extractAllowedClickRefs (text : String) : List String :=
  Table.firsts ((Py.splitlines text).tails.flatMap (clickRefsAt tables))

/-- `\[…\]<a[^>]*>\s*X\s*</a>`, an anchor with the text `X` and a reference. -/
def closeAnchor (ref : Regex) : Regex :=
  .all [.text "[", ref, .text "]<a", .star (.char (· != '>')), .text ">", .star blank, .text "X",
    .star blank, .text "</a>"]

/-- `"新增人才" in text or "新增人选" in text` -/
def namesKnownModal (text : String) : Bool :=
  Py.contains text "新增人才" || Py.contains text "新增人选"

/-- The first of some lines has a close anchor, and it or one of the next eleven names the
    pop-up. -/
def closesKnownModal : List String → Bool
  | [] => false
  | line :: following =>
    (closeAnchor (.atLeast 1 (.char fun c => tables.isAlnum c || c == '_'))).search line &&
      namesKnownModal (Py.join "\n" ((line :: following).take 12))

def closeRefAt : List String → Option String
  | [] => none
  | line :: following =>
    if closesKnownModal tables (line :: following) then (extractRefsFromLine tables line).head?
    else none

def extractKnownModalCloseRef (text : String) : Option String :=
  if namesKnownModal text then (Py.splitlines text).tails.findSome? (closeRefAt tables) else none

/-! ## 2. What should be -/

/-- On some line of the page there is an anchor with this reference and the text `X`. -/
def IsCloseAnchor (text ref : String) : Prop :=
  ∃ line ∈ Py.splitlines text, (closeAnchor (.text ref)).search line = true

instance (text ref : String) : Decidable (IsCloseAnchor text ref) :=
  inferInstanceAs (Decidable (∃ line ∈ Py.splitlines text, _))

/-- The reference stands on a line that is recognized with nothing forbidden on the lines that are
    looked at. -/
def StandsClean (text ref : String) : Prop :=
  ∃ before line following, Py.splitlines text = before ++ line :: following ∧
    ref ∈ extractRefsFromLine tables line ∧ Recognized line following ∧
    ∀ next ∈ following.take 2, ¬Forbids next

/-- What closes the pop-up is an anchor with the text `X`, and what may be clicked is recognized on
    lines without forbidden words. -/
structure ClicksSafely (text : String) : Prop where
  closes : ∀ ref, extractKnownModalCloseRef tables text = some ref → IsCloseAnchor text ref
  clicks : ∀ ref ∈ extractAllowedClickRefs tables text, StandsClean tables text ref

/-- Of the line that closes the pop-up, the first reference is one of a close anchor. -/
def AnchorFirst (text : String) : Prop :=
  namesKnownModal text = true → ∀ before line following ref refs,
    Py.splitlines text = before ++ line :: following →
    closesKnownModal tables (line :: following) = true →
    extractRefsFromLine tables line = ref :: refs →
    (∀ earlier other between, before = earlier ++ other :: between →
      closesKnownModal tables (other :: (between ++ line :: following)) = true →
        extractRefsFromLine tables other = []) →
    IsCloseAnchor text ref

/-- Where a line is recognized and something is forbidden on the lines that are looked at, its
    references stand clean on other lines. -/
def CleanAhead (text : String) : Prop :=
  ∀ before line following, Py.splitlines text = before ++ line :: following →
    Recognized line following → (∃ next ∈ following.take 2, Forbids next) →
      ∀ ref ∈ extractRefsFromLine tables line, StandsClean tables text ref

end Page

/-! ## 3. When it is -/

section Tails

variable {α β : Type} {f : List α → Option β} {g : List α → List β} {xs : List α} {b : β}

theorem findSome?_tails_iff (hnil : f [] = none) :
    xs.tails.findSome? f = some b ↔
      ∃ before x after, xs = before ++ x :: after ∧ f (x :: after) = some b ∧
        ∀ earlier y between, before = earlier ++ y :: between →
          f (y :: (between ++ x :: after)) = none := by
  induction xs with
  | nil => simp [hnil]
  | cons z zs ih =>
    rw [List.tails_cons, List.findSome?_cons]
    cases hz : f (z :: zs) with
    | some c =>
      constructor
      · intro h
        obtain rfl := Option.some.inj h
        exact ⟨[], z, zs, rfl, hz, by simp⟩
      · intro h
        obtain ⟨before, x, after, hsplit, hx, hearlier⟩ := h
        cases before with
        | nil =>
          obtain ⟨rfl, rfl⟩ := List.cons.inj hsplit
          exact hz.symm.trans hx
        | cons y before =>
          obtain ⟨rfl, rfl⟩ := List.cons.inj hsplit
          exact absurd (hz.symm.trans (hearlier [] z before rfl)) (Option.some_ne_none c)
    | none =>
      refine ih.trans ?_
      constructor
      · intro h
        obtain ⟨before, x, after, rfl, hx, hearlier⟩ := h
        refine ⟨z :: before, x, after, rfl, hx, ?_⟩
        intro earlier y between hsplit
        cases earlier with
        | nil =>
          obtain ⟨rfl, rfl⟩ := List.cons.inj hsplit
          exact hz
        | cons w earlier =>
          obtain ⟨-, rfl⟩ := List.cons.inj hsplit
          exact hearlier earlier y between rfl
      · intro h
        obtain ⟨before, x, after, hsplit, hx, hearlier⟩ := h
        cases before with
        | nil =>
          obtain ⟨rfl, rfl⟩ := List.cons.inj hsplit
          rw [hz] at hx
          cases hx
        | cons y before =>
          obtain ⟨rfl, rfl⟩ := List.cons.inj hsplit
          refine ⟨before, x, after, rfl, hx, ?_⟩
          intro earlier w between hsplit
          exact hearlier (z :: earlier) w between (by rw [hsplit, List.cons_append])

theorem mem_flatMap_tails_iff (hnil : g [] = []) :
    b ∈ xs.tails.flatMap g ↔ ∃ before x after, xs = before ++ x :: after ∧ b ∈ g (x :: after) := by
  rw [List.mem_flatMap]
  constructor
  · intro h
    obtain ⟨tail, htail, hb⟩ := h
    obtain ⟨before, rfl⟩ := (List.mem_tails _ _).mp htail
    cases tail with
    | nil => simp [hnil] at hb
    | cons x after => exact ⟨before, x, after, rfl, hb⟩
  · intro h
    obtain ⟨before, x, after, rfl, hb⟩ := h
    exact ⟨x :: after, (List.mem_tails _ _).mpr ⟨before, rfl⟩, hb⟩

end Tails

section Safely

variable {tables : Py.UnicodeTables} {text ref line : String} {following : List String}

theorem mem_clickRefsAt_iff :
    ref ∈ clickRefsAt tables (line :: following) ↔
      Recognized line following ∧ ref ∈ extractRefsFromLine tables line := by
  unfold clickRefsAt
  by_cases hrecognized : Recognized line following
  · simp [hrecognized]
  · simp [hrecognized]

theorem mem_extractAllowedClickRefs_iff :
    ref ∈ extractAllowedClickRefs tables text ↔
      ∃ before line following, Py.splitlines text = before ++ line :: following ∧
        Recognized line following ∧ ref ∈ extractRefsFromLine tables line := by
  unfold extractAllowedClickRefs
  rw [Table.mem_firsts, mem_flatMap_tails_iff rfl]
  simp only [mem_clickRefsAt_iff]

theorem closeRefAt_eq_none_iff :
    closeRefAt tables (line :: following) = none ↔
      (closesKnownModal tables (line :: following) = true →
        extractRefsFromLine tables line = []) := by
  unfold closeRefAt
  by_cases hcloses : closesKnownModal tables (line :: following) = true
  · simp [hcloses]
  · simp [hcloses]

theorem closeRefAt_eq_some_iff :
    closeRefAt tables (line :: following) = some ref ↔
      closesKnownModal tables (line :: following) = true ∧
        ∃ refs, extractRefsFromLine tables line = ref :: refs := by
  unfold closeRefAt
  by_cases hcloses : closesKnownModal tables (line :: following) = true
  · simp [hcloses, List.head?_eq_some_iff]
  · simp [hcloses]

theorem extractKnownModalCloseRef_eq_some_iff :
    extractKnownModalCloseRef tables text = some ref ↔
      namesKnownModal text = true ∧ ∃ before line following refs,
        Py.splitlines text = before ++ line :: following ∧
        closesKnownModal tables (line :: following) = true ∧
        extractRefsFromLine tables line = ref :: refs ∧
        ∀ earlier other between, before = earlier ++ other :: between →
          closesKnownModal tables (other :: (between ++ line :: following)) = true →
            extractRefsFromLine tables other = [] := by
  unfold extractKnownModalCloseRef
  by_cases hnames : namesKnownModal text = true
  · rw [if_pos hnames, findSome?_tails_iff rfl]
    simp only [closeRefAt_eq_some_iff, closeRefAt_eq_none_iff, hnames, true_and]
    constructor
    · intro h
      obtain ⟨before, line, following, hsplit, ⟨hcloses, refs, hrefs⟩, hearlier⟩ := h
      exact ⟨before, line, following, refs, hsplit, hcloses, hrefs, hearlier⟩
    · intro h
      obtain ⟨before, line, following, refs, hsplit, hcloses, hrefs, hearlier⟩ := h
      exact ⟨before, line, following, hsplit, ⟨hcloses, refs, hrefs⟩, hearlier⟩
  · simp [hnames]

/-- **The clicks.** For every page text: they are safe exactly if the first reference of the line
    that closes the pop-up is one of a close anchor, and a recognized line with something forbidden
    ahead has no reference that does not stand clean elsewhere. -/
theorem clicksSafely_iff (tables : Py.UnicodeTables) (text : String) :
    ClicksSafely tables text ↔ AnchorFirst tables text ∧ CleanAhead tables text := by
  constructor
  · intro h
    refine ⟨?_, ?_⟩
    · intro hnames before line following ref refs hsplit hcloses hrefs hearlier
      exact h.closes ref (extractKnownModalCloseRef_eq_some_iff.mpr
        ⟨hnames, before, line, following, refs, hsplit, hcloses, hrefs, hearlier⟩)
    · intro before line following hsplit hrecognized _ ref href
      exact h.clicks ref
        (mem_extractAllowedClickRefs_iff.mpr ⟨before, line, following, hsplit, hrecognized, href⟩)
  · intro h
    obtain ⟨hfirst, hclean⟩ := h
    refine ⟨?_, ?_⟩
    · intro ref href
      obtain ⟨hnames, before, line, following, refs, hsplit, hcloses, hrefs, hearlier⟩ :=
        extractKnownModalCloseRef_eq_some_iff.mp href
      exact hfirst hnames before line following ref refs hsplit hcloses hrefs hearlier
    · intro ref href
      obtain ⟨before, line, following, hsplit, hrecognized, href⟩ :=
        mem_extractAllowedClickRefs_iff.mp href
      by_cases hahead : ∃ next ∈ following.take 2, Forbids next
      · exact hclean before line following hsplit hrecognized hahead ref href
      · refine ⟨before, line, following, hsplit, href, hrecognized, ?_⟩
        intro next hnext hforbids
        exact hahead ⟨next, hnext, hforbids⟩

end Safely

/-- What is forbidden on the next line is not asked for. -/
example : extractAllowedClickRefs .ideographs "[5]<button>搜索</button>\n[6]<button>联系</button>" = ["5"] := by
  decide +kernel

/-- The pop-up of a page, with another link on the line of its close anchor. -/
def popUpLine : String := "新增人才 [12]<a>联系</a> [13]<a>X</a>"

/-- The other link is clicked. -/
theorem not_clicksSafely_popUpLine :
    extractKnownModalCloseRef .ideographs popUpLine = some "12" ∧ ¬ClicksSafely .ideographs popUpLine := by
  have hclicked : extractKnownModalCloseRef .ideographs popUpLine = some "12" := by
    decide +kernel
  have hother : ¬IsCloseAnchor popUpLine "12" := by
    decide +kernel
  exact ⟨hclicked, fun h => hother (h.closes "12" hclicked)⟩

end PiAgent

end SeekTalent

import Mathlib.Data.List.Infix

/-!
# Regular expressions with backtracking

`ends r p` are the places where a match of `r` from the place `p` can end, in the order in
which a backtracking matcher tries them: a greedy repetition as often as possible first, a lazy
one as seldom as possible. So `search` and `findAll` take
the first of them, and `fullmatch` asks whether the end of the text is among them.

What is known of the characters an expression reads is known of every text it matches
(`mem_of_fullmatch`), and a text without the characters it cannot do without has no match
(`search_eq_false`).
-/

/-- The expressions without groups that are referred to. -/
inductive Regex where
  | empty
  | char (ok : Char → Bool)
  | seq (r s : Regex)
  | alt (r s : Regex)
  /-- greedy repetition -/
  | star (r : Regex)
  /-- a place with a character of a word on one side only -/
  | boundary (isWord : Char → Bool)
  /-- lazy repetition -/
  | lazyStar (r : Regex)
  /-- a condition on the characters before and after a place -/
  | look (ok : Option Char → Option Char → Bool)

namespace Regex

/-- A place in a text: the character before it and the characters after it. -/
structure Place where
  before : Option Char
  rest : List Char

def Place.start (s : String) : Place := ⟨none, s.toList⟩

/-- Match as often as possible, at most `n` times, and only while the text gets shorter. -/
def repeatEnds (step : Place → List Place) : Nat → Place → List Place
  | 0, p => [p]
  | n + 1, p =>
    ((step p).filter fun q => q.rest.length < p.rest.length).flatMap (repeatEnds step n) ++ [p]

/-- Match as seldom as possible, at most `n` times, and only while the text gets shorter. -/
def repeatEndsLazy (step : Place → List Place) : Nat → Place → List Place
  | 0, p => [p]
  | n + 1, p =>
    p :: ((step p).filter fun q => q.rest.length < p.rest.length).flatMap (repeatEndsLazy step n)

def ends : Regex → Place → List Place
  | empty, p => [p]
  | char ok, p =>
    match p.rest with
    | [] => []
    | c :: cs => if ok c then [⟨some c, cs⟩] else []
  | seq r s, p => (r.ends p).flatMap s.ends
  | alt r s, p => r.ends p ++ s.ends p
  | star r, p => repeatEnds r.ends p.rest.length p
  | boundary isWord, p => if p.before.any isWord != p.rest.head?.any isWord then [p] else []
  | lazyStar r, p => repeatEndsLazy r.ends p.rest.length p
  | look ok, p => if ok p.before p.rest.head? then [p] else []

/-! ## Derived expressions -/

/-- `r?` -/
def opt (r : Regex) : Regex := alt r empty

/-- `r{n}` -/
def exactly : Nat → Regex → Regex
  | 0, _ => empty
  | n + 1, r => seq r (exactly n r)

/-- `r{0,n}` -/
def upTo : Nat → Regex → Regex
  | 0, _ => empty
  | n + 1, r => opt (seq r (upTo n r))

/-- `r{least,most}` -/
def between (least most : Nat) (r : Regex) : Regex := seq (exactly least r) (upTo (most - least) r)

/-- `r{least,}` -/
def atLeast (least : Nat) (r : Regex) : Regex := seq (exactly least r) (star r)

def all (rs : List Regex) : Regex := rs.foldr seq empty

def any (rs : List Regex) : Regex := rs.foldr alt (char fun _ => false)

def text (s : String) : Regex := all (s.toList.map fun c => char (· == c))

/-! ## Matching -/

def fullmatch (r : Regex) (s : String) : Bool := (r.ends (.start s)).any (·.rest.isEmpty)

def searchFrom (r : Regex) (before : Option Char) : List Char → Bool
  | [] => !(r.ends ⟨before, []⟩).isEmpty
  | c :: cs => !(r.ends ⟨before, c :: cs⟩).isEmpty || searchFrom r (some c) cs

def search (r : Regex) (s : String) : Bool := searchFrom r none s.toList

/-- The text cut into matches (`inr`) and the characters between them, for an expression that
    does not match the empty text. Every step reads a character, of which there are `n`. -/
def scan (r : Regex) : Nat → Place → List (Char ⊕ List Char)
  | 0, _ => []
  | n + 1, p =>
    match p.rest, (r.ends p).head? with
    | [], _ => []
    | c :: cs, none => .inl c :: scan r n ⟨some c, cs⟩
    | c :: cs, some q =>
      if q.rest.length < p.rest.length then
        .inr (p.rest.take (p.rest.length - q.rest.length)) :: scan r n q
      else .inl c :: scan r n ⟨some c, cs⟩

/-- The matches of `re.finditer`. -/
def findAll (r : Regex) (s : String) : List String :=
  (r.scan s.toList.length (.start s)).filterMap fun
    | .inl _ => none
    | .inr found => some (String.ofList found)

def sub (r : Regex) (replacement s : String) : String :=
  String.ofList ((r.scan s.toList.length (.start s)).flatMap fun
    | .inl c => [c]
    | .inr _ => replacement.toList)

/-- `re.sub` with a function of the match, which may raise. -/
def subWith {ε : Type} (r : Regex) (f : String → Except ε String) (s : String) :
    Except ε String := do
  let parts ← (r.scan s.toList.length (.start s)).mapM fun
    | .inl c => .ok (String.singleton c)
    | .inr found => f (String.ofList found)
  return String.join parts

def Place.textTo (p q : Place) : String :=
  String.ofList (p.rest.take (p.rest.length - q.rest.length))

/-- What each of some expressions in a row reads from a place, in the first way they match. -/
def groups : List Regex → Place → Option (List String)
  | [], _ => some []
  | r :: rs, p => (r.ends p).findSome? fun q => (groups rs q).map (p.textTo q :: ·)

/-- The first match that begins here or later. -/
def searchGroupsFrom (rs : List Regex) (before : Option Char) : List Char → Option (List String)
  | [] => groups rs ⟨before, []⟩
  | c :: cs =>
    match groups rs ⟨before, c :: cs⟩ with
    | some texts => some texts
    | none => searchGroupsFrom rs (some c) cs

/-- `re.search` for expressions in a row, with what each of them reads. -/
def searchGroups (rs : List Regex) (s : String) : Option (List String) :=
  searchGroupsFrom rs none s.toList

/-- The matches of expressions in a row, one after the other, with what each expression reads,
    where no match is empty. Every step reads a character, of which there are `n`. -/
def findAllGroupsFrom (rs : List Regex) : Nat → Place → List (List String)
  | 0, _ => []
  | n + 1, p =>
    match p.rest, ((all rs).ends p).head? with
    | [], _ => []
    | c :: cs, none => findAllGroupsFrom rs n ⟨some c, cs⟩
    | c :: cs, some q =>
      if q.rest.length < p.rest.length then
        (groups rs p).toList ++ findAllGroupsFrom rs n q
      else findAllGroupsFrom rs n ⟨some c, cs⟩

/-- `re.finditer` for expressions in a row, with what each of them reads. -/
def findAllGroups (rs : List Regex) (s : String) : List (List String) :=
  findAllGroupsFrom rs s.toList.length (.start s)

/-! ## The characters of a match -/

/-- Every character the expression can read satisfies `P`. -/
def Reads (P : Char → Prop) : Regex → Prop
  | empty => True
  | char ok => ∀ c, ok c = true → P c
  | seq r s => r.Reads P ∧ s.Reads P
  | alt r s => r.Reads P ∧ s.Reads P
  | star r => r.Reads P
  | boundary _ => True
  | lazyStar r => r.Reads P
  | look _ => True

section Reads

variable {P : Char → Prop} {r : Regex} {rs : List Regex} {p q : Place}

theorem reads_exactly (n : Nat) (h : r.Reads P) : (exactly n r).Reads P := by
  induction n with
  | zero => trivial
  | succ n ih => exact ⟨h, ih⟩

theorem reads_upTo (n : Nat) (h : r.Reads P) : (upTo n r).Reads P := by
  induction n with
  | zero => trivial
  | succ n ih => exact ⟨⟨h, ih⟩, trivial⟩

theorem reads_between (least most : Nat) (h : r.Reads P) : (between least most r).Reads P :=
  ⟨reads_exactly least h, reads_upTo (most - least) h⟩

theorem reads_atLeast (least : Nat) (h : r.Reads P) : (atLeast least r).Reads P :=
  ⟨reads_exactly least h, h⟩

theorem reads_all : (all rs).Reads P ↔ ∀ r ∈ rs, r.Reads P := by
  induction rs with
  | nil => simp [all, Reads]
  | cons r rs ih =>
    show r.Reads P ∧ (all rs).Reads P ↔ _
    simp [ih]

theorem reads_any : (any rs).Reads P ↔ ∀ r ∈ rs, r.Reads P := by
  induction rs with
  | nil => simp [any, Reads]
  | cons r rs ih =>
    show r.Reads P ∧ (any rs).Reads P ↔ _
    simp [ih]

theorem reads_text {s : String} : (text s).Reads P ↔ ∀ c ∈ s.toList, P c := by
  rw [text, reads_all]
  simp [Reads]

/-- From `p` to `q` a text of such characters is read. -/
def Between (P : Char → Prop) (p q : Place) : Prop :=
  ∃ read, p.rest = read ++ q.rest ∧ ∀ c ∈ read, P c

theorem Between.refl (p : Place) : Between P p p := ⟨[], rfl, by simp⟩

theorem Between.trans {p' : Place} (h : Between P p q) (h' : Between P q p') :
    Between P p p' := by
  obtain ⟨read, hread, hP⟩ := h
  obtain ⟨read', hread', hP'⟩ := h'
  refine ⟨read ++ read', by rw [hread, hread', List.append_assoc], ?_⟩
  intro c hc
  rcases List.mem_append.mp hc with hc | hc
  · exact hP c hc
  · exact hP' c hc

theorem between_repeatEnds {step : Place → List Place} {n : Nat}
    (hstep : ∀ p q, q ∈ step p → Between P p q) (h : q ∈ repeatEnds step n p) :
    Between P p q := by
  induction n generalizing p with
  | zero =>
    obtain rfl : q = p := by simpa [repeatEnds] using h
    exact Between.refl q
  | succ n ih =>
    unfold repeatEnds at h
    rcases List.mem_append.mp h with h | h
    · obtain ⟨q', hq', hrest⟩ := List.mem_flatMap.mp h
      exact (hstep p q' (List.mem_of_mem_filter hq')).trans (ih hrest)
    · obtain rfl := List.mem_singleton.mp h
      exact Between.refl q

theorem between_repeatEndsLazy {step : Place → List Place} {n : Nat}
    (hstep : ∀ p q, q ∈ step p → Between P p q) (h : q ∈ repeatEndsLazy step n p) :
    Between P p q := by
  induction n generalizing p with
  | zero =>
    obtain rfl : q = p := by simpa [repeatEndsLazy] using h
    exact Between.refl q
  | succ n ih =>
    unfold repeatEndsLazy at h
    rcases List.mem_cons.mp h with rfl | h
    · exact Between.refl q
    · obtain ⟨q', hq', hrest⟩ := List.mem_flatMap.mp h
      exact (hstep p q' (List.mem_of_mem_filter hq')).trans (ih hrest)

theorem between_of_mem_ends (hr : r.Reads P) (h : q ∈ r.ends p) : Between P p q := by
  induction r generalizing p q with
  | empty =>
    obtain rfl := List.mem_singleton.mp h
    exact Between.refl q
  | char ok =>
    unfold ends at h
    split at h
    · simp at h
    · rename_i c cs hrest
      split at h
      · rename_i hc
        obtain rfl := List.mem_singleton.mp h
        exact ⟨[c], hrest, by simpa using hr c hc⟩
      · simp at h
  | seq r s ihr ihs =>
    obtain ⟨q', hq', hq⟩ := List.mem_flatMap.mp h
    exact (ihr hr.1 hq').trans (ihs hr.2 hq)
  | alt r s ihr ihs =>
    rcases List.mem_append.mp h with h | h
    · exact ihr hr.1 h
    · exact ihs hr.2 h
  | star r ih => exact between_repeatEnds (fun p q => ih hr) h
  | boundary isWord =>
    unfold ends at h
    split at h
    · obtain rfl := List.mem_singleton.mp h
      exact Between.refl q
    · simp at h
  | lazyStar r ih => exact between_repeatEndsLazy (fun p q => ih hr) h
  | look ok =>
    unfold ends at h
    split at h
    · obtain rfl := List.mem_singleton.mp h
      exact Between.refl q
    · simp at h

theorem mem_of_fullmatch {s : String} (hr : r.Reads P) (h : r.fullmatch s = true) :
    ∀ c ∈ s.toList, P c := by
  obtain ⟨q, hq, hend⟩ := List.any_eq_true.mp h
  obtain ⟨read, hread, hP⟩ := between_of_mem_ends hr hq
  have hrest : q.rest = [] := by simpa using hend
  have hs : s.toList = read := by simpa [Place.start, hrest] using hread
  exact hs ▸ hP

end Reads

/-- Every match of the expression reads a character with `P`. -/
def Needs (P : Char → Prop) : Regex → Prop
  | empty => False
  | char ok => ∀ c, ok c = true → P c
  | seq r s => r.Needs P ∨ s.Needs P
  | alt r s => r.Needs P ∧ s.Needs P
  | star _ => False
  | boundary _ => False
  | lazyStar _ => False
  | look _ => False

section Needs

variable {P : Char → Prop} {r s : Regex} {rs : List Regex} {p q : Place}

theorem needs_all : (all rs).Needs P ↔ ∃ r ∈ rs, r.Needs P := by
  induction rs with
  | nil => simp [all, Needs]
  | cons r rs ih =>
    show r.Needs P ∨ (all rs).Needs P ↔ _
    simp [ih]

theorem needs_any : (any rs).Needs P ↔ ∀ r ∈ rs, r.Needs P := by
  induction rs with
  | nil => simp [any, Needs]
  | cons r rs ih =>
    show r.Needs P ∧ (any rs).Needs P ↔ _
    simp [ih]

theorem needs_atLeast {n : Nat} (h : r.Needs P) : (atLeast (n + 1) r).Needs P :=
  .inl (.inl h)

theorem needs_text {s : String} {c : Char} (hc : c ∈ s.toList) (h : P c) : (text s).Needs P := by
  apply needs_all.mpr
  refine ⟨char (· == c), List.mem_map.mpr ⟨c, hc, rfl⟩, ?_⟩
  intro d hd
  rw [eq_of_beq hd]
  exact h

theorem suffix_of_mem_ends (h : q ∈ r.ends p) : q.rest <:+ p.rest := by
  have hreads : r.Reads fun _ => True := by
    clear h
    induction r with
    | empty => trivial
    | char ok => exact fun _ _ => trivial
    | seq r s ihr ihs => exact ⟨ihr, ihs⟩
    | alt r s ihr ihs => exact ⟨ihr, ihs⟩
    | star r ih => exact ih
    | boundary isWord => trivial
    | lazyStar r ih => exact ih
    | look ok => trivial
  obtain ⟨read, hrest, -⟩ := between_of_mem_ends hreads h
  exact ⟨read, hrest.symm⟩

theorem mem_of_mem_scan {n : Nat} {found : List Char} (h : .inr found ∈ r.scan n p) :
    ∀ c ∈ found, c ∈ p.rest := by
  induction n generalizing p with
  | zero => simp [scan] at h
  | succ n ih =>
    unfold scan at h
    split at h
    · simp at h
    · rename_i c cs hrest hnone
      have h : .inr found ∈ r.scan n ⟨some c, cs⟩ := by simpa using h
      intro d hd
      rw [hrest]
      exact List.mem_cons_of_mem c (ih h d hd)
    · rename_i c cs q hrest hq
      split at h
      · rcases List.mem_cons.mp h with heq | h
        · intro d hd
          rw [Sum.inr.inj heq] at hd
          exact List.mem_of_mem_take hd
        · intro d hd
          exact (suffix_of_mem_ends (List.mem_of_mem_head? hq)).subset (ih h d hd)
      · have h : .inr found ∈ r.scan n ⟨some c, cs⟩ := by simpa using h
        intro d hd
        rw [hrest]
        exact List.mem_cons_of_mem c (ih h d hd)

theorem exists_of_mem_ends (hr : r.Needs P) (h : q ∈ r.ends p) : ∃ c ∈ p.rest, P c := by
  induction r generalizing p q with
  | empty => exact hr.elim
  | char ok =>
    unfold ends at h
    split at h
    · simp at h
    · rename_i c cs hrest
      split at h
      · rename_i hc
        exact ⟨c, hrest ▸ List.mem_cons_self, hr c hc⟩
      · simp at h
  | seq r s ihr ihs =>
    obtain ⟨q', hq', hq⟩ := List.mem_flatMap.mp h
    rcases hr with hr | hs
    · exact ihr hr hq'
    · obtain ⟨c, hc, hP⟩ := ihs hs hq
      exact ⟨c, (suffix_of_mem_ends hq').subset hc, hP⟩
  | alt r s ihr ihs =>
    rcases List.mem_append.mp h with h | h
    · exact ihr hr.1 h
    · exact ihs hr.2 h
  | star r ih => exact hr.elim
  | boundary isWord => exact hr.elim
  | lazyStar r ih => exact hr.elim
  | look ok => exact hr.elim

theorem searchFrom_eq_false {before : Option Char} {cs : List Char} (hr : r.Needs P)
    (h : ∀ c ∈ cs, ¬P c) : r.searchFrom before cs = false := by
  have hnone : ∀ before cs, (∀ c ∈ cs, ¬P c) → r.ends ⟨before, cs⟩ = [] := by
    intro before cs h
    apply List.eq_nil_iff_forall_not_mem.mpr
    intro q hq
    obtain ⟨c, hc, hP⟩ := exists_of_mem_ends hr hq
    exact h c hc hP
  induction cs generalizing before with
  | nil => simp [searchFrom, hnone before [] h]
  | cons c cs ih =>
    simp [searchFrom, hnone before (c :: cs) h, ih (fun d hd => h d (List.mem_cons_of_mem c hd))]

theorem search_eq_false {s : String} (hr : r.Needs P) (h : ∀ c ∈ s.toList, ¬P c) :
    r.search s = false :=
  searchFrom_eq_false hr h

end Needs

end Regex

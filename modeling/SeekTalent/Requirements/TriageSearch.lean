import SeekTalent.Base.TextForms
import SeekTalent.Requirements.TriageDraft
import SeekTalent.Round.TermPool
import SeekTalent.Workbench.Calls

/-!
# Which approved triages can be searched for

The draft of a triage passes all checks of the requirement stage but those of the query terms.
There must be a term that is not the title, neither as it is nor as the compiler reads it, and
that is not kept for filtering or scoring only: this is what the stage succeeds by.
-/

namespace SeekTalent

open QueryCompiler
open Feedback (keepFirst)

variable {tables : NumberTables}

/-! ## 1. Cleaned texts -/

theorem cleanText_of_tidy {term : String} (h : Py.Tidy term) : cleanText term = term := by
  rw [cleanText, Py.join_split h, h.strip_eq]

theorem cleanText_cleanText (value : String) : cleanText (cleanText value) = cleanText value :=
  cleanText_of_tidy (tidy_cleanText value)

theorem cleanText_strip (value : String) : cleanText (Py.strip value) = cleanText value := by
  rw [cleanText, Py.split_strip, cleanText]

theorem cleanText_eq_empty_iff {value : String} :
    cleanText value = "" ↔ Py.Blank value.toList := by
  rw [cleanText, (Py.tidy_join_split value).strip_eq, ← Py.splitFrom_eq_nil_iff,
    ← String.toList_inj, Py.toList_join_split]
  constructor
  · intro hjoin
    by_contra hne
    have htidy := Py.tidyFrom_intercalate hne
      (Py.mem_splitFrom fun _ h => absurd h List.not_mem_nil)
    rw [hjoin] at htidy
    simp [Py.TidyFrom] at htidy
  · intro hnil
    rw [hnil]
    rfl

def Clean (term : String) : Prop := Py.Tidy term ∧ term ≠ ""

theorem Clean.cleanText_eq {term : String} (h : Clean term) : cleanText term = term :=
  cleanText_of_tidy h.1

theorem clean_cleanText {value : String} (h : cleanText value ≠ "") : Clean (cleanText value) :=
  ⟨tidy_cleanText value, h⟩

/-! ## 2. The first of each key -/

section Keys

variable {α : Type} {key : α → String} {seen : List String} {items : List α}

theorem not_mem_seen_of_keepFirst : ∀ item ∈ keepFirst key seen items, key item ∉ seen := by
  induction items generalizing seen with
  | nil => simp [keepFirst]
  | cons item rest ih =>
    intro other hother
    unfold keepFirst at hother
    split at hother
    · exact ih other hother
    · rename_i hnew
      rcases List.mem_cons.mp hother with rfl | hother
      · exact hnew
      · intro hseen
        exact ih other hother (List.mem_cons_of_mem _ hseen)

/-- **What is kept** has a key of its own each. -/
theorem nodup_keepFirst : ((keepFirst key seen items).map key).Nodup := by
  induction items generalizing seen with
  | nil => simp [keepFirst]
  | cons item rest ih =>
    unfold keepFirst
    split
    · exact ih
    · rw [List.map_cons, List.nodup_cons]
      refine ⟨?_, ih⟩
      intro hmem
      obtain ⟨other, hother, heq⟩ := List.mem_map.mp hmem
      apply not_mem_seen_of_keepFirst other hother
      rw [heq]
      exact List.mem_cons_self ..

end Keys

theorem uniqueStringsFrom_eq_keepFirst {tables : Py.UnicodeTables} {seen terms : List String}
    (hclean : ∀ term ∈ terms, Clean term) :
    uniqueStringsFrom tables seen terms = keepFirst (Py.casefold tables) seen terms := by
  induction terms generalizing seen with
  | nil => rfl
  | cons term rest ih =>
    obtain ⟨⟨htidy, hne⟩, hclean⟩ := List.forall_mem_cons.mp hclean
    simp only [uniqueStringsFrom, keepFirst, htidy.strip_eq, hne, false_or]
    split
    · exact ih hclean
    · rw [ih hclean]

theorem mergeQueryTerms_eq {tables : Py.UnicodeTables} {limit : Nat} {seen : List String}
    {merged items : List (String × QueryTermSource)} (hclean : ∀ item ∈ items, Clean item.1)
    (hroom : merged.length < limit) :
    mergeQueryTerms tables limit seen merged items =
      (merged ++ keepFirst (fun item => Py.casefold tables item.1) seen items).take limit := by
  induction items generalizing seen merged with
  | nil => simp [mergeQueryTerms, keepFirst, List.take_of_length_le hroom.le]
  | cons item rest ih =>
    obtain ⟨term, source⟩ := item
    obtain ⟨⟨htidy, hne⟩, hclean⟩ := List.forall_mem_cons.mp hclean
    have hterm : cleanText term = term := cleanText_of_tidy htidy
    simp only [mergeQueryTerms, keepFirst, hterm]
    by_cases hseen : Py.casefold tables term ∈ seen
    · rw [if_pos (.inr hseen), if_pos hseen]
      exact ih hclean hroom
    · have hkept : ¬(term = "" ∨ Py.casefold tables term ∈ seen) := by
        rintro (hempty | hmem)
        · exact hne hempty
        · exact hseen hmem
      rw [if_neg hkept, if_neg hseen]
      split
      · -- the list is full with this term
        rename_i hfull
        have hlength : (merged ++ [(term, source)]).length = limit := by
          rw [List.length_append, List.length_singleton] at hfull ⊢
          omega
        conv_rhs => rw [List.append_cons, ← hlength, List.take_left]
      · rename_i hmore
        rw [ih hclean (by omega), List.append_assoc]
        rfl

/-! ## 3. The compiled pool -/

section Pool

variable {tables : Py.UnicodeTables} {keys : List String} {state : CompilerState}
variable {call : AddCandidate} {calls : List AddCandidate}

def callKey (tables : Py.UnicodeTables) (call : AddCandidate) : String :=
  Py.casefold tables (cleanText call.term)

def CallsSupport (tables : Py.UnicodeTables) (keys : List String) (call : AddCandidate) : Prop :=
  (callClass tables keys call).queryability = .admitted ∧
    isTitleAnchorRole (callClass tables keys call).role = false

theorem isSupport_addedCandidate :
    (addedCandidate tables keys state call).IsSupport ↔ CallsSupport tables keys call := by
  rw [isSupport_iff]
  rfl

section New

variable (hne : cleanText call.term ≠ "") (hnew : callKey tables call ∉ state.seen)
include hne hnew

theorem pool_addCandidate : (addCandidate tables keys state call).pool =
    state.pool ++ [addedCandidate tables keys state call] := by
  unfold callKey at hnew
  unfold addCandidate
  dsimp only
  rw [if_neg (not_or.mpr ⟨hne, hnew⟩)]
  rfl

theorem seen_addCandidate : (addCandidate tables keys state call).seen =
    callKey tables call :: state.seen := by
  unfold callKey at hnew
  unfold addCandidate
  dsimp only
  rw [if_neg (not_or.mpr ⟨hne, hnew⟩)]
  rfl

end New

theorem addedCandidate_queryability : (addedCandidate tables keys state call).queryability =
    (callClass tables keys call).queryability := rfl

theorem addedCandidate_retrievalRole : (addedCandidate tables keys state call).retrievalRole =
    (callClass tables keys call).role := rfl

theorem addAll_cons : addAll tables keys state (call :: calls) =
    addAll tables keys (addCandidate tables keys state call) calls := by
  unfold addAll
  rw [List.foldl_cons]

theorem mem_addAll {item : QueryTermCandidate} (h : item ∈ state.pool) :
    item ∈ (addAll tables keys state calls).pool := by
  unfold addAll
  induction calls generalizing state with
  | nil => exact h
  | cons call calls ih =>
    rw [List.foldl_cons]
    apply ih
    rcases addCandidate_cases tables keys state call with heq | ⟨-, -, heq⟩
    · rw [heq]
      exact h
    · rw [heq]
      exact List.mem_append_left _ h

/-- **The supports of a pool** come of the calls with new keys that are classified so. -/
theorem exists_support_addAll (hclean : ∀ call ∈ calls, cleanText call.term ≠ "")
    (hkeys : (calls.map (callKey tables)).Nodup) :
    (∃ item ∈ (addAll tables keys state calls).pool, item.IsSupport) ↔
      (∃ item ∈ state.pool, item.IsSupport) ∨
        ∃ call ∈ calls, callKey tables call ∉ state.seen ∧ CallsSupport tables keys call := by
  unfold addAll
  induction calls generalizing state with
  | nil => simp
  | cons call calls ih =>
    obtain ⟨hne, hclean⟩ := List.forall_mem_cons.mp hclean
    rw [List.map_cons, List.nodup_cons] at hkeys
    rw [List.foldl_cons, ih hclean hkeys.2]
    have hother : ∀ other ∈ calls, callKey tables other ≠ callKey tables call := by
      intro other hmem heq
      exact hkeys.1 (heq ▸ List.mem_map_of_mem hmem)
    by_cases hseen : callKey tables call ∈ state.seen
    · -- the term is there already
      have hskip : addCandidate tables keys state call = state := by
        unfold addCandidate
        exact if_pos (.inr hseen)
      rw [hskip]
      simp [hseen]
    · rw [pool_addCandidate hne hseen, seen_addCandidate hne hseen]
      have hadded : (∃ item ∈ state.pool ++ [addedCandidate tables keys state call],
          item.IsSupport) ↔
          (∃ item ∈ state.pool, item.IsSupport) ∨ CallsSupport tables keys call := by
        simp [or_and_right, exists_or, isSupport_addedCandidate]
      have hlater : (∃ other ∈ calls, callKey tables other ∉ callKey tables call :: state.seen ∧
          CallsSupport tables keys other) ↔
          ∃ other ∈ calls, callKey tables other ∉ state.seen ∧ CallsSupport tables keys other := by
        apply exists_congr
        intro other
        apply and_congr_right
        intro hmem
        rw [List.mem_cons, not_or]
        simp [hother other hmem]
      rw [hadded, hlater, or_assoc]
      simp [hseen]

end Pool

/-! ## 4. The title -/

section Title

variable {tables : Py.UnicodeTables} {value title : String}

theorem not_blank_cleanTitleAnchor (h : cleanTitleAnchor tables value ≠ "") :
    ¬Py.Blank (cleanTitleAnchor tables value).toList := by
  have hsuffix : ∀ {text}, stripTitleSuffix tables text ≠ "" →
      ¬Py.Blank (stripTitleSuffix tables text).toList := by
    intro text hne
    unfold stripTitleSuffix at hne ⊢
    dsimp only at hne ⊢
    split at hne
    · rw [Py.blank_strip_iff, ← Py.strip_eq_empty_iff]
      exact hne
    · rw [← cleanText_eq_empty_iff, cleanText_cleanText]
      exact hne
  have hprefix : ∀ {clean anchor} (separators : List Char),
      anchorAfterPrefix tables clean separators = some anchor →
        ∃ text, anchor = stripTitleSuffix tables text := by
    intro clean anchor separators hfound
    induction separators with
    | nil => cases hfound
    | cons separator rest ih =>
      unfold anchorAfterPrefix at hfound
      split at hfound
      · exact ih hfound
      · dsimp only at hfound
        split at hfound
        · exact ⟨_, (Option.some.inj hfound).symm⟩
        · exact ih hfound
  have hanchor : ∃ text, cleanTitleAnchor tables value = stripTitleSuffix tables text := by
    unfold cleanTitleAnchor
    dsimp only
    cases hfound : anchorAfterPrefix tables (cleanText value) titlePrefixSeparators with
    | none => exact ⟨_, rfl⟩
    | some anchor => exact hprefix _ hfound
  obtain ⟨text, heq⟩ := hanchor
  rw [heq] at h ⊢
  exact hsuffix h

theorem uniqueStrings_singleton (h : ¬Py.Blank value.toList) :
    uniqueStrings tables [value] = [Py.strip value] := by
  have hne : Py.strip value ≠ "" := fun hempty => h (Py.strip_eq_empty_iff.mp hempty)
  simp [uniqueStrings, uniqueStringsFrom, hne]

def titleAnchor (tables : Py.UnicodeTables) (jobTitle : String) : String :=
  orElse (cleanTitleAnchor tables (cleanText jobTitle)) (cleanText jobTitle)

theorem not_blank_titleAnchor (h : ¬Py.Blank title.toList) :
    ¬Py.Blank (titleAnchor tables title).toList := by
  unfold titleAnchor orElse
  split
  · rw [← cleanText_eq_empty_iff, cleanText_cleanText, cleanText_eq_empty_iff]
    exact h
  · rename_i hne
    exact not_blank_cleanTitleAnchor hne

theorem compileTitleAnchors_title (h : ¬Py.Blank title.toList) :
    compileTitleAnchors tables (cleanText title) [cleanText title] none =
      [Py.strip (titleAnchor tables title)] := by
  have hclean : ¬Py.Blank (cleanText title).toList := by
    rw [← cleanText_eq_empty_iff, cleanText_cleanText, cleanText_eq_empty_iff]
    exact h
  have hne : cleanText title ≠ "" := fun hempty => h (cleanText_eq_empty_iff.mp hempty)
  have hcollected : collectTitleAnchors tables [] (uniqueStrings tables [cleanText title]) =
      if cleanTitleAnchor tables (cleanText title) = "" then []
      else [cleanTitleAnchor tables (cleanText title)] := by
    rw [uniqueStrings_singleton hclean, (tidy_cleanText title).strip_eq]
    simp [collectTitleAnchors]
  rw [← @uniqueStrings_singleton tables _ (not_blank_titleAnchor h)]
  unfold compileTitleAnchors
  dsimp only
  rw [hcollected]
  unfold titleAnchor
  by_cases hempty : cleanTitleAnchor tables (cleanText title) = ""
  · simp [hempty, orElse, hne, cleanText_cleanText, uniqueStrings_singleton hclean]
  · simp [hempty, orElse, uniqueStrings_singleton (not_blank_cleanTitleAnchor hempty)]

end Title

/-! ## 5. The stage -/

namespace TriageDraft

open Requirements

variable {tables : NumberTables} {context : WorkbenchSourceRunJobContext}

/-- The query terms of the job, beside the title, as they are given to the compiler. -/
def jdTerms (tables : NumberTables) (context : WorkbenchSourceRunJobContext) : List String :=
  nonAnchorTerms tables [cleanText context.session.jobTitle] (offeredTerms tables context)

def noteTerms (tables : NumberTables) (context : WorkbenchSourceRunJobContext) : List String :=
  nonAnchorTerms tables [cleanText context.session.jobTitle]
    (uniqueBoundedStrings tables 6 context.triage.criteria.synonyms)

def firstTerms (tables : NumberTables) (context : WorkbenchSourceRunJobContext) :
    List (String × QueryTermSource) :=
  (keepFirst (fun term => Py.casefold tables.toUnicodeTables term.1) []
    ((jdTerms tables context).map (·, .jd) ++ (noteTerms tables context).map (·, .notes))).take 8

/-- A term can be searched for beside the title `jobTitle`: it is not what the title is searched by,
    and it is not kept for filtering or scoring. -/
structure Searchable (tables : Py.UnicodeTables) (jobTitle : String)
    (term : String × QueryTermSource) : Prop where
  notTitle : Py.casefold tables term.1 ≠
    Py.casefold tables (cleanText (titleAnchor tables jobTitle))
  notFilter : isFilterOnly tables term.1 (compactKey tables term.1) = false
  notBlocked : blockedPatterns.any (Py.contains (compactKey tables term.1) ·) = false
  notAbstract : isAbstractNotesTerm tables term.1 = false
  noted : term.2 = .notes → shouldAdmitNotesTerm tables term.1 = true

/-- The triage names a term that can be searched for beside the title. -/
structure HasSearchTerm (tables : NumberTables) (context : WorkbenchSourceRunJobContext) :
    Prop where
  named : jdTerms tables context ≠ []
  searchable : ∃ term ∈ firstTerms tables context,
    Searchable tables.toUnicodeTables context.session.jobTitle term

theorem clean_of_mem_nonAnchorTerms {anchors values : List String} {term : String}
    (h : term ∈ nonAnchorTerms tables anchors values) : Clean term := by
  have hclean : ∀ value ∈ (values.map cleanText).filter (· ≠ ""), Clean value := by
    intro value hvalue
    obtain ⟨hmem, hne⟩ := List.mem_filter.mp hvalue
    obtain ⟨text, -, rfl⟩ := List.mem_map.mp hmem
    exact clean_cleanText (by simpa using hne)
  have hlist : term ∈ cleanList tables.toUnicodeTables 8 values := (List.mem_filter.mp h).1
  have hunique := List.mem_of_mem_take hlist
  rw [uniqueStrings, uniqueStringsFrom_eq_keepFirst hclean] at hunique
  exact hclean term (Feedback.mem_of_mem_keepFirst hunique)

theorem clean_of_mem_firstTerms {term : String × QueryTermSource}
    (h : term ∈ firstTerms tables context) : Clean term.1 := by
  have hmem := Feedback.mem_of_mem_keepFirst (List.mem_of_mem_take h)
  rcases List.mem_append.mp hmem with hmem | hmem
  · obtain ⟨text, htext, rfl⟩ := List.mem_map.mp hmem
    exact clean_of_mem_nonAnchorTerms htext
  · obtain ⟨text, htext, rfl⟩ := List.mem_map.mp hmem
    exact clean_of_mem_nonAnchorTerms htext

theorem nodup_firstTerms : ((firstTerms tables context).map fun term =>
    Py.casefold tables.toUnicodeTables term.1).Nodup := by
  unfold firstTerms
  rw [List.map_take]
  exact List.Nodup.sublist (List.take_sublist _ _) nodup_keepFirst

def triageInput (tables : NumberTables) (context : WorkbenchSourceRunJobContext) : Input where
  jobTitle := cleanText context.session.jobTitle
  titleAnchorTerms := [cleanText context.session.jobTitle]
  jdQueryTerms := jdTerms tables context
  notesQueryTerms := noteTerms tables context
  hardConstraints := some {}
  preferences := some {}

theorem calls_triage (htitle : ¬Py.Blank context.session.jobTitle.toList) :
    calls tables.toUnicodeTables (triageInput tables context) =
      anchorCall tables.toUnicodeTables
          (Py.strip (titleAnchor tables.toUnicodeTables context.session.jobTitle)) 0 ::
        (firstTerms tables context).mapIdx fun index term => termCall term (1 + index) := by
  have hclean : ∀ term ∈ (jdTerms tables context).map (fun term => (term, QueryTermSource.jd)) ++
      (noteTerms tables context).map (·, .notes), Clean term.1 := by
    intro term hterm
    rcases List.mem_append.mp hterm with hterm | hterm
    · obtain ⟨text, htext, rfl⟩ := List.mem_map.mp hterm
      exact clean_of_mem_nonAnchorTerms htext
    · obtain ⟨text, htext, rfl⟩ := List.mem_map.mp hterm
      exact clean_of_mem_nonAnchorTerms htext
  unfold calls triageInput
  dsimp only
  rw [compileTitleAnchors_title htitle, mergeQueryTerms_eq hclean (by simp)]
  rfl

theorem callsSupport_termCall_iff {tables : Py.UnicodeTables} {term : String × QueryTermSource}
    (hclean : Clean term.1) (index : Nat) :
    CallsSupport tables [] (termCall term index) ↔
      isFilterOnly tables term.1 (compactKey tables term.1) = false ∧
        blockedPatterns.any (Py.contains (compactKey tables term.1) ·) = false ∧
          isAbstractNotesTerm tables term.1 = false ∧
            (term.2 = .notes → shouldAdmitNotesTerm tables term.1 = true) := by
  have hclass : callClass tables [] (termCall term index) =
      admitNotes tables term.2 term.1 (classifyTerm tables term.1 []) := by
    unfold callClass termCall
    dsimp only
    rw [hclean.cleanText_eq]
    rfl
  unfold CallsSupport
  rw [hclass]
  unfold admitNotes classifyTerm
  simp only [List.not_mem_nil, false_or]
  cases isFilterOnly tables term.1 (compactKey tables term.1)
  · cases blockedPatterns.any (Py.contains (compactKey tables term.1) ·)
    · cases isAbstractNotesTerm tables term.1
      · cases shouldAdmitNotesTerm tables term.1 <;> cases term.2 <;> simp [isTitleAnchorRole]
      · simp
    · simp
  · simp

section Compiled

variable {anchor : String}

theorem callClass_anchorCall {tables : Py.UnicodeTables} (keys : List String) (anchor : String) :
    callClass tables keys (anchorCall tables anchor 0) =
      { role := .primaryRoleAnchor, queryability := .admitted, category := .roleAnchor
        family := familyForRole tables anchor } := by
  simp [callClass, anchorCall, admitNotes]

theorem exists_support_triage (hanchor : cleanText anchor =
      cleanText (titleAnchor tables.toUnicodeTables context.session.jobTitle))
    (hne : cleanText anchor ≠ "") :
    (∃ item ∈ (addAll tables.toUnicodeTables [] {}
      (anchorCall tables.toUnicodeTables anchor 0 ::
        (firstTerms tables context).mapIdx fun index term => termCall term (1 + index))).pool,
      item.IsSupport) ↔
      ∃ term ∈ firstTerms tables context,
        Searchable tables.toUnicodeTables context.session.jobTitle term := by
  have hcallText : cleanText (anchorCall tables.toUnicodeTables anchor 0).term ≠ "" := hne
  generalize hcall : anchorCall tables.toUnicodeTables anchor 0 = call at hcallText ⊢
  have hnew : callKey tables.toUnicodeTables call ∉ ({} : CompilerState).seen := by simp
  have hpool : (addCandidate tables.toUnicodeTables [] {} call).pool =
      [addedCandidate tables.toUnicodeTables [] {} call] := pool_addCandidate hcallText hnew
  have hseen : (addCandidate tables.toUnicodeTables [] {} call).seen =
      [callKey tables.toUnicodeTables call] := seen_addCandidate hcallText hnew
  have hkey : callKey tables.toUnicodeTables call =
      Py.casefold tables.toUnicodeTables
        (cleanText (titleAnchor tables.toUnicodeTables context.session.jobTitle)) := by
    rw [← hanchor, ← hcall]
    rfl
  have hterm : ∀ {term index}, term ∈ firstTerms tables context →
      callKey tables.toUnicodeTables (termCall term index) =
        Py.casefold tables.toUnicodeTables term.1 := by
    intro term index hmem
    exact congrArg (Py.casefold tables.toUnicodeTables) (clean_of_mem_firstTerms hmem).cleanText_eq
  -- the title's anchor is no support
  have hfirst : ¬∃ item ∈ (addCandidate tables.toUnicodeTables [] {} call).pool,
      item.IsSupport := by
    rw [hpool]
    simp only [List.mem_singleton, exists_eq_left, isSupport_addedCandidate]
    rw [← hcall, CallsSupport, callClass_anchorCall]
    simp [isTitleAnchorRole]
  rw [addAll_cons, exists_support_addAll, hseen, or_iff_right hfirst]
  · constructor
    · rintro ⟨_, hmem, hnew, hsupport⟩
      obtain ⟨index, hindex, rfl⟩ := List.mem_mapIdx.mp hmem
      have hmem := List.getElem_mem hindex
      rw [callsSupport_termCall_iff (clean_of_mem_firstTerms hmem)] at hsupport
      obtain ⟨hfilter, hblocked, habstract, hnoted⟩ := hsupport
      refine ⟨_, hmem, ⟨?_, hfilter, hblocked, habstract, hnoted⟩⟩
      rw [hterm hmem, hkey] at hnew
      simpa using hnew
    · rintro ⟨term, hmem, hsearch⟩
      obtain ⟨index, hindex, rfl⟩ := List.getElem_of_mem hmem
      refine ⟨_, List.mem_mapIdx.mpr ⟨index, hindex, rfl⟩, ?_, ?_⟩
      · rw [hterm hmem, hkey]
        simpa using hsearch.notTitle
      · rw [callsSupport_termCall_iff (clean_of_mem_firstTerms hmem)]
        exact ⟨hsearch.notFilter, hsearch.notBlocked, hsearch.notAbstract, hsearch.noted⟩
  · intro other hother
    obtain ⟨index, hindex, rfl⟩ := List.mem_mapIdx.mp hother
    have hmem := List.getElem_mem hindex
    have hclean := clean_of_mem_firstTerms hmem
    show cleanText (firstTerms tables context)[index].1 ≠ ""
    rw [hclean.cleanText_eq]
    exact hclean.2
  · have hkeys : ((firstTerms tables context).mapIdx fun index term =>
        termCall term (1 + index)).map (callKey tables.toUnicodeTables) =
        (firstTerms tables context).map fun term => Py.casefold tables.toUnicodeTables term.1 := by
      apply List.ext_getElem
      · simp
      · intro index hleft hright
        have hmem := List.getElem_mem (by simpa using hright : index < (firstTerms tables context).length)
        simp only [List.getElem_map, List.getElem_mapIdx, hterm hmem]
    rw [hkeys]
    exact nodup_firstTerms

/-- **The compiler** makes a pool of the triage if one of the first terms can be searched for. -/
theorem compileQueryTermPool_triage (htitle : ¬Py.Blank context.session.jobTitle.toList) :
    (∃ pool, compileQueryTermPool tables.toUnicodeTables (triageInput tables context) = .ok pool) ↔
      ∃ term ∈ firstTerms tables context,
        Searchable tables.toUnicodeTables context.session.jobTitle term := by
  have hcalls := @calls_triage tables context htitle
  have hkeys : constraintKeys tables.toUnicodeTables (triageInput tables context).hardConstraints
      (triageInput tables context).preferences = [] := rfl
  generalize hanchor : Py.strip (titleAnchor tables.toUnicodeTables context.session.jobTitle) =
    anchor at hcalls
  have hanchorText : cleanText anchor =
      cleanText (titleAnchor tables.toUnicodeTables context.session.jobTitle) := by
    rw [← hanchor, cleanText_strip]
  have hne : cleanText anchor ≠ "" := by
    rw [hanchorText]
    exact fun hempty => not_blank_titleAnchor htitle (cleanText_eq_empty_iff.mp hempty)
  have hcallText : cleanText (anchorCall tables.toUnicodeTables anchor 0).term ≠ "" := hne
  rw [← exists_support_triage hanchorText hne, ← hcalls]
  unfold compileQueryTermPool
  rw [hkeys]
  dsimp only
  generalize hpool : (addAll tables.toUnicodeTables [] {}
    (calls tables.toUnicodeTables (triageInput tables context))).pool = pool
  have hprimary : ∃ item ∈ pool, item.queryability = .admitted ∧
      item.retrievalRole = .primaryRoleAnchor := by
    refine ⟨addedCandidate tables.toUnicodeTables [] {}
      (anchorCall tables.toUnicodeTables anchor 0), ?_, ?_, ?_⟩
    · rw [← hpool, hcalls]
      generalize anchorCall tables.toUnicodeTables anchor 0 = call at hcallText
      rw [addAll_cons]
      apply mem_addAll
      rw [pool_addCandidate hcallText (by simp)]
      simp
    · rw [addedCandidate_queryability, callClass_anchorCall]
    · rw [addedCandidate_retrievalRole, callClass_anchorCall]
  have hsupport : (∃ item ∈ pool, item.queryability = .admitted ∧
      isTitleAnchorRole item.retrievalRole = false) ↔ ∃ item ∈ pool, item.IsSupport := by
    simp only [isSupport_iff]
  rw [if_neg (not_not.mpr hprimary), ← hsupport]
  by_cases hany : ∃ item ∈ pool, item.queryability = .admitted ∧
      isTitleAnchorRole item.retrievalRole = false
  · rw [if_neg (not_not.mpr hany)]
    exact ⟨fun _ => hany, fun _ => ⟨pool, rfl⟩⟩
  · rw [if_pos hany]
    constructor
    · rintro ⟨_, hok⟩
      cases hok
    · exact fun h => absurd h hany

end Compiled

section Stage

variable (htitle : ¬Py.Blank context.session.jobTitle.toList)
include htitle

theorem titleAnchorTerms_eq : titleAnchorTerms context.session.jobTitle =
    [Py.strip context.session.jobTitle] := by
  have hne : Py.strip context.session.jobTitle ≠ "" :=
    fun hempty => htitle (Py.strip_eq_empty_iff.mp hempty)
  simp [titleAnchorTerms, hne]

theorem cleanText_jobTitle_ne : cleanText context.session.jobTitle ≠ "" :=
  fun hempty => htitle (cleanText_eq_empty_iff.mp hempty)

theorem normalizeTitleAnchorTerms_triage :
    normalizeTitleAnchorTerms tables.toUnicodeTables (triageDraft tables context).titleAnchorTerms =
      .ok [cleanText context.session.jobTitle] := by
  have hclean : ¬Py.Blank (cleanText context.session.jobTitle).toList := by
    rw [← cleanText_eq_empty_iff, cleanText_cleanText, cleanText_eq_empty_iff]
    exact htitle
  have hterms : (triageDraft tables context).titleAnchorTerms =
      [Py.strip context.session.jobTitle] := titleAnchorTerms_eq htitle
  have hunique : uniqueStrings tables.toUnicodeTables [cleanText context.session.jobTitle] =
      [cleanText context.session.jobTitle] := by
    rw [uniqueStrings_singleton hclean, (tidy_cleanText _).strip_eq]
  rw [hterms]
  unfold normalizeTitleAnchorTerms
  rw [List.map_singleton, cleanText_strip, hunique]
  rfl

theorem cleanText_roleSummary_ne : cleanText (triageDraft tables context).roleSummary ≠ "" := by
  show cleanText (roleSummaryFromTriage tables context) ≠ ""
  have hmore : ∀ more, cleanText (context.session.jobTitle ++ more) ≠ "" := by
    intro more hempty
    apply htitle
    intro c hc
    apply cleanText_eq_empty_iff.mp hempty
    rw [String.toList_append]
    exact List.mem_append_left _ hc
  unfold roleSummaryFromTriage
  dsimp only
  split
  · exact cleanText_jobTitle_ne htitle
  · rw [String.append_assoc, String.append_assoc]
    exact hmore _

theorem validate_triageDraft : (triageDraft tables context).validate =
    .ok (triageDraft tables context) := by
  have hrole : (triageDraft tables context).roleTitle ≠ "" := by
    intro hempty
    apply htitle
    rw [show context.session.jobTitle = "" from hempty]
    exact fun _ h => absurd h List.not_mem_nil
  have hsummary : (triageDraft tables context).roleSummary ≠ "" := by
    intro hempty
    apply cleanText_roleSummary_ne htitle
    rw [hempty]
    rfl
  have hanchors : (triageDraft tables context).titleAnchorTerms.length = 1 :=
    congrArg List.length (titleAnchorTerms_eq htitle)
  unfold RequirementExtractionDraft.validate
  rw [if_neg hrole, hanchors, if_neg (by decide), if_neg (by simp [triageDraft]), if_neg hsummary,
    if_neg (by simp [triageDraft])]

end Stage

theorem hardConstraintSlots_triage :
    hardConstraintSlots tables (triageDraft tables context) [] = .ok {} := by
  rfl

theorem preferenceSlots_triage :
    (preferenceSlots tables (triageDraft tables context) []).toPreferenceSlots = {} := by
  rfl

def StageSucceeds (tables : NumberTables) (context : WorkbenchSourceRunJobContext) : Prop :=
  ∃ draft sheet, requirementStage tables context = .ok (draft, sheet)

/-- The triage of the context is what an approval of the user answers. -/
def Accepted (context : WorkbenchSourceRunJobContext) : Prop :=
  ∃ user now store store',
    WorkbenchStore.approveRequirementTriage user context.session.sessionId now store =
      .ok (store', some context.triage)

theorem normalize_triageDraft_iff (htitle : ¬Py.Blank context.session.jobTitle.toList) :
    (∃ sheet, normalizeRequirementDraft tables (triageDraft tables context)
      context.session.jobTitle = .ok sheet) ↔ HasSearchTerm tables context := by
  have hrationale : cleanText (triageDraft tables context).titleAnchorRationale ≠ "" := by
    show cleanText "来自已确认岗位标准的标题锚点。" ≠ ""
    decide
  have hscoring : cleanText (triageDraft tables context).scoringRationale ≠ "" := by
    show cleanText "优先匹配已确认的硬性条件，再参考加分条件和排除项。" ≠ ""
    decide
  unfold normalizeRequirementDraft
  rw [normalizeTitleAnchorTerms_triage htitle]
  dsimp only [bind, Except.bind]
  rw [if_neg (cleanText_jobTitle_ne htitle), if_neg (List.cons_ne_nil _ _),
    if_neg hrationale, if_neg (cleanText_roleSummary_ne htitle), if_neg hscoring]
  have hlocations : normalizeLocations tables.toUnicodeTables
      (triageDraft tables context).locations = [] := rfl
  have hjd : nonAnchorTerms tables [cleanText context.session.jobTitle]
      (triageDraft tables context).jdQueryTerms = jdTerms tables context := rfl
  rw [hlocations, hardConstraintSlots_triage, preferenceSlots_triage, hjd]
  by_cases hnamed : jdTerms tables context = []
  · rw [if_pos hnamed]
    constructor
    · rintro ⟨_, hok⟩
      cases hok
    · exact fun h => absurd hnamed h.named
  · rw [if_neg hnamed]
    have hcompiled := @compileQueryTermPool_triage tables context htitle
    dsimp only
    split
    · rename_i herror
      constructor
      · rintro ⟨_, hok⟩
        cases hok
      · intro h
        obtain ⟨pool, hpool⟩ := hcompiled.mpr h.searchable
        cases herror.symm.trans hpool
    · rename_i pool hpool
      exact ⟨fun _ => ⟨hnamed, hcompiled.mp ⟨pool, hpool⟩⟩, fun _ => ⟨_, rfl⟩⟩

/-- **The requirement stage** of a run that starts from a triage succeeds if the triage names a
    term that can be searched for beside the title, and only then. -/
theorem stageSucceeds_iff (tables : NumberTables) (context : WorkbenchSourceRunJobContext)
    (htitle : ¬Py.Blank context.session.jobTitle.toList) :
    StageSucceeds tables context ↔ HasSearchTerm tables context := by
  rw [← normalize_triageDraft_iff htitle]
  unfold StageSucceeds requirementStage extractCached requirementDraftFromApprovedTriage
  rw [validate_triageDraft htitle]
  dsimp only [bind, Except.bind]
  rw [validate_triageDraft htitle]
  dsimp only
  constructor
  · rintro ⟨draft, sheet, hok⟩
    cases hsheet : normalizeRequirementDraft tables (triageDraft tables context)
        context.session.jobTitle with
    | error err =>
      rw [hsheet] at hok
      cases hok
    | ok sheet => exact ⟨sheet, rfl⟩
  · rintro ⟨sheet, hsheet⟩
    rw [hsheet]
    exact ⟨_, sheet, rfl⟩

/-! ## 6. The title alone -/

def sampleTriage (criteria : TriageCriteria) : WorkbenchStore where
  sessions := { rows := [sampleSession], nodup := List.nodup_singleton _ }
  triages :=
    { rows := [{ sessionId := "s", workspaceId := "lab", userId := "ann", criteria := criteria }]
      nodup := List.nodup_singleton _ }

def approvedContext (criteria : TriageCriteria) : WorkbenchSourceRunJobContext :=
  { sampleContext with
    triage :=
      { sessionId := "s"
        workspaceId := "lab"
        userId := "ann"
        status := .approved
        criteria := criteria
        approvedAt := some 1 } }

theorem not_blank_sampleTitle : ¬Py.Blank sampleSession.jobTitle.toList := by
  rw [← cleanText_eq_empty_iff]
  decide

theorem stageSucceeds_sample : StageSucceeds .ascii (approvedContext { mustHaves := ["Rust"] }) :=
  (stageSucceeds_iff .ascii (approvedContext { mustHaves := ["Rust"] }) not_blank_sampleTitle).mpr
    ⟨by decide, ("Rust", .jd), by decide,
      ⟨by decide, by decide, by decide, by decide,
        by decide⟩⟩

/-- **An approved triage** can fail in the requirement stage: it names nothing but a kind of
    school, which is for filtering only. -/
theorem not_stageSucceeds_filterOnly :
    ¬∀ (tables : NumberTables) (context : WorkbenchSourceRunJobContext), Accepted context →
      ¬Py.Blank context.session.jobTitle.toList → StageSucceeds tables context := by
  intro h
  have haccepted : Accepted (approvedContext { mustHaves := ["211"] }) :=
    ⟨sampleUser, 1, sampleTriage { mustHaves := ["211"] }, _, rfl⟩
  obtain ⟨draft, sheet, hok⟩ := h .ascii _ haccepted not_blank_sampleTitle
  have hstage : requirementStage .ascii (approvedContext { mustHaves := ["211"] }) =
      .error (.valueError "query compiler produced no admitted non-anchor terms") := by
    decide
  rw [hstage] at hok
  cases hok

end TriageDraft

end SeekTalent

import SeekTalent.Base.Loops
import SeekTalent.Query.Explore
import SeekTalent.Round.CanonicalQuery
import SeekTalent.Round.ForcedDecision

/-!
# What the explore query explores

The explore query should have other terms than the exploit query, and terms that were not sent
before as long as there are some. `derive_explore_query_terms` compares queries as lists, though,
and its ranking changes from round to round: the terms of an old query pass as new ones in another
order. `deriveExploreQueryTerms_spec` says when this does not matter.
-/

namespace SeekTalent

open Stateful (bind_eq_ok)

namespace Explore

variable {tables : Py.UnicodeTables} {pool : List QueryTermCandidate}
variable {history : List SentQueryRecord} {exploit terms : List String}

/-! ## 1. What is wanted -/

def termSet (tables : Py.UnicodeTables) (terms : List String) : Finset String :=
  (queryKeys tables terms).toFinset

def WasSent (tables : Py.UnicodeTables) (history : List SentQueryRecord) (terms : List String) :
    Prop :=
  ∃ record ∈ history, termSet tables record.queryTerms = termSet tables terms

def exploitAnchor (tables : Py.UnicodeTables) (pool : List QueryTermCandidate)
    (exploit : List String) : Option QueryTermCandidate :=
  (candidatesOf tables pool exploit).find? (·.IsTitleAnchor)

/-- The anchor with one or two admitted terms that are no anchors, of distinct families. -/
def Admissible (tables : Py.UnicodeTables) (pool : List QueryTermCandidate) (exploit terms : List String) :
    Prop :=
  ∃ anchor combo, exploitAnchor tables pool exploit = some anchor ∧
    (combo.length = 1 ∨ combo.length = 2) ∧ (∀ item ∈ combo, item ∈ pool ∧ item.IsSupport) ∧
    ((anchor :: combo).map (·.family)).Nodup ∧ terms = (anchor :: combo).map (·.term)

/-- A query that explores: it is accepted, has other terms than the exploit query, and terms that
were not sent before if there are some. -/
structure Explores (tables : Py.UnicodeTables) (pool : List QueryTermCandidate)
    (exploit : List String) (history : List SentQueryRecord) (terms : List String) : Prop where
  accepted : canonicalizeControllerQueryTerms tables { allowInactiveNonAnchorTerms := true } terms 2
    pool = .ok terms
  differs : termSet tables terms ≠ termSet tables exploit
  fresh : (∃ other, Admissible tables pool exploit other ∧
    termSet tables other ≠ termSet tables exploit ∧ ¬WasSent tables history other) →
    ¬WasSent tables history terms

def ExploreOk (tables : Py.UnicodeTables) (pool : List QueryTermCandidate)
    (exploit : List String) (history : List SentQueryRecord) : Prop :=
  ∃ result, deriveExploreQueryTerms tables exploit pool history = .ok result ∧
    ∀ terms, result = some terms → Explores tables pool exploit history terms

/-! ## 2. Combinations -/

section Combinations

variable {α : Type} {items combo : List α}

theorem mem_pairs : combo ∈ pairs items ↔ combo.Sublist items ∧ combo.length = 2 := by
  induction items with
  | nil =>
    simp only [pairs, List.not_mem_nil, List.sublist_nil, false_iff, not_and]
    rintro rfl
    simp
  | cons a rest ih =>
    rw [pairs, List.mem_append, ih, List.mem_map, List.sublist_cons_iff]
    constructor
    · rintro (⟨b, hb, rfl⟩ | ⟨hsub, htwo⟩)
      · exact ⟨.inr ⟨[b], rfl, List.singleton_sublist.mpr hb⟩, rfl⟩
      · exact ⟨.inl hsub, htwo⟩
    · rintro ⟨hsub | ⟨tail, rfl, hsub⟩, htwo⟩
      · exact .inr ⟨hsub, htwo⟩
      · obtain ⟨b, rfl⟩ := List.length_eq_one_iff.mp (Nat.succ.inj htwo)
        exact .inl ⟨b, List.singleton_sublist.mp hsub, rfl⟩

theorem mem_combinations : combo ∈ combinations items ↔
    combo.Sublist items ∧ (combo.length = 1 ∨ combo.length = 2) := by
  have hsingle : combo ∈ items.map (fun a => [a]) ↔ combo.Sublist items ∧ combo.length = 1 := by
    rw [List.mem_map]
    constructor
    · rintro ⟨a, ha, rfl⟩
      exact ⟨List.singleton_sublist.mpr ha, rfl⟩
    · rintro ⟨hsub, hone⟩
      obtain ⟨a, rfl⟩ := List.length_eq_one_iff.mp hone
      exact ⟨a, List.singleton_sublist.mp hsub, rfl⟩
  rw [combinations, List.mem_append, hsingle, mem_pairs, and_or_left]

theorem exists_combination (hnodup : combo.Nodup) (hmem : ∀ item ∈ combo, item ∈ items)
    (hlength : combo.length = 1 ∨ combo.length = 2) : ∃ c ∈ combinations items, c.Perm combo := by
  obtain ⟨c, hperm, hsub⟩ := List.subperm_of_subset hnodup hmem
  refine ⟨c, mem_combinations.mpr ⟨hsub, ?_⟩, hperm⟩
  rwa [hperm.length_eq]

end Combinations

/-! ## 3. Anchored queries of the pool -/

structure Lineup (pool : List QueryTermCandidate) (anchor : QueryTermCandidate)
    (companions : List QueryTermCandidate) : Prop where
  mem : ∀ item ∈ anchor :: companions, item ∈ pool
  admitted : ∀ item ∈ anchor :: companions, item.queryability = .admitted
  primary : anchor.IsPrimaryAnchor
  others : ∀ item ∈ companions, ¬item.IsPrimaryAnchor
  nodup : companions.Nodup

variable {anchor item : QueryTermCandidate} {companions combo : List QueryTermCandidate}

theorem Lineup.nodup_cons (h : Lineup pool anchor companions) : (anchor :: companions).Nodup :=
  List.nodup_cons.mpr ⟨fun hmem => h.others anchor hmem h.primary, h.nodup⟩

theorem Lineup.nodup_keys (h : Lineup pool anchor companions) (hdistinct : TermsDistinct tables pool) :
    (queryKeys tables ((anchor :: companions).map (·.term))).Nodup :=
  hdistinct.nodup_casefold h.mem h.nodup_cons

theorem Lineup.companionsOf_eq (h : Lineup pool anchor companions)
    (hdistinct : TermsDistinct tables pool) :
    companionsOf tables anchor (anchor :: companions) = companions := by
  have hkeys := h.nodup_keys hdistinct
  rw [List.map_cons, queryKeys, List.map_cons, List.nodup_cons] at hkeys
  unfold companionsOf
  rw [List.filter_cons_of_neg (by simp), List.filter_eq_self]
  intro item hitem
  apply decide_eq_true
  intro heq
  apply hkeys.1
  rw [← heq]
  exact List.mem_map_of_mem (List.mem_map_of_mem hitem)

theorem found_of_distinct (hdistinct : TermsDistinct tables pool) (hitem : item ∈ pool) :
    Found tables pool item where
  mem := hitem
  index := by
    rw [hdistinct.key_eq hitem]
    exact hdistinct.queryTermIndex_eq hitem
  ne_blank := by
    rw [normalizeTerm_eq (hdistinct.tidy item hitem).1]
    exact (hdistinct.tidy item hitem).2

theorem namedFamilies_eq {items : List QueryTermCandidate} (hpool : TermPoolOk tables pool)
    (hmem : ∀ item ∈ items, item ∈ pool) (hadmitted : ∀ item ∈ items, item.queryability = .admitted) :
    namedFamilies items = items.map (·.family) := by
  unfold namedFamilies
  rw [List.filter_eq_self]
  intro family hfamily
  obtain ⟨item, hitem, rfl⟩ := List.mem_map.mp hfamily
  apply decide_eq_true
  by_cases htitle : item.IsTitleAnchor
  · exact strip_ne_empty (hpool.roleFamily item (hmem item hitem) htitle).head (by decide)
  · obtain ⟨key, hkey | hkey⟩ :=
      hpool.supportFamily item (hmem item hitem) ⟨hadmitted item hitem, htitle⟩
    · exact strip_ne_empty (c := 'd') (by rw [hkey, String.toList_append]; rfl) (by decide)
    · exact strip_ne_empty (c := 'f') (by rw [hkey, String.toList_append]; rfl) (by decide)

theorem Lineup.duplicateFamilies_eq_nil (h : Lineup pool anchor companions)
    (hpool : TermPoolOk tables pool) : duplicateFamilies tables (anchor :: companions) = [] ↔
      ((anchor :: companions).map (·.family)).Nodup := by
  rw [duplicateFamilies_eq_nil_iff, namedFamilies_eq hpool h.mem h.admitted]

theorem Lineup.accepted_iff (h : Lineup pool anchor companions) (hpool : TermPoolOk tables pool) :
    canonicalizeControllerQueryTerms tables { allowInactiveNonAnchorTerms := true }
        ((anchor :: companions).map (·.term)) 2 pool = .ok terms ↔
      (companions.length = 1 ∨ companions.length = 2) ∧
      (∀ item ∈ companions, item.retrievalRole ≠ .secondaryTitleAnchor) ∧
      ((anchor :: companions).map (·.family)).Nodup ∧
      terms = (anchor :: companions).map (·.term) := by
  have hfound : ∀ item ∈ anchor :: companions, Found tables pool item :=
    fun item hitem => found_of_distinct hpool.distinct (h.mem item hitem)
  have hkeys : ((anchor :: companions).map fun item => queryTermKey tables item.term).Nodup := by
    have hnodup := h.nodup_keys hpool.distinct
    rw [queryKeys, List.map_map] at hnodup
    rw [List.map_congr_left fun item hitem => hpool.distinct.key_eq (h.mem item hitem)]
    exact hnodup
  have hprimaries : (anchor :: companions).filter (·.IsPrimaryAnchor) = [anchor] := by
    rw [List.filter_cons_of_pos (by simpa using h.primary), List.filter_eq_nil_iff.mpr]
    intro item hitem
    simpa using h.others item hitem
  rw [canonicalize_found hfound hkeys]
  constructor
  · rintro ⟨htwo, hthree, hcheck⟩
    have htwo : 2 ≤ (anchor :: companions).length := htwo.resolve_right Bool.false_ne_true
    rw [checkItems_two htwo, canonicalizeCandidates_ok_iff] at hcheck
    obtain ⟨-, anchor', hanchor', hpass, hfamilies, hterms⟩ := hcheck
    rw [hprimaries, List.singleton_inj] at hanchor'
    subst hanchor'
    rw [h.companionsOf_eq hpool.distinct] at hpass hterms
    rw [namedFamilies_eq hpool h.mem h.admitted] at hfamilies
    rw [List.length_cons] at htwo hthree
    refine ⟨by omega, fun item hitem hrole => hpass.secondary ⟨by decide, ?_⟩, hfamilies, hterms⟩
    exact List.ne_nil_of_mem (List.mem_filter.mpr ⟨hitem, decide_eq_true hrole⟩)
  · rintro ⟨hlength, hsecondary, hfamilies, hterms⟩
    have htwo : 2 ≤ (anchor :: companions).length := by
      rw [List.length_cons]
      omega
    refine ⟨.inl htwo, by rw [List.length_cons]; omega, ?_⟩
    rw [checkItems_two htwo, canonicalizeCandidates_ok_iff]
    refine ⟨h.admitted, anchor, hprimaries, ?_⟩
    rw [h.companionsOf_eq hpool.distinct, namedFamilies_eq hpool h.mem h.admitted]
    refine ⟨⟨by simp, by simp; omega, ?_, by simp⟩, hfamilies, hterms⟩
    rintro ⟨-, hsome⟩
    apply hsome
    rw [List.filter_eq_nil_iff]
    intro item hitem
    simpa using hsecondary item hitem

/-! ## 4. The ranking -/

namespace Setting

variable {s : Setting} {other : List QueryTermCandidate}

def query (s : Setting) (combo : List QueryTermCandidate) : List String :=
  (s.anchor :: combo).map (·.term)

/-- The combinations of terms of distinct families, each in the order of the ranking. -/
def options (tables : Py.UnicodeTables) (s : Setting) : List (List QueryTermCandidate) :=
  (combinations (s.orderedTerms tables)).filter fun combo =>
    ((s.anchor :: combo).map (·.family)).Nodup

def Differs (tables : Py.UnicodeTables) (s : Setting) (combo : List QueryTermCandidate) : Prop :=
  termSet tables (s.query combo) ≠ s.exploitKeys.toFinset

def Repeats (tables : Py.UnicodeTables) (s : Setting) (combo : List QueryTermCandidate) : Prop :=
  queryKeys tables (s.query combo) ∈ usedQueries tables s.history

instance : Decidable (s.Repeats tables combo) := inferInstanceAs (Decidable (_ ∈ _))

/-- The terms of the exploit query stand in another order in the ranking and were not sent so,
while everything else was sent. -/
def Reordered (tables : Py.UnicodeTables) (s : Setting) : Prop :=
  (∃ combo ∈ s.options tables, ¬s.Differs tables combo ∧
    queryKeys tables (s.query combo) ≠ s.exploitKeys ∧ ¬s.Repeats tables combo) ∧
  ∀ combo ∈ s.options tables, s.Differs tables combo → s.Repeats tables combo

/-- What was sent in another order only is ranked behind something that was not sent. -/
def NewFirst (tables : Py.UnicodeTables) (s : Setting) : Prop :=
  (∃ other ∈ s.options tables, s.Differs tables other ∧
    ¬WasSent tables s.history (s.query other)) →
  ∀ combo ∈ s.options tables, s.Differs tables combo → ¬s.Repeats tables combo →
    WasSent tables s.history (s.query combo) →
    ∃ other ∈ s.options tables, s.Differs tables other ∧
      ¬WasSent tables s.history (s.query other) ∧
      s.scoreCombo tables other < s.scoreCombo tables combo

/-- The setting of an exploit query of an anchor and one or two companions. -/
structure Ready (tables : Py.UnicodeTables) (s : Setting) (companions : List QueryTermCandidate) :
    Prop where
  pool : TermPoolOk tables s.pool
  lineup : Lineup s.pool s.anchor companions
  count : companions.length = 1 ∨ companions.length = 2
  exploitKeys : s.exploitKeys = queryKeys tables ((s.anchor :: companions).map (·.term))
  exploitTermKeys : s.exploitTermKeys = queryKeys tables (companions.map (·.term))

theorem mem_orderedTerms : item ∈ s.orderedTerms tables ↔ item ∈ s.pool ∧ item.IsSupport := by
  unfold orderedTerms QueryTermCandidate.IsSupport
  rw [Py.mem_sortedBy, List.mem_filter, decide_eq_true_eq]

theorem nodup_orderedTerms (hpool : TermPoolOk tables s.pool) : (s.orderedTerms tables).Nodup :=
  Py.perm_sortedBy.nodup_iff.mpr ((nodup_of_distinct hpool.distinct).filter _)

theorem mem_options : combo ∈ s.options tables ↔ combo ∈ combinations (s.orderedTerms tables) ∧
    ((s.anchor :: combo).map (·.family)).Nodup := by
  unfold options
  rw [List.mem_filter, decide_eq_true_eq]

theorem titleAnchor_of_primary (h : item.IsPrimaryAnchor) : item.IsTitleAnchor := by
  refine isTitleAnchor_iff.mpr ⟨h.1, ?_⟩
  have hrole := h.2
  unfold isPrimaryAnchorRole at hrole
  unfold isTitleAnchorRole
  cases hrole' : item.retrievalRole <;> simp [hrole'] at hrole ⊢

theorem not_primary_of_support (h : item.IsSupport) : ¬item.IsPrimaryAnchor := fun hprimary =>
  h.2 (titleAnchor_of_primary hprimary)

theorem not_secondary_of_support (h : item.IsSupport) :
    item.retrievalRole ≠ .secondaryTitleAnchor := by
  intro hrole
  have hnone := (isSupport_iff.mp h).2
  rw [hrole] at hnone
  cases hnone

theorem support_of_mem (hcombo : combo ∈ combinations (s.orderedTerms tables)) :
    ∀ item ∈ combo, item ∈ s.pool ∧ item.IsSupport := fun _ hitem =>
  mem_orderedTerms.mp ((mem_combinations.mp hcombo).1.subset hitem)

theorem Ready.lineup_combo (hs : s.Ready tables companions)
    (hcombo : combo ∈ combinations (s.orderedTerms tables)) :
    Lineup s.pool s.anchor combo where
  mem := List.forall_mem_cons.mpr
    ⟨hs.lineup.mem _ List.mem_cons_self, fun item hitem => (support_of_mem hcombo item hitem).1⟩
  admitted := List.forall_mem_cons.mpr
    ⟨hs.lineup.admitted _ List.mem_cons_self, fun item hitem => (support_of_mem hcombo item hitem).2.1⟩
  primary := hs.lineup.primary
  others item hitem := not_primary_of_support (support_of_mem hcombo item hitem).2
  nodup := (nodup_orderedTerms hs.pool).sublist (mem_combinations.mp hcombo).1

theorem Ready.consider_eq (hs : s.Ready tables companions)
    (hcombo : combo ∈ combinations (s.orderedTerms tables)) :
    s.consider tables combo = .ok (if combo ∈ s.options tables ∧
      queryKeys tables (s.query combo) ≠ s.exploitKeys then
        some (s.scoreCombo tables combo, s.query combo) else none) := by
  have hlineup := hs.lineup_combo hcombo
  have hkeys : ((s.anchor :: combo).map fun item => Py.casefold tables item.term).Nodup := by
    have hnodup := hlineup.nodup_keys hs.pool.distinct
    rwa [queryKeys, List.map_map] at hnodup
  have hoption : combo ∈ s.options tables ↔ ((s.anchor :: combo).map (·.family)).Nodup := by
    rw [mem_options]
    exact and_iff_right hcombo
  unfold consider
  dsimp only
  by_cases hfamilies : ((s.anchor :: combo).map (·.family)).Nodup
  · have haccepted := (hlineup.accepted_iff hs.pool).mpr
      ⟨(mem_combinations.mp hcombo).2,
        fun item hitem => not_secondary_of_support (support_of_mem hcombo item hitem).2, hfamilies, rfl⟩
    rw [if_neg, haccepted]
    · by_cases hsame : queryKeys tables (s.query combo) = s.exploitKeys
      · rw [if_neg (fun h => h.2 hsame)]
        exact if_pos hsame
      · rw [if_pos ⟨hoption.mpr hfamilies, hsame⟩]
        exact if_neg hsame
    · rintro (hdup | hdup)
      · exact hdup hkeys
      · exact hdup ((hlineup.duplicateFamilies_eq_nil hs.pool).mpr hfamilies)
  · rw [if_pos, if_neg (fun h => hfamilies (hoption.mp h.1))]
    exact .inr fun hnil => hfamilies ((hlineup.duplicateFamilies_eq_nil hs.pool).mp hnil)

/-! ## 5. The choice -/

def Considered (tables : Py.UnicodeTables) (s : Setting) (combo : List QueryTermCandidate) : Prop :=
  combo ∈ s.options tables ∧ queryKeys tables (s.query combo) ≠ s.exploitKeys

/-- The choice: the best of what is considered, of what does not repeat a query if there is some. -/
structure Chosen (tables : Py.UnicodeTables) (s : Setting) (combo : List QueryTermCandidate) :
    Prop where
  considered : s.Considered tables combo
  repeats : s.Repeats tables combo → ∀ other, s.Considered tables other → s.Repeats tables other
  least : ∀ other, s.Considered tables other →
    (s.Repeats tables other ↔ s.Repeats tables combo) →
    s.scoreCombo tables combo ≤ s.scoreCombo tables other

theorem best_eq {scored : List (Option ((Int ×ₗ Int ×ₗ Int ×ₗ Int ×ₗ List String) × List String))}
    (h : (combinations (s.orderedTerms tables)).mapM (s.consider tables) = .ok scored) :
    s.best tables = .ok (((Py.minBy (·.1) (scored.reduceOption.filter fun entry =>
        queryKeys tables entry.2 ∉ usedQueries tables s.history)).or
      (Py.minBy (·.1) (scored.reduceOption.filter fun entry =>
        queryKeys tables entry.2 ∈ usedQueries tables s.history))).map (·.2)) := by
  unfold best
  rw [h]
  simp only [bind, Except.bind, pure, Except.pure]
  split
  · next hunused =>
    rw [hunused]
    rfl
  · next hunused =>
    rw [hunused, Option.none_or]

theorem Ready.best_cases (hs : s.Ready tables companions) :
    (s.best tables = .ok none ∧ ∀ combo, ¬s.Considered tables combo) ∨
      ∃ combo, s.best tables = .ok (some (s.query combo)) ∧ s.Chosen tables combo := by
  have hconsider := Loops.mapM_ok fun _ hcombo => hs.consider_eq hcombo
  -- the entries are the considered options with their scores
  have hentry : ∀ entry, entry ∈ ((combinations (s.orderedTerms tables)).map fun combo =>
      if combo ∈ s.options tables ∧ queryKeys tables (s.query combo) ≠ s.exploitKeys then
        some (s.scoreCombo tables combo, s.query combo) else none).reduceOption ↔
      ∃ combo, s.Considered tables combo ∧ (s.scoreCombo tables combo, s.query combo) = entry := by
    intro entry
    rw [List.reduceOption_mem_iff, List.mem_map]
    constructor
    · rintro ⟨combo, -, hsome⟩
      split at hsome
      · next hconsidered => exact ⟨combo, hconsidered, Option.some.inj hsome⟩
      · cases hsome
    · rintro ⟨combo, hconsidered, rfl⟩
      exact ⟨combo, (mem_options.mp hconsidered.1).1, if_pos hconsidered⟩
  rw [best_eq hconsider]
  generalize (List.map _ (combinations (s.orderedTerms tables))).reduceOption = entries at hentry
  cases hunused : Py.minBy (·.1) (entries.filter fun entry =>
      queryKeys tables entry.2 ∉ usedQueries tables s.history) with
  | some entry =>
    right
    obtain ⟨hmem, hnew⟩ := List.mem_filter.mp (Py.mem_of_minBy hunused)
    obtain ⟨combo, hconsidered, rfl⟩ := (hentry entry).mp hmem
    have hnew : ¬s.Repeats tables combo := of_decide_eq_true hnew
    refine ⟨combo, rfl, hconsidered, fun hrepeats => absurd hrepeats hnew, ?_⟩
    intro other hother hiff
    have hnew' : ¬s.Repeats tables other := fun hrepeats => hnew (hiff.mp hrepeats)
    exact List.le_of_mem_argmin (f := (·.1)) (List.mem_filter.mpr
      ⟨(hentry _).mpr ⟨other, hother, rfl⟩, decide_eq_true hnew'⟩) hunused
  | none =>
    have hold : ∀ other, s.Considered tables other → s.Repeats tables other := by
      intro other hother
      have hnone := List.filter_eq_nil_iff.mp (Py.minBy_eq_none.mp hunused) _
        ((hentry _).mpr ⟨other, hother, rfl⟩)
      exact not_not.mp fun hnew => hnone (decide_eq_true hnew)
    have hmem : ∀ other, s.Considered tables other →
        (s.scoreCombo tables other, s.query other) ∈ entries.filter fun entry =>
          queryKeys tables entry.2 ∈ usedQueries tables s.history := fun other hother =>
      List.mem_filter.mpr ⟨(hentry _).mpr ⟨other, hother, rfl⟩, decide_eq_true (hold other hother)⟩
    cases hused : Py.minBy (·.1) (entries.filter fun entry =>
        queryKeys tables entry.2 ∈ usedQueries tables s.history) with
    | some entry =>
      right
      obtain ⟨hentries, -⟩ := List.mem_filter.mp (Py.mem_of_minBy hused)
      obtain ⟨combo, hconsidered, rfl⟩ := (hentry entry).mp hentries
      exact ⟨combo, rfl, hconsidered, fun _ => hold, fun other hother _ =>
        List.le_of_mem_argmin (f := (·.1)) (hmem other hother) hused⟩
    | none =>
      left
      refine ⟨rfl, fun combo hcombo => ?_⟩
      have hnone := hmem combo hcombo
      rw [Py.minBy_eq_none.mp hused] at hnone
      cases hnone

/-! ## 6. Scores -/

def comboKeys (tables : Py.UnicodeTables) (combo : List QueryTermCandidate) : List String :=
  queryKeys tables (combo.map (·.term))

theorem scoreCombo_inj (h : s.scoreCombo tables combo = s.scoreCombo tables other) :
    queryKeys tables (s.query combo) = queryKeys tables (s.query other) := by
  have hkeys : comboKeys tables combo = comboKeys tables other := by
    have hlast := congrArg (fun score => (ofLex (ofLex (ofLex (ofLex score).2).2).2).2) h
    unfold comboKeys queryKeys
    rw [List.map_map, List.map_map]
    exact hlast
  exact congrArg (Py.casefold tables s.anchor.term :: ·) hkeys

theorem Differs.ne_exploitKeys (h : s.Differs tables combo) :
    queryKeys tables (s.query combo) ≠ s.exploitKeys :=
  fun heq => h (congrArg List.toFinset heq)

theorem Ready.comboKeys_perm (hs : s.Ready tables companions)
    (hcombo : combo ∈ combinations (s.orderedTerms tables)) (hsame : ¬s.Differs tables combo) :
    (comboKeys tables combo).Perm (comboKeys tables companions) := by
  have hset : (queryKeys tables (s.query combo)).toFinset =
      (queryKeys tables ((s.anchor :: companions).map (·.term))).toFinset := by
    rw [← hs.exploitKeys]
    exact not_not.mp hsame
  exact (List.perm_of_nodup_nodup_toFinset_eq
    ((hs.lineup_combo hcombo).nodup_keys hs.pool.distinct)
    (hs.lineup.nodup_keys hs.pool.distinct) hset).cons_inv

theorem Ready.not_differs (hs : s.Ready tables companions)
    (h : (comboKeys tables combo).Perm (comboKeys tables companions)) :
    ¬s.Differs tables combo := by
  intro hdiffers
  apply hdiffers
  rw [hs.exploitKeys]
  exact List.toFinset_eq_of_perm _ _ (h.cons _)

theorem length_comboKeys : (comboKeys tables combo).length = combo.length := by
  rw [comboKeys, queryKeys, List.length_map, List.length_map]

theorem Ready.two_of_reordered (hs : s.Ready tables companions)
    (hcombo : combo ∈ combinations (s.orderedTerms tables)) (hsame : ¬s.Differs tables combo)
    (hkeys : queryKeys tables (s.query combo) ≠ s.exploitKeys) :
    combo.length = 2 ∧ companions.length = 2 := by
  have hperm := hs.comboKeys_perm hcombo hsame
  have hlength : combo.length = companions.length := by
    have h := hperm.length_eq
    rwa [length_comboKeys, length_comboKeys] at h
  rcases hs.count with hone | htwo
  · -- one term has no other order
    have hone' : (comboKeys tables companions).length = 1 := by rw [length_comboKeys, hone]
    obtain ⟨key, hkey⟩ := List.length_eq_one_iff.mp hone'
    rw [hkey, List.perm_singleton, ← hkey] at hperm
    rw [hs.exploitKeys] at hkeys
    exact absurd (congrArg (Py.casefold tables s.anchor.term :: ·) hperm) hkeys
  · exact ⟨hlength.trans htwo, htwo⟩

def overlap (tables : Py.UnicodeTables) (s : Setting) (combo : List QueryTermCandidate) : Nat :=
  (comboKeys tables combo).countP (· ∈ s.exploitTermKeys)

theorem scoreCombo_lt_of_overlap (h : s.overlap tables combo < s.overlap tables other) :
    s.scoreCombo tables combo < s.scoreCombo tables other := by
  have hfirst : ((s.overlap tables combo : Nat) : Int) < (s.overlap tables other : Nat) := by
    exact_mod_cast h
  unfold overlap comboKeys queryKeys at hfirst
  rw [List.map_map, List.map_map] at hfirst
  exact Prod.Lex.toLex_lt_toLex.mpr (.inl hfirst)

theorem Ready.score_lt_reordered (hs : s.Ready tables companions)
    (hcombo : combo ∈ combinations (s.orderedTerms tables)) (hsame : ¬s.Differs tables combo)
    (hkeys : queryKeys tables (s.query combo) ≠ s.exploitKeys)
    (hother : other ∈ combinations (s.orderedTerms tables)) (hdiffers : s.Differs tables other) :
    s.scoreCombo tables other < s.scoreCombo tables combo := by
  obtain ⟨-, htwo⟩ := hs.two_of_reordered hcombo hsame hkeys
  have hperm := hs.comboKeys_perm hcombo hsame
  have hterms : s.exploitTermKeys = comboKeys tables companions := hs.exploitTermKeys
  have hall : s.overlap tables combo = 2 := by
    unfold overlap
    rw [List.countP_eq_length.mpr, hperm.length_eq, length_comboKeys, htwo]
    intro key hkey
    rw [hterms]
    exact decide_eq_true (hperm.subset hkey)
  have hsome : s.overlap tables other < 2 := by
    by_contra hmany
    have hlength := (mem_combinations.mp hother).2
    have hle : s.overlap tables other ≤ (comboKeys tables other).length := List.countP_le_length
    rw [length_comboKeys] at hle
    have hcount : s.overlap tables other = (comboKeys tables other).length := by
      rw [length_comboKeys]
      omega
    have hsub : ∀ key ∈ comboKeys tables other, key ∈ comboKeys tables companions := by
      intro key hkey
      rw [← hterms]
      exact of_decide_eq_true (List.countP_eq_length.mp hcount key hkey)
    have hnodup : (comboKeys tables other).Nodup :=
      ((hs.lineup_combo hother).nodup_keys hs.pool.distinct).of_cons
    have hsubperm := List.subperm_of_subset hnodup hsub
    refine hs.not_differs (hsubperm.perm_of_length_le ?_) hdiffers
    rw [length_comboKeys, length_comboKeys]
    omega
  exact scoreCombo_lt_of_overlap (by omega)

theorem Ready.exists_differs (hs : s.Ready tables companions) (hcombo : combo ∈ s.options tables)
    (hsame : ¬s.Differs tables combo)
    (hkeys : queryKeys tables (s.query combo) ≠ s.exploitKeys) :
    ∃ other ∈ s.options tables, s.Differs tables other := by
  obtain ⟨hcombinations, hfamilies⟩ := mem_options.mp hcombo
  obtain ⟨hlength, htwo⟩ := hs.two_of_reordered hcombinations hsame hkeys
  obtain ⟨a, b, rfl⟩ := List.length_eq_two.mp hlength
  have hsub : [a].Sublist [a, b] := List.sublist_append_left [a] [b]
  have hsingle : [a] ∈ combinations (s.orderedTerms tables) :=
    mem_combinations.mpr ⟨hsub.trans (mem_combinations.mp hcombinations).1, .inl rfl⟩
  refine ⟨[a], mem_options.mpr ⟨hsingle, hfamilies.sublist ((hsub.cons_cons _).map _)⟩, ?_⟩
  by_contra hnot
  have hone := (hs.comboKeys_perm hsingle hnot).length_eq
  rw [length_comboKeys, length_comboKeys, htwo] at hone
  cases hone

theorem Repeats.wasSent (h : s.Repeats tables combo) :
    WasSent tables s.history (s.query combo) := by
  obtain ⟨logical, hlogical, hkeys⟩ := List.mem_map.mp h
  obtain ⟨record, hrecord, rfl⟩ := List.mem_map.mp (List.mem_dedup.mp hlogical)
  exact ⟨record, hrecord, congrArg List.toFinset hkeys⟩

/-- **The choice is a good one** exactly when no order deceives it. -/
theorem Ready.chosen_iff (hs : s.Ready tables companions) (h : s.Chosen tables combo) :
    (s.Differs tables combo ∧ ((∃ other ∈ s.options tables, s.Differs tables other ∧
        ¬WasSent tables s.history (s.query other)) →
      ¬WasSent tables s.history (s.query combo))) ↔
      ¬s.Reordered tables ∧ s.NewFirst tables := by
  have hoption : combo ∈ s.options tables := h.considered.1
  have hcombinations := (mem_options.mp hoption).1
  constructor
  · rintro ⟨hdiffers, hfresh⟩
    constructor
    · rintro ⟨⟨other, hother, -, hkeys, hnew⟩, hall⟩
      exact hnew (h.repeats (hall combo hoption hdiffers) other ⟨hother, hkeys⟩)
    · intro hsome other hother hotherDiffers hnew hsent
      have hunsent := hfresh hsome
      refine ⟨combo, hoption, hdiffers, hunsent, lt_of_le_of_ne ?_ fun heq => hunsent ?_⟩
      · refine h.least other ⟨hother, hotherDiffers.ne_exploitKeys⟩ ?_
        exact iff_of_false hnew fun hrepeats => hunsent hrepeats.wasSent
      · unfold WasSent termSet
        rw [scoreCombo_inj heq]
        exact hsent
  · rintro ⟨hordered, hnewFirst⟩
    have hdiffers : s.Differs tables combo := by
      by_contra hsame
      have hkeys := h.considered.2
      -- something else would have been taken
      have hlast : ∀ other ∈ s.options tables, s.Differs tables other →
          ¬(s.Repeats tables other ↔ s.Repeats tables combo) := by
        intro other hother hdiffers hiff
        have hle := h.least other ⟨hother, hdiffers.ne_exploitKeys⟩ hiff
        exact absurd (hs.score_lt_reordered hcombinations hsame hkeys (mem_options.mp hother).1
          hdiffers) (not_lt.mpr hle)
      by_cases hrepeats : s.Repeats tables combo
      · obtain ⟨other, hother, hdiffers⟩ := hs.exists_differs hoption hsame hkeys
        have hall := h.repeats hrepeats other ⟨hother, hdiffers.ne_exploitKeys⟩
        exact hlast other hother hdiffers (iff_of_true hall hrepeats)
      · apply hordered
        refine ⟨⟨combo, hoption, hsame, hkeys, hrepeats⟩, fun other hother hdiffers => ?_⟩
        by_contra hnew
        exact hlast other hother hdiffers (iff_of_false hnew hrepeats)
    refine ⟨hdiffers, fun hsome hsent => ?_⟩
    by_cases hrepeats : s.Repeats tables combo
    · obtain ⟨other, hother, hotherDiffers, hunsent⟩ := hsome
      exact hunsent (h.repeats hrepeats other ⟨hother, hotherDiffers.ne_exploitKeys⟩).wasSent
    · obtain ⟨other, hother, hotherDiffers, hunsent, hlt⟩ :=
        hnewFirst hsome combo hoption hdiffers hrepeats hsent
      have hle := h.least other ⟨hother, hotherDiffers.ne_exploitKeys⟩
        (iff_of_false (fun hrepeats => hunsent hrepeats.wasSent) hrepeats)
      exact absurd hlt (not_lt.mpr hle)

theorem ordered_of_none
    (h : ∀ combo, ¬s.Considered tables combo) : ¬s.Reordered tables ∧ s.NewFirst tables := by
  constructor
  · rintro ⟨⟨combo, hcombo, -, hkeys, -⟩, -⟩
    exact h combo ⟨hcombo, hkeys⟩
  · rintro ⟨other, hother, hdiffers, -⟩
    exact absurd ⟨hother, hdiffers.ne_exploitKeys⟩ (h other)

end Setting

/-! ## 7. The run of `derive_explore_query_terms` -/

def settingOf (tables : Py.UnicodeTables) (anchor : QueryTermCandidate)
    (companions pool : List QueryTermCandidate) (history : List SentQueryRecord) : Setting :=
  { anchor, exploitKeys := queryKeys tables ((anchor :: companions).map (·.term))
    exploitTermKeys := queryKeys tables (companions.map (·.term)), pool, history }

def exploreSetting (tables : Py.UnicodeTables) (pool : List QueryTermCandidate)
    (exploit : List String) (history : List SentQueryRecord) : Option Setting :=
  (exploitAnchor tables pool exploit).map fun anchor =>
    settingOf tables anchor (companionsOf tables anchor (candidatesOf tables pool exploit)) pool
      history

variable {forms : Py.TextForms} {proposed : List String} {allowance : QueryAllowance} {roundNo : Int}

theorem exists_lineup (hpool : TermPoolOk forms.toUnicodeTables pool)
    (hplan : canonicalizeControllerQueryTerms forms.toUnicodeTables allowance proposed roundNo pool =
      .ok exploit) :
    ∃ anchor companions, Lineup pool anchor companions ∧
      exploit = (anchor :: companions).map (·.term) ∧ companions.length ≤ 2 ∧
      ((anchor :: companions).map (·.family)).Nodup := by
  obtain ⟨anchor, companions, hterms, hprimary, hothers, -, hfound, hnodup, -, hnamed, -, hthree,
    hcheck⟩ := exists_accepted hplan
  have hadmitted : ∀ item ∈ anchor :: companions, item.queryability = .admitted := by
    cases companions with
    | nil => exact List.forall_mem_singleton.mpr hprimary.1
    | cons companion companions =>
      rw [checkItems_two (by simp)] at hcheck
      exact (canonicalizeCandidates_ok_iff.mp hcheck).1
  have hlineup : Lineup pool anchor companions :=
    { mem := fun item hitem => (hfound item hitem).mem
      admitted := hadmitted
      primary := hprimary
      others := hothers
      nodup := hnodup.of_map.of_cons }
  rw [namedFamilies_eq hpool hlineup.mem hadmitted] at hnamed
  rw [List.length_cons] at hthree
  exact ⟨anchor, companions, hlineup, hterms, by omega, hnamed⟩

section Lineup

variable (history) (hpool : TermPoolOk tables pool) (h : Lineup pool anchor companions)

include hpool h

theorem candidatesOf_lineup :
    candidatesOf tables pool ((anchor :: companions).map (·.term)) = anchor :: companions := by
  have hfound : ∀ item ∈ anchor :: companions, Found tables pool item :=
    fun item hitem => found_of_distinct hpool.distinct (h.mem item hitem)
  unfold candidatesOf
  rw [proposedTerms_items hfound, List.filterMap_map]
  exact (List.filterMap_congr fun item hitem => (hfound item hitem).index).trans List.filterMap_some

theorem exploitAnchor_lineup :
    exploitAnchor tables pool ((anchor :: companions).map (·.term)) = some anchor := by
  unfold exploitAnchor
  rw [candidatesOf_lineup hpool h]
  exact List.find?_cons_of_pos (decide_eq_true (Setting.titleAnchor_of_primary h.primary))

theorem exploreSetting_lineup :
    exploreSetting tables pool ((anchor :: companions).map (·.term)) history =
      some (settingOf tables anchor companions pool history) := by
  unfold exploreSetting
  rw [exploitAnchor_lineup hpool h, candidatesOf_lineup hpool h, Option.map_some,
    h.companionsOf_eq hpool.distinct]

theorem ready_settingOf (hcount : companions.length = 1 ∨ companions.length = 2) :
    (settingOf tables anchor companions pool history).Ready tables companions :=
  { pool := hpool, lineup := h, count := hcount, exploitKeys := rfl, exploitTermKeys := rfl }

theorem proposedTerms_lineup : proposedTerms ((anchor :: companions).map (·.term)) =
    (anchor :: companions).map (·.term) := by
  rw [proposedTerms_items fun item hitem => found_of_distinct hpool.distinct (h.mem item hitem)]
  exact List.map_congr_left fun item hitem =>
    normalizeTerm_eq (hpool.distinct.tidy item (h.mem item hitem)).1

theorem derive_eq : deriveExploreQueryTerms tables ((anchor :: companions).map (·.term)) pool
      history =
    (canonicalizeControllerQueryTerms tables { allowInactiveNonAnchorTerms := true }
      ((anchor :: companions).map (·.term)) 2 pool).bind fun _ =>
        (settingOf tables anchor companions pool history).best tables := by
  unfold deriveExploreQueryTerms
  rw [show (((anchor :: companions).map (·.term)).map normalizeTerm).filter (· ≠ "") =
    (anchor :: companions).map (·.term) from proposedTerms_lineup hpool h]
  cases hcanonical : canonicalizeControllerQueryTerms tables { allowInactiveNonAnchorTerms := true }
      ((anchor :: companions).map (·.term)) 2 pool with
  | error message => rfl
  | ok result =>
    obtain ⟨hcount, -, -, rfl⟩ := (h.accepted_iff hpool).mp hcanonical
    have hcandidates : ((anchor :: companions).map (·.term)).mapM
        (fun term => lookUp tables pool (Py.casefold tables term)) = .ok (anchor :: companions) := by
      rw [List.mapM_map, Loops.mapM_ok (g := id), List.map_id]
      intro item hitem
      unfold lookUp
      rw [Function.comp_apply, hpool.distinct.queryTermIndex_eq (h.mem item hitem)]
      rfl
    have hanchor : (anchor :: companions).find? (·.IsTitleAnchor) = some anchor :=
      List.find?_cons_of_pos (decide_eq_true (Setting.titleAnchor_of_primary h.primary))
    have hothers : ((anchor :: companions).filter fun item =>
        Py.casefold tables item.term ≠ Py.casefold tables anchor.term) = companions :=
      h.companionsOf_eq hpool.distinct
    simp only [bind, Except.bind]
    rw [hcandidates]
    dsimp only
    rw [hanchor]
    dsimp only
    rw [hothers, if_neg]
    · rfl
    · intro hnil
      rw [List.map_eq_nil_iff.mp hnil] at hcount
      simp at hcount

theorem exists_admissible_iff :
    (∃ other, Admissible tables pool ((anchor :: companions).map (·.term)) other ∧
      termSet tables other ≠ termSet tables ((anchor :: companions).map (·.term)) ∧
      ¬WasSent tables history other) ↔
    ∃ combo ∈ (settingOf tables anchor companions pool history).options tables,
      (settingOf tables anchor companions pool history).Differs tables combo ∧
      ¬WasSent tables history ((settingOf tables anchor companions pool history).query combo) := by
  constructor
  · rintro ⟨other, ⟨anchor', combo, hanchor, hlength, hmem, hfamilies, rfl⟩, hdiffers, hunsent⟩
    rw [exploitAnchor_lineup hpool h] at hanchor
    obtain rfl := Option.some.inj hanchor
    have hordered : ∀ item ∈ combo,
        item ∈ (settingOf tables anchor companions pool history).orderedTerms tables :=
      fun item hitem => Setting.mem_orderedTerms.mpr (hmem item hitem)
    obtain ⟨c, hc, hperm⟩ := exists_combination hfamilies.of_map.of_cons hordered hlength
    have hset : termSet tables ((settingOf tables anchor companions pool history).query c) =
        termSet tables ((anchor :: combo).map (·.term)) :=
      List.toFinset_eq_of_perm _ _ (((hperm.cons anchor).map _).map _)
    refine ⟨c, Setting.mem_options.mpr ⟨hc, ?_⟩, ?_, ?_⟩
    · exact ((hperm.cons anchor).map _).nodup_iff.mpr hfamilies
    · unfold Setting.Differs
      rw [hset]
      exact hdiffers
    · unfold WasSent
      rw [hset]
      exact hunsent
  · rintro ⟨combo, hcombo, hdiffers, hunsent⟩
    obtain ⟨hcombinations, hfamilies⟩ := Setting.mem_options.mp hcombo
    exact ⟨_, ⟨anchor, combo, exploitAnchor_lineup hpool h, (mem_combinations.mp hcombinations).2,
      Setting.support_of_mem hcombinations, hfamilies, rfl⟩, hdiffers, hunsent⟩

end Lineup

/-- When the explore query is a good one: the exploit query is one of a later round, with terms
beside its anchor, and the order of the terms does not deceive the ranking. -/
structure ExploreCondition (tables : Py.UnicodeTables) (pool : List QueryTermCandidate)
    (exploit : List String) (history : List SentQueryRecord) : Prop where
  companion : 2 ≤ exploit.length
  later : ∀ item ∈ candidatesOf tables pool exploit, item.retrievalRole ≠ .secondaryTitleAnchor
  ordered : ∀ s, exploreSetting tables pool exploit history = some s →
    ¬s.Reordered tables ∧ s.NewFirst tables

theorem explores_iff {s : Setting} {combo : List QueryTermCandidate} (hpool : TermPoolOk tables pool)
    (h : Lineup pool anchor companions) (hcount : companions.length = 1 ∨ companions.length = 2)
    (hs : s = settingOf tables anchor companions pool history) (hcombo : combo ∈ s.options tables) :
    Explores tables pool ((anchor :: companions).map (·.term)) history (s.query combo) ↔
      s.Differs tables combo ∧ ((∃ other ∈ s.options tables, s.Differs tables other ∧
          ¬WasSent tables s.history (s.query other)) →
        ¬WasSent tables s.history (s.query combo)) := by
  subst hs
  have hready := ready_settingOf history hpool h hcount
  obtain ⟨hcombinations, hfamilies⟩ := Setting.mem_options.mp hcombo
  have hsome := exists_admissible_iff history hpool h
  constructor
  · exact fun hexplores => ⟨hexplores.differs, fun hfresh => hexplores.fresh (hsome.mpr hfresh)⟩
  · rintro ⟨hdiffers, hfresh⟩
    refine ⟨?_, hdiffers, fun hany => hfresh (hsome.mp hany)⟩
    exact ((hready.lineup_combo hcombinations).accepted_iff hpool).mpr
      ⟨(mem_combinations.mp hcombinations).2, fun item hitem => Setting.not_secondary_of_support
        (Setting.support_of_mem hcombinations item hitem).2, hfamilies, rfl⟩

theorem exploreOk_iff (hpool : TermPoolOk forms.toUnicodeTables pool)
    (hplan : canonicalizeControllerQueryTerms forms.toUnicodeTables allowance proposed roundNo pool =
      .ok exploit) :
    ExploreOk forms.toUnicodeTables pool exploit history ↔
      ExploreCondition forms.toUnicodeTables pool exploit history := by
  obtain ⟨anchor, companions, h, rfl, htwo, hfamilies⟩ := exists_lineup hpool hplan
  have hsetting := exploreSetting_lineup history hpool h
  have hcandidates := candidatesOf_lineup hpool h
  unfold ExploreOk
  rw [derive_eq history hpool h]
  by_cases haccepted : (companions.length = 1 ∨ companions.length = 2) ∧
      ∀ item ∈ companions, item.retrievalRole ≠ .secondaryTitleAnchor
  · obtain ⟨hcount, hlater⟩ := haccepted
    rw [(h.accepted_iff hpool).mpr ⟨hcount, hlater, hfamilies, rfl⟩]
    have hready := ready_settingOf history hpool h hcount
    have hanchor : anchor.retrievalRole ≠ .secondaryTitleAnchor := by
      intro hrole
      have hprimary := h.primary.2
      rw [hrole] at hprimary
      cases hprimary
    have hcondition : ExploreCondition forms.toUnicodeTables pool
        ((anchor :: companions).map (·.term)) history ↔
          ¬(settingOf forms.toUnicodeTables anchor companions pool history).Reordered
              forms.toUnicodeTables ∧
            (settingOf forms.toUnicodeTables anchor companions pool history).NewFirst
              forms.toUnicodeTables := by
      constructor
      · exact fun hcondition => hcondition.ordered _ hsetting
      · intro hordered
        refine ⟨by rw [List.length_map, List.length_cons]; omega, ?_, ?_⟩
        · rw [hcandidates]
          exact List.forall_mem_cons.mpr ⟨hanchor, hlater⟩
        · intro s hs
          rw [hsetting] at hs
          obtain rfl := Option.some.inj hs
          exact hordered
    rw [hcondition]
    simp only [Except.bind]
    rcases hready.best_cases with ⟨hbest, hnone⟩ | ⟨combo, hbest, hchosen⟩
    · rw [hbest]
      refine iff_of_true ⟨none, rfl, fun terms hterms => by cases hterms⟩ ?_
      exact Setting.ordered_of_none hnone
    · rw [hbest, ← hready.chosen_iff hchosen,
        ← explores_iff hpool h hcount rfl hchosen.considered.1]
      constructor
      · rintro ⟨result, hresult, hexplores⟩
        exact hexplores _ (Except.ok.inj hresult).symm
      · intro hexplores
        refine ⟨_, rfl, fun terms hterms => ?_⟩
        obtain rfl := Option.some.inj hterms
        exact hexplores
  · constructor
    · rintro ⟨result, hresult, -⟩
      cases hcanonical : canonicalizeControllerQueryTerms forms.toUnicodeTables
          { allowInactiveNonAnchorTerms := true } ((anchor :: companions).map (·.term)) 2 pool with
      | error message =>
        rw [hcanonical] at hresult
        cases hresult
      | ok terms =>
        obtain ⟨hcount, hlater, -, -⟩ := (h.accepted_iff hpool).mp hcanonical
        exact absurd ⟨hcount, hlater⟩ haccepted
    · intro hcondition
      have hcompanion := hcondition.companion
      rw [List.length_map, List.length_cons] at hcompanion
      have hlater := hcondition.later
      rw [hcandidates, List.forall_mem_cons] at hlater
      exact absurd ⟨by omega, hlater.2⟩ haccepted

end Explore

open Explore

/-- **The explore query explores**, unless the order of the terms deceives it. -/
theorem deriveExploreQueryTerms_spec (forms : Py.TextForms) (allowance : QueryAllowance)
    (roundNo : Int) (pool : List QueryTermCandidate) (proposed exploit : List String)
    (history : List SentQueryRecord) (hpool : TermPoolOk forms.toUnicodeTables pool)
    (hplan : canonicalizeControllerQueryTerms forms.toUnicodeTables allowance proposed roundNo pool =
      .ok exploit) :
    ExploreOk forms.toUnicodeTables pool exploit history ↔
      ExploreCondition forms.toUnicodeTables pool exploit history :=
  exploreOk_iff hpool hplan

/-! ### An old query in another order -/

def rustPool : List QueryTermCandidate :=
  (compileQueryTermPool Py.TextForms.fullWidth.toUnicodeTables
    { jobTitle := "Rust", titleAnchorTerms := ["Rust"], jdQueryTerms := ["Tokio", "Kafka"]
      notesQueryTerms := [] }).toOption.getD []

theorem termPoolOk_rustPool : TermPoolOk Py.TextForms.fullWidth.toUnicodeTables rustPool := by
  unfold rustPool
  cases hcompiled : compileQueryTermPool Py.TextForms.fullWidth.toUnicodeTables
    { jobTitle := "Rust", titleAnchorTerms := ["Rust"], jdQueryTerms := ["Tokio", "Kafka"]
      notesQueryTerms := [] } with
  | error message =>
    have hnone : (compileQueryTermPool Py.TextForms.fullWidth.toUnicodeTables
      { jobTitle := "Rust", titleAnchorTerms := ["Rust"], jdQueryTerms := ["Tokio", "Kafka"]
        notesQueryTerms := [] }).toOption.isSome = true := by decide
    rw [hcompiled] at hnone
    cases hnone
  | ok pool => exact termPoolOk_compile hcompiled

def sentQuery (roundNo : Nat) (queryTerms : List String) : SentQueryRecord where
  roundNo := roundNo
  queryRole := .exploit
  laneType := .exploit
  queryInstanceId := ""
  queryFingerprint := ""
  city := none
  phase := none
  batchNo := 1
  requestedCount := 10
  queryTerms := queryTerms
  keywordQuery := ""
  sourcePlanVersion := 1

theorem reordered_derived : deriveExploreQueryTerms Py.TextForms.fullWidth.toUnicodeTables
    ["Rust", "Kafka", "Tokio"] rustPool [sentQuery 1 ["Rust", "Tokio"], sentQuery 2 ["Rust", "Kafka"]] =
      .ok (some ["Rust", "Tokio", "Kafka"]) := by
  decide +kernel

theorem reordered_planned : canonicalizeControllerQueryTerms
    Py.TextForms.fullWidth.toUnicodeTables {} ["Rust", "Kafka", "Tokio"] 3 rustPool =
      .ok ["Rust", "Kafka", "Tokio"] := by
  decide

theorem not_exploreOk_reordered : ¬ExploreOk Py.TextForms.fullWidth.toUnicodeTables rustPool
    ["Rust", "Kafka", "Tokio"] [sentQuery 1 ["Rust", "Tokio"], sentQuery 2 ["Rust", "Kafka"]] := by
  rintro ⟨result, hresult, hexplores⟩
  rw [reordered_derived] at hresult
  apply (hexplores _ (Except.ok.inj hresult).symm).differs
  decide

theorem deriveExploreQueryTerms_spec_reordered :
    ¬ExploreCondition Py.TextForms.fullWidth.toUnicodeTables rustPool ["Rust", "Kafka", "Tokio"]
      [sentQuery 1 ["Rust", "Tokio"], sentQuery 2 ["Rust", "Kafka"]] := by
  rw [← deriveExploreQueryTerms_spec Py.TextForms.fullWidth {} 3 rustPool ["Rust", "Kafka", "Tokio"]
    _ _ termPoolOk_rustPool reordered_planned]
  exact not_exploreOk_reordered

theorem explore_not_ok :
    ¬∀ (forms : Py.TextForms) (allowance : QueryAllowance) (roundNo : Int)
      (pool : List QueryTermCandidate) (proposed exploit : List String)
      (history : List SentQueryRecord), TermPoolOk forms.toUnicodeTables pool →
      canonicalizeControllerQueryTerms forms.toUnicodeTables allowance proposed roundNo pool =
        .ok exploit →
      ExploreOk forms.toUnicodeTables pool exploit history := by
  intro h
  exact not_exploreOk_reordered (h Py.TextForms.fullWidth {} 3 rustPool ["Rust", "Kafka", "Tokio"]
    _ _ termPoolOk_rustPool reordered_planned)

end SeekTalent

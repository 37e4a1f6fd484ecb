import SeekTalent.Base.Run
import SeekTalent.Base.TextForms
import SeekTalent.Round.Decision

/-!
# Queries that were accepted

`canonicalize_controller_query_terms` is run twice on the way to a plan, by
`sanitize_controller_decision` and by `build_round_retrieval_plan`. What it accepts are terms of
the pool, the anchor first, and it accepts them again as they are, so that the second run cannot
refuse what the first one passed (`canonicalize_again`). Its check of the families, though, makes
a list of the repeated ones with `unique_strings`, which drops blank names: two terms of one
blank family pass (`duplicateFamilies_eq_nil_iff`).
-/

namespace SeekTalent

open Stateful (bind_eq_ok)

variable {forms : Py.TextForms} {pool items candidates companions : List QueryTermCandidate}
variable {item anchor : QueryTermCandidate} {allowance : QueryAllowance} {roundNo : Int}
variable {proposed result terms seen : List String} {term term' key : String}

/-! ## 1. Keys -/

theorem toList_normalizeTerm (term : String) :
    (normalizeTerm term).toList = Py.collapse term.toList := by
  rw [normalizeTerm, Py.split_strip, Py.toList_join_split]
  rfl

theorem toList_casefold (text : String) :
    (Py.casefold forms.toUnicodeTables text).toList = forms.fold text.toList := String.toList_ofList

theorem normalizeTerm_casefold (term : String) :
    normalizeTerm (Py.casefold forms.toUnicodeTables term) =
      Py.casefold forms.toUnicodeTables (normalizeTerm term) := by
  apply String.toList_inj.mp
  rw [toList_normalizeTerm, toList_casefold, toList_casefold, toList_normalizeTerm, Py.fold_collapse]

theorem queryTermKey_congr
    (h : Py.casefold forms.toUnicodeTables term = Py.casefold forms.toUnicodeTables term') :
    queryTermKey forms.toUnicodeTables term = queryTermKey forms.toUnicodeTables term' := by
  unfold queryTermKey
  rw [← normalizeTerm_casefold, h, normalizeTerm_casefold]

/-! ## 2. Families -/

variable {tables : Py.UnicodeTables}

theorem uniqueStringsFrom_eq_nil :
    uniqueStringsFrom tables [] terms = [] ↔ ∀ t ∈ terms, Py.strip t = "" := by
  induction terms with
  | nil => simp [uniqueStringsFrom]
  | cons t terms ih =>
    rw [uniqueStringsFrom, List.forall_mem_cons, ← ih]
    by_cases hblank : Py.strip t = ""
    · simp [hblank]
    · simp [hblank]

def namedFamilies (items : List QueryTermCandidate) : List String :=
  (items.map (·.family)).filter (Py.strip · ≠ "")

def blankFamilies (items : List QueryTermCandidate) : List String :=
  (items.map (·.family)).filter (Py.strip · = "")

theorem duplicateFamiliesFrom_blank :
    (∀ t ∈ duplicateFamiliesFrom seen items, Py.strip t = "") ↔
      (namedFamilies items).Nodup ∧ ∀ t ∈ namedFamilies items, t ∉ seen := by
  induction items generalizing seen with
  | nil => simp [duplicateFamiliesFrom, namedFamilies]
  | cons item rest ih =>
    unfold duplicateFamiliesFrom
    by_cases hblank : Py.strip item.family = ""
    · have hnamed : namedFamilies (item :: rest) = namedFamilies rest := by
        simp [namedFamilies, hblank]
      have hfresh : ∀ t ∈ namedFamilies rest, t ≠ item.family := by
        rintro t ht rfl
        simp [namedFamilies, hblank] at ht
      rw [hnamed]
      split
      · rw [List.forall_mem_cons, ih]
        simp [hblank]
      · rw [ih]
        simp only [List.mem_cons, not_or]
        constructor
        · exact fun h => ⟨h.1, fun t ht => (h.2 t ht).2⟩
        · exact fun h => ⟨h.1, fun t ht => ⟨hfresh t ht, h.2 t ht⟩⟩
    · have hnamed : namedFamilies (item :: rest) = item.family :: namedFamilies rest := by
        simp [namedFamilies, hblank]
      rw [hnamed]
      split
      · next hseen =>
        rw [List.forall_mem_cons]
        constructor
        · exact fun h => absurd h.1 hblank
        · exact fun h => absurd hseen (h.2 _ List.mem_cons_self)
      · next hseen =>
        rw [ih, List.nodup_cons, List.forall_mem_cons]
        simp only [List.mem_cons, not_or]
        constructor
        · intro h
          exact ⟨⟨fun hmem => (h.2 _ hmem).1 rfl, h.1⟩, hseen, fun t ht => (h.2 t ht).2⟩
        · rintro ⟨⟨hnew, hnodup⟩, -, hold⟩
          refine ⟨hnodup, fun t ht => ⟨?_, hold t ht⟩⟩
          rintro rfl
          exact hnew ht

theorem duplicateFamilies_eq_nil_iff :
    duplicateFamilies tables items = [] ↔ (namedFamilies items).Nodup := by
  unfold duplicateFamilies uniqueStrings
  rw [uniqueStringsFrom_eq_nil, duplicateFamiliesFrom_blank]
  simp

theorem nodup_families_iff :
    (items.map (·.family)).Nodup ↔ (namedFamilies items).Nodup ∧ (blankFamilies items).Nodup := by
  unfold namedFamilies blankFamilies
  constructor
  · exact fun h => ⟨h.filter _, h.filter _⟩
  · rintro ⟨hnamed, hblank⟩
    rw [List.nodup_iff_count_le_one] at hnamed hblank ⊢
    intro family
    by_cases hempty : Py.strip family = ""
    · have h := hblank family
      rwa [List.count_filter (by simpa using hempty)] at h
    · have h := hnamed family
      rwa [List.count_filter (by simpa using hempty)] at h

/-! ## 3. The candidates of a query -/

def proposedTerms (proposed : List String) : List String :=
  (proposed.map normalizeTerm).filter (· ≠ "")

/-- The terms of the pool that a proposal stands for. -/
def candidatesOf (tables : Py.UnicodeTables) (pool : List QueryTermCandidate)
    (proposed : List String) : List QueryTermCandidate :=
  (proposedTerms proposed).filterMap fun term => queryTermIndex tables pool (Py.casefold tables term)

def checkItems (tables : Py.UnicodeTables) (allowance : QueryAllowance) (roundNo : Int)
    (items : List QueryTermCandidate) : Except String (List String) :=
  match items with
  | [candidate] =>
    if ¬(allowance.allowAnchorOnly ∧ candidate.IsPrimaryAnchor) then
      .error "anchor-only query requires exactly one compiler-admitted role anchor."
    else .ok [candidate.term]
  | candidates => canonicalizeCandidates tables allowance roundNo candidates

theorem tidy_of_mem_proposedTerms :
    ∀ term ∈ proposedTerms proposed, Py.Tidy term ∧ term ≠ "" := by
  intro term hterm
  obtain ⟨hmem, hne⟩ := List.mem_filter.mp hterm
  obtain ⟨text, -, rfl⟩ := List.mem_map.mp hmem
  exact ⟨Py.tidy_join_split _, by simpa using hne⟩

theorem sublist_uniqueStringsFrom (htidy : ∀ t ∈ terms, Py.Tidy t ∧ t ≠ "") :
    (uniqueStringsFrom tables seen terms).Sublist terms := by
  induction terms generalizing seen with
  | nil => exact .slnil
  | cons t terms ih =>
    rw [List.forall_mem_cons] at htidy
    simp only [uniqueStringsFrom, htidy.1.1.strip_eq]
    split
    · exact (ih htidy.2).cons t
    · exact (ih htidy.2).cons_cons t

theorem nodup_uniqueStringsFrom :
    ((uniqueStringsFrom tables seen terms).map (Py.casefold tables)).Nodup ∧
      ∀ t ∈ uniqueStringsFrom tables seen terms, Py.casefold tables t ∉ seen := by
  induction terms generalizing seen with
  | nil => simp [uniqueStringsFrom]
  | cons t terms ih =>
    simp only [uniqueStringsFrom]
    split
    · exact ih
    · next hfresh =>
      obtain ⟨hnodup, hseen⟩ := @ih (Py.casefold tables (Py.strip t) :: seen)
      rw [List.map_cons, List.nodup_cons, List.forall_mem_cons]
      refine ⟨⟨?_, hnodup⟩, fun hmem => hfresh (.inr hmem), fun u hu hmem => ?_⟩
      · intro hmem
        obtain ⟨u, hu, heq⟩ := List.mem_map.mp hmem
        apply hseen u hu
        rw [heq]
        exact List.mem_cons_self
      · exact hseen u hu (List.mem_cons_of_mem _ hmem)

theorem uniqueStrings_of_length (htidy : ∀ t ∈ terms, Py.Tidy t ∧ t ≠ "")
    (h : terms.length = (uniqueStrings tables terms).length) :
    uniqueStrings tables terms = terms ∧ (terms.map (Py.casefold tables)).Nodup := by
  unfold uniqueStrings at h ⊢
  have hsub : (uniqueStringsFrom tables [] terms).Sublist terms := sublist_uniqueStringsFrom htidy
  have heq := hsub.eq_of_length h.symm
  have hnodup : ((uniqueStringsFrom tables [] terms).map (Py.casefold tables)).Nodup :=
    nodup_uniqueStringsFrom.1
  rw [heq] at hnodup
  exact ⟨heq, hnodup⟩

theorem exists_map_some {find : String → Option QueryTermCandidate}
    (h : ¬∃ term ∈ terms, find term = none) :
    ∃ items : List QueryTermCandidate, terms.map find = items.map some := by
  induction terms with
  | nil => exact ⟨[], rfl⟩
  | cons term terms ih =>
    obtain ⟨items, hitems⟩ := ih fun hnone => by
      obtain ⟨t, ht, hnone⟩ := hnone
      exact h ⟨t, List.mem_cons_of_mem term ht, hnone⟩
    cases hfind : find term with
    | none => exact absurd ⟨term, List.mem_cons_self, hfind⟩ h
    | some item => exact ⟨item :: items, by rw [List.map_cons, hfind, hitems, List.map_cons]⟩

theorem filterMap_of_map_some {find : String → Option QueryTermCandidate}
    (h : terms.map find = items.map some) : terms.filterMap find = items := by
  calc terms.filterMap find = (terms.map find).filterMap id := by
        rw [List.filterMap_map, Function.id_comp]
    _ = (items.map some).filterMap id := by rw [h]
    _ = items := by
        rw [List.filterMap_map]
        exact List.filterMap_some

theorem canonicalize_ok_iff :
    canonicalizeControllerQueryTerms tables allowance proposed roundNo pool = .ok result ↔
      ((proposedTerms proposed).map (Py.casefold tables)).Nodup ∧
      ∃ items, (proposedTerms proposed).map
          (fun term => queryTermIndex tables pool (Py.casefold tables term)) = items.map some ∧
        (2 ≤ items.length ∨ allowance.allowAnchorOnly = true) ∧ items.length ≤ 3 ∧
        checkItems tables allowance roundNo items = .ok result := by
  have hunfold : canonicalizeControllerQueryTerms tables allowance proposed roundNo pool =
      if (proposedTerms proposed).length ≠
          (uniqueStrings tables (proposedTerms proposed)).length then
        .error "proposed_query_terms must not contain duplicates."
      else if (uniqueStrings tables (proposedTerms proposed)).length < 2 ∧
          ¬allowance.allowAnchorOnly then
        .error "proposed_query_terms must contain at least 2 terms."
      else if 3 < (uniqueStrings tables (proposedTerms proposed)).length then
        .error "proposed_query_terms must not exceed 3 terms."
      else if ∃ term ∈ uniqueStrings tables (proposedTerms proposed),
          queryTermIndex tables pool (Py.casefold tables term) = none then
        .error ("query terms must come from the compiled query term pool: " ++
          Py.join ", " ((uniqueStrings tables (proposedTerms proposed)).filter
            (fun term => queryTermIndex tables pool (Py.casefold tables term) = none)))
      else checkItems tables allowance roundNo
        ((uniqueStrings tables (proposedTerms proposed)).filterMap
          fun term => queryTermIndex tables pool (Py.casefold tables term)) := rfl
  rw [hunfold]
  constructor
  · intro h
    split at h
    · cases h
    next hlength =>
    obtain ⟨hunique, hnodup⟩ :=
      uniqueStrings_of_length tidy_of_mem_proposedTerms (not_not.mp hlength)
    rw [hunique] at h
    split at h
    · cases h
    next htwo =>
    split at h
    · cases h
    next hthree =>
    split at h
    · cases h
    next hfound =>
    obtain ⟨items, hitems⟩ := exists_map_some hfound
    rw [filterMap_of_map_some hitems] at h
    have hcount : (proposedTerms proposed).length = items.length := by
      simpa using congrArg List.length hitems
    refine ⟨hnodup, items, hitems, ?_, by omega, h⟩
    by_cases hallow : allowance.allowAnchorOnly = true
    · exact .inr hallow
    · have hlarge : ¬(proposedTerms proposed).length < 2 := fun hlt => htwo ⟨hlt, hallow⟩
      exact .inl (by omega)
  · rintro ⟨hnodup, items, hitems, htwo, hthree, h⟩
    have hunique : uniqueStrings tables (proposedTerms proposed) = proposedTerms proposed :=
      uniqueStrings_eq tidy_of_mem_proposedTerms hnodup
    have hcount : (proposedTerms proposed).length = items.length := by
      simpa using congrArg List.length hitems
    have hfound : ¬∃ term ∈ proposedTerms proposed,
        queryTermIndex tables pool (Py.casefold tables term) = none := by
      rintro ⟨term, hterm, hnone⟩
      have hmem := List.mem_map_of_mem
        (f := fun term => queryTermIndex tables pool (Py.casefold tables term)) hterm
      rw [hitems, hnone] at hmem
      obtain ⟨item, -, hitem⟩ := List.mem_map.mp hmem
      cases hitem
    rw [hunique, if_neg (by simp), if_neg, if_neg (by omega), if_neg hfound,
      filterMap_of_map_some hitems, h]
    rintro ⟨hone, hforbid⟩
    rcases htwo with htwo | hallow
    · omega
    · exact hforbid hallow

/-! ## 4. The anchor and its companions -/

def companionsOf (tables : Py.UnicodeTables) (anchor : QueryTermCandidate)
    (candidates : List QueryTermCandidate) : List QueryTermCandidate :=
  candidates.filter fun item => Py.casefold tables item.term ≠ Py.casefold tables anchor.term

structure CompanionsPass (tables : Py.UnicodeTables) (allowance : QueryAllowance) (roundNo : Int)
    (companions : List QueryTermCandidate) : Prop where
  first : ¬(roundNo = 1 ∧ companions.length ≠ 1)
  later : ¬(1 < roundNo ∧ companions.length ∉ [1, 2])
  secondary : ¬(1 < roundNo ∧ companions.filter (·.retrievalRole = .secondaryTitleAnchor) ≠ [])
  inactive : (companions.filter fun item =>
    ¬allowance.allowInactiveNonAnchorTerms ∧ ¬item.active ∧ ¬item.IsTitleAnchor ∧
      queryTermKey tables item.term ∉ allowance.allowedInactiveNonAnchorTerms) = []

theorem canonicalizeCandidates_ok_iff :
    canonicalizeCandidates tables allowance roundNo candidates = .ok result ↔
      (∀ item ∈ candidates, item.queryability = .admitted) ∧
      ∃ anchor, candidates.filter (·.IsPrimaryAnchor) = [anchor] ∧
        CompanionsPass tables allowance roundNo (companionsOf tables anchor candidates) ∧
        (namedFamilies candidates).Nodup ∧
        result = anchor.term :: (companionsOf tables anchor candidates).map (·.term) := by
  unfold canonicalizeCandidates
  dsimp only
  have hadmitted : candidates.filter (·.queryability ≠ .admitted) = [] ↔
      ∀ item ∈ candidates, item.queryability = .admitted := by
    simp [List.filter_eq_nil_iff]
  constructor
  · intro h
    split at h
    · cases h
    next hall =>
    refine ⟨hadmitted.mp (not_not.mp hall), ?_⟩
    split at h
    case h_2 => cases h
    next anchor hanchor =>
    split at h
    · cases h
    next hfirst =>
    split at h
    · cases h
    next hlater =>
    split at h
    · cases h
    next hsecondary =>
    split at h
    · cases h
    next hinactive =>
    split at h
    · cases h
    next hfamilies =>
    exact ⟨anchor, hanchor, ⟨hfirst, hlater, hsecondary, not_not.mp hinactive⟩,
      duplicateFamilies_eq_nil_iff.mp (not_not.mp hfamilies), (Except.ok.inj h).symm⟩
  · rintro ⟨hall, anchor, hanchor, hpass, hfamilies, rfl⟩
    rw [if_neg (not_not.mpr (hadmitted.mpr hall)), hanchor]
    dsimp only
    rw [← companionsOf, if_neg hpass.first, if_neg hpass.later, if_neg hpass.secondary,
      if_neg (not_not.mpr hpass.inactive),
      if_neg (not_not.mpr (duplicateFamilies_eq_nil_iff.mpr hfamilies))]

theorem companionsOf_eq (hnodup : (candidates.map fun item =>
      queryTermKey forms.toUnicodeTables item.term).Nodup) (hanchor : anchor ∈ candidates) :
    companionsOf forms.toUnicodeTables anchor candidates = candidates.filter (· ≠ anchor) := by
  unfold companionsOf
  apply List.filter_congr
  intro item hitem
  rw [decide_eq_decide]
  constructor
  · rintro h rfl
    exact h rfl
  · exact fun hne heq => hne (List.inj_on_of_nodup_map hnodup hitem hanchor
      (queryTermKey_congr heq))

theorem perm_anchored (hnodup : (candidates.map fun item =>
      queryTermKey forms.toUnicodeTables item.term).Nodup) (hanchor : anchor ∈ candidates) :
    (anchor :: companionsOf forms.toUnicodeTables anchor candidates).Perm candidates := by
  rw [companionsOf_eq hnodup hanchor]
  have herase : candidates.erase anchor = candidates.filter (· ≠ anchor) := by
    rw [hnodup.of_map.erase_eq_filter]
    apply List.filter_congr
    intro item _
    rw [Bool.eq_iff_iff, bne_iff_ne, decide_eq_true_eq]
  rw [← herase]
  exact (List.perm_cons_erase hanchor).symm

/-! ## 5. Accepted queries -/

theorem queryTermIndex_eq_some (h : queryTermIndex tables pool key = some item) :
    item ∈ pool ∧ queryTermKey tables item.term = key :=
  ⟨List.mem_reverse.mp (List.mem_of_find?_eq_some h), by simpa using List.find?_some h⟩

theorem keys_eq (h : terms.map (fun term => queryTermIndex tables pool (Py.casefold tables term)) =
      items.map some) :
    items.map (fun item => queryTermKey tables item.term) = terms.map (Py.casefold tables) := by
  induction terms generalizing items with
  | nil =>
    obtain rfl := List.map_eq_nil_iff.mp h.symm
    rfl
  | cons term terms ih =>
    cases items with
    | nil => cases h
    | cons item items =>
      rw [List.map_cons, List.map_cons, List.cons.injEq] at h
      rw [List.map_cons, List.map_cons, ih h.2, (queryTermIndex_eq_some h.1).2]

structure Found (tables : Py.UnicodeTables) (pool : List QueryTermCandidate)
    (item : QueryTermCandidate) : Prop where
  mem : item ∈ pool
  index : queryTermIndex tables pool (queryTermKey tables item.term) = some item
  ne_blank : normalizeTerm item.term ≠ ""

theorem casefold_empty : Py.casefold tables "" = "" := by
  apply String.toList_inj.mp
  rw [Py.casefold, String.toList_ofList]
  rfl

theorem casefold_eq_empty (h : Py.casefold forms.toUnicodeTables term = "") : term = "" := by
  have hnil := congrArg String.toList h
  rw [toList_casefold] at hnil
  apply String.toList_inj.mp
  cases hterm : term.toList with
  | nil => rfl
  | cons c cs =>
    rw [hterm] at hnil
    simp [Py.TextForms.fold, Py.TextForms.casefold_ne_nil] at hnil

theorem found_of_map (hterms : ∀ term ∈ terms, term ≠ "")
    (h : terms.map (fun term => queryTermIndex forms.toUnicodeTables pool
      (Py.casefold forms.toUnicodeTables term)) = items.map some) :
    ∀ item ∈ items, Found forms.toUnicodeTables pool item := by
  intro item hitem
  have hmem := List.mem_map_of_mem (f := some) hitem
  rw [← h] at hmem
  obtain ⟨term, hterm, hindex⟩ := List.mem_map.mp hmem
  obtain ⟨hpool, hkey⟩ := queryTermIndex_eq_some hindex
  refine ⟨hpool, ?_, fun hblank => hterms term hterm ?_⟩
  · rw [hkey]
    exact hindex
  · rw [queryTermKey, hblank, casefold_empty] at hkey
    have hempty : Py.casefold forms.toUnicodeTables term = "" := hkey.symm
    exact casefold_eq_empty hempty

theorem proposedTerms_items (hfound : ∀ item ∈ items, Found tables pool item) :
    proposedTerms (items.map (·.term)) = items.map fun item => normalizeTerm item.term := by
  have hmap : (items.map (·.term)).map normalizeTerm =
      items.map fun item => normalizeTerm item.term := by
    rw [List.map_map, Function.comp_def]
  unfold proposedTerms
  rw [hmap, List.filter_eq_self]
  intro term hterm
  obtain ⟨item, hitem, rfl⟩ := List.mem_map.mp hterm
  exact decide_eq_true (hfound item hitem).ne_blank

theorem canonicalize_found (hfound : ∀ item ∈ items, Found tables pool item)
    (hnodup : (items.map fun item => queryTermKey tables item.term).Nodup) :
    canonicalizeControllerQueryTerms tables allowance (items.map (·.term)) roundNo pool =
        .ok result ↔
      (2 ≤ items.length ∨ allowance.allowAnchorOnly = true) ∧ items.length ≤ 3 ∧
        checkItems tables allowance roundNo items = .ok result := by
  have hitems : (items.map fun item => normalizeTerm item.term).map
      (fun term => queryTermIndex tables pool (Py.casefold tables term)) = items.map some := by
    rw [List.map_map]
    exact List.map_congr_left fun item hitem => (hfound item hitem).index
  rw [canonicalize_ok_iff, proposedTerms_items hfound, List.map_map]
  constructor
  · rintro ⟨-, items', hitems', h⟩
    rw [hitems] at hitems'
    obtain rfl := List.map_injective_iff.mpr (Option.some_injective _) hitems'
    exact h
  · exact fun h => ⟨hnodup, items, hitems, h⟩

theorem checkItems_two (h : 2 ≤ items.length) : checkItems tables allowance roundNo items =
    canonicalizeCandidates tables allowance roundNo items := by
  cases items with
  | nil => simp at h
  | cons item items =>
    cases items with
    | nil => simp at h
    | cons next items => rfl

theorem exists_accepted
    (h : canonicalizeControllerQueryTerms forms.toUnicodeTables allowance proposed roundNo pool =
      .ok result) :
    ∃ anchor companions,
      result = (anchor :: companions).map (·.term) ∧ anchor.IsPrimaryAnchor ∧
      (∀ item ∈ companions, ¬item.IsPrimaryAnchor) ∧
      (anchor :: companions).Perm (candidatesOf forms.toUnicodeTables pool proposed) ∧
      (∀ item ∈ anchor :: companions, Found forms.toUnicodeTables pool item) ∧
      ((anchor :: companions).map fun item =>
        queryTermKey forms.toUnicodeTables item.term).Nodup ∧
      ((anchor :: companions).map fun item => queryTermKey forms.toUnicodeTables item.term).Perm
        ((proposedTerms proposed).map (Py.casefold forms.toUnicodeTables)) ∧
      (namedFamilies (anchor :: companions)).Nodup ∧
      (2 ≤ (anchor :: companions).length ∨ allowance.allowAnchorOnly = true) ∧
      (anchor :: companions).length ≤ 3 ∧
      checkItems forms.toUnicodeTables allowance roundNo (anchor :: companions) = .ok result := by
  obtain ⟨hnodup, items, hitems, htwo, hthree, hcheck⟩ := canonicalize_ok_iff.mp h
  have hfound := found_of_map (fun t ht => (tidy_of_mem_proposedTerms t ht).2) hitems
  have hkeys := keys_eq hitems
  rw [← hkeys] at hnodup ⊢
  have hcandidates : candidatesOf forms.toUnicodeTables pool proposed = items :=
    filterMap_of_map_some hitems
  rw [hcandidates]
  by_cases hone : ∃ candidate, items = [candidate]
  · obtain ⟨candidate, rfl⟩ := hone
    have hcheck' := hcheck
    rw [checkItems] at hcheck'
    split at hcheck'
    · cases hcheck'
    · next hallow =>
      obtain rfl := Except.ok.inj hcheck'
      refine ⟨candidate, [], rfl, (not_not.mp hallow).2, by simp, .refl _, hfound, hnodup, .refl _,
        ?_, htwo, hthree, hcheck⟩
      exact (List.nodup_singleton _).filter _
  · have hcheck' : canonicalizeCandidates forms.toUnicodeTables allowance roundNo items =
        .ok result := by
      rw [← hcheck]
      unfold checkItems
      split
      · next candidate => exact absurd ⟨candidate, rfl⟩ hone
      · rfl
    obtain ⟨hadmitted, anchor, hanchor, hpass, hfamilies, rfl⟩ :=
      canonicalizeCandidates_ok_iff.mp hcheck'
    have hmem : anchor ∈ items.filter (·.IsPrimaryAnchor) := by simp [hanchor]
    obtain ⟨hmem, hprimary⟩ := List.mem_filter.mp hmem
    have hperm := perm_anchored hnodup hmem
    have hprimaries : (anchor :: companionsOf forms.toUnicodeTables anchor items).filter
        (·.IsPrimaryAnchor) = [anchor] := by
      have hfilter := hperm.filter (fun item => decide item.IsPrimaryAnchor)
      rw [hanchor] at hfilter
      exact List.perm_singleton.mp hfilter
    have hothers : companionsOf forms.toUnicodeTables anchor
        (anchor :: companionsOf forms.toUnicodeTables anchor items) =
          companionsOf forms.toUnicodeTables anchor items := by
      unfold companionsOf
      rw [List.filter_cons_of_neg (by simp), List.filter_filter]
      simp
    have hnamed : (namedFamilies (anchor :: companionsOf forms.toUnicodeTables anchor items)).Nodup :=
      ((hperm.map QueryTermCandidate.family).filter
        fun family => decide (Py.strip family ≠ "")).nodup_iff.mpr hfamilies
    refine ⟨anchor, companionsOf forms.toUnicodeTables anchor items, rfl, by simpa using hprimary,
      ?_, hperm, fun item hitem => hfound item (hperm.mem_iff.mp hitem),
      ((hperm.map _).nodup_iff).mpr hnodup, hperm.map _, hnamed, ?_, ?_, ?_⟩
    · intro item hitem hitemPrimary
      have hnone : item ∈ (companionsOf forms.toUnicodeTables anchor items).filter
          (·.IsPrimaryAnchor) := List.mem_filter.mpr ⟨hitem, by simpa using hitemPrimary⟩
      rw [List.filter_cons_of_pos (by simpa using hprimary), List.cons.injEq] at hprimaries
      rw [hprimaries.2] at hnone
      cases hnone
    · rwa [hperm.length_eq]
    · rwa [hperm.length_eq]
    · have hmany : 2 ≤ (anchor :: companionsOf forms.toUnicodeTables anchor items).length := by
        have hpositive := List.length_pos_of_mem hmem
        rw [hperm.length_eq]
        by_contra hshort
        have hlength : items.length = 1 := by omega
        obtain ⟨candidate, hcandidate⟩ := List.length_eq_one_iff.mp hlength
        exact hone ⟨candidate, hcandidate⟩
      rw [checkItems_two hmany, canonicalizeCandidates_ok_iff]
      refine ⟨fun item hitem => hadmitted item (hperm.mem_iff.mp hitem), anchor, hprimaries, ?_⟩
      rw [hothers]
      exact ⟨hpass, hnamed, rfl⟩

/-! ## 6. The two runs of the validator -/

/-- The terms of a query stand for items of the pool, a primary anchor and companions of other
families, and are those that were proposed. -/
structure CanonicalTerms (tables : Py.UnicodeTables) (pool : List QueryTermCandidate)
    (proposed result : List String) (items : List QueryTermCandidate) : Prop where
  terms : result = items.map (·.term)
  found : ∀ item ∈ items, item ∈ pool ∧
    queryTermIndex tables pool (queryTermKey tables item.term) = some item
  anchored : ∃ anchor companions, items = anchor :: companions ∧ anchor.IsPrimaryAnchor ∧
    ∀ item ∈ companions, ¬item.IsPrimaryAnchor
  perm : (items.map fun item => queryTermKey tables item.term).Perm
    ((proposedTerms proposed).map (Py.casefold tables))
  families : (items.map (·.family)).Nodup

/-- What an accepted query should be: such terms, which the validator accepts as they are. -/
def CanonicalQuery (tables : Py.UnicodeTables) (allowance : QueryAllowance) (roundNo : Int)
    (pool : List QueryTermCandidate) (proposed result : List String) : Prop :=
  (∃ items, CanonicalTerms tables pool proposed result items) ∧
    canonicalizeControllerQueryTerms tables allowance result roundNo pool = .ok result

theorem CanonicalTerms.perm_candidates (h : CanonicalTerms tables pool proposed result items) :
    items.Perm (candidatesOf tables pool proposed) := by
  have hitems : (items.map fun item => queryTermKey tables item.term).filterMap
      (queryTermIndex tables pool) = items := by
    rw [List.filterMap_map]
    exact (List.filterMap_congr fun item hitem => (h.found item hitem).2).trans List.filterMap_some
  have hcandidates : ((proposedTerms proposed).map (Py.casefold tables)).filterMap
      (queryTermIndex tables pool) = candidatesOf tables pool proposed := by
    rw [List.filterMap_map]
    rfl
  rw [← hcandidates]
  exact (List.Perm.of_eq hitems.symm).trans (h.perm.filterMap _)

theorem CanonicalTerms.nodup_blankFamilies
    (h : CanonicalTerms tables pool proposed result items) :
    (blankFamilies (candidatesOf tables pool proposed)).Nodup := by
  have hnodup := (h.perm_candidates.map QueryTermCandidate.family).nodup_iff.mp h.families
  exact (nodup_families_iff.mp hnodup).2

/-- **Accepted queries are accepted again**, as they are. -/
theorem canonicalize_again
    (h : canonicalizeControllerQueryTerms forms.toUnicodeTables allowance proposed roundNo pool =
      .ok result) :
    canonicalizeControllerQueryTerms forms.toUnicodeTables allowance result roundNo pool =
      .ok result := by
  obtain ⟨anchor, companions, hresult, -, -, -, hfound, hnodup, -, -, htwo, hthree, hcheck⟩ :=
    exists_accepted h
  rw [hresult] at hcheck ⊢
  exact (canonicalize_found hfound hnodup).mpr ⟨htwo, hthree, hcheck⟩

theorem canonicalQuery_iff
    (h : canonicalizeControllerQueryTerms forms.toUnicodeTables allowance proposed roundNo pool =
      .ok result) :
    CanonicalQuery forms.toUnicodeTables allowance roundNo pool proposed result ↔
      (blankFamilies (candidatesOf forms.toUnicodeTables pool proposed)).Nodup := by
  constructor
  · rintro ⟨⟨items, hitems⟩, -⟩
    exact hitems.nodup_blankFamilies
  · intro hblank
    obtain ⟨anchor, companions, hresult, hprimary, hothers, hperm, hfound, -, hkeys, hnamed, -, -,
      -⟩ := exists_accepted h
    have hblank' : (blankFamilies (anchor :: companions)).Nodup :=
      ((hperm.map QueryTermCandidate.family).filter
        fun family => decide (Py.strip family = "")).nodup_iff.mpr hblank
    exact ⟨⟨anchor :: companions,
      { terms := hresult
        found := fun item hitem => ⟨(hfound item hitem).mem, (hfound item hitem).index⟩
        anchored := ⟨anchor, companions, rfl, hprimary, hothers⟩
        perm := hkeys
        families := nodup_families_iff.mpr ⟨hnamed, hblank'⟩ }⟩, canonicalize_again h⟩

theorem canonicalize_allowAnchorOnly {allowedInactiveNonAnchorTerms : List String}
    (h : canonicalizeControllerQueryTerms tables { allowedInactiveNonAnchorTerms } proposed roundNo
      pool = .ok result) (allowAnchorOnly : Bool) :
    canonicalizeControllerQueryTerms tables { allowedInactiveNonAnchorTerms, allowAnchorOnly }
      proposed roundNo pool = .ok result := by
  obtain ⟨hnodup, items, hitems, htwo, hthree, hcheck⟩ := canonicalize_ok_iff.mp h
  have htwo : 2 ≤ items.length := htwo.resolve_right Bool.false_ne_true
  refine canonicalize_ok_iff.mpr ⟨hnodup, items, hitems, .inl htwo, hthree, ?_⟩
  rw [checkItems_two htwo] at hcheck ⊢
  exact hcheck

theorem planRound_sanitized {inputs : RoundInputs} {retrieval : RetrievalState}
    {decision : ControllerDecision} {search : SearchControllerDecision}
    (h : sanitizeControllerDecision forms.toUnicodeTables inputs retrieval decision =
      .ok (.search search)) (frame : PlanFrame) :
    ∃ plan, planRound forms.toUnicodeTables frame inputs retrieval search = .ok plan ∧
      plan.queryTerms = search.proposedQueryTerms := by
  unfold sanitizeControllerDecision at h
  dsimp only at h
  split at h
  · cases h
  split at h
  · cases h
  next decision =>
  obtain ⟨queryTerms, hterms, hreturn⟩ := bind_eq_ok h
  obtain rfl := ControllerDecision.search.inj (Except.ok.inj hreturn)
  have hagain := canonicalize_allowAnchorOnly (canonicalize_again hterms)
    (inputs.stopGuidance.qualityGateStatus = .broadenRequired ||
      retrieval.anchorOnlyBroadenAttempted)
  unfold planRound buildRoundRetrievalPlan
  rw [hagain]
  exact ⟨_, rfl, rfl⟩

/-- **The validator, run twice.** What it accepts are a primary anchor of the pool and companions,
the terms that were proposed, and it accepts them again, also for the plan of a round; their
families differ unless two of them have one blank name. -/
theorem canonicalizeControllerQueryTerms_spec (forms : Py.TextForms) :
    (∀ (allowance : QueryAllowance) (roundNo : Int) (pool : List QueryTermCandidate)
      (proposed result : List String),
      canonicalizeControllerQueryTerms forms.toUnicodeTables allowance proposed roundNo pool =
        .ok result →
      (CanonicalQuery forms.toUnicodeTables allowance roundNo pool proposed result ↔
        (blankFamilies (candidatesOf forms.toUnicodeTables pool proposed)).Nodup)) ∧
    ∀ (frame : PlanFrame) (inputs : RoundInputs) (retrieval : RetrievalState)
      (decision : ControllerDecision) (search : SearchControllerDecision),
      sanitizeControllerDecision forms.toUnicodeTables inputs retrieval decision =
        .ok (.search search) →
      ∃ plan, planRound forms.toUnicodeTables frame inputs retrieval search = .ok plan ∧
        plan.queryTerms = search.proposedQueryTerms :=
  ⟨fun _ _ _ _ _ => canonicalQuery_iff, fun frame _ _ _ _ h => planRound_sanitized h frame⟩

/-! ### Two terms of a family without a name -/

def unnamedAnchor : QueryTermCandidate where
  term := "Java"
  source := .jobTitle
  category := .roleAnchor
  priority := 1
  evidence := "Job title"
  firstAddedRound := 0
  retrievalRole := .primaryRoleAnchor
  family := ""

def unnamedSkill : QueryTermCandidate where
  term := "Spring"
  source := .jd
  category := .tooling
  priority := 2
  evidence := "JD body"
  firstAddedRound := 0
  retrievalRole := .frameworkTool
  family := ""

theorem accepted_unnamed : canonicalizeControllerQueryTerms
    Py.TextForms.fullWidth.toUnicodeTables {} ["spring", "java"] 1 [unnamedAnchor, unnamedSkill] =
      .ok ["Java", "Spring"] := by
  decide +kernel

theorem canonicalizeControllerQueryTerms_spec_unnamed :
    ¬CanonicalQuery Py.TextForms.fullWidth.toUnicodeTables {} 1 [unnamedAnchor, unnamedSkill]
      ["spring", "java"] ["Java", "Spring"] := by
  rw [(canonicalizeControllerQueryTerms_spec Py.TextForms.fullWidth).1 {} 1 _ _ _ accepted_unnamed]
  decide +kernel

theorem not_canonicalQuery :
    ¬∀ (forms : Py.TextForms) (allowance : QueryAllowance) (roundNo : Int)
      (pool : List QueryTermCandidate) (proposed result : List String),
      canonicalizeControllerQueryTerms forms.toUnicodeTables allowance proposed roundNo pool =
        .ok result →
      CanonicalQuery forms.toUnicodeTables allowance roundNo pool proposed result := by
  intro h
  obtain ⟨⟨items, hitems⟩, -⟩ := h Py.TextForms.fullWidth {} 1 [unnamedAnchor, unnamedSkill]
    ["spring", "java"] ["Java", "Spring"] accepted_unnamed
  have hblank := hitems.nodup_blankFamilies
  revert hblank
  decide +kernel

end SeekTalent

import Mathlib.Data.Prod.Lex
import SeekTalent.Models
import SeekTalent.Query.Terms

/-!
# Query plans

`canonicalize_controller_query_terms` is the validator every query passes before it is sent,
whoever proposed it. `select_query_terms` is the runtime's own choice of a query, and
`build_round_retrieval_plan` makes the plan of a round from terms that pass.

`canonicalize_anchored` says what the validator does with an anchor and its companions, for
all who choose such a query.
-/

namespace SeekTalent

variable (tables : Py.UnicodeTables)

/-- `_query_term_index`, where the last term with a key wins. -/
def queryTermIndex (pool : List QueryTermCandidate) (key : String) : Option QueryTermCandidate :=
  pool.reverse.find? fun item => queryTermKey tables item.term = key

/-- The loop of `_duplicate_families`. -/
def duplicateFamiliesFrom (seen : List String) : List QueryTermCandidate → List String
  | [] => []
  | item :: rest =>
    if item.family ∈ seen then item.family :: duplicateFamiliesFrom seen rest
    else duplicateFamiliesFrom (item.family :: seen) rest

def duplicateFamilies (candidates : List QueryTermCandidate) : List String :=
  uniqueStrings tables (duplicateFamiliesFrom [] candidates)

structure QueryAllowance where
  allowInactiveNonAnchorTerms : Bool := false
  allowedInactiveNonAnchorTerms : List String := []
  allowAnchorOnly : Bool := false

/-- The checks on the candidates of a query with an anchor and other terms. -/
def canonicalizeCandidates (allowance : QueryAllowance) (roundNo : Int)
    (candidates : List QueryTermCandidate) : Except String (List String) :=
  let notAdmitted := candidates.filter (·.queryability ≠ .admitted)
  if notAdmitted ≠ [] then
    .error ("query terms must be compiler-admitted: " ++ Py.join ", " (notAdmitted.map (·.term)))
  else match candidates.filter (·.IsPrimaryAnchor) with
    | [anchor] =>
      let companions := candidates.filter fun item =>
        Py.casefold tables item.term ≠ Py.casefold tables anchor.term
      let secondaryTitle := companions.filter (·.retrievalRole = .secondaryTitleAnchor)
      let inactive := companions.filter fun item =>
        ¬allowance.allowInactiveNonAnchorTerms ∧ ¬item.active ∧ ¬item.IsTitleAnchor ∧
          queryTermKey tables item.term ∉ allowance.allowedInactiveNonAnchorTerms
      let duplicates := duplicateFamilies tables candidates
      if roundNo = 1 ∧ companions.length ≠ 1 then
        .error "round 1 requires exactly 1 companion admitted term."
      else if 1 < roundNo ∧ companions.length ∉ [1, 2] then
        .error "rounds after 1 require 1 or 2 companion admitted terms."
      else if 1 < roundNo ∧ secondaryTitle ≠ [] then
        .error ("rounds after 1 must not use secondary_title_anchor as a support term: " ++
          Py.join ", " (secondaryTitle.map (·.term)))
      else if inactive ≠ [] then
        .error ("non-anchor query terms must be active compiler-admitted terms: " ++
          Py.join ", " (inactive.map (·.term)))
      else if duplicates ≠ [] then
        .error ("query terms must not repeat compiler families: " ++ Py.join ", " duplicates)
      else .ok (anchor.term :: companions.map (·.term))
    | _ =>
      .error "proposed_query_terms must contain exactly one compiler-admitted primary anchor."

def canonicalizeControllerQueryTerms (allowance : QueryAllowance) (proposedTerms : List String)
    (roundNo : Int) (pool : List QueryTermCandidate) : Except String (List String) :=
  let terms := (proposedTerms.map normalizeTerm).filter (· ≠ "")
  let uniqueTerms := uniqueStrings tables terms
  let find := fun term => queryTermIndex tables pool (Py.casefold tables term)
  if terms.length ≠ uniqueTerms.length then
    .error "proposed_query_terms must not contain duplicates."
  else if uniqueTerms.length < 2 ∧ ¬allowance.allowAnchorOnly then
    .error "proposed_query_terms must contain at least 2 terms."
  else if 3 < uniqueTerms.length then
    .error "proposed_query_terms must not exceed 3 terms."
  else if ∃ term ∈ uniqueTerms, find term = none then
    .error ("query terms must come from the compiled query term pool: " ++
      Py.join ", " (uniqueTerms.filter (find · = none)))
  else match uniqueTerms.filterMap find with
    | [candidate] =>
      if ¬(allowance.allowAnchorOnly ∧ candidate.IsPrimaryAnchor) then
        .error "anchor-only query requires exactly one compiler-admitted role anchor."
      else .ok [candidate.term]
    | candidates => canonicalizeCandidates tables allowance roundNo candidates

def termSortKey (item : QueryTermCandidate) : Int ×ₗ Int ×ₗ String :=
  toLex (item.priority, toLex (item.firstAddedRound, Py.casefold tables item.term))

def signalRank (item : QueryTermCandidate) : Int :=
  match item.retrievalRole with
  | .coreSkill => 0
  | .frameworkTool => 1
  | .domainContext => 2
  | _ => 3

def nonAnchorSortKey (item : QueryTermCandidate) : Int ×ₗ Int ×ₗ Int ×ₗ String :=
  toLex (signalRank item, termSortKey tables item)

/-- The loop of `select_query_terms`: terms of families not used yet, `budget` of them. -/
def selectFamilies (budget : Nat) (usedFamilies : List String) (selected : List QueryTermCandidate) :
    List QueryTermCandidate → List QueryTermCandidate
  | [] => selected
  | item :: rest =>
    if item.family ∈ usedFamilies then selectFamilies budget usedFamilies selected rest
    else if budget ≤ (selected ++ [item]).length then selected ++ [item]
    else selectFamilies budget (item.family :: usedFamilies) (selected ++ [item]) rest

def activePrimaryAnchors (pool : List QueryTermCandidate) : List QueryTermCandidate :=
  Py.sortedBy (termSortKey tables) (pool.filter fun item => item.active ∧ item.IsPrimaryAnchor)

def activeSecondaryAnchors (pool : List QueryTermCandidate) : List QueryTermCandidate :=
  Py.sortedBy (termSortKey tables) (pool.filter fun item =>
    item.active ∧ item.queryability = .admitted ∧ item.retrievalRole = .secondaryTitleAnchor)

def activeNonAnchors (pool : List QueryTermCandidate) : List QueryTermCandidate :=
  Py.sortedBy (nonAnchorSortKey tables) (pool.filter fun item =>
    item.active ∧ item.queryability = .admitted ∧ ¬item.IsTitleAnchor)

def selectQueryTerms (pool : List QueryTermCandidate) (roundNo : Int) :
    Except String (List String) :=
  match activePrimaryAnchors tables pool with
  | [] => .error "compiled query term pool must include one active admitted primary anchor."
  | anchor :: _ =>
    match (if roundNo = 1 then activeSecondaryAnchors tables pool else []) with
    | secondary :: _ =>
      -- the families of the two anchors are not compared here
      canonicalizeControllerQueryTerms tables {} [anchor.term, secondary.term] roundNo pool
    | [] =>
      let ordered := activeNonAnchors tables pool
      let nonAnchorBudget := if roundNo = 1 then 1 else min 2 ordered.length
      match selectFamilies nonAnchorBudget [anchor.family] [] ordered with
      | [] => .error "compiled query term pool must include active admitted non-anchor terms."
      | selected =>
        canonicalizeControllerQueryTerms tables {} (anchor.term :: selected.map (·.term)) roundNo
          pool

/-! ## The plan of a round -/

def quote (text : String) : String :=
  String.ofList ('"' :: (text.toList.flatMap fun c =>
    if c = '\\' ∨ c = '"' then ['\\', c] else [c]) ++ ['"'])

def serializeKeywordQuery (terms : List String) : String :=
  Py.join " " (terms.map fun term =>
    let clean := normalizeTerm term
    if Py.contains clean " " || Py.contains clean "\t" then quote clean else clean)

/-- The plan of a round, without the projected filters, which are passed through. -/
structure RoundRetrievalPlan where
  planVersion : Nat
  roundNo : Int
  queryTerms : List String
  roleAnchorTerms : List String
  mustHaveAnchorTerms : List String
  keywordQuery : String
  locationExecutionPlan : LocationExecutionPlan
  targetNew : Int
  rationale : String
  deriving DecidableEq

def planRoleAnchorTerms (queryTerms : List String) (pool : List QueryTermCandidate) :
    List String :=
  uniqueStrings tables (queryTerms.filterMap fun term =>
    ((queryTermIndex tables pool (queryTermKey tables term)).filter (·.IsTitleAnchor)).map (·.term))

structure PlanFrame where
  planVersion : Nat
  locationExecutionPlan : LocationExecutionPlan
  targetNew : Int

def buildRoundRetrievalPlan (frame : PlanFrame) (roundNo : Int) (queryTerms : List String)
    (pool : List QueryTermCandidate) (rationale : String)
    (allowedInactiveNonAnchorTerms : List String) (allowAnchorOnlyQuery : Bool) :
    Except String RoundRetrievalPlan :=
  (canonicalizeControllerQueryTerms tables
    { allowedInactiveNonAnchorTerms, allowAnchorOnly := allowAnchorOnlyQuery } queryTerms roundNo
    pool).map fun canonicalTerms =>
      let roleAnchorTerms := planRoleAnchorTerms tables canonicalTerms pool
      { planVersion := frame.planVersion
        roundNo
        queryTerms := canonicalTerms
        roleAnchorTerms
        mustHaveAnchorTerms := canonicalTerms.filter (· ∉ roleAnchorTerms)
        keywordQuery := serializeKeywordQuery canonicalTerms
        locationExecutionPlan := frame.locationExecutionPlan
        targetNew := frame.targetNew
        rationale }

/-! ## What the validator does with terms of the pool -/

section Validator

variable {tables} {pool items companions : List QueryTermCandidate}
variable {anchor item : QueryTermCandidate} {allowance : QueryAllowance} {roundNo : Int}

structure TermsDistinct (tables : Py.UnicodeTables) (pool : List QueryTermCandidate) : Prop where
  tidy : ∀ item ∈ pool, Py.Tidy item.term ∧ item.term ≠ ""
  nodup : (pool.map fun item => queryTermKey tables item.term).Nodup

theorem TermsDistinct.key_eq (h : TermsDistinct tables pool) (hitem : item ∈ pool) :
    queryTermKey tables item.term = Py.casefold tables item.term :=
  queryTermKey_eq (h.tidy item hitem).1

theorem TermsDistinct.queryTermIndex_eq (h : TermsDistinct tables pool) (hitem : item ∈ pool) :
    queryTermIndex tables pool (Py.casefold tables item.term) = some item := by
  rw [← h.key_eq hitem]
  unfold queryTermIndex
  cases hfind : pool.reverse.find? fun other =>
      queryTermKey tables other.term = queryTermKey tables item.term with
  | none =>
    have hnone := List.find?_eq_none.mp hfind item (List.mem_reverse.mpr hitem)
    simp at hnone
  | some other =>
    have hother : other ∈ pool := List.mem_reverse.mp (List.mem_of_find?_eq_some hfind)
    have hkey : queryTermKey tables other.term = queryTermKey tables item.term := by
      simpa using List.find?_some hfind
    rw [List.inj_on_of_nodup_map h.nodup hother hitem hkey]

theorem TermsDistinct.nodup_casefold (h : TermsDistinct tables pool)
    (hitems : ∀ item ∈ items, item ∈ pool) (hnodup : items.Nodup) :
    ((items.map (·.term)).map (Py.casefold tables)).Nodup := by
  rw [List.map_map]
  apply hnodup.map_on
  intro a ha b hb heq
  apply List.inj_on_of_nodup_map h.nodup (hitems a ha) (hitems b hb)
  rw [h.key_eq (hitems a ha), h.key_eq (hitems b hb)]
  exact heq

theorem canonicalize_items (h : TermsDistinct tables pool)
    (hitems : ∀ item ∈ items, item ∈ pool) (hnodup : items.Nodup) (htwo : 2 ≤ items.length)
    (hthree : items.length ≤ 3) :
    canonicalizeControllerQueryTerms tables allowance (items.map (·.term)) roundNo pool =
      canonicalizeCandidates tables allowance roundNo items := by
  have htidy : ∀ t ∈ items.map (·.term), Py.Tidy t ∧ t ≠ "" := by
    intro t ht
    obtain ⟨item, hitem, rfl⟩ := List.mem_map.mp ht
    exact h.tidy item (hitems item hitem)
  have hterms : ((items.map (·.term)).map normalizeTerm).filter (· ≠ "") = items.map (·.term) := by
    have hmap : (items.map (·.term)).map normalizeTerm = (items.map (·.term)).map id :=
      List.map_congr_left fun t ht => normalizeTerm_eq (htidy t ht).1
    rw [hmap, List.map_id]
    exact List.filter_eq_self.mpr fun t ht => by simpa using (htidy t ht).2
  have hunique := uniqueStrings_eq htidy (h.nodup_casefold hitems hnodup)
  have hfind : ∀ item ∈ items,
      queryTermIndex tables pool (Py.casefold tables item.term) = some item :=
    fun item hitem => h.queryTermIndex_eq (hitems item hitem)
  have hfound : (items.map (·.term)).filterMap
      (fun term => queryTermIndex tables pool (Py.casefold tables term)) = items := by
    rw [List.filterMap_map]
    exact (List.filterMap_congr hfind).trans List.filterMap_some
  have hnone : ¬∃ term ∈ items.map (·.term),
      queryTermIndex tables pool (Py.casefold tables term) = none := by
    intro hnone
    obtain ⟨t, ht, hnone⟩ := hnone
    obtain ⟨item, hitem, rfl⟩ := List.mem_map.mp ht
    rw [hfind item hitem] at hnone
    cases hnone
  unfold canonicalizeControllerQueryTerms
  dsimp only
  rw [hterms, hunique, hfound, List.length_map, if_neg (by simp), if_neg (by omega),
    if_neg (by omega), if_neg hnone]
  cases items with
  | nil => simp at htwo
  | cons first rest =>
    cases rest with
    | nil => simp at htwo
    | cons second rest => rfl

theorem duplicateFamiliesFrom_eq_nil {seen : List String} :
    duplicateFamiliesFrom seen items = [] ↔
      (items.map (·.family)).Nodup ∧ ∀ item ∈ items, item.family ∉ seen := by
  induction items generalizing seen with
  | nil => simp [duplicateFamiliesFrom]
  | cons item rest ih =>
    unfold duplicateFamiliesFrom
    by_cases hseen : item.family ∈ seen
    · simp [hseen]
    · simp only [hseen, if_false, ih, List.map_cons, List.nodup_cons, List.mem_cons, not_or]
      constructor
      · intro hrest
        obtain ⟨hnodup, hdisjoint⟩ := hrest
        refine ⟨⟨fun hmem => ?_, hnodup⟩, ?_⟩
        · obtain ⟨other, hother, heq⟩ := List.mem_map.mp hmem
          exact (hdisjoint other hother).1 heq
        · intro other hother
          rcases hother with rfl | hother
          · exact hseen
          · exact (hdisjoint other hother).2
      · intro hall
        obtain ⟨⟨hfresh, hnodup⟩, hdisjoint⟩ := hall
        refine ⟨hnodup, fun other hother => ⟨fun heq => hfresh ?_, hdisjoint other (.inr hother)⟩⟩
        exact heq ▸ List.mem_map_of_mem hother

structure Companion (roundNo : Int) (item : QueryTermCandidate) : Prop where
  admitted : item.queryability = .admitted
  notPrimary : ¬item.IsPrimaryAnchor
  usable : item.active = true ∨ item.IsTitleAnchor
  notSecondary : 1 < roundNo → item.retrievalRole ≠ .secondaryTitleAnchor

/-- **An anchor and companions.** Of such a query only the families remain to be checked. -/
theorem canonicalize_anchored (h : TermsDistinct tables pool) (hanchor : anchor ∈ pool)
    (hprimary : anchor.IsPrimaryAnchor) (hmem : ∀ item ∈ companions, item ∈ pool)
    (hcompanions : ∀ item ∈ companions, Companion roundNo item) (hnodup : companions.Nodup)
    (hone : 1 ≤ companions.length) (htwo : companions.length ≤ 2)
    (hfirst : roundNo = 1 → companions.length = 1) :
    canonicalizeControllerQueryTerms tables allowance (anchor.term :: companions.map (·.term))
        roundNo pool =
      if duplicateFamilies tables (anchor :: companions) = [] then
        .ok (anchor.term :: companions.map (·.term))
      else .error ("query terms must not repeat compiler families: " ++
        Py.join ", " (duplicateFamilies tables (anchor :: companions))) := by
  have hfresh : anchor ∉ companions := fun hin => (hcompanions anchor hin).notPrimary hprimary
  have hall : ∀ item ∈ anchor :: companions, item ∈ pool := by
    intro item hitem
    rcases List.mem_cons.mp hitem with rfl | hitem
    · exact hanchor
    · exact hmem item hitem
  have hitems : (anchor :: companions).Nodup := List.nodup_cons.mpr ⟨hfresh, hnodup⟩
  rw [← List.map_cons (f := fun item : QueryTermCandidate => item.term),
    canonicalize_items h hall hitems (by simp; omega) (by simp; omega)]
  -- every filter of the checks is empty, or keeps what it is expected to
  have hadmitted : (anchor :: companions).filter (·.queryability ≠ .admitted) = [] := by
    rw [List.filter_eq_nil_iff]
    intro item hitem
    rcases List.mem_cons.mp hitem with rfl | hitem
    · simpa using hprimary.1
    · simpa using (hcompanions item hitem).admitted
  have hprimaries : (anchor :: companions).filter (·.IsPrimaryAnchor) = [anchor] := by
    rw [List.filter_cons_of_pos (by simpa using hprimary), List.filter_eq_nil_iff.mpr]
    intro item hitem
    simpa using (hcompanions item hitem).notPrimary
  have hothers : ((anchor :: companions).filter fun item =>
      Py.casefold tables item.term ≠ Py.casefold tables anchor.term) = companions := by
    rw [List.filter_cons_of_neg (by simp), List.filter_eq_self]
    intro item hitem
    have hne : Py.casefold tables item.term ≠ Py.casefold tables anchor.term := by
      intro heq
      rw [← h.key_eq (hmem item hitem), ← h.key_eq hanchor] at heq
      exact hfresh (List.inj_on_of_nodup_map h.nodup (hmem item hitem) hanchor heq ▸ hitem)
    simpa using hne
  have hinactive : (companions.filter fun item =>
      ¬allowance.allowInactiveNonAnchorTerms ∧ ¬item.active ∧ ¬item.IsTitleAnchor ∧
        queryTermKey tables item.term ∉ allowance.allowedInactiveNonAnchorTerms) = [] := by
    rw [List.filter_eq_nil_iff]
    intro item hitem
    rcases (hcompanions item hitem).usable with hactive | htitle
    · simp [hactive]
    · simp [htitle]
  have hsecondary : 1 < roundNo →
      companions.filter (·.retrievalRole = .secondaryTitleAnchor) = [] := by
    intro hround
    rw [List.filter_eq_nil_iff]
    intro item hitem
    simpa using (hcompanions item hitem).notSecondary hround
  unfold canonicalizeCandidates
  dsimp only
  rw [hadmitted, hprimaries]
  dsimp only
  rw [hothers, hinactive, if_neg (by simp), if_neg (by omega), if_neg, if_neg, if_neg (by simp)]
  · by_cases hdup : duplicateFamilies tables (anchor :: companions) = []
    · simp [hdup]
    · simp [hdup]
  · intro hbad
    exact hbad.2 (hsecondary hbad.1)
  · simp
    omega

theorem canonicalize_anchorOnly (h : TermsDistinct tables pool) (hanchor : anchor ∈ pool)
    (hprimary : anchor.IsPrimaryAnchor) (hallow : allowance.allowAnchorOnly = true) :
    canonicalizeControllerQueryTerms tables allowance [anchor.term] roundNo pool =
      .ok [anchor.term] := by
  obtain ⟨htidy, hne⟩ := h.tidy anchor hanchor
  have hunique : uniqueStrings tables [anchor.term] = [anchor.term] :=
    uniqueStrings_eq (by simpa using ⟨htidy, hne⟩) (by simp)
  unfold canonicalizeControllerQueryTerms
  simp [normalizeTerm_eq htidy, hne, hunique, hallow, h.queryTermIndex_eq hanchor, hprimary]

end Validator

end SeekTalent

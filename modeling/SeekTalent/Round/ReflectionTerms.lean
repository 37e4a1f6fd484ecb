import SeekTalent.Round.CompiledPool
import SeekTalent.Round.ForcedDecision

/-!
# What reflection counts against a stop

After a round the reflection critic may suggest to stop. It is overruled while admitted terms are
left that were not tried, unless the top pool is strong. The rescue steps of the runtime ask for
such a term too, the reserve, but they leave out the title anchors, by the roles that the compiler
gives them; the critic leaves out a role that the compiler gives to none. So an anchor that was not
sent yet keeps a run going for which there is no reserve (`countsReserve_iff`).
-/

namespace SeekTalent

namespace Reflection

/-- What the critic reads of `ReflectionContext`. -/
structure ReflectionContext where
  queryTermPool : List QueryTermCandidate
  initialQueryTermPool : List QueryTermCandidate
  sentQueryHistory : List SentQueryRecord
  topCandidates : List ScoredCandidate

def buildReflectionContext (retrieval : RetrievalState)
    (initialQueryTermPool : List QueryTermCandidate) (topCandidates : List ScoredCandidate) :
    ReflectionContext where
  queryTermPool := retrieval.queryTermPool
  initialQueryTermPool := initialQueryTermPool
  sentQueryHistory := retrieval.sentQueryHistory
  topCandidates := topCandidates

section Critic

variable (tables : Py.UnicodeTables)

def termKey (term : String) : String :=
  Py.casefold tables (Py.join " " (Py.split (Py.strip term)))

/-- `context.query_term_pool or context.requirement_sheet.initial_query_term_pool` -/
def ReflectionContext.termPool (context : ReflectionContext) : List QueryTermCandidate :=
  match context.queryTermPool with
  | [] => context.initialQueryTermPool
  | item :: rest => item :: rest

def triedFamilies (context : ReflectionContext) : List String :=
  context.sentQueryHistory.flatMap fun record =>
    record.queryTerms.filterMap fun term =>
      (context.termPool.reverse.find? fun item =>
        termKey tables item.term = termKey tables term).map (·.family)

/-- The loop of `_untried_admitted_terms`. -/
def collectUntried (tried seen : List String) : List QueryTermCandidate → List String
  | [] => []
  | item :: rest =>
    if item.queryability ≠ .admitted ∨ item.retrievalRole = .roleAnchor then
      collectUntried tried seen rest
    else if item.family ∈ tried ∨ item.family ∈ seen then collectUntried tried seen rest
    else item.term :: collectUntried tried (item.family :: seen) rest

def collectKey (item : QueryTermCandidate) : Int ×ₗ Int ×ₗ String :=
  toLex (item.priority, toLex (item.firstAddedRound, item.family))

def untriedAdmittedTerms (context : ReflectionContext) : List String :=
  collectUntried (triedFamilies tables context) [] (Py.sortedBy collectKey context.termPool)

def topPoolIsStrong (context : ReflectionContext) : Bool :=
  10 ≤ context.topCandidates.length ∧
    5 ≤ context.topCandidates.countP fun item =>
      item.fitBucket = .fit ∧ 80 ≤ item.overallScore ∧ 70 ≤ item.mustHaveMatchScore ∧
        item.riskScore ≤ 30

/-- `suggest_stop` of `materialize_reflection_advice` -/
def suggestStop (context : ReflectionContext) (draftSuggestStop : Bool) : Bool :=
  let suppressReflectionStopAdvice :=
    draftSuggestStop && untriedAdmittedTerms tables context ≠ [] && !topPoolIsStrong context
  draftSuggestStop && !suppressReflectionStopAdvice

end Critic

variable {tables : Py.UnicodeTables} {pool : List QueryTermCandidate} {item : QueryTermCandidate}
variable {retrieval : RetrievalState} {tried : List String}

/-! ## 1. The first term that is collected -/

def Counts (tried : List String) (item : QueryTermCandidate) : Prop :=
  item.queryability = .admitted ∧ item.retrievalRole ≠ .roleAnchor ∧ item.family ∉ tried

instance (tried : List String) (item : QueryTermCandidate) : Decidable (Counts tried item) :=
  inferInstanceAs (Decidable (_ ∧ _))

theorem head?_collectUntried (items : List QueryTermCandidate) :
    (collectUntried tried [] items).head? =
      (items.find? (Counts tried ·)).map (·.term) := by
  induction items with
  | nil => rfl
  | cons item rest ih =>
    unfold collectUntried
    by_cases hcounts : Counts tried item
    · obtain ⟨hadmitted, hrole, huntried⟩ := hcounts
      rw [if_neg (by simp [hadmitted, hrole]), if_neg (by simp [huntried]),
        List.find?_cons_of_pos (by simpa using ⟨hadmitted, hrole, huntried⟩)]
      rfl
    · rw [List.find?_cons_of_neg (by simpa using hcounts)]
      split
      · exact ih
      · rename_i hrole
        obtain ⟨hadmitted, hrole⟩ := not_or.mp hrole
        rw [if_pos]
        · exact ih
        · left
          by_contra huntried
          exact hcounts ⟨not_not.mp hadmitted, hrole, huntried⟩

theorem exists_first_of_sorted {first : String}
    (h : (collectUntried tried [] (Py.sortedBy collectKey pool)).head? = some first) :
    ∃ item ∈ pool, Counts tried item ∧ item.term = first ∧
      ∀ other ∈ pool, Counts tried other → collectKey item ≤ collectKey other := by
  rw [head?_collectUntried] at h
  obtain ⟨item, hfind, rfl⟩ := Option.map_eq_some_iff.mp h
  have hcounts : Counts tried item := by simpa using List.find?_some hfind
  refine ⟨item, Py.mem_sortedBy.mp (List.mem_of_find?_eq_some hfind), hcounts, rfl, ?_⟩
  intro other hother hcounts'
  have hsorted : (Py.sortedBy collectKey pool).Pairwise (fun a b => collectKey a ≤ collectKey b) :=
    List.pairwise_insertionSort _ _
  obtain ⟨-, before, after, hsplit, hbefore⟩ := List.find?_eq_some_iff_append.mp hfind
  have hmem : other ∈ Py.sortedBy collectKey pool := Py.mem_sortedBy.mpr hother
  rw [hsplit] at hmem hsorted
  rcases List.mem_append.mp hmem with hmem | hmem
  · exact absurd hcounts' (by simpa using hbefore other hmem)
  · rcases List.mem_cons.mp hmem with rfl | hmem
    · exact le_rfl
    · exact (List.pairwise_cons.mp (List.pairwise_append.mp hsorted).2.1).1 other hmem

theorem collectUntried_eq_nil_iff :
    collectUntried tried [] (Py.sortedBy collectKey pool) = [] ↔
      ∀ item ∈ pool, ¬Counts tried item := by
  rw [← List.head?_eq_none_iff, head?_collectUntried, Option.map_eq_none_iff, List.find?_eq_none]
  simp

/-! ## 2. The anchors of a pool -/

def AnchorsActive (pool : List QueryTermCandidate) : Prop :=
  ∀ item ∈ pool, item.IsTitleAnchor → item.active = true ∧ item.retrievalRole ≠ .roleAnchor

section Compiled

open QueryCompiler

theorem forall_addAll {P : QueryTermCandidate → Prop} {keys : List String}
    {state : CompilerState} {calls : List AddCandidate}
    (hcalls : ∀ call ∈ calls, ∀ state, P (addedCandidate tables keys state call))
    (h : ∀ item ∈ state.pool, P item) : ∀ item ∈ (addAll tables keys state calls).pool, P item := by
  unfold addAll
  induction calls generalizing state with
  | nil => exact h
  | cons call calls ih =>
    obtain ⟨hcall, hcalls⟩ := List.forall_mem_cons.mp hcalls
    have hagain : ∀ item ∈ (addCandidate tables keys state call).pool, P item := by
      intro item hitem
      rcases addCandidate_cases tables keys state call with heq | ⟨-, -, heq⟩
      · rw [heq] at hitem
        exact h item hitem
      · rw [heq] at hitem
        rcases List.mem_append.mp hitem with hitem | hitem
        · exact h item hitem
        · rw [List.mem_singleton.mp hitem]
          exact hcall state
    rw [List.foldl_cons]
    exact ih hcalls hagain

theorem anchorsActive_compile {input : Input} (h : compileQueryTermPool tables input = .ok pool) :
    AnchorsActive pool := by
  have hpool : pool = (addAll tables (constraintKeys tables input.hardConstraints
      input.preferences) {} (calls tables input)).pool := by
    unfold compileQueryTermPool at h
    dsimp only at h
    split at h
    · cases h
    · split at h
      · cases h
      · exact (Except.ok.inj h).symm
  rw [hpool]
  apply forall_addAll
  · intro call hcall state hanchor
    have hplaced := placed_addedCandidate tables (constraintKeys tables input.hardConstraints
      input.preferences) state (callPlaced_of_mem_calls hcall)
    refine ⟨?_, fun hrole => ?_⟩
    · obtain ⟨hadmitted, hrole⟩ := isTitleAnchor_iff.mp hanchor
      -- only what is no title anchor is counted against the window
      refine decide_eq_true ⟨hadmitted, fun hcounts => ?_⟩
      exact absurd (hcounts.2.symm.trans hrole) (by simp)
    · have hprimary := (hplaced.primary (by rw [hrole]; rfl)).2
      rw [hrole] at hprimary
      cases hprimary
  · intro item hitem
    cases hitem

end Compiled

theorem anchorsActive_of_reachable (h : ReachablePool tables pool) : AnchorsActive pool := by
  induction h with
  | compiled h => exact anchorsActive_compile h
  | activated term h ih =>
    intro item hitem hanchor
    rw [activateQueryTerm_eq] at hitem
    obtain ⟨old, hold, rfl⟩ := List.mem_map.mp hitem
    obtain ⟨hactive, hrole⟩ := ih old hold (isTitleAnchor_activated.mp hanchor)
    exact ⟨activated_active hactive, by rw [activated_retrievalRole]; exact hrole⟩
  | learned h haccepted ih =>
    intro item hitem hanchor
    rcases List.mem_append.mp hitem with hitem | hitem
    · exact ih item hitem hanchor
    · rw [List.mem_singleton.mp hitem] at hanchor
      exact absurd hanchor (learnedTerm_of_accepted h.termPoolOk.distinct haccepted).support.2

/-! ## 3. The reserve -/

/-- The critic counts terms exactly when there is a reserve, and its first term is then of the
    reserve's family, if none of the admitted terms that were not tried is active. -/
structure CountsReserve (tables : Py.UnicodeTables) (context : ReflectionContext)
    (retrieval : RetrievalState) : Prop where
  nonempty_iff : untriedAdmittedTerms tables context ≠ [] ↔
    untriedAdmittedNonAnchorReserve tables retrieval ≠ none
  first : ∀ first reserve, (untriedAdmittedTerms tables context).head? = some first →
    untriedAdmittedNonAnchorReserve tables retrieval = some reserve →
      (∀ item ∈ retrieval.queryTermPool, item.queryability = .admitted →
        item.family ∉ triedQueryFamilies tables retrieval → item.active = false) →
      ∃ item ∈ retrieval.queryTermPool, item.term = first ∧ item.family = reserve.family

theorem triedFamilies_eq (h : retrieval.queryTermPool ≠ [])
    (initial : List QueryTermCandidate) (top : List ScoredCandidate) :
    (buildReflectionContext retrieval initial top).termPool = retrieval.queryTermPool ∧
      triedFamilies tables (buildReflectionContext retrieval initial top) =
        triedQueryFamilies tables retrieval := by
  have hpool : (buildReflectionContext retrieval initial top).termPool =
      retrieval.queryTermPool := by
    obtain ⟨item, rest, hitems⟩ := List.exists_cons_of_ne_nil h
    unfold ReflectionContext.termPool buildReflectionContext
    rw [hitems]
  refine ⟨hpool, ?_⟩
  unfold triedFamilies
  rw [hpool]
  rfl

theorem counts_iff (hanchors : AnchorsActive pool) (hitem : item ∈ pool) :
    Counts tried item ↔ item.family ∉ tried ∧ (item.IsSupport ∨ item.IsTitleAnchor) := by
  constructor
  · intro h
    obtain ⟨hadmitted, -, huntried⟩ := h
    refine ⟨huntried, ?_⟩
    by_cases hanchor : item.IsTitleAnchor
    · exact .inr hanchor
    · exact .inl ⟨hadmitted, hanchor⟩
  · intro h
    obtain ⟨huntried, hsupport | hanchor⟩ := h
    · refine ⟨hsupport.1, fun hrole => ?_, huntried⟩
      have hno := (isSupport_iff.mp hsupport).2
      rw [hrole] at hno
      cases hno
    · exact ⟨hanchor.1, (hanchors item hitem hanchor).2, huntried⟩

theorem reserve_eq_none_iff :
    untriedAdmittedNonAnchorReserve tables retrieval = none ↔
      ∀ item ∈ retrieval.queryTermPool, item.IsSupport →
        item.family ∈ triedQueryFamilies tables retrieval := by
  unfold untriedAdmittedNonAnchorReserve
  rw [Py.minBy_eq_none, untriedAdmittedNonAnchors, List.filter_eq_nil_iff]
  simp only [isSupport_iff, decide_eq_true_eq, not_and, not_not, Bool.not_eq_true]
  constructor
  · intro h item hitem hsupport
    exact h item hitem hsupport.1 hsupport.2
  · intro h item hitem hadmitted hrole
    exact h item hitem ⟨hadmitted, hrole⟩

/-- **Reflection and the reserve.** In every state that a run can reach, the critic counts terms
    against a stop exactly when there is a reserve, if a term that can be a reserve is left or all
    title anchors were sent, and only then. -/
theorem countsReserve_iff (tables : Py.UnicodeTables) (retrieval : RetrievalState)
    (initial : List QueryTermCandidate) (top : List ScoredCandidate)
    (h : ReachablePool tables retrieval.queryTermPool) :
    CountsReserve tables (buildReflectionContext retrieval initial top) retrieval ↔
      (∃ item ∈ retrieval.queryTermPool, item.IsSupport ∧
        item.family ∉ triedQueryFamilies tables retrieval) ∨
      ∀ item ∈ retrieval.queryTermPool, item.IsTitleAnchor →
        item.family ∈ triedQueryFamilies tables retrieval := by
  have hanchors := anchorsActive_of_reachable h
  obtain ⟨anchor, hanchor, -⟩ := h.termPoolOk.anchored
  obtain ⟨hpool, htried⟩ := @triedFamilies_eq tables retrieval (List.ne_nil_of_mem hanchor)
    initial top
  have hterms : untriedAdmittedTerms tables (buildReflectionContext retrieval initial top) =
      collectUntried (triedQueryFamilies tables retrieval) []
        (Py.sortedBy collectKey retrieval.queryTermPool) := by
    unfold untriedAdmittedTerms
    rw [hpool, htried]
  constructor
  · intro hagree
    have hsame := hagree.nonempty_iff
    rw [hterms] at hsame
    by_contra hnot
    obtain ⟨hnone, hleft⟩ := not_or.mp hnot
    have hreserve : untriedAdmittedNonAnchorReserve tables retrieval = none := by
      apply reserve_eq_none_iff.mpr
      intro item hitem hsupport
      by_contra huntried
      exact hnone ⟨item, hitem, hsupport, huntried⟩
    have hempty := not_not.mp (mt hsame.mp (not_not.mpr hreserve))
    refine hleft fun item hitem hanchor => ?_
    by_contra huntried
    exact collectUntried_eq_nil_iff.mp hempty item hitem
      ((counts_iff hanchors hitem).mpr ⟨huntried, .inr hanchor⟩)
  · intro hcondition
    constructor
    · rw [hterms]
      apply not_congr
      rw [collectUntried_eq_nil_iff, reserve_eq_none_iff]
      constructor
      · intro hno item hitem hsupport
        by_contra huntried
        exact hno item hitem ((counts_iff hanchors hitem).mpr ⟨huntried, .inl hsupport⟩)
      · intro hsupports item hitem hcounts
        obtain ⟨huntried, hsupport | hanchor⟩ := (counts_iff hanchors hitem).mp hcounts
        · exact huntried (hsupports item hitem hsupport)
        · rcases hcondition with ⟨support, hsupport, his, hleft⟩ | hsent
          · exact hleft (hsupports support hsupport his)
          · exact huntried (hsent item hitem hanchor)
    · intro first reserve hfirst hreserve hinactive
      rw [hterms] at hfirst
      obtain ⟨item, hitem, hcounts, hterm, hleast⟩ := exists_first_of_sorted hfirst
      obtain ⟨hmem, his, huntried⟩ := reserve_spec hreserve
      refine ⟨item, hitem, hterm, ?_⟩
      -- an anchor is active, so that the first term can be a reserve too
      obtain ⟨huntried', hsupport | hanchor⟩ := (counts_iff hanchors hitem).mp hcounts
      · have hle := hleast reserve hmem ((counts_iff hanchors hmem).mpr ⟨huntried, .inl his⟩)
        have hcandidate : item ∈ untriedAdmittedNonAnchors tables retrieval := by
          obtain ⟨hadmitted, hrole⟩ := isSupport_iff.mp hsupport
          exact List.mem_filter.mpr ⟨hitem, by simpa using ⟨hadmitted, hrole, huntried'⟩⟩
        have hbest := List.le_of_mem_argmin hcandidate hreserve
        rw [hinactive item hitem hsupport.1 huntried',
          hinactive reserve hmem his.1 huntried] at hbest
        have hbest : collectKey reserve ≤ collectKey item := by
          simpa [Prod.Lex.toLex_le_toLex, collectKey] using hbest
        have heq := le_antisymm hle hbest
        unfold collectKey at heq
        simp only [EmbeddingLike.apply_eq_iff_eq, Prod.mk.injEq] at heq
        exact heq.2.2
      · have hactive := (hanchors item hitem hanchor).1
        rw [hinactive item hitem hanchor.1 huntried'] at hactive
        cases hactive

/-- Two title anchors and a term, of which the first query has sent one anchor and the term. -/
def secondAnchorLeft : RetrievalState where
  queryTermPool := compiledPool ["Rust", "Backend"] ["Tokio"]
  sentQueryHistory :=
    [{ roundNo := 1
       queryRole := .exploit
       laneType := .exploit
       queryInstanceId := "q1"
       queryFingerprint := "f1"
       city := none
       phase := none
       batchNo := 1
       requestedCount := 10
       queryTerms := ["Rust", "Tokio"]
       keywordQuery := "Rust Tokio"
       sourcePlanVersion := 1 }]

/-- A run can reach this state, as the controller may send these two terms in the first round. The
critic overrules a stop for the anchor that is left, and there is no reserve. -/
theorem not_countsReserve_secondAnchorLeft :
    ReachablePool .ascii secondAnchorLeft.queryTermPool ∧
      canonicalizeControllerQueryTerms .ascii {} ["Rust", "Tokio"] 1
        secondAnchorLeft.queryTermPool = .ok ["Rust", "Tokio"] ∧
      untriedAdmittedTerms .ascii (buildReflectionContext secondAnchorLeft [] []) = ["Backend"] ∧
      suggestStop .ascii (buildReflectionContext secondAnchorLeft [] []) true = false ∧
      untriedAdmittedNonAnchorReserve .ascii secondAnchorLeft = none ∧
      ¬CountsReserve .ascii (buildReflectionContext secondAnchorLeft [] []) secondAnchorLeft := by
  have hterms : untriedAdmittedTerms .ascii (buildReflectionContext secondAnchorLeft [] []) =
      ["Backend"] := by
    decide
  have hreserve : untriedAdmittedNonAnchorReserve .ascii secondAnchorLeft = none := by
    decide
  refine ⟨reachable_compiledPool ["Rust", "Backend"] ["Tokio"] (by decide),
    by decide, hterms, by decide, hreserve, fun h => ?_⟩
  exact h.nonempty_iff.mp (by simp [hterms]) hreserve

def termLeft : RetrievalState :=
  { secondAnchorLeft with queryTermPool := compiledPool ["Rust"] ["Tokio", "Kafka"] }

theorem countsReserve_iff_termLeft :
    untriedAdmittedTerms .ascii (buildReflectionContext termLeft [] []) = ["Kafka"] ∧
      CountsReserve .ascii (buildReflectionContext termLeft [] []) termLeft := by
  refine ⟨by decide, ?_⟩
  rw [countsReserve_iff .ascii termLeft [] []
    (reachable_compiledPool ["Rust"] ["Tokio", "Kafka"] (by decide))]
  decide

end Reflection

end SeekTalent

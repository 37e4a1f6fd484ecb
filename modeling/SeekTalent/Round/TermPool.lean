import SeekTalent.Query.Compiler
import SeekTalent.Round.Decision

/-!
# The term pools of a run

A run starts with a compiled pool. Its rescue steps activate terms and add terms learned from
candidates, nothing else changes it. `TermPoolOk` is what all these pools have in common, and
what a forced query rests on: the terms are distinct, there is an active primary anchor and
an active term beside it, and the family of a term tells what kind of term it is.
-/

namespace SeekTalent

variable {tables : Py.UnicodeTables} {pool : List QueryTermCandidate}
variable {item other : QueryTermCandidate}

/-- The pools a run can have. -/
inductive ReachablePool (tables : Py.UnicodeTables) : List QueryTermCandidate → Prop where
  | compiled {input : QueryCompiler.Input} {pool : List QueryTermCandidate}
      (h : compileQueryTermPool tables input = .ok pool) : ReachablePool tables pool
  | activated {pool : List QueryTermCandidate} (term : String) (h : ReachablePool tables pool) :
      ReachablePool tables (activateQueryTerm tables pool term)
  | learned {pool : List QueryTermCandidate} {seeds negatives : List ScoredCandidate}
      {sentQueryTerms : List String} {roundNo : Int} {accepted : QueryTermCandidate}
      (h : ReachablePool tables pool)
      (haccepted : (Feedback.buildFeedbackDecision tables seeds negatives pool sentQueryTerms
        roundNo).acceptedTerm = some accepted) :
      ReachablePool tables (pool ++ [accepted])

/-- An admitted term that is no title anchor. -/
def QueryTermCandidate.IsSupport (item : QueryTermCandidate) : Prop :=
  item.queryability = .admitted ∧ ¬item.IsTitleAnchor

instance (item : QueryTermCandidate) : Decidable item.IsSupport :=
  inferInstanceAs (Decidable (_ ∧ _))

theorem isTitleAnchor_iff : item.IsTitleAnchor ↔
    item.queryability = .admitted ∧ isTitleAnchorRole item.retrievalRole = true := by
  unfold QueryTermCandidate.IsTitleAnchor isPrimaryAnchorRole isTitleAnchorRole
  cases item.retrievalRole <;> simp

theorem isSupport_iff : item.IsSupport ↔
    item.queryability = .admitted ∧ isTitleAnchorRole item.retrievalRole = false := by
  unfold QueryTermCandidate.IsSupport
  rw [isTitleAnchor_iff]
  simp +contextual

def RoleFamily (family : String) : Prop := ∃ key, family = "role." ++ key

def SupportFamily (family : String) : Prop :=
  ∃ key, family = "domain." ++ key ∨ family = "feedback." ++ key

theorem RoleFamily.head {family : String} (h : RoleFamily family) :
    family.toList.head? = some 'r' := by
  obtain ⟨key, rfl⟩ := h
  rw [String.toList_append]
  rfl

theorem SupportFamily.head {family : String} (h : SupportFamily family) :
    family.toList.head? ≠ some 'r' := by
  obtain ⟨key, rfl | rfl⟩ := h
  · rw [String.toList_append]
    simp
  · rw [String.toList_append]
    simp

theorem RoleFamily.ne {role support : String} (hrole : RoleFamily role)
    (hsupport : SupportFamily support) : role ≠ support := by
  intro heq
  exact hsupport.head (heq ▸ hrole.head)

/-- What all pools of a run have in common. -/
structure TermPoolOk (tables : Py.UnicodeTables) (pool : List QueryTermCandidate) : Prop where
  distinct : TermsDistinct tables pool
  roleFamily : ∀ item ∈ pool, item.IsTitleAnchor → RoleFamily item.family
  supportFamily : ∀ item ∈ pool, item.IsSupport → SupportFamily item.family
  anchored : ∃ item ∈ pool, item.active = true ∧ item.IsPrimaryAnchor
  supported : ∃ item ∈ pool, item.active = true ∧ item.IsSupport

/-! ## Activating a term -/

/-- A term after an activation, which changes nothing but `active`. -/
def activated (tables : Py.UnicodeTables) (term : String) (item : QueryTermCandidate) :
    QueryTermCandidate :=
  if queryTermKey tables item.term = queryTermKey tables term then { item with active := true }
  else item

theorem activateQueryTerm_eq (term : String) :
    activateQueryTerm tables pool term = pool.map (activated tables term) := rfl

section Activated

variable {term : String}

@[simp] theorem activated_term : (activated tables term item).term = item.term := by
  unfold activated
  split <;> rfl

@[simp] theorem activated_family : (activated tables term item).family = item.family := by
  unfold activated
  split <;> rfl

@[simp] theorem activated_queryability :
    (activated tables term item).queryability = item.queryability := by
  unfold activated
  split <;> rfl

@[simp] theorem activated_retrievalRole :
    (activated tables term item).retrievalRole = item.retrievalRole := by
  unfold activated
  split <;> rfl

@[simp] theorem isPrimaryAnchor_activated :
    (activated tables term item).IsPrimaryAnchor ↔ item.IsPrimaryAnchor := by
  simp [QueryTermCandidate.IsPrimaryAnchor]

@[simp] theorem isTitleAnchor_activated :
    (activated tables term item).IsTitleAnchor ↔ item.IsTitleAnchor := by
  simp [QueryTermCandidate.IsTitleAnchor]

@[simp] theorem isSupport_activated :
    (activated tables term item).IsSupport ↔ item.IsSupport := by
  simp [QueryTermCandidate.IsSupport]

theorem activated_active (h : item.active = true) :
    (activated tables term item).active = true := by
  unfold activated
  split
  · rfl
  · exact h

theorem activated_eq_self (h : item.active = true) : activated tables term item = item := by
  unfold activated
  split
  · rw [← h]
  · rfl

theorem activated_self_active : (activated tables item.term item).active = true := by
  simp [activated]

theorem TermPoolOk.activate (h : TermPoolOk tables pool) (term : String) :
    TermPoolOk tables (activateQueryTerm tables pool term) := by
  rw [activateQueryTerm_eq]
  refine ⟨⟨?_, ?_⟩, ?_, ?_, ?_, ?_⟩
  · intro item hitem
    obtain ⟨old, hold, rfl⟩ := List.mem_map.mp hitem
    simpa using h.distinct.tidy old hold
  · have hkeys : (fun item => queryTermKey tables item.term) ∘ activated tables term =
        fun item => queryTermKey tables item.term := by
      funext item
      simp
    rw [List.map_map, hkeys]
    exact h.distinct.nodup
  · intro item hitem htitle
    obtain ⟨old, hold, rfl⟩ := List.mem_map.mp hitem
    simpa using h.roleFamily old hold (isTitleAnchor_activated.mp htitle)
  · intro item hitem hsupport
    obtain ⟨old, hold, rfl⟩ := List.mem_map.mp hitem
    simpa using h.supportFamily old hold (isSupport_activated.mp hsupport)
  · obtain ⟨anchor, hanchor, hactive, hprimary⟩ := h.anchored
    exact ⟨_, List.mem_map_of_mem hanchor, activated_active hactive,
      isPrimaryAnchor_activated.mpr hprimary⟩
  · obtain ⟨support, hmem, hactive, hsupport⟩ := h.supported
    exact ⟨_, List.mem_map_of_mem hmem, activated_active hactive,
      isSupport_activated.mpr hsupport⟩

end Activated

/-! ## Adding a learned term -/

section Learned

open Feedback

variable {seeds negatives : List ScoredCandidate} {sentQueryTerms : List String} {roundNo : Int}
variable {accepted : QueryTermCandidate}

structure LearnedTerm (tables : Py.UnicodeTables) (pool : List QueryTermCandidate)
    (accepted : QueryTermCandidate) : Prop where
  tidy : Py.Tidy accepted.term ∧ accepted.term ≠ ""
  active : accepted.active = true
  support : accepted.IsSupport
  family : SupportFamily accepted.family
  fresh : ∀ item ∈ pool, queryTermKey tables item.term ≠ queryTermKey tables accepted.term

theorem learnedTerm_of_accepted (hdistinct : TermsDistinct tables pool)
    (h : (buildFeedbackDecision tables seeds negatives pool sentQueryTerms roundNo).acceptedTerm =
      some accepted) : LearnedTerm tables pool accepted := by
  obtain ⟨-, surface, -, hsurface, hkey, rfl, -⟩ := accepted_spec h
  refine ⟨⟨hsurface.tidy, hsurface.ne_empty⟩, rfl, ⟨rfl, ?_⟩, ⟨_, .inr rfl⟩, ?_⟩
  · simp [materializeTerm, isTitleAnchor_iff, isTitleAnchorRole]
  · intro item hitem heq
    -- terms that differ in case only have one key for feedback, too
    have hsame : queryTermKey tables surface.term = Py.casefold tables surface.term :=
      queryTermKey_eq hsurface.tidy
    rw [hdistinct.key_eq hitem] at heq
    have heq : Py.casefold tables item.term = Py.casefold tables surface.term := heq.trans hsame
    apply hkey
    rw [termKey, Py.foldedAlnum_eq hsurface.plain heq.symm]
    exact List.mem_map_of_mem hitem

theorem TermPoolOk.learn (h : TermPoolOk tables pool) (hlearned : LearnedTerm tables pool accepted) :
    TermPoolOk tables (pool ++ [accepted]) := by
  have hmem : ∀ {item}, item ∈ pool ++ [accepted] → item ∈ pool ∨ item = accepted := by
    intro item hitem
    simpa using hitem
  refine ⟨⟨?_, ?_⟩, ?_, ?_, ?_, ?_⟩
  · intro item hitem
    rcases hmem hitem with hitem | rfl
    · exact h.distinct.tidy item hitem
    · exact hlearned.tidy
  · rw [List.map_append, List.map_singleton]
    refine h.distinct.nodup.append (List.nodup_singleton _) ?_
    intro key hkey hlast
    obtain ⟨item, hitem, rfl⟩ := List.mem_map.mp hkey
    exact hlearned.fresh item hitem (List.mem_singleton.mp hlast)
  · intro item hitem htitle
    rcases hmem hitem with hitem | rfl
    · exact h.roleFamily item hitem htitle
    · exact absurd htitle hlearned.support.2
  · intro item hitem hsupport
    rcases hmem hitem with hitem | rfl
    · exact h.supportFamily item hitem hsupport
    · exact hlearned.family
  · obtain ⟨anchor, hanchor, hrest⟩ := h.anchored
    exact ⟨anchor, List.mem_append_left _ hanchor, hrest⟩
  · obtain ⟨support, hsupport, hrest⟩ := h.supported
    exact ⟨support, List.mem_append_left _ hsupport, hrest⟩

end Learned

/-! ## The compiled pool -/

section Compiled

open QueryCompiler

variable {state : CompilerState} {call : AddCandidate} {constraintKeys : List String}

/-- The calls the compiler makes: what they give is an admitted title anchor. -/
def CallOk (call : AddCandidate) : Prop :=
  ∀ given, call.given = some given → call.source ≠ .notes ∧ given.queryability = .admitted ∧
    isTitleAnchorRole given.role = true ∧ RoleFamily given.family

structure Collected (tables : Py.UnicodeTables) (state : CompilerState) : Prop where
  distinct : TermsDistinct tables state.pool
  seen : ∀ item ∈ state.pool, queryTermKey tables item.term ∈ state.seen
  roleFamily : ∀ item ∈ state.pool, item.IsTitleAnchor → RoleFamily item.family
  supportFamily : ∀ item ∈ state.pool, item.IsSupport → SupportFamily item.family
  anchorsActive : ∀ item ∈ state.pool, item.IsTitleAnchor → item.active = true
  counted : (∃ item ∈ state.pool, item.IsSupport) → 0 < state.activeNonAnchorCount
  firstActive : 0 < state.activeNonAnchorCount →
    ∃ item ∈ state.pool, item.active = true ∧ item.IsSupport

theorem collected_empty : Collected tables {} := by
  constructor <;> simp
  exact ⟨by simp, List.nodup_nil⟩

theorem tidy_cleanText (value : String) : Py.Tidy (cleanText value) := by
  have htidy := Py.tidy_join_split value
  rwa [cleanText, htidy.strip_eq]

theorem classifyTerm_spec (tables : Py.UnicodeTables) (term : String) (keys : List String) :
    (classifyTerm tables term keys).queryability = .admitted →
      isTitleAnchorRole (classifyTerm tables term keys).role = false ∧
        SupportFamily (classifyTerm tables term keys).family := by
  unfold classifyTerm
  dsimp only
  split
  · simp
  split
  · simp
  split
  · simp
  · intro _
    exact ⟨rfl, _, .inl rfl⟩

/-- How `add_candidate` classifies a term. -/
def callClass (tables : Py.UnicodeTables) (constraintKeys : List String) (call : AddCandidate) :
    Classification :=
  admitNotes tables call.source (cleanText call.term)
    (call.given.getD (classifyTerm tables (cleanText call.term) constraintKeys))

theorem callClass_spec (tables : Py.UnicodeTables) (constraintKeys : List String)
    (hcall : CallOk call)
    (hadmitted : (callClass tables constraintKeys call).queryability = .admitted) :
    (isTitleAnchorRole (callClass tables constraintKeys call).role = true ∧
      RoleFamily (callClass tables constraintKeys call).family) ∨
    (isTitleAnchorRole (callClass tables constraintKeys call).role = false ∧
      SupportFamily (callClass tables constraintKeys call).family) := by
  unfold callClass admitNotes at hadmitted ⊢
  split at hadmitted
  · cases hadmitted
  · rename_i hkeep
    rw [if_neg hkeep]
    cases hgiven : call.given with
    | none =>
      rw [hgiven] at hadmitted
      exact .inr (classifyTerm_spec _ _ _ hadmitted)
    | some given =>
      obtain ⟨-, -, hrole, hfamily⟩ := hcall given hgiven
      exact .inl ⟨hrole, hfamily⟩

def addedCandidate (tables : Py.UnicodeTables) (constraintKeys : List String)
    (state : CompilerState) (call : AddCandidate) : QueryTermCandidate :=
  let class_ := callClass tables constraintKeys call
  let counts := class_.queryability = .admitted ∧ isTitleAnchorRole class_.role = false
  { term := cleanText call.term
    source := call.source
    category := class_.category
    priority := call.priority
    evidence := call.evidence
    firstAddedRound := 0
    active := class_.queryability = .admitted ∧
      (counts → state.activeNonAnchorCount + (if counts then 1 else 0) ≤ activeNonAnchorWindow)
    retrievalRole := class_.role
    queryability := class_.queryability
    family := class_.family }

theorem addCandidate_cases (tables : Py.UnicodeTables) (constraintKeys : List String)
    (state : CompilerState) (call : AddCandidate) :
    addCandidate tables constraintKeys state call = state ∨
    (cleanText call.term ≠ "" ∧ Py.casefold tables (cleanText call.term) ∉ state.seen ∧
      addCandidate tables constraintKeys state call =
        { pool := state.pool ++ [addedCandidate tables constraintKeys state call]
          seen := Py.casefold tables (cleanText call.term) :: state.seen
          activeNonAnchorCount := state.activeNonAnchorCount +
            if (addedCandidate tables constraintKeys state call).queryability = .admitted ∧
                isTitleAnchorRole (addedCandidate tables constraintKeys state call).retrievalRole =
                  false then 1
            else 0 }) := by
  by_cases hskip : cleanText call.term = "" ∨
      Py.casefold tables (cleanText call.term) ∈ state.seen
  · left
    simp only [addCandidate, if_pos hskip]
  · right
    refine ⟨fun h => hskip (.inl h), fun h => hskip (.inr h), ?_⟩
    unfold addCandidate
    dsimp only
    rw [if_neg hskip]
    rfl

theorem Collected.addCandidate (h : Collected tables state) (hcall : CallOk call) :
    Collected tables (addCandidate tables constraintKeys state call) := by
  rcases addCandidate_cases tables constraintKeys state call with heq | ⟨hne, hnew, heq⟩
  · rw [heq]
    exact h
  rw [heq]
  have hclass := callClass_spec tables constraintKeys hcall
  have hkey : queryTermKey tables (cleanText call.term) =
      Py.casefold tables (cleanText call.term) := queryTermKey_eq (tidy_cleanText call.term)
  generalize hadded : addedCandidate tables constraintKeys state call = added
  have hterm : added.term = cleanText call.term := hadded ▸ rfl
  have hfamily : added.family = (callClass tables constraintKeys call).family := hadded ▸ rfl
  have hadmitted : added.queryability = (callClass tables constraintKeys call).queryability :=
    hadded ▸ rfl
  have hrole : added.retrievalRole = (callClass tables constraintKeys call).role := hadded ▸ rfl
  have hactive : added.active = true ↔ added.queryability = .admitted ∧
      (added.IsSupport → state.activeNonAnchorCount + 1 ≤ activeNonAnchorWindow) := by
    rw [isSupport_iff, ← hadded]
    simp only [addedCandidate, decide_eq_true_eq]
    apply and_congr_right
    intro _
    apply forall_congr'
    intro hcounts
    rw [if_pos hcounts]
  rw [← hadmitted, ← hrole, ← hfamily] at hclass
  have hmem : ∀ {item}, item ∈ state.pool ++ [added] → item ∈ state.pool ∨ item = added := by
    intro item hitem
    simpa using hitem
  refine ⟨⟨?_, ?_⟩, ?_, ?_, ?_, ?_, ?_, ?_⟩
  · intro item hitem
    rcases hmem hitem with hitem | rfl
    · exact h.distinct.tidy item hitem
    · rw [hterm]
      exact ⟨tidy_cleanText _, hne⟩
  · rw [List.map_append, List.map_singleton]
    refine h.distinct.nodup.append (List.nodup_singleton _) ?_
    intro key hold hlast
    obtain ⟨item, hitem, rfl⟩ := List.mem_map.mp hold
    rw [List.mem_singleton, hterm, hkey] at hlast
    exact hnew (hlast ▸ h.seen item hitem)
  · intro item hitem
    rcases hmem hitem with hitem | rfl
    · exact List.mem_cons_of_mem _ (h.seen item hitem)
    · rw [hterm, hkey]
      exact List.mem_cons_self ..
  · intro item hitem htitle
    rcases hmem hitem with hitem | rfl
    · exact h.roleFamily item hitem htitle
    · rw [isTitleAnchor_iff] at htitle
      rcases hclass htitle.1 with hrole | hsupport
      · exact hrole.2
      · simp [htitle.2] at hsupport
  · intro item hitem hsupport
    rcases hmem hitem with hitem | rfl
    · exact h.supportFamily item hitem hsupport
    · rw [isSupport_iff] at hsupport
      rcases hclass hsupport.1 with hrole | hfamily
      · simp [hsupport.2] at hrole
      · exact hfamily.2
  · intro item hitem htitle
    rcases hmem hitem with hitem | rfl
    · exact h.anchorsActive item hitem htitle
    · have hno : ¬item.IsSupport := fun hsupport => hsupport.2 htitle
      exact hactive.mpr ⟨htitle.1, fun hsupport => absurd hsupport hno⟩
  · intro hany
    show 0 < state.activeNonAnchorCount + _
    obtain ⟨item, hitem, hsupport⟩ := hany
    rcases hmem hitem with hitem | rfl
    · have hold := h.counted ⟨item, hitem, hsupport⟩
      omega
    · rw [if_pos (isSupport_iff.mp hsupport)]
      omega
  · intro hpos
    by_cases hold : 0 < state.activeNonAnchorCount
    · obtain ⟨item, hitem, hrest⟩ := h.firstActive hold
      exact ⟨item, List.mem_append_left _ hitem, hrest⟩
    · -- the first support is within the window
      have hzero : state.activeNonAnchorCount = 0 := by omega
      have hsupport : added.IsSupport := by
        by_contra hno
        rw [isSupport_iff] at hno
        simp [hzero, hno] at hpos
      refine ⟨added, by simp, hactive.mpr ⟨hsupport.1, fun _ => ?_⟩, hsupport⟩
      simp [hzero, activeNonAnchorWindow]

theorem Collected.addAll {calls : List AddCandidate} (h : Collected tables state)
    (hcalls : ∀ call ∈ calls, CallOk call) :
    Collected tables (QueryCompiler.addAll tables constraintKeys state calls) := by
  unfold QueryCompiler.addAll
  induction calls generalizing state with
  | nil => exact h
  | cons call calls ih =>
    obtain ⟨hcall, hcalls⟩ := List.forall_mem_cons.mp hcalls
    rw [List.foldl_cons]
    exact ih (h.addCandidate hcall) hcalls

theorem callOk_of_mem_calls {input : Input} (h : call ∈ calls tables input) : CallOk call := by
  unfold calls at h
  rcases List.mem_append.mp h with h | h
  · obtain ⟨index, hindex, rfl⟩ := List.mem_mapIdx.mp h
    intro given hgiven
    obtain rfl := Option.some.inj hgiven
    refine ⟨by simp [anchorCall], rfl, ?_, _, rfl⟩
    dsimp only
    split <;> rfl
  · obtain ⟨index, hindex, rfl⟩ := List.mem_mapIdx.mp h
    intro given hgiven
    cases hgiven

/-- **A compiled pool** is as all pools of a run. -/
theorem termPoolOk_compile {input : Input} (h : compileQueryTermPool tables input = .ok pool) :
    TermPoolOk tables pool := by
  have hcollected : Collected tables (QueryCompiler.addAll tables
      (QueryCompiler.constraintKeys tables input.hardConstraints input.preferences) {}
      (calls tables input)) :=
    collected_empty.addAll fun call hcall => callOk_of_mem_calls hcall
  unfold compileQueryTermPool at h
  dsimp only at h
  split at h
  · cases h
  rename_i hanchored
  split at h
  · cases h
  rename_i hsupported
  obtain rfl := Except.ok.inj h
  refine ⟨hcollected.distinct, hcollected.roleFamily, hcollected.supportFamily, ?_, ?_⟩
  · obtain ⟨anchor, hanchor, hadmitted, hrole⟩ := not_not.mp hanchored
    have hprimary : anchor.IsPrimaryAnchor := ⟨hadmitted, by simp [hrole, isPrimaryAnchorRole]⟩
    exact ⟨anchor, hanchor, hcollected.anchorsActive anchor hanchor hprimary.isTitleAnchor,
      hprimary⟩
  · obtain ⟨support, hsupport, hspec⟩ := not_not.mp hsupported
    exact hcollected.firstActive
      (hcollected.counted ⟨support, hsupport, isSupport_iff.mpr hspec⟩)

end Compiled

/-- **Every pool of a run** is as it should be. -/
theorem ReachablePool.termPoolOk (h : ReachablePool tables pool) : TermPoolOk tables pool := by
  induction h with
  | compiled h => exact termPoolOk_compile h
  | activated term h ih => exact ih.activate term
  | learned h haccepted ih => exact ih.learn (learnedTerm_of_accepted ih.distinct haccepted)

end SeekTalent

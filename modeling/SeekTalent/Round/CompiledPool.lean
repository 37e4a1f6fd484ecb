import SeekTalent.Round.TermPool

/-!
# What the query compiler makes

The calls of `add_candidate` come in the order of their priorities, and a candidate has the
priority of its call; so what is said of the first call is said of the candidate of priority 1,
wherever it stands, and it can only stand first (`compiled`). The counter of the closure is the
number of admitted terms that are no title anchors (`Compiling.count`), which is why the window
over them is a prefix.
-/

namespace SeekTalent

open QueryCompiler

variable {tables : Py.UnicodeTables} {pool : List QueryTermCandidate} {item : QueryTermCandidate}
variable {keys values : List String} {state : CompilerState} {call : AddCandidate} {next : Int}

def supports (pool : List QueryTermCandidate) : List QueryTermCandidate :=
  pool.filter (·.IsSupport)

def activeNonAnchorTerms (pool : List QueryTermCandidate) : List QueryTermCandidate :=
  pool.filter fun item => item.active ∧ isTitleAnchorRole item.retrievalRole = false

/-- What a compiled pool looks like; `values` are those of the constraints and preferences. -/
structure CompiledPool (tables : Py.UnicodeTables) (values : List String)
    (pool : List QueryTermCandidate) : Prop where
  distinct : (pool.map fun item => Py.casefold tables item.term).Nodup
  anchor : ∃ anchor rest, pool = anchor :: rest ∧ anchor.retrievalRole = .primaryRoleAnchor ∧
    anchor.active = true ∧ anchor.queryability = .admitted ∧
    ∀ item ∈ rest, isPrimaryAnchorRole item.retrievalRole = false
  secondary : (pool.filter (·.retrievalRole = .secondaryTitleAnchor)).length ≤ 1
  window : activeNonAnchorTerms pool = (supports pool).take activeNonAnchorWindow
  priorities : (pool.map (·.priority)).Pairwise (· < ·)
  constraints : ∀ item ∈ supports pool, ∀ value ∈ values,
    Py.casefold tables item.term ≠ Py.casefold tables value ∧
      compactKey tables item.term ≠ compactKey tables value

/-! ## The calls -/

structure CallPlaced (call : AddCandidate) : Prop where
  one_le : 1 ≤ call.priority
  given : ∀ given, call.given = some given → call.source ≠ .notes ∧
    (call.priority = 1 ∧ given.role = .primaryRoleAnchor ∨
      call.priority = 2 ∧ given.role = .secondaryTitleAnchor)

theorem length_compileTitleAnchors (jobTitle : String) (titleAnchorTerms : List String)
    (titleAnchorTerm : Option String) :
    (compileTitleAnchors tables jobTitle titleAnchorTerms titleAnchorTerm).length ≤ 2 :=
  List.length_take_le _ _

theorem callPlaced_of_mem_calls {input : Input} (h : call ∈ calls tables input) :
    CallPlaced call := by
  unfold calls at h
  rcases List.mem_append.mp h with h | h
  · obtain ⟨index, hindex, rfl⟩ := List.mem_mapIdx.mp h
    have htwo : (compileTitleAnchors tables input.jobTitle input.titleAnchorTerms
      input.titleAnchorTerm).length ≤ 2 := length_compileTitleAnchors _ _ _
    have hone : (1 : Int) ≤ (index : Int) + 1 := by omega
    refine ⟨hone, fun given hgiven => ?_⟩
    obtain rfl := Option.some.inj hgiven
    refine ⟨by simp [anchorCall], ?_⟩
    cases index with
    | zero => exact .inl ⟨rfl, rfl⟩
    | succ index =>
      obtain rfl : index = 0 := by omega
      exact .inr ⟨rfl, rfl⟩
  · obtain ⟨index, hindex, rfl⟩ := List.mem_mapIdx.mp h
    refine ⟨by simp [termCall]; omega, fun given hgiven => ?_⟩
    cases hgiven

theorem priorities_calls (input : Input) :
    (calls tables input).Pairwise fun call call' => call.priority < call'.priority := by
  have hmapIdx : ∀ {α : Type} (make : α → Nat → AddCandidate) (offset : Nat),
      (∀ a index, (make a index).priority = ((offset + index : Nat) : Int) + 1) → ∀ xs : List α,
      (xs.mapIdx fun index a => make a index).Pairwise fun call call' =>
        call.priority < call'.priority := by
    intro α make offset hmake xs
    rw [List.pairwise_iff_getElem]
    intro i j hi hj hij
    rw [List.getElem_mapIdx, List.getElem_mapIdx, hmake, hmake]
    omega
  unfold calls
  dsimp only
  rw [List.pairwise_append]
  refine ⟨hmapIdx (anchorCall tables) 0 (fun _ _ => by simp [anchorCall]) _,
    hmapIdx (fun term index => termCall term (_ + index)) _ (fun _ _ => rfl) _, ?_⟩
  intro call hcall call' hcall'
  obtain ⟨index, hindex, rfl⟩ := List.mem_mapIdx.mp hcall
  obtain ⟨index', hindex', rfl⟩ := List.mem_mapIdx.mp hcall'
  simp only [anchorCall, termCall]
  omega

/-! ## The candidates -/

theorem classifyTerm_role (term : String) :
    isTitleAnchorRole (classifyTerm tables term keys).role = false := by
  unfold classifyTerm
  dsimp only
  split
  · rfl
  split
  · rfl
  split <;> rfl

theorem classifyTerm_constraint {term : String}
    (h : (classifyTerm tables term keys).queryability = .admitted) :
    Py.casefold tables term ∉ keys ∧ compactKey tables term ∉ keys := by
  unfold classifyTerm at h
  dsimp only at h
  split at h
  · cases h
  · next hfree =>
    simp only [not_or] at hfree
    exact ⟨hfree.1, hfree.2.1⟩

theorem callClass_role (tables : Py.UnicodeTables) (keys : List String) (hgiven : call.given = none) :
    isTitleAnchorRole (callClass tables keys call).role = false := by
  unfold callClass admitNotes
  rw [hgiven]
  split
  · rfl
  · exact classifyTerm_role _

theorem callClass_given {given : Classification} (hgiven : call.given = some given)
    (hsource : call.source ≠ .notes) : callClass tables keys call = given := by
  unfold callClass admitNotes
  rw [hgiven, if_neg fun h => hsource h.1]
  rfl

structure Placed (item : QueryTermCandidate) : Prop where
  one_le : 1 ≤ item.priority
  primary : isPrimaryAnchorRole item.retrievalRole = true →
    item.priority = 1 ∧ item.retrievalRole = .primaryRoleAnchor
  secondary : item.retrievalRole = .secondaryTitleAnchor → item.priority = 2

theorem placed_addedCandidate (tables : Py.UnicodeTables) (keys : List String)
    (state : CompilerState) (hcall : CallPlaced call) :
    Placed (addedCandidate tables keys state call) := by
  have hrole : (addedCandidate tables keys state call).retrievalRole =
      (callClass tables keys call).role := rfl
  have hpriority : (addedCandidate tables keys state call).priority = call.priority := rfl
  constructor
  · rw [hpriority]
    exact hcall.one_le
  all_goals
    rw [hrole, hpriority]
    cases hgiven : call.given with
    | none =>
      have hother := callClass_role tables keys hgiven
      generalize (callClass tables keys call).role = role at hother
      intro hanchor
      revert hother hanchor
      cases role <;> simp [isPrimaryAnchorRole, isTitleAnchorRole]
    | some given =>
      obtain ⟨hsource, hplaced⟩ := hcall.given given hgiven
      rw [callClass_given hgiven hsource]
      rcases hplaced with ⟨hone, hprimary⟩ | ⟨htwo, hsecondary⟩
      · simp [hone, hprimary]
      · simp [htwo, hsecondary, isPrimaryAnchorRole]

theorem constraint_addedCandidate (tables : Py.UnicodeTables) (keys : List String)
    (state : CompilerState) (hcall : CallPlaced call)
    (hsupport : (addedCandidate tables keys state call).IsSupport) :
    Py.casefold tables (addedCandidate tables keys state call).term ∉ keys ∧
      compactKey tables (addedCandidate tables keys state call).term ∉ keys := by
  obtain ⟨hadmitted, hrole⟩ := isSupport_iff.mp hsupport
  have hadmitted : (callClass tables keys call).queryability = .admitted := hadmitted
  have hrole : isTitleAnchorRole (callClass tables keys call).role = false := hrole
  cases hgiven : call.given with
  | none =>
    unfold callClass admitNotes at hadmitted
    rw [hgiven] at hadmitted
    split at hadmitted
    · cases hadmitted
    · exact classifyTerm_constraint hadmitted
  | some given =>
    obtain ⟨hsource, hplaced⟩ := hcall.given given hgiven
    rw [callClass_given hgiven hsource] at hrole
    rcases hplaced with ⟨-, hprimary⟩ | ⟨-, hsecondary⟩
    · rw [hprimary] at hrole
      cases hrole
    · rw [hsecondary] at hrole
      cases hrole

theorem active_addedCandidate (tables : Py.UnicodeTables) (keys : List String)
    (state : CompilerState) (call : AddCandidate) :
    ((addedCandidate tables keys state call).active = true ∧
      isTitleAnchorRole (addedCandidate tables keys state call).retrievalRole = false) ↔
    (addedCandidate tables keys state call).IsSupport ∧
      state.activeNonAnchorCount + 1 ≤ activeNonAnchorWindow := by
  rw [isSupport_iff]
  simp only [addedCandidate, decide_eq_true_eq]
  constructor
  · rintro ⟨⟨hadmitted, hwindow⟩, hrole⟩
    have hin := hwindow ⟨hadmitted, hrole⟩
    rw [if_pos ⟨hadmitted, hrole⟩] at hin
    exact ⟨⟨hadmitted, hrole⟩, hin⟩
  · rintro ⟨⟨hadmitted, hrole⟩, hin⟩
    refine ⟨⟨hadmitted, fun hcounts => ?_⟩, hrole⟩
    rw [if_pos hcounts]
    exact hin

theorem supports_snoc (pool : List QueryTermCandidate) (added : QueryTermCandidate) :
    supports (pool ++ [added]) = supports pool ++ if added.IsSupport then [added] else [] := by
  by_cases hsupport : added.IsSupport <;> simp [supports, hsupport]

theorem activeNonAnchorTerms_snoc (pool : List QueryTermCandidate) (added : QueryTermCandidate) :
    activeNonAnchorTerms (pool ++ [added]) = activeNonAnchorTerms pool ++
      if added.active = true ∧ isTitleAnchorRole added.retrievalRole = false then [added]
      else [] := by
  by_cases hactive : added.active = true ∧ isTitleAnchorRole added.retrievalRole = false <;>
    simp [activeNonAnchorTerms, hactive]

theorem window_snoc {added : QueryTermCandidate} {window : Nat}
    (h : activeNonAnchorTerms pool = (supports pool).take window)
    (hactive : (added.active = true ∧ isTitleAnchorRole added.retrievalRole = false) ↔
      added.IsSupport ∧ (supports pool).length + 1 ≤ window) :
    activeNonAnchorTerms (pool ++ [added]) = (supports (pool ++ [added])).take window := by
  rw [activeNonAnchorTerms_snoc, supports_snoc, h]
  by_cases hsupport : added.IsSupport
  · rw [if_pos hsupport]
    by_cases hin : (supports pool).length + 1 ≤ window
    · rw [if_pos (hactive.mpr ⟨hsupport, hin⟩), List.take_of_length_le (by omega),
        List.take_of_length_le]
      rw [List.length_append, List.length_singleton]
      exact hin
    · rw [if_neg (fun hyes => hin (hactive.mp hyes).2), List.append_nil,
        List.take_append_of_le_length (by omega)]
  · rw [if_neg hsupport, if_neg (fun hyes => hsupport (hactive.mp hyes).1), List.append_nil,
      List.append_nil]

/-! ## The run of the compiler -/

/-- What is true of the closure's state before a call of priority `next`. -/
structure Compiling (tables : Py.UnicodeTables) (keys : List String) (next : Int)
    (state : CompilerState) : Prop where
  count : state.activeNonAnchorCount = (supports state.pool).length
  window : activeNonAnchorTerms state.pool = (supports state.pool).take activeNonAnchorWindow
  priorities : (state.pool.map (·.priority)).Pairwise (· < ·)
  below : ∀ item ∈ state.pool, item.priority < next
  constraints : ∀ item ∈ supports state.pool,
    Py.casefold tables item.term ∉ keys ∧ compactKey tables item.term ∉ keys
  placed : ∀ item ∈ state.pool, Placed item

theorem compiling_empty : Compiling tables keys next {} := by
  constructor <;> simp [supports, activeNonAnchorTerms]

theorem Compiling.mono {next' : Int} (h : Compiling tables keys next state) (hle : next ≤ next') :
    Compiling tables keys next' state :=
  { h with below := fun item hitem => lt_of_lt_of_le (h.below item hitem) hle }

theorem Compiling.addCandidate (h : Compiling tables keys call.priority state)
    (hcall : CallPlaced call) :
    Compiling tables keys (call.priority + 1) (QueryCompiler.addCandidate tables keys state call) := by
  rcases addCandidate_cases tables keys state call with heq | ⟨-, -, heq⟩
  · rw [heq]
    exact h.mono (by omega)
  rw [heq]
  have hplaced := placed_addedCandidate tables keys state hcall
  have hconstraint := constraint_addedCandidate tables keys state hcall
  have hactive := active_addedCandidate tables keys state call
  have hpriority : (addedCandidate tables keys state call).priority = call.priority := rfl
  have hmem : ∀ {item}, item ∈ state.pool ++ [addedCandidate tables keys state call] →
      item ∈ state.pool ∨ item = addedCandidate tables keys state call := by
    intro item hitem
    simpa using hitem
  generalize addedCandidate tables keys state call = added at *
  have hpriorities : ((state.pool ++ [added]).map (·.priority)).Pairwise (· < ·) := by
    rw [List.map_append, List.pairwise_append]
    refine ⟨h.priorities, List.pairwise_singleton _ _, ?_⟩
    intro old hold new hnew
    obtain ⟨item, hitem, rfl⟩ := List.mem_map.mp hold
    obtain rfl := List.mem_singleton.mp hnew
    exact (h.below item hitem).trans_eq hpriority.symm
  have hbelow : ∀ item ∈ state.pool ++ [added], item.priority < call.priority + 1 := by
    intro item hitem
    rcases hmem hitem with hitem | rfl
    · exact lt_trans (h.below item hitem) (by omega)
    · omega
  have hplaced' : ∀ item ∈ state.pool ++ [added], Placed item := by
    intro item hitem
    rcases hmem hitem with hitem | rfl
    · exact h.placed item hitem
    · exact hplaced
  rw [h.count] at hactive
  refine ⟨?_, window_snoc h.window hactive, hpriorities, hbelow, ?_, hplaced'⟩
  · show state.activeNonAnchorCount + _ = (supports (state.pool ++ [added])).length
    rw [supports_snoc, List.length_append, h.count]
    by_cases hsupport : added.IsSupport
    · rw [if_pos (isSupport_iff.mp hsupport), if_pos hsupport]
      rfl
    · rw [if_neg (fun hcounts => hsupport (isSupport_iff.mpr hcounts)), if_neg hsupport]
      rfl
  · intro item hitem
    obtain ⟨hitem, hsupport⟩ := List.mem_filter.mp hitem
    rcases hmem hitem with hitem | rfl
    · exact h.constraints item (List.mem_filter.mpr ⟨hitem, hsupport⟩)
    · exact hconstraint (of_decide_eq_true hsupport)

/-- **A run of the compiler**, over calls of rising priority. -/
theorem Compiling.addAll {calls : List AddCandidate} (h : Compiling tables keys next state)
    (hcalls : ∀ call ∈ calls, CallPlaced call) (hnext : ∀ call ∈ calls, next ≤ call.priority)
    (hrising : calls.Pairwise fun call call' => call.priority < call'.priority) :
    ∃ next', Compiling tables keys next' (QueryCompiler.addAll tables keys state calls) := by
  unfold QueryCompiler.addAll
  induction calls generalizing state next with
  | nil => exact ⟨next, h⟩
  | cons call calls ih =>
    rw [List.forall_mem_cons] at hcalls
    rw [List.pairwise_cons] at hrising
    have hnext : next ≤ call.priority := hnext call List.mem_cons_self
    have hlater : ∀ call' ∈ calls, call.priority + 1 ≤ call'.priority := by
      intro call' hcall'
      have hlt := hrising.1 call' hcall'
      omega
    have hcall : Compiling tables keys call.priority state := h.mono hnext
    have hagain := hcall.addCandidate hcalls.1
    rw [List.foldl_cons]
    exact ih hagain hcalls.2 hlater hrising.2

theorem exists_compiling (tables : Py.UnicodeTables) (input : Input) (keys : List String) :
    ∃ next, Compiling tables keys next (addAll tables keys {} (calls tables input)) := by
  have hplaced : ∀ call ∈ calls tables input, CallPlaced call := fun _ => callPlaced_of_mem_calls
  have hempty : Compiling tables keys 1 {} := compiling_empty
  exact hempty.addAll hplaced (fun call hcall => (hplaced call hcall).one_le)
    (priorities_calls input)

/-! ## The pool -/

/-- The values that are compared: without extra white space, and not blank. -/
def comparedValues (input : Input) : List String :=
  ((constraintValues input.hardConstraints input.preferences).map cleanText).filter (· ≠ "")

theorem mem_constraintKeys {input : Input} {value : String} (h : value ∈ comparedValues input) :
    Py.casefold tables value ∈
        QueryCompiler.constraintKeys tables input.hardConstraints input.preferences ∧
      compactKey tables value ∈
        QueryCompiler.constraintKeys tables input.hardConstraints input.preferences := by
  unfold QueryCompiler.constraintKeys
  constructor
  · exact List.mem_flatMap.mpr ⟨value, h, List.mem_cons_self⟩
  · exact List.mem_flatMap.mpr ⟨value, h, List.mem_cons_of_mem _ List.mem_cons_self⟩

theorem first_of_placed (hplaced : ∀ item ∈ pool, Placed item)
    (hrising : (pool.map (·.priority)).Pairwise (· < ·)) (hitem : item ∈ pool)
    (hprimary : isPrimaryAnchorRole item.retrievalRole = true) :
    ∃ rest, pool = item :: rest ∧ ∀ other ∈ rest, isPrimaryAnchorRole other.retrievalRole = false := by
  obtain ⟨before, rest, rfl⟩ := List.append_of_mem hitem
  have hone := ((hplaced item hitem).primary hprimary).1
  rw [List.pairwise_map, List.pairwise_append, List.pairwise_cons] at hrising
  obtain ⟨-, ⟨hafter, -⟩, hbefore⟩ := hrising
  have hnil : before = [] := by
    apply List.eq_nil_iff_forall_not_mem.mpr
    intro other hother
    have hlt := hbefore other hother item List.mem_cons_self
    have hle := (hplaced other (List.mem_append_left _ hother)).one_le
    omega
  subst hnil
  refine ⟨rest, rfl, fun other hother => ?_⟩
  rw [Bool.eq_false_iff]
  intro hsecond
  have hlt := hafter other hother
  have heq := ((hplaced other (by simp [hother])).primary hsecond).1
  omega

theorem secondary_of_placed (hplaced : ∀ item ∈ pool, Placed item)
    (hrising : (pool.map (·.priority)).Pairwise (· < ·)) :
    (pool.filter (·.retrievalRole = .secondaryTitleAnchor)).length ≤ 1 := by
  rw [List.pairwise_map] at hrising
  have hfiltered := hrising.filter fun item =>
    decide (item.retrievalRole = .secondaryTitleAnchor)
  have htwo : ∀ item ∈ pool.filter (·.retrievalRole = .secondaryTitleAnchor), item.priority = 2 := by
    intro item hitem
    obtain ⟨hitem, hrole⟩ := List.mem_filter.mp hitem
    exact (hplaced item hitem).secondary (of_decide_eq_true hrole)
  generalize pool.filter (·.retrievalRole = .secondaryTitleAnchor) = secondaries at *
  cases secondaries with
  | nil => simp
  | cons first rest =>
    cases rest with
    | nil => simp
    | cons second rest =>
      have hlt := (List.pairwise_cons.mp hfiltered).1 second List.mem_cons_self
      have hfirst := htwo first (by simp)
      have hsecond := htwo second (by simp)
      omega

/-- **What the query compiler makes**, whatever it is given: distinct terms of rising priority, the
primary anchor first and at most one secondary one, the first admitted terms active, and none of
them the value of a constraint or preference. -/
theorem compiledPool_compileQueryTermPool {input : Input}
    (h : compileQueryTermPool tables input = .ok pool) :
    CompiledPool tables (comparedValues input) pool := by
  obtain ⟨hdistinct, -, -, hanchored, -⟩ := termPoolOk_compile h
  have hpool : pool = (addAll tables (QueryCompiler.constraintKeys tables input.hardConstraints
      input.preferences) {} (calls tables input)).pool := by
    unfold compileQueryTermPool at h
    dsimp only at h
    split at h
    · cases h
    split at h
    · cases h
    exact (Except.ok.inj h).symm
  obtain ⟨next, hcompiling⟩ := exists_compiling tables input
    (QueryCompiler.constraintKeys tables input.hardConstraints input.preferences)
  obtain ⟨-, hwindow, hrising, -, hfree, hplaced⟩ := hcompiling
  rw [← hpool] at hwindow hrising hfree hplaced
  obtain ⟨anchor, hanchor, hactive, hadmitted, hprimary⟩ := hanchored
  obtain ⟨rest, hrest, hothers⟩ := first_of_placed hplaced hrising hanchor hprimary
  constructor
  · have hkeys : pool.map (fun item => Py.casefold tables item.term) =
        pool.map fun item => queryTermKey tables item.term :=
      List.map_congr_left fun item hitem => (hdistinct.key_eq hitem).symm
    rw [hkeys]
    exact hdistinct.nodup
  · exact ⟨anchor, rest, hrest, ((hplaced anchor hanchor).primary hprimary).2, hactive, hadmitted,
      hothers⟩
  · exact secondary_of_placed hplaced hrising
  · exact hwindow
  · exact hrising
  · intro item hitem value hvalue
    obtain ⟨hkey, hcompact⟩ := @mem_constraintKeys tables _ _ hvalue
    obtain ⟨hfreeKey, hfreeCompact⟩ := hfree item hitem
    exact ⟨fun heq => hfreeKey (heq ▸ hkey), fun heq => hfreeCompact (heq ▸ hcompact)⟩

/-! ### A blank value -/

def blankLocationInput : Input where
  jobTitle := "Python"
  titleAnchorTerms := ["Python"]
  jdQueryTerms := ["&&"]
  notesQueryTerms := []
  hardConstraints := some { locations := [""] }

def blankLocationPool : List QueryTermCandidate :=
  [{ term := "Python"
     source := .jobTitle
     category := .roleAnchor
     priority := 1
     evidence := "Compiled job title anchor."
     firstAddedRound := 0
     retrievalRole := .primaryRoleAnchor
     family := "role.python" },
   { term := "&&"
     source := .jd
     category := .domain
     priority := 2
     evidence := "JD query term."
     firstAddedRound := 0
     family := "domain.unknown" }]

theorem compile_blankLocation :
    compileQueryTermPool .ascii blankLocationInput = .ok blankLocationPool := by
  decide

theorem compiledPool_blankLocation :
    CompiledPool .ascii (comparedValues blankLocationInput) blankLocationPool :=
  compiledPool_compileQueryTermPool compile_blankLocation

/-- A term without letters is the blank location when both are compacted. -/
theorem not_compiledPool_constraintValues :
    ¬∀ (tables : Py.UnicodeTables) (input : Input) (pool : List QueryTermCandidate),
      compileQueryTermPool tables input = .ok pool →
      CompiledPool tables (constraintValues input.hardConstraints input.preferences) pool := by
  intro h
  have hpool := h .ascii blankLocationInput blankLocationPool compile_blankLocation
  have hsupport : blankLocationPool.getLast (by decide) ∈ supports blankLocationPool := by
    decide
  have hcompact := (hpool.constraints _ hsupport "" (by decide)).2
  revert hcompact
  decide

end SeekTalent

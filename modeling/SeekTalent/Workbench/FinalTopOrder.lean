import Mathlib.Data.Multiset.Defs
import SeekTalent.Workbench.FinalTopGroups

/-!
# The order of the review items

The review items come in the order of their scores, which changes. The groups and what is shown of
them do not depend on it (`finalTop_perm`). The id of a group is the first key of one of its items,
and of which one depends on the order: only where these keys are made the same public id is the
shown id the same.
-/

namespace SeekTalent

namespace FinalTop

open Components

variable {groups groups' : List (String × List WorkbenchCandidateReviewItem)}
variable {group group' : String × List WorkbenchCandidateReviewItem}
variable {items items' members members' : List WorkbenchCandidateReviewItem}
variable {item : WorkbenchCandidateReviewItem} {groupId old : String} {state : Grouping}
variable {keysOf : WorkbenchCandidateReviewItem → List String}

/-! ## 1. The ids of the groups -/

def firstKey (keysOf : WorkbenchCandidateReviewItem → List String)
    (item : WorkbenchCandidateReviewItem) : String := (keysOf item).headD ""

def Headed (keysOf : WorkbenchCandidateReviewItem → List String)
    (groups : List (String × List WorkbenchCandidateReviewItem)) : Prop :=
  ∀ group ∈ groups, ∃ item ∈ group.2, group.1 = firstKey keysOf item

theorem extend_of_mem (h : groupId ∈ groupIds groups) : extend groups groupId members =
    groups.map fun group => if group.1 = groupId then (group.1, group.2 ++ members) else group :=
  if_pos h

theorem extend_of_not_mem (h : groupId ∉ groupIds groups) :
    extend groups groupId members = groups ++ [(groupId, members)] := if_neg h

theorem headed_extend (h : Headed keysOf groups) (hid : groupId ∈ groupIds groups) :
    Headed keysOf (extend groups groupId members) := by
  intro group hgroup
  rw [extend_of_mem hid] at hgroup
  obtain ⟨before, hbefore, rfl⟩ := List.mem_map.mp hgroup
  obtain ⟨item, hitem, hfirst⟩ := h before hbefore
  split
  · exact ⟨item, List.mem_append_left _ hitem, hfirst⟩
  · exact ⟨item, hitem, hfirst⟩

theorem mem_groupIds_extend (hid : groupId ∈ groupIds groups) :
    groupId ∈ groupIds (extend groups groupId members) := by
  obtain ⟨group, hgroup, rfl⟩ := List.mem_map.mp hid
  rw [extend_of_mem hid]
  apply List.mem_map.mpr
  refine ⟨_, List.mem_map_of_mem hgroup, ?_⟩
  rw [if_pos rfl]

theorem headed_absorb (h : Headed keysOf state.groups) (hid : groupId ∈ groupIds state.groups)
    (hne : old ≠ groupId) :
    Headed keysOf (absorb groupId state old).groups ∧
      groupId ∈ groupIds (absorb groupId state old).groups := by
  have hextended : Headed keysOf (extend state.groups groupId []) := headed_extend h hid
  have hleft : Headed keysOf (without (extend state.groups groupId []) old) := by
    intro group hgroup
    exact hextended group (mem_without.mp hgroup).1
  have hmem : groupId ∈ groupIds (without (extend state.groups groupId []) old) := by
    have hextendedId := @mem_groupIds_extend _ [] _ hid
    obtain ⟨group, hgroup, hgroupId⟩ := List.mem_map.mp hextendedId
    apply List.mem_map.mpr
    refine ⟨group, mem_without.mpr ⟨hgroup, ?_⟩, hgroupId⟩
    rw [hgroupId]
    exact Ne.symm hne
  exact ⟨headed_extend hleft hmem, mem_groupIds_extend hmem⟩

theorem headed_absorbAll {olds : List String} (h : Headed keysOf state.groups)
    (hid : groupId ∈ groupIds state.groups) (hne : ∀ old ∈ olds, old ≠ groupId) :
    Headed keysOf (olds.foldl (absorb groupId) state).groups ∧
      groupId ∈ groupIds (olds.foldl (absorb groupId) state).groups := by
  induction olds generalizing state with
  | nil => exact ⟨h, hid⟩
  | cons old olds ih =>
    obtain ⟨hold, hrest⟩ := List.forall_mem_cons.mp hne
    obtain ⟨hheaded, hmem⟩ := headed_absorb h hid hold
    exact ih hheaded hmem hrest

/-- **One item.** A new group is named by the first key of the item. -/
theorem headed_addItem (hne : ∀ item, keysOf item ≠ []) (hkept : Kept keysOf state)
    (h : Headed keysOf state.groups) : Headed keysOf (addItem keysOf state item).groups := by
  have hspec := groupIdOf_spec hne hkept item
  unfold addItem
  dsimp only
  rcases hspec with ⟨hin, -⟩ | ⟨-, hnew, hnone⟩
  · have holds : ∀ old ∈ (Py.sortedSet ((keysOf item).filterMap state.keyToGroup)).filter
        (· ≠ groupIdOf keysOf state item), old ≠ groupIdOf keysOf state item := by
      intro old hold
      exact of_decide_eq_true (List.mem_filter.mp hold).2
    obtain ⟨hheaded, hmem⟩ := headed_absorbAll h hin holds
    exact headed_extend hheaded hmem
  · have hempty : (keysOf item).filterMap state.keyToGroup = [] :=
      List.filterMap_eq_nil_iff.mpr hnone
    have hid : groupIdOf keysOf state item = firstKey keysOf item := by
      unfold groupIdOf firstKey
      rw [hempty]
      rfl
    have holds : (Py.sortedSet ((keysOf item).filterMap state.keyToGroup)).filter
        (· ≠ groupIdOf keysOf state item) = [] := by
      rw [hempty]
      rfl
    rw [holds, List.foldl_nil]
    intro group hgroup
    rw [extend_of_not_mem hnew] at hgroup
    rcases List.mem_append.mp hgroup with hgroup | hgroup
    · exact h group hgroup
    · rw [List.mem_singleton.mp hgroup]
      exact ⟨item, List.mem_singleton_self item, hid⟩

theorem headed_groupItems (hne : ∀ item, keysOf item ≠ [])
    (items : List WorkbenchCandidateReviewItem) :
    Headed keysOf (groupItems keysOf items).groups := by
  induction items using List.reverseRecOn with
  | nil =>
    intro group hgroup
    cases hgroup
  | append_singleton items item ih =>
    have hstep : groupItems keysOf (items ++ [item]) =
        addItem keysOf (groupItems keysOf items) item := List.foldl_append
    rw [hstep]
    exact headed_addItem hne (sound_groupItems hne items).toKept ih

/-! ## 2. The groups of a permutation -/

def membersOf (group : String × List WorkbenchCandidateReviewItem) :
    Multiset WorkbenchCandidateReviewItem := group.2

section Partition

variable (hne : ∀ item, keysOf item ≠ []) (hnodup : items.Nodup)
include hne hnodup

theorem nodup_of_group (hgroup : group ∈ (groupItems keysOf items).groups) : group.2.Nodup := by
  have hall : (allItems (groupItems keysOf items).groups).Nodup :=
    (sound_groupItems hne items).items.nodup_iff.mpr hnodup
  exact (List.nodup_flatMap.mp hall).1 group hgroup

theorem exists_same_members (hperm : items.Perm items')
    (hgroup : group ∈ (groupItems keysOf items).groups) :
    ∃ group' ∈ (groupItems keysOf items').groups, membersOf group' = membersOf group := by
  have hsound := sound_groupItems hne items
  obtain ⟨u, hu⟩ := List.exists_mem_of_ne_nil _ (hsound.nonempty group hgroup)
  have hitems : ∀ {v}, v ∈ group.2 → v ∈ items :=
    fun hv => hsound.items.mem_iff.mp (List.mem_flatMap.mpr ⟨group, hgroup, hv⟩)
  have hu' : u ∈ items' := hperm.mem_iff.mp (hitems hu)
  obtain ⟨group', ⟨hgroup', huGroup'⟩, hunique'⟩ := existsUnique_group hne items' hu'
  obtain ⟨first, -, hunique⟩ := existsUnique_group hne items (hitems hu)
  have hsame : {item | item ∈ items} = {item | item ∈ items'} :=
    Set.ext fun v => hperm.mem_iff
  refine ⟨group', hgroup', ?_⟩
  have hnodup' : group'.2.Nodup := nodup_of_group hne (hperm.nodup_iff.mp hnodup) hgroup'
  apply Multiset.coe_eq_coe.mpr
  apply (List.perm_ext_iff_of_nodup hnodup' (nodup_of_group hne hnodup hgroup)).mpr
  intro v
  constructor
  · intro hv
    have hv' : v ∈ items' := (sound_groupItems hne items').items.mem_iff.mp
      (List.mem_flatMap.mpr ⟨group', hgroup', hv⟩)
    have hconnected := (inOneGroup_iff hne items' hu' hv').mp ⟨group', hgroup', huGroup', hv⟩
    rw [← hsame] at hconnected
    obtain ⟨other, hother, huOther, hvOther⟩ :=
      (inOneGroup_iff hne items (hitems hu) (hperm.mem_iff.mpr hv')).mpr hconnected
    rw [hunique group ⟨hgroup, hu⟩, ← hunique other ⟨hother, huOther⟩]
    exact hvOther
  · intro hv
    have hv' : v ∈ items' := hperm.mem_iff.mp (hitems hv)
    have hconnected := (inOneGroup_iff hne items (hitems hu) (hitems hv)).mp ⟨group, hgroup, hu, hv⟩
    rw [hsame] at hconnected
    obtain ⟨other, hother, huOther, hvOther⟩ := (inOneGroup_iff hne items' hu' hv').mpr hconnected
    rw [← hunique' other ⟨hother, huOther⟩]
    exact hvOther

omit hnodup in
theorem nodup_membersOf : ((groupItems keysOf items).groups.map membersOf).Nodup := by
  have hsound := sound_groupItems hne items
  apply List.Nodup.map_on _ hsound.nodup.of_map
  intro group hgroup other hother hmembers
  obtain ⟨u, hu⟩ := List.exists_mem_of_ne_nil _ (hsound.nonempty group hgroup)
  have huOther : u ∈ other.2 := (Multiset.coe_eq_coe.mp hmembers).mem_iff.mp hu
  have huItems : u ∈ items := hsound.items.mem_iff.mp (List.mem_flatMap.mpr ⟨group, hgroup, hu⟩)
  exact (existsUnique_group hne items huItems).unique ⟨hgroup, hu⟩ ⟨hother, huOther⟩

/-- **The groups do not depend on the order.** -/
theorem perm_membersOf (hperm : items.Perm items') :
    ((groupItems keysOf items).groups.map membersOf).Perm
      ((groupItems keysOf items').groups.map membersOf) := by
  have hnodup' := hperm.nodup_iff.mp hnodup
  apply (List.perm_ext_iff_of_nodup (nodup_membersOf hne) (nodup_membersOf hne)).mpr
  intro members
  constructor
  · intro hmembers
    obtain ⟨group, hgroup, rfl⟩ := List.mem_map.mp hmembers
    obtain ⟨group', hgroup', hsame⟩ := exists_same_members hne hnodup hperm hgroup
    exact List.mem_map.mpr ⟨group', hgroup', hsame⟩
  · intro hmembers
    obtain ⟨group', hgroup', rfl⟩ := List.mem_map.mp hmembers
    obtain ⟨group, hgroup, hsame⟩ := exists_same_members hne hnodup' hperm.symm hgroup'
    exact List.mem_map.mpr ⟨group, hgroup, hsame⟩

end Partition

/-! ## 3. What is shown of a group -/

section Shown

variable {tables : Py.UnicodeTables} {digit : Char → Nat} {sha256 : String → String}
variable {candidates candidates' : List WorkbenchFinalTopCandidate}
variable {candidate candidate' : WorkbenchFinalTopCandidate}

/-- A candidate without what depends on the order: the id that is shown, and the order of the
badges and of the evidence. -/
def orderFree (candidate : WorkbenchFinalTopCandidate) : WorkbenchFinalTopCandidate :=
  { candidate with runtimeIdentityId := "", sourceBadges := [], sourceEvidence := [] }

theorem maxBy_perm {α β : Type} [LinearOrder β] (key : α → β) {xs ys : List α} (h : xs.Perm ys)
    (hinj : ∀ x ∈ xs, ∀ y ∈ xs, key x = key y → x = y) : Py.maxBy key xs = Py.maxBy key ys := by
  cases hx : Py.maxBy key xs with
  | none =>
    rw [Py.maxBy, List.argmax_eq_none] at hx
    subst hx
    rw [← h.nil_eq]
    rfl
  | some x =>
    cases hy : Py.maxBy key ys with
    | none =>
      rw [Py.maxBy, List.argmax_eq_none] at hy
      subst hy
      rw [h.eq_nil] at hx
      cases hx
    | some y =>
      have hxmem : x ∈ xs := Py.mem_of_maxBy hx
      have hymem : y ∈ xs := h.mem_iff.mpr (Py.mem_of_maxBy hy)
      have hle : key y ≤ key x := List.le_of_mem_argmax hymem hx
      have hge : key x ≤ key y := List.le_of_mem_argmax (h.mem_iff.mp hxmem) hy
      rw [hinj x hxmem y hymem (le_antisymm hge hle)]

theorem sorted_perm {α : Type} [LinearOrder α] {xs ys : List α} (h : xs.Perm ys) :
    Py.sorted xs = Py.sorted ys := by
  have hperm : (Py.sorted xs).Perm (Py.sorted ys) :=
    ((List.perm_insertionSort _ xs).trans h).trans (List.perm_insertionSort _ ys).symm
  exact hperm.eq_of_pairwise (fun _ _ _ _ hab hba => le_antisymm hab hba)
    (List.pairwise_insertionSort _ xs) (List.pairwise_insertionSort _ ys)

def Dated (items : List WorkbenchCandidateReviewItem) : Prop := (items.map (·.updatedAt)).Nodup

theorem Dated.eq (h : Dated items) {u v : WorkbenchCandidateReviewItem} (hu : u ∈ items)
    (hv : v ∈ items) (hdate : u.updatedAt = v.updatedAt) : u = v :=
  List.inj_on_of_nodup_map h hu hv hdate

theorem updatedAt_of_canonicalSortKey {u v : WorkbenchCandidateReviewItem}
    (h : canonicalSortKey tables digit u = canonicalSortKey tables digit v) :
    u.updatedAt = v.updatedAt := by
  have hdate := congrArg (fun key => (ofLex (ofLex (ofLex key).2).2).2) h
  exact hdate

theorem updatedAt_of_scoreSortKey {u v : WorkbenchCandidateReviewItem}
    (h : scoreSortKey u = scoreSortKey v) : u.updatedAt = v.updatedAt := by
  have hdate := congrArg (fun key => (ofLex (ofLex key).2).2) h
  exact hdate

/-- **A group in another order** is shown the same, but for its id. -/
theorem orderFree_projectGroup (h : group.2.Perm group'.2) (hdates : Dated group.2) :
    (projectGroup tables digit sha256 group).map orderFree =
      (projectGroup tables digit sha256 group').map orderFree := by
  have hcanonical := maxBy_perm (canonicalSortKey tables digit) h
    fun u hu v hv hkey => hdates.eq hu hv (updatedAt_of_canonicalSortKey hkey)
  have hbest := maxBy_perm scoreSortKey h
    fun u hu v hv hkey => hdates.eq hu hv (updatedAt_of_scoreSortKey hkey)
  have hmerged := sorted_perm (h.map (·.reviewItemId))
  unfold projectGroup
  rw [hcanonical, hbest]
  cases Py.maxBy (canonicalSortKey tables digit) group'.2 with
  | none => rfl
  | some canonical =>
    cases Py.maxBy scoreSortKey group'.2 with
    | none => rfl
    | some best =>
      show some (orderFree (projectChosen sha256 group.1 group.2 canonical best)) =
        some (orderFree (projectChosen sha256 group'.1 group'.2 canonical best))
      unfold orderFree projectChosen
      rw [hmerged]

structure ShownOf (sha256 : String → String) (group : String × List WorkbenchCandidateReviewItem)
    (candidate : WorkbenchFinalTopCandidate) : Prop where
  identity : candidate.runtimeIdentityId = publicIdentityId sha256 group.1
  canonical : candidate.canonicalReviewItemId ∈ group.2.map (·.reviewItemId)
  merged : candidate.mergedReviewItemIds.Perm (group.2.map (·.reviewItemId))

theorem shownOf_projectGroup (h : projectGroup tables digit sha256 group = some candidate) :
    ShownOf sha256 group candidate := by
  unfold projectGroup at h
  simp only [Option.bind_eq_bind, Option.bind_eq_some_iff, Option.pure_def, Option.some.injEq] at h
  obtain ⟨canonical, hcanonical, best, -, rfl⟩ := h
  exact ⟨rfl, List.mem_map_of_mem (Py.mem_of_maxBy hcanonical), List.perm_insertionSort _ _⟩

theorem nodup_canonical (h : List.Forall₂ (ShownOf sha256) groups candidates)
    (hids : ((allItems groups).map (·.reviewItemId)).Nodup) :
    (candidates.map (·.canonicalReviewItemId)).Nodup := by
  have hcanonical {groups : List (String × List WorkbenchCandidateReviewItem)}
      {candidates : List WorkbenchFinalTopCandidate}
      (h : List.Forall₂ (ShownOf sha256) groups candidates) :
      ∀ id ∈ candidates.map (·.canonicalReviewItemId),
        id ∈ (allItems groups).map (·.reviewItemId) := by
    induction h with
    | nil => simp
    | cons hshown _ ih =>
      intro id hid
      unfold allItems
      rw [List.flatMap_cons, List.map_append, List.mem_append]
      rcases List.mem_cons.mp hid with rfl | hid
      · exact .inl hshown.canonical
      · exact .inr (ih id hid)
  induction h with
  | nil => exact List.nodup_nil
  | cons hshown hrest ih =>
    unfold allItems at hids
    rw [List.flatMap_cons, List.map_append, List.nodup_append] at hids
    obtain ⟨-, hrestIds, hdisjoint⟩ := hids
    rw [List.map_cons, List.nodup_cons]
    refine ⟨?_, ih hrestIds⟩
    intro hmem
    exact hdisjoint _ hshown.canonical _ (hcanonical hrest _ hmem) rfl

/-! ## 4. The ranks -/

theorem map_orderFree_ranked :
    (ranked candidates).map orderFree = ranked (candidates.map orderFree) :=
  List.map_insertionSort _ _ orderFree candidates fun _ _ _ _ => Iff.rfl

theorem map_orderFree_withRanks :
    (withRanks candidates).map orderFree = withRanks (candidates.map orderFree) := by
  apply List.ext_getElem
  · simp [withRanks]
  · intro index _ _
    simp [withRanks, orderFree]

theorem ranked_perm (h : candidates.Perm candidates')
    (hids : (candidates.map (·.canonicalReviewItemId)).Nodup) :
    ranked candidates = ranked candidates' := by
  have hperm : (ranked candidates).Perm (ranked candidates') :=
    ((List.perm_insertionSort _ candidates).trans h).trans (List.perm_insertionSort _ candidates').symm
  have htotal : Std.Total fun a b : WorkbenchFinalTopCandidate => rankKey b ≤ rankKey a :=
    ⟨fun a b => le_total (rankKey b) (rankKey a)⟩
  have htrans : IsTrans WorkbenchFinalTopCandidate fun a b => rankKey b ≤ rankKey a :=
    ⟨fun _ _ _ hab hbc => hbc.trans hab⟩
  refine hperm.eq_of_pairwise ?_ (List.pairwise_insertionSort _ candidates)
    (List.pairwise_insertionSort _ candidates')
  intro a b ha hb hab hba
  have ha' : a ∈ candidates := (List.perm_insertionSort _ candidates).mem_iff.mp ha
  have hb' : b ∈ candidates := h.mem_iff.mpr ((List.perm_insertionSort _ candidates').mem_iff.mp hb)
  have hkey : rankKey a = rankKey b := le_antisymm hba hab
  have hid := congrArg (fun key => (ofLex (ofLex key).2).2) hkey
  exact List.inj_on_of_nodup_map hids ha' hb' hid

theorem exists_perm_pairs (h : (groups.map membersOf).Perm (groups'.map membersOf)) :
    ∃ paired, groups'.Perm paired ∧ List.Forall₂ (fun a b => a.2.Perm b.2) groups paired := by
  have hright : List.Forall₂ (fun members group => members = membersOf group)
      (groups'.map membersOf) groups' := by
    rw [List.forall₂_map_left_iff]
    exact List.forall₂_same.mpr fun _ _ => rfl
  obtain ⟨paired, hpaired, hperm⟩ := List.perm_comp_forall₂ h hright
  refine ⟨paired, hperm.symm, ?_⟩
  rw [List.forall₂_map_left_iff] at hpaired
  exact hpaired.imp fun _ _ hsame => Multiset.coe_eq_coe.mp hsame

theorem mapM_orderFree {project : String × List WorkbenchCandidateReviewItem →
      Option WorkbenchFinalTopCandidate}
    (h : List.Forall₂ (fun a b => (project a).map orderFree = (project b).map orderFree)
      groups groups')
    (hmap : groups.mapM project = some candidates) (hmap' : groups'.mapM project = some candidates') :
    candidates.map orderFree = candidates'.map orderFree := by
  induction h generalizing candidates candidates' with
  | nil =>
    obtain rfl := Option.some.inj hmap
    obtain rfl := Option.some.inj hmap'
    rfl
  | cons hsame _ ih =>
    simp only [List.mapM_cons, Option.bind_eq_bind, Option.bind_eq_some_iff, Option.pure_def,
      Option.some.injEq] at hmap hmap'
    obtain ⟨candidate, hcandidate, rest, hrest, rfl⟩ := hmap
    obtain ⟨candidate', hcandidate', rest', hrest', rfl⟩ := hmap'
    rw [hcandidate, hcandidate', Option.map_some, Option.map_some, Option.some_inj] at hsame
    rw [List.map_cons, List.map_cons, hsame, ih hrest hrest']

theorem map_of_mapM {α β : Type} {f : α → Option β} {xs : List α} {ys : List β}
    (h : xs.mapM f = some ys) : xs.map f = ys.map some := by
  have hpairs := Loops.forall₂_of_some h
  clear h
  induction hpairs with
  | nil => rfl
  | cons hhead _ ih => rw [List.map_cons, List.map_cons, hhead, ih]

theorem perm_of_mapM {α β : Type} {f : α → Option β} {xs xs' : List α} {ys ys' : List β}
    (hperm : xs.Perm xs') (h : xs.mapM f = some ys) (h' : xs'.mapM f = some ys') : ys.Perm ys' := by
  have hmap := hperm.map f
  rw [map_of_mapM h, map_of_mapM h'] at hmap
  exact (List.map_perm_map_iff (Option.some_injective β)).mp hmap

/-- What is projected of the items, before it is ranked. -/
structure Projects (tables : Py.UnicodeTables) (digit : Char → Nat) (sha256 : String → String)
    (items : List WorkbenchCandidateReviewItem) (candidates : List WorkbenchFinalTopCandidate) :
    Prop where
  map : (groupItems (identityKeys tables) items).groups.mapM (projectGroup tables digit sha256) =
    some candidates
  shown : List.Forall₂ (ShownOf sha256) (groupItems (identityKeys tables) items).groups candidates

theorem exists_projects (tables : Py.UnicodeTables) (digit : Char → Nat) (sha256 : String → String)
    (items : List WorkbenchCandidateReviewItem) :
    ∃ candidates, Projects tables digit sha256 items candidates := by
  have hsound := sound_groupItems (identityKeys_ne_nil tables) items
  obtain ⟨candidates, hmap, -⟩ := @exists_mapM_projectGroup tables digit sha256 _ hsound.nonempty
  exact ⟨candidates, hmap, (Loops.forall₂_of_some hmap).imp fun _ _ => shownOf_projectGroup⟩

theorem Projects.final (h : Projects tables digit sha256 items candidates) (limit : Nat) :
    projectFinalTopCandidates tables digit sha256 items limit =
      some (withRanks ((ranked candidates).take limit)) := by
  unfold projectFinalTopCandidates
  rw [h.map]
  rfl

theorem Projects.nodup (h : Projects tables digit sha256 items candidates)
    (hids : (items.map (·.reviewItemId)).Nodup) :
    (candidates.map (·.canonicalReviewItemId)).Nodup := by
  have hsound := sound_groupItems (identityKeys_ne_nil tables) items
  apply nodup_canonical h.shown
  exact (hsound.items.map _).nodup_iff.mpr hids

/-- **Before the ranking** the candidates of two orders are the same, but for their ids. -/
theorem Projects.perm (h : Projects tables digit sha256 items candidates)
    (h' : Projects tables digit sha256 items' candidates') (hperm : items.Perm items')
    (hdates : Dated items) :
    (candidates.map orderFree).Perm (candidates'.map orderFree) := by
  have hne := identityKeys_ne_nil tables
  have hnodup : items.Nodup := hdates.of_map
  have hsound := sound_groupItems hne items
  have hsound' := sound_groupItems hne items'
  obtain ⟨paired, hpaired, hpairs⟩ := exists_perm_pairs (perm_membersOf hne hnodup hperm)
  have hnonempty : ∀ group ∈ paired, group.2 ≠ [] := by
    intro group hgroup
    exact hsound'.nonempty group (hpaired.mem_iff.mpr hgroup)
  obtain ⟨shown, hshown, -⟩ := @exists_mapM_projectGroup tables digit sha256 paired hnonempty
  have hdated : ∀ group ∈ (groupItems (identityKeys tables) items).groups, Dated group.2 := by
    intro group hgroup
    have hall : ((allItems (groupItems (identityKeys tables) items).groups).map
        (·.updatedAt)).Nodup := (hsound.items.map _).nodup_iff.mpr hdates
    unfold allItems at hall
    rw [List.map_flatMap] at hall
    exact (List.nodup_flatMap.mp hall).1 group hgroup
  have hsame : List.Forall₂ (fun a b => (projectGroup tables digit sha256 a).map orderFree =
      (projectGroup tables digit sha256 b).map orderFree)
      (groupItems (identityKeys tables) items).groups paired := by
    rw [List.forall₂_iff_get] at hpairs ⊢
    refine ⟨hpairs.1, ?_⟩
    intro i hi hi'
    exact orderFree_projectGroup (hpairs.2 i hi hi') (hdated _ (List.get_mem _ _))
  rw [mapM_orderFree hsame h.map hshown]
  exact (perm_of_mapM hpaired h'.map hshown).symm.map orderFree

/-- The id that an item gives to its group when it is the first one. -/
def publicKey (tables : Py.UnicodeTables) (sha256 : String → String)
    (item : WorkbenchCandidateReviewItem) : String :=
  publicIdentityId sha256 (firstKey (identityKeys tables) item)

/-- **The id of a candidate** is given by one of its items. -/
theorem exists_publicKey (h : Projects tables digit sha256 items candidates) {limit i : Nat}
    (hcandidate : (withRanks ((ranked candidates).take limit))[i]? = some candidate) :
    ∃ item ∈ items, item.reviewItemId ∈ candidate.mergedReviewItemIds ∧
      candidate.runtimeIdentityId = publicKey tables sha256 item := by
  have hne := identityKeys_ne_nil tables
  unfold withRanks at hcandidate
  rw [List.getElem?_mapIdx, Option.map_eq_some_iff] at hcandidate
  obtain ⟨found, hfound, rfl⟩ := hcandidate
  have hmem : found ∈ candidates :=
    (List.perm_insertionSort _ candidates).mem_iff.mp
      (List.mem_of_mem_take (List.mem_of_getElem? hfound))
  have hgroup : ∃ group ∈ (groupItems (identityKeys tables) items).groups,
      ShownOf sha256 group found := by
    obtain ⟨j, hj, rfl⟩ := List.getElem_of_mem hmem
    obtain ⟨hlength, hshown⟩ := List.forall₂_iff_get.mp h.shown
    exact ⟨_, List.get_mem _ ⟨j, hlength ▸ hj⟩, hshown j (hlength ▸ hj) hj⟩
  obtain ⟨group, hgroup, hshown⟩ := hgroup
  obtain ⟨item, hitem, hfirst⟩ := headed_groupItems hne items group hgroup
  refine ⟨item, ?_, ?_, ?_⟩
  · exact (sound_groupItems hne items).items.mem_iff.mp (List.mem_flatMap.mpr ⟨group, hgroup, hitem⟩)
  · exact hshown.merged.mem_iff.mpr (List.mem_map_of_mem hitem)
  · rw [publicKey, ← hfirst]
    exact hshown.identity

/-- **Another order of the items.** The same groups are shown, with the same ranks, scores and
canonical items. A candidate has the same id where all its items would give it that one. -/
theorem finalTop_perm (tables : Py.UnicodeTables) (digit : Char → Nat) (sha256 : String → String)
    (limit : Nat) (hperm : items.Perm items') (hdates : Dated items)
    (hids : (items.map (·.reviewItemId)).Nodup) :
    ∃ result result', projectFinalTopCandidates tables digit sha256 items limit = some result ∧
      projectFinalTopCandidates tables digit sha256 items' limit = some result' ∧
      result.map orderFree = result'.map orderFree ∧
      ∀ (i : Nat) (candidate candidate' : WorkbenchFinalTopCandidate),
        result[i]? = some candidate → result'[i]? = some candidate' →
        (∀ u ∈ items, ∀ v ∈ items, u.reviewItemId ∈ candidate.mergedReviewItemIds →
          v.reviewItemId ∈ candidate.mergedReviewItemIds →
            publicKey tables sha256 u = publicKey tables sha256 v) →
          candidate.runtimeIdentityId = candidate'.runtimeIdentityId := by
  obtain ⟨candidates, h⟩ := exists_projects tables digit sha256 items
  obtain ⟨candidates', h'⟩ := exists_projects tables digit sha256 items'
  have hsame : (withRanks ((ranked candidates).take limit)).map orderFree =
      (withRanks ((ranked candidates').take limit)).map orderFree := by
    rw [map_orderFree_withRanks, map_orderFree_withRanks, List.map_take, List.map_take,
      map_orderFree_ranked, map_orderFree_ranked]
    have hcanonical : ((candidates.map orderFree).map (·.canonicalReviewItemId)).Nodup := by
      rw [List.map_map]
      exact h.nodup hids
    rw [ranked_perm (h.perm h' hperm hdates) hcanonical]
  refine ⟨_, _, h.final limit, h'.final limit, hsame, ?_⟩
  intro i candidate candidate' hcandidate hcandidate' hkeys
  obtain ⟨item, hitem, hmerged, hidentity⟩ := exists_publicKey h hcandidate
  obtain ⟨item', hitem', hmerged', hidentity'⟩ := exists_publicKey h' hcandidate'
  have hfree : orderFree candidate = orderFree candidate' := by
    have hget := congrArg (·[i]?) hsame
    simp only [List.getElem?_map, hcandidate, hcandidate', Option.map_some, Option.some_inj] at hget
    exact hget
  have hmergedIds : (orderFree candidate).mergedReviewItemIds =
      (orderFree candidate').mergedReviewItemIds := by rw [hfree]
  change candidate.mergedReviewItemIds = candidate'.mergedReviewItemIds at hmergedIds
  rw [hidentity, hidentity']
  exact hkeys item hitem item' (hperm.mem_iff.mpr hitem') hmerged (hmergedIds ▸ hmerged')

end Shown

/-- A review item of one and the same person, with an identity of its own. -/
def sampleItem (reviewItemId runtimeIdentityId updatedAt : String) : WorkbenchCandidateReviewItem where
  reviewItemId
  displayName := "Li"
  title := "dev"
  company := "co"
  location := "sh"
  summary := ""
  evidenceLevel := .card
  evidence :=
    [{ evidenceId := reviewItemId, sourceRunId := "s", sourceKind := .cts, evidenceLevel := .card
       runtimeIdentityId := some runtimeIdentityId }]
  updatedAt

def sampleItems : List WorkbenchCandidateReviewItem :=
  [sampleItem "r1" "i1" "t1", sampleItem "r2" "i2" "t2"]

theorem dated_sampleItems : Dated sampleItems := by
  unfold Dated
  decide

theorem nodup_sampleItems : (sampleItems.map (·.reviewItemId)).Nodup := by decide

theorem finalTop_perm_sampleItems : ∃ result result',
    projectFinalTopCandidates .ascii Char.toNat id sampleItems 10 = some result ∧
      projectFinalTopCandidates .ascii Char.toNat id sampleItems.reverse 10 = some result' ∧
      result.map orderFree = result'.map orderFree := by
  obtain ⟨result, result', h, h', hsame, -⟩ := finalTop_perm .ascii Char.toNat id 10
    (List.reverse_perm sampleItems).symm dated_sampleItems nodup_sampleItems
  exact ⟨result, result', h, h', hsame⟩

/-- The two items are one group, and its id is that of the item which comes first. -/
theorem identity_of_order :
    Dated sampleItems ∧ sampleItems.Perm sampleItems.reverse ∧
      ((projectFinalTopCandidates .ascii Char.toNat id sampleItems 10).map fun result =>
        result.map (·.runtimeIdentityId)) = some ["i1"] ∧
      ((projectFinalTopCandidates .ascii Char.toNat id sampleItems.reverse 10).map fun result =>
        result.map (·.runtimeIdentityId)) = some ["i2"] := by
  refine ⟨dated_sampleItems, (List.reverse_perm sampleItems).symm, ?_, ?_⟩
  · decide
  · decide

end FinalTop

end SeekTalent

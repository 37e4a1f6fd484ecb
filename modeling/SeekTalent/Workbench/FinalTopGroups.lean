import Mathlib.Order.Bounds.Basic
import SeekTalent.Base.Components
import SeekTalent.Base.Loops
import SeekTalent.Workbench.FinalTop

/-!
# The groups are the connected components

The dictionary of keys labels the components of the keys met so far, and a group holds the items
whose keys have its label (`Sound`). Merging a group into another keeps this (`Kept.absorb`), and so
does an item (`Sound.addItem`). What is shown are the groups, ranked.
-/

namespace SeekTalent

namespace FinalTop

open Components

variable {groups groups' rest : List (String × List WorkbenchCandidateReviewItem)}
variable {members items done : List WorkbenchCandidateReviewItem}
variable {item : WorkbenchCandidateReviewItem} {groupId old : String} {state : Grouping}

/-! ## 1. Lists of groups -/

def groupIds (groups : List (String × List WorkbenchCandidateReviewItem)) : List String :=
  groups.map (·.1)

def allItems (groups : List (String × List WorkbenchCandidateReviewItem)) :
    List WorkbenchCandidateReviewItem :=
  groups.flatMap (·.2)

theorem mem_without {group : String × List WorkbenchCandidateReviewItem} :
    group ∈ without groups groupId ↔ group ∈ groups ∧ group.1 ≠ groupId := by
  simp [without]

theorem without_of_not_mem (h : groupId ∉ groupIds groups) : without groups groupId = groups := by
  apply List.filter_eq_self.mpr
  intro group hgroup
  have hne : group.1 ≠ groupId := by
    rintro rfl
    exact h (List.mem_map_of_mem hgroup)
  simpa using hne

theorem popped_of_not_mem (h : groupId ∉ groupIds groups) : popped groups groupId = [] := by
  have hnone : groups.find? (fun group => group.1 = groupId) = none := by
    rw [List.find?_eq_none]
    intro group hgroup
    have hne : group.1 ≠ groupId := by
      rintro rfl
      exact h (List.mem_map_of_mem hgroup)
    simpa using hne
  simp [popped, hnone]

theorem perm_popped_without (hnodup : (groupIds groups).Nodup) (h : groupId ∈ groupIds groups) :
    groups.Perm ((groupId, popped groups groupId) :: without groups groupId) := by
  induction groups with
  | nil => simp [groupIds] at h
  | cons group rest ih =>
    obtain ⟨hnew, hnodup⟩ := List.nodup_cons.mp hnodup
    by_cases hid : group.1 = groupId
    · have hrest : groupId ∉ groupIds rest := hid ▸ hnew
      have hpopped : popped (group :: rest) groupId = group.2 := by simp [popped, hid]
      have hwithout : without (group :: rest) groupId = rest := by
        rw [without, List.filter_cons_of_neg (by simp [hid])]
        exact without_of_not_mem hrest
      rw [hpopped, hwithout, ← hid]
    · have hmem : groupId ∈ groupIds rest := by
        rcases List.mem_cons.mp h with heq | hmem
        · exact absurd heq.symm hid
        · exact hmem
      have hpopped : popped (group :: rest) groupId = popped rest groupId := by
        simp [popped, hid]
      have hwithout : without (group :: rest) groupId = group :: without rest groupId := by
        rw [without, List.filter_cons_of_pos (by simpa using hid)]
        rfl
      rw [hpopped, hwithout]
      exact ((ih hnodup hmem).cons group).trans (List.Perm.swap ..)

theorem perm_extend (hnodup : (groupIds groups).Nodup) :
    (extend groups groupId items).Perm
      ((groupId, popped groups groupId ++ items) :: without groups groupId) := by
  unfold extend
  split
  · rename_i h
    have hsame : (without groups groupId).map
        (fun group => if group.1 = groupId then (group.1, group.2 ++ items) else group) =
          without groups groupId := by
      conv_rhs => rw [← List.map_id (without groups groupId)]
      apply List.map_congr_left
      intro group hgroup
      exact if_neg (mem_without.mp hgroup).2
    have hmap := (perm_popped_without hnodup h).map
      fun group => if group.1 = groupId then (group.1, group.2 ++ items) else group
    rw [List.map_cons, hsame] at hmap
    simpa using hmap
  · rename_i h
    rw [popped_of_not_mem h, without_of_not_mem h]
    exact List.perm_append_singleton _ _

theorem popped_of_perm (hnodup : (groupIds groups).Nodup)
    (h : groups.Perm ((groupId, members) :: rest)) : popped groups groupId = members := by
  have hmem : (groupId, members) ∈ groups := h.mem_iff.mpr (List.mem_cons_self ..)
  have hid : groupId ∈ groupIds groups := List.mem_map_of_mem hmem
  have hpopped := (perm_popped_without hnodup hid).mem_iff.mp hmem
  rcases List.mem_cons.mp hpopped with heq | hwithout
  · exact (Prod.mk.inj heq).2.symm
  · exact absurd rfl (mem_without.mp hwithout).2

theorem without_perm (hnodup : (groupIds groups).Nodup)
    (h : groups.Perm ((groupId, members) :: rest)) : (without groups groupId).Perm rest := by
  have hnodup' : (groupIds ((groupId, members) :: rest)).Nodup := (h.map _).nodup_iff.mp hnodup
  have hrest : groupId ∉ groupIds rest := (List.nodup_cons.mp hnodup').1
  have hfilter := h.filter fun group => group.1 ≠ groupId
  rw [List.filter_cons_of_neg (by simp)] at hfilter
  refine hfilter.trans ?_
  have hsame : without rest groupId = rest := without_of_not_mem hrest
  rw [without] at hsame
  rw [hsame]

/-- **Merging two groups** leaves the others. -/
theorem perm_absorb {kept merged : List WorkbenchCandidateReviewItem}
    (hnodup : (groupIds state.groups).Nodup)
    (h : state.groups.Perm ((groupId, kept) :: (old, merged) :: rest)) :
    (absorb groupId state old).groups.Perm ((groupId, kept ++ merged) :: rest) := by
  have hnodups : ∀ {other}, state.groups.Perm other → (groupIds other).Nodup :=
    fun hperm => (hperm.map _).nodup_iff.mp hnodup
  have htouched : (extend state.groups groupId []).Perm state.groups := by
    have hid : groupId ∈ groupIds state.groups :=
      List.mem_map_of_mem (h.mem_iff.mpr (List.mem_cons_self ..))
    have hextend := @perm_extend state.groups [] groupId hnodup
    rw [List.append_nil] at hextend
    exact hextend.trans (perm_popped_without hnodup hid).symm
  have hleft : (without (extend state.groups groupId []) old).Perm ((groupId, kept) :: rest) :=
    without_perm (hnodups htouched.symm)
      ((htouched.trans h).trans (List.Perm.swap ..))
  have hnodupLeft : (groupIds (without (extend state.groups groupId []) old)).Nodup := by
    refine (hleft.map _).nodup_iff.mpr ?_
    have hall := hnodups h
    obtain ⟨hnew, hall⟩ := List.nodup_cons.mp hall
    refine List.nodup_cons.mpr ⟨?_, (List.nodup_cons.mp hall).2⟩
    exact fun hmem => hnew (List.mem_cons_of_mem _ hmem)
  have hpopped : popped state.groups old = merged :=
    popped_of_perm hnodup (h.trans (List.Perm.swap ..))
  show (extend _ groupId (popped state.groups old)).Perm _
  rw [hpopped]
  refine (perm_extend hnodupLeft).trans ?_
  rw [popped_of_perm hnodupLeft hleft]
  exact (without_perm hnodupLeft hleft).cons _

/-! ## 2. What the groups and the keys have to do with each other -/

structure Kept (keysOf : WorkbenchCandidateReviewItem → List String) (state : Grouping) : Prop where
  nodup : (groupIds state.groups).Nodup
  nonempty : ∀ group ∈ state.groups, group.2 ≠ []
  keyed : ∀ group ∈ state.groups, ∀ item ∈ group.2, ∀ key ∈ keysOf item,
    state.keyToGroup key = some group.1
  own : ∀ key id, state.keyToGroup key = some id → state.keyToGroup id = some id
  live : ∀ key id, state.keyToGroup key = some id → id ∈ groupIds state.groups

variable {keysOf : WorkbenchCandidateReviewItem → List String}

theorem Kept.own_of_mem (h : Kept keysOf state) (hne : ∀ item, keysOf item ≠ [])
    (hmem : groupId ∈ groupIds state.groups) : state.keyToGroup groupId = some groupId := by
  obtain ⟨group, hgroup, rfl⟩ := List.mem_map.mp hmem
  obtain ⟨item, hitem⟩ := List.exists_mem_of_ne_nil _ (h.nonempty group hgroup)
  obtain ⟨key, hkey⟩ := List.exists_mem_of_ne_nil _ (hne item)
  exact h.own key _ (h.keyed group hgroup item hitem key hkey)

section Absorb

variable (hne : ∀ item, keysOf item ≠ []) (hid : groupId ∈ groupIds state.groups)
variable (hold : old ∈ groupIds state.groups) (hneq : old ≠ groupId)
include hid hold hneq

theorem exists_perm_of_mem (h : Kept keysOf state) : ∃ kept merged rest,
    state.groups.Perm ((groupId, kept) :: (old, merged) :: rest) := by
  have hfirst := perm_popped_without h.nodup hid
  have hnodup : (groupIds (without state.groups groupId)).Nodup :=
    (List.nodup_cons.mp ((hfirst.map _).nodup_iff.mp h.nodup)).2
  have hmem : old ∈ groupIds (without state.groups groupId) := by
    obtain ⟨group, hgroup, rfl⟩ := List.mem_map.mp hold
    exact List.mem_map_of_mem (mem_without.mpr ⟨hgroup, hneq⟩)
  exact ⟨_, _, _, hfirst.trans ((perm_popped_without hnodup hmem).cons _)⟩

theorem allItems_absorb (h : Kept keysOf state) :
    (allItems (absorb groupId state old).groups).Perm (allItems state.groups) := by
  obtain ⟨kept, merged, rest, hperm⟩ := exists_perm_of_mem hid hold hneq h
  refine ((perm_absorb h.nodup hperm).flatMap_right _).trans ?_
  refine List.Perm.trans ?_ (hperm.flatMap_right _).symm
  simp

theorem mem_groupIds_absorb (h : Kept keysOf state) {id : String} :
    id ∈ groupIds (absorb groupId state old).groups ↔ id ∈ groupIds state.groups ∧ id ≠ old := by
  obtain ⟨kept, merged, rest, hperm⟩ := exists_perm_of_mem hid hold hneq h
  have hnodup : (groupIds ((groupId, kept) :: (old, merged) :: rest)).Nodup :=
    (hperm.map _).nodup_iff.mp h.nodup
  have hrest : old ∉ groupIds rest := (List.nodup_cons.mp (List.nodup_cons.mp hnodup).2).1
  have hafter := (((perm_absorb h.nodup hperm).map (·.1)).mem_iff : id ∈ groupIds _ ↔ _)
  have hbefore := ((hperm.map (·.1)).mem_iff : id ∈ groupIds state.groups ↔ _)
  rw [hafter, hbefore]
  simp only [List.map_cons, List.mem_cons]
  constructor
  · rintro (rfl | hmem)
    · exact ⟨.inl rfl, hneq.symm⟩
    · exact ⟨.inr (.inr hmem), fun heq => hrest (heq ▸ hmem)⟩
  · rintro ⟨rfl | rfl | hmem, hother⟩
    · exact .inl rfl
    · exact absurd rfl hother
    · exact .inr hmem

include hne in
/-- **Merging a group into another** keeps what groups and keys have to do with each other. -/
theorem Kept.of_absorb (h : Kept keysOf state) : Kept keysOf (absorb groupId state old) := by
  obtain ⟨kept, merged, rest, hperm⟩ := exists_perm_of_mem hid hold hneq h
  have hafter := perm_absorb h.nodup hperm
  have hnodup : (groupIds ((groupId, kept) :: (old, merged) :: rest)).Nodup :=
    (hperm.map _).nodup_iff.mp h.nodup
  obtain ⟨hgroupNew, hnodupRest⟩ := List.nodup_cons.mp hnodup
  obtain ⟨holdNew, hrestNodup⟩ := List.nodup_cons.mp hnodupRest
  have hlabel : ∀ key id, state.keyToGroup key = some id →
      (absorb groupId state old).keyToGroup key = some (if id = old then groupId else id) := by
    intro key id hkey
    by_cases heq : id = old
    · subst heq
      simp [absorb, hkey]
    · simp [absorb, hkey, heq]
  have hmem : ∀ {group}, group ∈ (groupId, kept) :: (old, merged) :: rest → group ∈ state.groups :=
    fun hgroup => hperm.mem_iff.mpr hgroup
  constructor
  · refine (hafter.map _).nodup_iff.mpr (List.nodup_cons.mpr ⟨?_, hrestNodup⟩)
    exact fun hin => hgroupNew (List.mem_cons_of_mem _ hin)
  · intro group hgroup
    rcases List.mem_cons.mp (hafter.mem_iff.mp hgroup) with rfl | hgroup
    · have hkept : kept ≠ [] := h.nonempty _ (hmem (List.mem_cons_self ..))
      simp [hkept]
    · exact h.nonempty _ (hmem (by simp [hgroup]))
  · intro group hgroup item hitem key hkey
    rcases List.mem_cons.mp (hafter.mem_iff.mp hgroup) with rfl | hrest
    · rcases List.mem_append.mp hitem with hitem | hitem
      · rw [hlabel key groupId (h.keyed _ (hmem (List.mem_cons_self ..)) item hitem key hkey)]
        simp
      · rw [hlabel key old (h.keyed (old, merged) (hmem (by simp)) item hitem key hkey)]
        simp
    · have hother : group.1 ≠ old := by
        intro heq
        have hin : group.1 ∈ groupIds rest := List.mem_map_of_mem hrest
        exact holdNew (heq ▸ hin)
      rw [hlabel key group.1 (h.keyed group (hmem (by simp [hrest])) item hitem key hkey)]
      simp [hother]
  · have hown := h.own_of_mem hne hid
    intro key id hkey
    have hgroupId : (absorb groupId state old).keyToGroup groupId = some groupId := by
      rw [hlabel groupId groupId hown]
      simp
    cases hbefore : state.keyToGroup key with
    | none => simp [absorb, hbefore] at hkey
    | some label =>
      rw [hlabel key label hbefore] at hkey
      obtain rfl := Option.some.inj hkey
      split
      · exact hgroupId
      · rename_i hother
        rw [hlabel label label (h.own key label hbefore), if_neg hother]
  · intro key id hkey
    rw [mem_groupIds_absorb hid hold hneq h]
    cases hbefore : state.keyToGroup key with
    | none => simp [absorb, hbefore] at hkey
    | some label =>
      rw [hlabel key label hbefore] at hkey
      obtain rfl := Option.some.inj hkey
      split
      · exact ⟨hid, hneq.symm⟩
      · rename_i hother
        exact ⟨h.live key label hbefore, hother⟩

end Absorb

/-! ## 3. Merging all groups that an item touches -/

theorem Kept.absorbAll (hne : ∀ item, keysOf item ≠ []) {olds : List String}
    (h : Kept keysOf state) (hnodup : olds.Nodup) (hself : groupId ∉ olds)
    (hid : olds ≠ [] → groupId ∈ groupIds state.groups)
    (hlive : ∀ old ∈ olds, old ∈ groupIds state.groups) :
    Kept keysOf (olds.foldl (absorb groupId) state) ∧
      (allItems (olds.foldl (absorb groupId) state).groups).Perm (allItems state.groups) ∧
      ∀ key, (olds.foldl (absorb groupId) state).keyToGroup key =
        if ∃ old ∈ olds, state.keyToGroup key = some old then some groupId
        else state.keyToGroup key := by
  induction olds generalizing state with
  | nil => exact ⟨h, List.Perm.refl _, fun key => by simp⟩
  | cons old olds ih =>
    obtain ⟨hnew, hnodup⟩ := List.nodup_cons.mp hnodup
    rw [List.mem_cons, not_or] at hself
    obtain ⟨hneq, hself⟩ := hself
    obtain ⟨hold, hlive⟩ := List.forall_mem_cons.mp hlive
    have hid := hid (List.cons_ne_nil _ _)
    have hids : ∀ {id}, id ∈ groupIds (absorb groupId state old).groups ↔
        id ∈ groupIds state.groups ∧ id ≠ old :=
      mem_groupIds_absorb hid hold (Ne.symm hneq) h
    obtain ⟨hkept, hitems, hlabels⟩ := ih (h.of_absorb hne hid hold (Ne.symm hneq)) hnodup hself
      (fun _ => hids.mpr ⟨hid, hneq⟩)
      (fun other hother => hids.mpr ⟨hlive other hother, fun heq => hnew (heq ▸ hother)⟩)
    refine ⟨hkept, hitems.trans (allItems_absorb hid hold (Ne.symm hneq) h), ?_⟩
    intro key
    rw [List.foldl_cons, hlabels key]
    -- a key that has been relabelled with the target is not relabelled again
    by_cases hkey : state.keyToGroup key = some old
    · have hfirst : (absorb groupId state old).keyToGroup key = some groupId := by
        simp [absorb, hkey]
      rw [hfirst, ite_self, if_pos ⟨old, List.mem_cons_self .., hkey⟩]
    · have hfirst : (absorb groupId state old).keyToGroup key = state.keyToGroup key := by
        simp [absorb, hkey]
      rw [hfirst]
      simp [hkey]

/-! ## 4. The components -/

def keySet (keysOf : WorkbenchCandidateReviewItem → List String)
    (item : WorkbenchCandidateReviewItem) : Set String := {key | key ∈ keysOf item}

def keyGroups (keysOf : WorkbenchCandidateReviewItem → List String)
    (items : List WorkbenchCandidateReviewItem) : Set (Set String) :=
  keySet keysOf '' {item | item ∈ items}

/-- The groups hold the items, and the keys' labels separate the components. -/
structure Sound (keysOf : WorkbenchCandidateReviewItem → List String)
    (done : List WorkbenchCandidateReviewItem) (state : Grouping) : Prop extends
    Kept keysOf state where
  items : (allItems state.groups).Perm done
  labels : Labels (keyGroups keysOf done) state.keyToGroup

theorem sound_empty : Sound keysOf [] {} := by
  refine ⟨⟨List.nodup_nil, ?_, ?_, ?_, ?_⟩, List.Perm.refl _, ?_⟩
  · simp
  · simp
  · simp
  · simp
  · simpa [keyGroups] using (Labels.empty : Labels ∅ fun _ : String => (none : Option String))

section AddItem

variable (hne : ∀ item, keysOf item ≠ [])
include hne

theorem groupIdOf_spec (h : Kept keysOf state) (item : WorkbenchCandidateReviewItem) :
    (groupIdOf keysOf state item ∈ groupIds state.groups ∧
      ∃ key ∈ keysOf item, state.keyToGroup key = some (groupIdOf keysOf state item)) ∨
    (groupIdOf keysOf state item ∈ keysOf item ∧
      groupIdOf keysOf state item ∉ groupIds state.groups ∧
      ∀ key ∈ keysOf item, state.keyToGroup key = none) := by
  unfold groupIdOf
  cases hmin : ((keysOf item).filterMap state.keyToGroup).min? with
  | some groupId =>
    obtain ⟨key, hkey, hlabel⟩ := List.mem_filterMap.mp (List.min?_mem hmin)
    exact .inl ⟨h.live key groupId hlabel, key, hkey, hlabel⟩
  | none =>
    right
    have hnone : ∀ key ∈ keysOf item, state.keyToGroup key = none := by
      rw [List.min?_eq_none_iff, List.filterMap_eq_nil_iff] at hmin
      exact hmin
    have hhead : (keysOf item).headD "" ∈ keysOf item := by
      cases hkeys : keysOf item with
      | nil => exact absurd hkeys (hne item)
      | cons key keys => exact List.mem_cons_self ..
    refine ⟨hhead, ?_, hnone⟩
    intro hmem
    have hown := h.own_of_mem hne hmem
    rw [hnone _ hhead] at hown
    cases hown

theorem merged_spec (h : Kept keysOf state) (item : WorkbenchCandidateReviewItem) :
    let groupId := groupIdOf keysOf state item
    let merged := ((Py.sortedSet ((keysOf item).filterMap state.keyToGroup)).filter
      (· ≠ groupId)).foldl (absorb groupId) state
    Kept keysOf merged ∧ (allItems merged.groups).Perm (allItems state.groups) ∧
      ∀ key, merged.keyToGroup key =
        if ∃ other ∈ keysOf item, ∃ label, state.keyToGroup other = some label ∧
          state.keyToGroup key = some label then some groupId
        else state.keyToGroup key := by
  intro groupId merged
  have hmem : ∀ {id}, id ∈ (Py.sortedSet ((keysOf item).filterMap state.keyToGroup)).filter
      (· ≠ groupId) ↔ (∃ key ∈ keysOf item, state.keyToGroup key = some id) ∧ id ≠ groupId := by
    intro id
    simp [List.mem_filter]
  obtain ⟨hkept, hitems, hlabels⟩ := @Kept.absorbAll groupId state keysOf hne
    ((Py.sortedSet ((keysOf item).filterMap state.keyToGroup)).filter (· ≠ groupId)) h
    (List.Pairwise.filter _ Py.nodup_sortedSet) (fun hin => (hmem.mp hin).2 rfl)
    (by
      intro hany
      obtain ⟨old, hold⟩ := List.exists_mem_of_ne_nil _ hany
      obtain ⟨⟨key, hkey, hlabel⟩, -⟩ := hmem.mp hold
      rcases groupIdOf_spec hne h item with ⟨hin, -⟩ | ⟨-, -, hnone⟩
      · exact hin
      · rw [hnone key hkey] at hlabel
        cases hlabel)
    (by
      intro old hold
      obtain ⟨⟨key, -, hlabel⟩, -⟩ := hmem.mp hold
      exact h.live key old hlabel)
  refine ⟨hkept, hitems, ?_⟩
  intro key
  rw [hlabels key]
  by_cases hkey : state.keyToGroup key = some groupId
  · -- its label is the target already
    rw [hkey]
    simp
  · have hsame : (∃ old ∈ (Py.sortedSet ((keysOf item).filterMap state.keyToGroup)).filter
        (· ≠ groupId), state.keyToGroup key = some old) ↔
        ∃ other ∈ keysOf item, ∃ label, state.keyToGroup other = some label ∧
          state.keyToGroup key = some label := by
      constructor
      · rintro ⟨old, hold, hlabel⟩
        obtain ⟨⟨other, hother, hotherLabel⟩, -⟩ := hmem.mp hold
        exact ⟨other, hother, old, hotherLabel, hlabel⟩
      · rintro ⟨other, hother, label, hotherLabel, hlabel⟩
        refine ⟨label, hmem.mpr ⟨⟨other, hother, hotherLabel⟩, ?_⟩, hlabel⟩
        rintro rfl
        exact hkey hlabel
    simp only [hsame]

/-- **One item.** The groups hold it, too, and the labels separate the new components. -/
theorem Sound.addItem (h : Sound keysOf done state) (item : WorkbenchCandidateReviewItem) :
    Sound keysOf (done ++ [item]) (addItem keysOf state item) := by
  have hspec := groupIdOf_spec hne h.toKept item
  obtain ⟨hkept, hitems, hlabels⟩ := merged_spec hne h.toKept item
  unfold FinalTop.addItem
  dsimp only at hkept hitems hlabels ⊢
  generalize groupIdOf keysOf state item = groupId at hspec hkept hitems hlabels ⊢
  generalize ((Py.sortedSet ((keysOf item).filterMap state.keyToGroup)).filter
    (· ≠ groupId)).foldl (absorb groupId) state = merged at hkept hitems hlabels ⊢
  have hafter := @perm_extend merged.groups [item] groupId hkept.nodup
  -- the keys of the item have no other label than the target
  have hkeys : ∀ key ∈ keysOf item, ∀ label, merged.keyToGroup key = some label →
      label = groupId := by
    intro key hkey label hlabel
    rw [hlabels key] at hlabel
    split at hlabel
    · exact (Option.some.inj hlabel).symm
    · rename_i hnot
      exact absurd ⟨key, hkey, label, hlabel, hlabel⟩ hnot
  have hown : groupId ∈ keysOf item ∨ merged.keyToGroup groupId = some groupId := by
    rcases hspec with ⟨hin, -⟩ | ⟨hkey, -⟩
    · right
      rw [hlabels groupId, h.own_of_mem hne hin, ite_self]
    · exact .inl hkey
  have hother : ∀ {group}, group ∈ without merged.groups groupId →
      group ∈ merged.groups ∧ group.1 ≠ groupId := fun hgroup => mem_without.mp hgroup
  refine ⟨⟨?_, ?_, ?_, ?_, ?_⟩, ?_, ?_⟩
  · refine (hafter.map _).nodup_iff.mpr (List.nodup_cons.mpr ⟨?_, ?_⟩)
    · intro hin
      obtain ⟨group, hgroup, heq⟩ := List.mem_map.mp hin
      exact (hother hgroup).2 heq
    · exact List.Nodup.sublist (List.filter_sublist.map _) hkept.nodup
  · intro group hgroup
    rcases List.mem_cons.mp (hafter.mem_iff.mp hgroup) with rfl | hgroup
    · simp
    · exact hkept.nonempty group (hother hgroup).1
  · intro group hgroup member hmember key hkey
    dsimp only
    rcases List.mem_cons.mp (hafter.mem_iff.mp hgroup) with rfl | hgroup
    · split
      · rfl
      · rename_i hnew
        rcases List.mem_append.mp hmember with hmember | hmember
        · have hin : groupId ∈ groupIds merged.groups := by
            by_contra hnot
            rw [popped_of_not_mem hnot] at hmember
            cases hmember
          have hgroup := (perm_popped_without hkept.nodup hin).mem_iff.mpr (List.mem_cons_self ..)
          exact hkept.keyed _ hgroup member hmember key hkey
        · rw [List.mem_singleton.mp hmember] at hkey
          exact absurd hkey hnew
    · obtain ⟨hgroup, hneq⟩ := hother hgroup
      have hlabel := hkept.keyed group hgroup member hmember key hkey
      have hnew : key ∉ keysOf item := fun hin => hneq (hkeys key hin _ hlabel)
      rw [if_neg hnew, hlabel]
  · intro key id hkey
    dsimp only at hkey ⊢
    have htarget : (if groupId ∈ keysOf item then some groupId else merged.keyToGroup groupId) =
        some groupId := by
      split
      · rfl
      · rename_i hnot
        exact hown.resolve_left hnot
    split at hkey
    · obtain rfl := Option.some.inj hkey
      exact htarget
    · have hid := hkept.own key id hkey
      split
      · rename_i hin
        rw [hkeys id hin id hid]
      · exact hid
  · intro key id hkey
    refine (hafter.map _).mem_iff.mpr (List.mem_cons.mpr ?_)
    dsimp only at hkey
    split at hkey
    · exact .inl (Option.some.inj hkey).symm
    · obtain ⟨group, hgroup, rfl⟩ := List.mem_map.mp (hkept.live key id hkey)
      by_cases heq : group.1 = groupId
      · exact .inl heq
      · exact .inr (List.mem_map_of_mem (mem_without.mpr ⟨hgroup, heq⟩))
  · have hmembers : (popped merged.groups groupId ++
        allItems (without merged.groups groupId)).Perm done := by
      refine List.Perm.trans ?_ (hitems.trans h.items)
      by_cases hin : groupId ∈ groupIds merged.groups
      · exact ((perm_popped_without hkept.nodup hin).flatMap_right (·.2)).symm
      · rw [popped_of_not_mem hin, without_of_not_mem hin]
        exact List.Perm.refl _
    refine (hafter.flatMap_right _).trans ?_
    rw [List.flatMap_cons]
    refine List.Perm.trans ?_ (hmembers.append_right [item])
    rw [List.append_assoc, List.append_assoc]
    exact (List.perm_append_comm).append_left _
  · have hinsert : keyGroups keysOf (done ++ [item]) =
        insert (keySet keysOf item) (keyGroups keysOf done) := by
      have hset : {u | u ∈ done ++ [item]} = insert item {u | u ∈ done} := by
        ext u
        simp [or_comm]
      rw [keyGroups, hset, Set.image_insert_eq]
      rfl
    have htouched : ∀ key, Touched state.keyToGroup (keySet keysOf item) key ↔
        key ∈ keysOf item ∨ ∃ other ∈ keysOf item, ∃ label,
          state.keyToGroup other = some label ∧ state.keyToGroup key = some label := by
      intro key
      rfl
    rw [hinsert]
    refine h.labels.add groupId ?_ ?_ ?_
    · intro key htouch
      rw [htouched] at htouch
      dsimp only
      split
      · rfl
      · rename_i hnew
        rw [hlabels key, if_pos (htouch.resolve_left hnew)]
    · intro key htouch
      rw [htouched, not_or] at htouch
      dsimp only
      rw [if_neg htouch.1, hlabels key, if_neg htouch.2]
    · rcases hspec with ⟨-, key, hkey, hlabel⟩ | ⟨hkey, hnew, -⟩
      · exact .inl ⟨key, hkey, hlabel⟩
      · exact .inr fun key hlabel => hnew (h.live key groupId hlabel)

/-- **All items.** -/
theorem sound_groupItems (items : List WorkbenchCandidateReviewItem) :
    Sound keysOf items (groupItems keysOf items) := by
  unfold groupItems
  induction items using List.reverseRecOn with
  | nil => exact sound_empty
  | append_singleton items item ih =>
    rw [List.foldl_append]
    exact ih.addItem hne item

/-- **The groups** are the connected components of the items. -/
theorem inOneGroup_iff (items : List WorkbenchCandidateReviewItem)
    {u v : WorkbenchCandidateReviewItem} (hu : u ∈ items) (hv : v ∈ items) :
    (∃ group ∈ (groupItems keysOf items).groups, u ∈ group.2 ∧ v ∈ group.2) ↔
      Connected {item | item ∈ items} (keySet keysOf) u v := by
  have hsound := sound_groupItems hne items
  obtain ⟨a, ha⟩ := List.exists_mem_of_ne_nil _ (hne u)
  obtain ⟨b, hb⟩ := List.exists_mem_of_ne_nil _ (hne v)
  have hgroupOf : ∀ {w}, w ∈ items → ∃ group ∈ (groupItems keysOf items).groups, w ∈ group.2 :=
    fun hw => List.mem_flatMap.mp (hsound.items.mem_iff.mpr hw)
  obtain ⟨first, hfirst, hin⟩ := hgroupOf hu
  have hlabel := hsound.keyed first hfirst u hin a ha
  have hnonempty : ∀ w ∈ {item | item ∈ items}, (keySet keysOf w).Nonempty :=
    fun w _ => List.exists_mem_of_ne_nil _ (hne w)
  refine Iff.trans ?_ (joined_iff_connected hnonempty hu hv ha hb)
  refine Iff.trans ?_ (hsound.labels.same a b first.1 hlabel)
  constructor
  · rintro ⟨group, hgroup, hugroup, hvgroup⟩
    rw [hsound.keyed group hgroup v hvgroup b hb, ← hlabel,
      hsound.keyed group hgroup u hugroup a ha]
  · intro hb'
    obtain ⟨second, hsecond, hvin⟩ := hgroupOf hv
    have heq : second.1 = first.1 := by
      have hsecondLabel := hsound.keyed second hsecond v hvin b hb
      rw [hb'] at hsecondLabel
      exact (Option.some.inj hsecondLabel).symm
    have hsame : second = first := List.inj_on_of_nodup_map hsound.nodup hsecond hfirst heq
    exact ⟨first, hfirst, hin, hsame ▸ hvin⟩

/-- **Each item** is in one group. -/
theorem existsUnique_group (items : List WorkbenchCandidateReviewItem) (hitem : item ∈ items) :
    ∃! group, group ∈ (groupItems keysOf items).groups ∧ item ∈ group.2 := by
  have hsound := sound_groupItems hne items
  obtain ⟨key, hkey⟩ := List.exists_mem_of_ne_nil _ (hne item)
  obtain ⟨group, hgroup, hin⟩ := List.mem_flatMap.mp (hsound.items.mem_iff.mpr hitem)
  refine ⟨group, ⟨hgroup, hin⟩, ?_⟩
  rintro other ⟨hother, hinOther⟩
  apply List.inj_on_of_nodup_map hsound.nodup hother hgroup
  have hlabel := hsound.keyed other hother item hinOther key hkey
  rw [hsound.keyed group hgroup item hin key hkey] at hlabel
  exact (Option.some.inj hlabel).symm

end AddItem

/-! ## 5. What is shown -/

section Shown

variable {tables : Py.UnicodeTables} {digit : Char → Nat} {sha256 : String → String}

/-- The candidate shows the group: it names the items and has their best score. -/
structure Shows (group : String × List WorkbenchCandidateReviewItem)
    (candidate : WorkbenchFinalTopCandidate) : Prop where
  merged : candidate.mergedReviewItemIds.Perm (group.2.map (·.reviewItemId))
  best : IsGreatest {score | ∃ item ∈ group.2, scoreOf item.aggregateScore = score}
    (scoreOf candidate.aggregateScore)

theorem exists_projectGroup {group : String × List WorkbenchCandidateReviewItem}
    (h : group.2 ≠ []) : ∃ candidate, projectGroup tables digit sha256 group = some candidate ∧
      Shows group candidate := by
  have hchosen : ∀ {β : Type} [LinearOrder β] (key : WorkbenchCandidateReviewItem → β),
      ∃ chosen, Py.maxBy key group.2 = some chosen := by
    intro β _ key
    exact Option.ne_none_iff_exists'.mp fun hnone => h (List.argmax_eq_none.mp hnone)
  obtain ⟨canonical, hcanonical⟩ := hchosen (canonicalSortKey tables digit)
  obtain ⟨best, hbest⟩ := hchosen scoreSortKey
  refine ⟨projectChosen sha256 group.1 group.2 canonical best, ?_, ?_, ?_, ?_⟩
  · simp [projectGroup, hcanonical, hbest]
  · exact List.perm_insertionSort _ _
  · exact ⟨best, Py.mem_of_maxBy hbest, rfl⟩
  · rintro _ ⟨item, hitem, rfl⟩
    have hle : scoreSortKey item ≤ scoreSortKey best := List.le_of_mem_argmax hitem hbest
    rcases Prod.Lex.toLex_le_toLex.mp hle with hlt | ⟨heq, -⟩
    · exact hlt.le
    · exact heq.le

theorem exists_mapM_projectGroup (groups : List (String × List WorkbenchCandidateReviewItem))
    (h : ∀ group ∈ groups, group.2 ≠ []) :
    ∃ candidates, groups.mapM (projectGroup tables digit sha256) = some candidates ∧
      List.Forall₂ Shows groups candidates :=
  Loops.exists_some fun group hgroup => exists_projectGroup (h group hgroup)

theorem pairwise_ranked (candidates : List WorkbenchFinalTopCandidate) :
    (ranked candidates).Pairwise fun a b =>
      scoreOf b.aggregateScore ≤ scoreOf a.aggregateScore := by
  have htotal : Std.Total fun a b : WorkbenchFinalTopCandidate => rankKey b ≤ rankKey a :=
    ⟨fun a b => le_total (rankKey b) (rankKey a)⟩
  have htrans : IsTrans WorkbenchFinalTopCandidate fun a b => rankKey b ≤ rankKey a :=
    ⟨fun _ _ _ hab hbc => hbc.trans hab⟩
  refine (List.pairwise_insertionSort _ candidates).imp ?_
  intro a b hle
  rcases Prod.Lex.toLex_le_toLex.mp hle with hlt | ⟨heq, -⟩
  · exact hlt.le
  · exact heq.le

theorem flatMap_merged {groups : List (String × List WorkbenchCandidateReviewItem)}
    {candidates : List WorkbenchFinalTopCandidate} (h : List.Forall₂ Shows groups candidates) :
    (candidates.flatMap (·.mergedReviewItemIds)).Perm
      ((allItems groups).map (·.reviewItemId)) := by
  induction h with
  | nil => exact List.Perm.refl _
  | cons hshow _ ih =>
    rw [List.flatMap_cons, allItems, List.flatMap_cons, List.map_append]
    exact hshow.merged.append ih

theorem exists_group_of_mem {groups : List (String × List WorkbenchCandidateReviewItem)}
    {candidates : List WorkbenchFinalTopCandidate} {candidate : WorkbenchFinalTopCandidate}
    (h : List.Forall₂ Shows groups candidates) (hmem : candidate ∈ candidates) :
    ∃ group ∈ groups, Shows group candidate := Loops.exists_left h hmem

def withRanks (candidates : List WorkbenchFinalTopCandidate) : List WorkbenchFinalTopCandidate :=
  candidates.mapIdx fun index item => { item with rank := index + 1 }

section WithRanks

variable {candidates : List WorkbenchFinalTopCandidate}

theorem map_rank_withRanks : (withRanks candidates).map (·.rank) =
    List.range' 1 candidates.length := by
  apply List.ext_getElem
  · simp [withRanks]
  · intro index hleft hright
    simp [withRanks, Nat.add_comm]

theorem map_withRanks {β : Type} {f : WorkbenchFinalTopCandidate → β}
    (hf : ∀ candidate rank, f { candidate with rank := rank } = f candidate) :
    (withRanks candidates).map f = candidates.map f := by
  apply List.ext_getElem
  · simp [withRanks]
  · intro index hleft hright
    simp [withRanks, hf]

end WithRanks

/-- **The final top candidates.** The groups are the connected components of the items under the
    sharing of an identity key, and each item is in one of them. If there is room for all groups,
    the merged ids are those of the items, and the candidates are ranked from one by the best score
    of their group. -/
theorem finalTop_spec (tables : Py.UnicodeTables) (digit : Char → Nat) (sha256 : String → String)
    (items : List WorkbenchCandidateReviewItem) :
    (∀ u ∈ items, ∀ v ∈ items,
      (∃ group ∈ (groupItems (identityKeys tables) items).groups, u ∈ group.2 ∧ v ∈ group.2) ↔
        Connected {item | item ∈ items} (keySet (identityKeys tables)) u v) ∧
    (∀ item ∈ items, ∃! group,
      group ∈ (groupItems (identityKeys tables) items).groups ∧ item ∈ group.2) ∧
    ∀ limit, (groupItems (identityKeys tables) items).groups.length ≤ limit →
      ∃ result, projectFinalTopCandidates tables digit sha256 items limit = some result ∧
        (result.flatMap (·.mergedReviewItemIds)).Perm (items.map (·.reviewItemId)) ∧
        result.map (·.rank) =
          List.range' 1 (groupItems (identityKeys tables) items).groups.length ∧
        (result.Pairwise fun a b => scoreOf b.aggregateScore ≤ scoreOf a.aggregateScore) ∧
        ∀ candidate ∈ result, ∃ group ∈ (groupItems (identityKeys tables) items).groups,
          Shows group candidate := by
  have hne := identityKeys_ne_nil tables
  have hsound := sound_groupItems hne items
  refine ⟨fun u hu v hv => inOneGroup_iff hne items hu hv,
    fun item hitem => existsUnique_group hne items hitem, ?_⟩
  intro limit hlimit
  obtain ⟨candidates, hmap, hshows⟩ := @exists_mapM_projectGroup tables digit sha256
    (groupItems (identityKeys tables) items).groups hsound.nonempty
  have hperm : (ranked candidates).Perm candidates := List.perm_insertionSort _ _
  have hlength : (ranked candidates).length =
      (groupItems (identityKeys tables) items).groups.length := by
    rw [hperm.length_eq, hshows.length_eq]
  have htake : (ranked candidates).take limit = ranked candidates :=
    List.take_of_length_le (by omega)
  refine ⟨withRanks (ranked candidates), ?_, ?_, ?_, ?_, ?_⟩
  · simp [projectFinalTopCandidates, hmap, htake, withRanks]
  · have hmerged : (withRanks (ranked candidates)).flatMap (·.mergedReviewItemIds) =
        (ranked candidates).flatMap (·.mergedReviewItemIds) := by
      rw [List.flatMap_def, List.flatMap_def, map_withRanks fun _ _ => rfl]
    rw [hmerged]
    refine (hperm.flatMap_right _).trans ((flatMap_merged hshows).trans ?_)
    exact hsound.items.map _
  · rw [map_rank_withRanks, hlength]
  · have hscores : ((ranked candidates).map fun candidate : WorkbenchFinalTopCandidate =>
        scoreOf candidate.aggregateScore).Pairwise fun x y => y ≤ x :=
      List.pairwise_map.mpr (pairwise_ranked candidates)
    rw [← map_withRanks fun _ _ => rfl] at hscores
    exact List.pairwise_map.mp hscores
  · intro candidate hcandidate
    obtain ⟨index, hindex, rfl⟩ := List.mem_mapIdx.mp hcandidate
    obtain ⟨group, hgroup, hshow⟩ :=
      exists_group_of_mem hshows (hperm.mem_iff.mp (List.getElem_mem hindex))
    exact ⟨group, hgroup, hshow.merged, hshow.best⟩

end Shown

end FinalTop

end SeekTalent

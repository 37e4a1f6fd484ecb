import Mathlib.Data.List.Dedup
import Mathlib.Data.List.Pairwise
import Mathlib.Tactic.Linarith
import Mathlib.Tactic.NormNum
import SeekTalent.Graph.Layout

/-!
# Nodes that do not overlap

A node that is moved down passes every rectangle that was placed before in two turns at most, so the
loop ends (`moveDown_spec`), and what it places overlaps nothing. The anchors come first and are not
tested: in the end two nodes can only overlap if both are anchors, and they do where both start
nodes are there, or a start node and the final shortlist in a narrow graph without a workflow
(`stackLanePositions_apart_iff`).
-/

namespace SeekTalent

namespace StrategyGraph

variable {nodes : List RecruiterGraphNode} {node other : RecruiterGraphNode}
variable {positions separated : Positions} {placed : List GraphPosition}
variable {bounds : GraphBounds} {id : String} {p q : GraphPosition}

/-! ## 1. Maps -/

theorem get_set (position : GraphPosition) {id' : String} :
    (positions.set id position).get id' = if id = id' then some position else positions.get id' := by
  unfold Positions.get Positions.set
  rw [Keyed.lookup_put]
  split
  · rfl
  · rfl

theorem rows_set (h : id ∉ positions.rows.map (·.1)) (position : GraphPosition) :
    (positions.set id position).rows = positions.rows ++ [(id, position)] := if_neg h

theorem get_eq_some_iff : positions.get id = some p ↔ (id, p) ∈ positions.rows := by
  unfold Positions.get
  rw [Option.map_eq_some_iff]
  constructor
  · intro h
    obtain ⟨entry, hentry, rfl⟩ := h
    obtain ⟨hmem, rfl⟩ := Keyed.lookup_eq_some_iff.mp hentry
    exact hmem
  · intro h
    exact ⟨(id, p), Keyed.lookup_eq_some_iff.mpr ⟨h, rfl⟩, rfl⟩

theorem get_foldl_set {f : RecruiterGraphNode → GraphPosition} (hids : (nodes.map (·.id)).Nodup)
    (hnode : node ∈ nodes) (positions : Positions) :
    (nodes.foldl (fun (positions : Positions) node => positions.set node.id (f node)) positions).get
      node.id = some (f node) := by
  have hkeep : ∀ (rest : List RecruiterGraphNode) (positions : Positions),
      node.id ∉ rest.map (·.id) →
        (rest.foldl (fun (positions : Positions) node => positions.set node.id (f node))
          positions).get node.id = positions.get node.id := by
    intro rest
    induction rest with
    | nil => exact fun _ _ => rfl
    | cons first rest ih =>
      intro positions hnot
      obtain ⟨hfirst, hrest⟩ := not_or.mp (mt List.mem_cons.mpr hnot)
      rw [List.foldl_cons, ih _ hrest, get_set, if_neg (Ne.symm hfirst)]
  induction nodes generalizing positions with
  | nil => cases hnode
  | cons first nodes ih =>
    obtain ⟨hnot, hids⟩ := List.nodup_cons.mp hids
    rw [List.foldl_cons]
    rcases List.mem_cons.mp hnode with rfl | hnode
    · rw [hkeep nodes _ hnot, get_set, if_pos rfl]
    · exact ih hids hnode _

/-! ## 2. The loop -/

theorem rectanglesOverlap_comm : rectanglesOverlap p q = rectanglesOverlap q p := by
  unfold rectanglesOverlap
  apply decide_eq_decide.mpr
  constructor
  · rintro ⟨h1, h2, h3, h4⟩
    exact ⟨h2, h1, h4, h3⟩
  · rintro ⟨h1, h2, h3, h4⟩
    exact ⟨h2, h1, h4, h3⟩

theorem countP_lt {α : Type} {f g : α → Bool} {items : List α} {item : α} (hmem : item ∈ items)
    (himp : ∀ x ∈ items, f x = true → g x = true) (hf : f item = false) (hg : g item = true) :
    items.countP f < items.countP g := by
  obtain ⟨before, rest, rfl⟩ := List.append_of_mem hmem
  obtain ⟨hbefore, hrest⟩ := List.forall_mem_append.mp himp
  have h1 := List.countP_mono_left hbefore
  have h2 := List.countP_mono_left (List.forall_mem_cons.mp hrest).2
  rw [List.countP_append, List.countP_append, List.countP_cons_of_neg (by simp [hf]),
    List.countP_cons_of_pos hg]
  omega

/-- The turns that the loop may still take: a rectangle is passed in two of them. -/
def turnsLeft (placed : List GraphPosition) (position : GraphPosition) : Nat :=
  placed.countP (fun other => decide (position.y < other.y + nodeHeight)) +
    placed.countP fun other =>
      decide (position.y + nodeHeight + collisionGap < other.y + nodeHeight)

theorem turnsLeft_le (placed : List GraphPosition) (position : GraphPosition) :
    turnsLeft placed position ≤ 2 * placed.length := by
  have hall : ∀ f : GraphPosition → Bool, placed.countP f ≤ placed.length := fun _ =>
    List.countP_le_length
  unfold turnsLeft
  exact (Nat.add_le_add (hall _) (hall _)).trans_eq (Nat.two_mul _).symm

theorem turnsLeft_lt (hhit : q ∈ placed) (h : rectanglesOverlap p q = true) :
    turnsLeft placed { p with y := p.y + nodeHeight + collisionGap } < turnsLeft placed p := by
  obtain ⟨-, -, hbelow, habove⟩ := of_decide_eq_true h
  have hlt : placed.countP (fun other => decide
      (p.y + nodeHeight + collisionGap + nodeHeight + collisionGap < other.y + nodeHeight)) <
        placed.countP fun other => decide (p.y < other.y + nodeHeight) := by
    apply countP_lt hhit
    · intro other _ hother
      have hother := of_decide_eq_true hother
      apply decide_eq_true
      simp only [nodeHeight, collisionGap] at hother ⊢
      linarith
    · apply decide_eq_false
      simp only [nodeHeight, collisionGap] at habove ⊢
      linarith
    · exact decide_eq_true hbelow
  unfold turnsLeft
  dsimp only
  omega

/-- **The loop ends**, with a rectangle that overlaps none of those that are placed. -/
theorem moveDown_spec (placed : List GraphPosition) (p : GraphPosition) :
    ∃ q, (∀ turns, 2 * placed.length < turns → moveDown placed turns p = some q) ∧
      ∀ other ∈ placed, rectanglesOverlap q other = false := by
  have hmoves : ∀ left p, turnsLeft placed p ≤ left →
      ∃ q, (∀ turns, left < turns → moveDown placed turns p = some q) ∧
        ∀ other ∈ placed, rectanglesOverlap q other = false := by
    intro left
    induction left with
    | zero =>
      intro p hleft
      have hfree : placed.any (rectanglesOverlap p) = false := by
        rw [List.any_eq_false]
        intro other hother hhit
        exact absurd (turnsLeft_lt hother hhit) (by omega)
      refine ⟨p, fun turns hturns => ?_, fun other hother => ?_⟩
      · obtain ⟨turns, rfl⟩ : ∃ n, turns = n + 1 := ⟨turns - 1, by omega⟩
        rw [moveDown, hfree, if_neg Bool.false_ne_true]
      · simpa using List.any_eq_false.mp hfree other hother
    | succ left ih =>
      intro p hleft
      cases hhit : placed.any (rectanglesOverlap p) with
      | true =>
        obtain ⟨other, hother, hoverlap⟩ := List.any_eq_true.mp hhit
        have hnext := turnsLeft_lt hother hoverlap
        obtain ⟨q, hq, hfree⟩ := ih { p with y := p.y + nodeHeight + collisionGap } (by omega)
        refine ⟨q, fun turns hturns => ?_, hfree⟩
        obtain ⟨turns, rfl⟩ : ∃ n, turns = n + 1 := ⟨turns - 1, by omega⟩
        rw [moveDown, hhit, if_pos rfl]
        exact hq turns (by omega)
      | false =>
        refine ⟨p, fun turns hturns => ?_, fun other hother => ?_⟩
        · obtain ⟨turns, rfl⟩ : ∃ n, turns = n + 1 := ⟨turns - 1, by omega⟩
          rw [moveDown, hhit, if_neg Bool.false_ne_true]
        · simpa using List.any_eq_false.mp hhit other hother
  obtain ⟨q, hq, hfree⟩ := hmoves _ p (turnsLeft_le placed p)
  exact ⟨q, hq, hfree⟩

/-! ## 3. The order -/

/-- **Anchors come first.** -/
theorem anchors_first (positions : Positions) (nodes : List RecruiterGraphNode) :
    (nodes.mergeSort fun left right => sortKey positions left ≤ sortKey positions right).Pairwise
      fun node other => isAnchorNode other = true → isAnchorNode node = true := by
  have hsorted := @List.pairwise_mergeSort _
    (fun left right => decide (sortKey positions left ≤ sortKey positions right))
    (fun a b c hab hbc => decide_eq_true ((of_decide_eq_true hab).trans (of_decide_eq_true hbc)))
    (fun a b => by simpa using le_total (sortKey positions a) (sortKey positions b)) nodes
  apply hsorted.imp
  intro node other h hother
  rcases Prod.Lex.le_iff.mp (of_decide_eq_true h) with hlt | ⟨hsame, -⟩
  · exact absurd hlt (by simp [sortKey, hother])
  · simpa [sortKey, hother] using hsame

/-! ## 4. One node after the other -/

structure Placed (positions : Positions) (before : List RecruiterGraphNode)
    (separated : Positions) : Prop where
  ids : separated.rows.map (·.1) = before.map (·.id)
  anchors : ∀ node ∈ before, isAnchorNode node = true →
    separated.get node.id = positions.get node.id
  apart : separated.rows.Pairwise fun a b =>
    rectanglesOverlap a.2 b.2 = true → isAnchorId a.1 = true ∧ isAnchorId b.1 = true

theorem Placed.place {before : List RecruiterGraphNode}
    (h : Placed positions before separated) (hnew : node.id ∉ before.map (·.id))
    (hget : positions.get node.id = some p)
    (hfirst : ∀ other ∈ before, isAnchorNode node = true → isAnchorNode other = true) :
    ∃ after, (∀ turns, 2 * before.length < turns →
        placeNode turns positions separated node = some after) ∧
      Placed positions (before ++ [node]) after := by
  have hnot : node.id ∉ separated.rows.map (·.1) := h.ids ▸ hnew
  have hset : ∀ position : GraphPosition,
      (isAnchorNode node = true → position = p) →
      (∀ entry ∈ separated.rows, rectanglesOverlap entry.2 position = true →
        isAnchorId entry.1 = true ∧ isAnchorNode node = true) →
      Placed positions (before ++ [node]) (separated.set node.id position) := by
    intro position hanchor hapart
    refine ⟨?_, ?_, ?_⟩
    · rw [rows_set hnot, List.map_append, List.map_append, h.ids]
      rfl
    · intro other hother hotherAnchor
      rw [get_set]
      rcases List.mem_append.mp hother with hother | hother
      · rw [if_neg fun hid => hnew (List.mem_map.mpr ⟨other, hother, hid.symm⟩)]
        exact h.anchors other hother hotherAnchor
      · obtain rfl := List.mem_singleton.mp hother
        rw [if_pos rfl, hget, hanchor hotherAnchor]
    · rw [rows_set hnot]
      refine List.pairwise_append.mpr ⟨h.apart, List.pairwise_singleton _ _, ?_⟩
      intro entry hentry last hlast
      obtain rfl := List.mem_singleton.mp hlast
      exact hapart entry hentry
  unfold placeNode
  rw [hget]
  dsimp only
  by_cases hanchor : isAnchorNode node = true
  · refine ⟨_, fun _ _ => if_pos hanchor, hset p (fun _ => rfl) fun entry hentry _ => ⟨?_, hanchor⟩⟩
    have hmem : entry.1 ∈ before.map (·.id) := h.ids ▸ List.mem_map_of_mem hentry
    obtain ⟨other, hother, hid⟩ := List.mem_map.mp hmem
    rw [← hid]
    exact hfirst other hother hanchor
  · obtain ⟨q, hq, hfree⟩ := moveDown_spec (separated.rows.map (·.2)) p
    have hlength : separated.rows.length = before.length := by
      have hboth := congrArg List.length h.ids
      simpa using hboth
    rw [List.length_map, hlength] at hq
    refine ⟨separated.set node.id q, fun turns hturns => ?_,
      hset q (fun h => absurd h hanchor) fun entry hentry hoverlap => ?_⟩
    · rw [if_neg hanchor, hq turns hturns]
      rfl
    · rw [rectanglesOverlap_comm, hfree entry.2 (List.mem_map_of_mem hentry)] at hoverlap
      cases hoverlap

/-- **All nodes are placed.** -/
theorem Placed.placeAll {before after : List RecruiterGraphNode}
    (h : Placed positions before separated) (hids : ((before ++ after).map (·.id)).Nodup)
    (hget : ∀ node ∈ after, ∃ p, positions.get node.id = some p)
    (hfirst : (before ++ after).Pairwise
      fun node other => isAnchorNode other = true → isAnchorNode node = true) :
    ∃ final, (∀ turns, 2 * (before ++ after).length < turns →
        after.foldlM (placeNode turns positions) separated = some final) ∧
      Placed positions (before ++ after) final := by
  induction after generalizing before separated with
  | nil => exact ⟨separated, fun _ _ => rfl, by rwa [List.append_nil]⟩
  | cons node after ih =>
    obtain ⟨⟨p, hp⟩, hget⟩ := List.forall_mem_cons.mp hget
    have hnew : node.id ∉ before.map (·.id) := by
      rw [List.map_append] at hids
      intro hmem
      exact (List.nodup_append.mp hids).2.2 _ hmem _ (by simp) rfl
    have hanchors := (List.pairwise_append.mp hfirst).2.2
    obtain ⟨next, hnext, hplaced⟩ := h.place hnew hp
      fun other hother => hanchors other hother node List.mem_cons_self
    rw [List.append_cons] at hids hfirst ⊢
    obtain ⟨final, hfinal, hall⟩ := ih hplaced hids hget hfirst
    refine ⟨final, fun turns hturns => ?_, hall⟩
    rw [List.foldlM_cons, hnext turns (by simp only [List.length_append] at hturns; omega)]
    exact hfinal turns hturns

/-! ## 5. The anchors -/

variable {rawPositions : Positions}

theorem businessWorkflowLayout_of_none (h : nodes.any isBusinessWorkflowNode = false) :
    businessWorkflowLayout nodes bounds = {} := by
  have hround : ∀ node ∈ nodes, ctsRoundNo node.id = none := by
    intro node hnode
    have hcolumn : stageColumn node = none := by
      simpa [isBusinessWorkflowNode] using List.any_eq_false.mp h node hnode
    unfold ctsRoundNo
    cases hfound : ctsRound node.id with
    | none => rfl
    | some round =>
      have hstage : round.2 ∈ [Column.query, .result, .score, .reflect] := by
        unfold ctsRound at hfound
        obtain ⟨rest, -, hfound⟩ := Option.bind_eq_some_iff.mp hfound
        obtain ⟨stage, hstage, hfound⟩ := Option.bind_eq_some_iff.mp hfound
        split at hfound
        · cases hfound
        · rw [← Option.some.inj hfound]
          unfold roundStage at hstage
          split_ifs at hstage <;> (obtain rfl := Option.some.inj hstage; simp)
      unfold stageColumn at hcolumn
      simp only [List.mem_cons, List.not_mem_nil, or_false] at hstage
      rcases hstage with hstage | hstage | hstage | hstage
      all_goals
        simp only [hfound, Option.map_some, hstage, true_or, if_true] at hcolumn
        split_ifs at hcolumn
  have hrounds : nodes.filterMap (fun node => ctsRoundNo node.id) = [] :=
    List.filterMap_eq_nil_iff.mpr hround
  unfold businessWorkflowLayout ctsRoundNumbers
  dsimp only
  rw [hrounds, List.dedup_nil, h, if_pos (by simp)]

theorem get_businessWorkflowLayout (h : nodes.any isBusinessWorkflowNode = true)
    (hfinal : ∃ node ∈ nodes, node.id = finalShortlistId) :
    ∃ p, (businessWorkflowLayout nodes bounds).get finalShortlistId = some p ∧
      p.x = columnX .final := by
  have hany : nodes.any (fun node => decide (node.id = finalShortlistId)) = true := by
    simpa using hfinal
  unfold businessWorkflowLayout
  dsimp only
  rw [if_neg (by simp [h]), if_pos hany, get_set, if_pos rfl]
  exact ⟨_, rfl, rfl⟩

theorem lanePosition_start (h : node.id ∈ startNodeIds) :
    lanePosition rawPositions nodes bounds node =
      { x := graphInset, y := verticalCenter bounds } := by
  have hfinal : node.id ≠ finalShortlistId := by
    rintro heq
    rw [heq] at h
    exact absurd h (by decide)
  unfold lanePosition anchorNodePosition
  dsimp only
  rw [if_neg hfinal, if_pos h]
  rfl

theorem overlap_final_iff (hstart : node.id ∈ startNodeIds) (hother : other ∈ nodes)
    (hfinal : other.id = finalShortlistId) :
    rectanglesOverlap (lanePosition rawPositions nodes bounds node)
        (lanePosition rawPositions nodes bounds other) = true ↔
      nodes.any isBusinessWorkflowNode = false ∧
        bounds.width < 2 * (nodeWidth + graphInset) := by
  rw [lanePosition_start hstart]
  unfold rectanglesOverlap
  rw [decide_eq_true_eq]
  cases h : nodes.any isBusinessWorkflowNode with
  | true =>
    obtain ⟨p, hp, hx⟩ := @get_businessWorkflowLayout nodes bounds h ⟨other, hother, hfinal⟩
    have hplace : lanePosition rawPositions nodes bounds other = p := by
      unfold lanePosition
      dsimp only
      rw [if_pos hfinal, hfinal, hp]
      rfl
    rw [hplace, hx]
    constructor
    · rintro ⟨-, hleft, -⟩
      simp only [columnX, Column.stage, graphInset, nodeWidth, businessColumnGap] at hleft
      norm_num at hleft
    · rintro ⟨hnone, -⟩
      cases hnone
  | false =>
    have hplace : lanePosition rawPositions nodes bounds other =
        { x := max graphInset (bounds.width - nodeWidth - graphInset)
          y := verticalCenter bounds } := by
      have hstartId : finalShortlistId ∉ startNodeIds := by decide
      unfold lanePosition anchorNodePosition rightX
      dsimp only
      rw [businessWorkflowLayout_of_none h, if_pos hfinal, hfinal, if_neg hstartId, if_pos rfl]
      simp [Positions.get, Keyed.lookup, Table.lookup]
    rw [hplace]
    simp only [graphInset, nodeWidth, nodeHeight, true_and]
    constructor
    · rintro ⟨-, hleft, -⟩
      have := (max_lt_iff.mp hleft).2
      linarith
    · intro hwidth
      refine ⟨?_, ?_, by linarith, by linarith⟩
      · have := le_max_left (34 : ℚ) (bounds.width - 212 - 34)
        linarith
      · apply max_lt
        · norm_num
        · linarith

/-- The anchors that get one place: both start nodes, or a start node and the final shortlist. -/
def AnchorsCollide (nodes : List RecruiterGraphNode) (bounds : GraphBounds) : Prop :=
  (∀ id ∈ startNodeIds, ∃ node ∈ nodes, node.id = id) ∨
    (∃ node ∈ nodes, node.id ∈ startNodeIds) ∧ (∃ node ∈ nodes, node.id = finalShortlistId) ∧
      nodes.any isBusinessWorkflowNode = false ∧ bounds.width < 2 * (nodeWidth + graphInset)

theorem anchorsCollide_iff :
    AnchorsCollide nodes bounds ↔
      ∃ node ∈ nodes, ∃ other ∈ nodes, node.id ≠ other.id ∧ isAnchorNode node = true ∧
        isAnchorNode other = true ∧
          rectanglesOverlap (lanePosition rawPositions nodes bounds node)
            (lanePosition rawPositions nodes bounds other) = true := by
  have hanchor : ∀ node : RecruiterGraphNode, isAnchorNode node = true ↔
      node.id ∈ startNodeIds ∨ node.id = finalShortlistId := fun _ => decide_eq_true_iff
  constructor
  · rintro (hboth | ⟨⟨node, hnode, hstart⟩, ⟨other, hother, hfinal⟩, hnone, hwidth⟩)
    · obtain ⟨node, hnode, hid⟩ := hboth "start" (by decide)
      obtain ⟨other, hother, hid'⟩ := hboth "job" (by decide)
      have hstart : node.id ∈ startNodeIds := by rw [hid]; decide
      have hstart' : other.id ∈ startNodeIds := by rw [hid']; decide
      refine ⟨node, hnode, other, hother, by rw [hid, hid']; decide, (hanchor _).mpr (.inl hstart),
        (hanchor _).mpr (.inl hstart'), ?_⟩
      rw [lanePosition_start hstart, lanePosition_start hstart']
      simp [rectanglesOverlap, nodeWidth, nodeHeight]
    · refine ⟨node, hnode, other, hother, ?_, (hanchor _).mpr (.inl hstart),
        (hanchor _).mpr (.inr hfinal), (overlap_final_iff hstart hother hfinal).mpr ⟨hnone, hwidth⟩⟩
      rw [hfinal]
      rintro heq
      rw [heq] at hstart
      exact absurd hstart (by decide)
  · rintro ⟨node, hnode, other, hother, hne, hnodeAnchor, hotherAnchor, hoverlap⟩
    rcases (hanchor node).mp hnodeAnchor with hstart | hfinal
    · rcases (hanchor other).mp hotherAnchor with hstart' | hfinal
      · left
        intro id hid
        simp only [startNodeIds, List.mem_cons, List.not_mem_nil, or_false] at hid hstart hstart'
        rcases hid with rfl | rfl
        · rcases hstart with hid | hid
          · exact ⟨node, hnode, hid⟩
          · exact ⟨other, hother, hstart'.resolve_right fun h => hne (hid.trans h.symm)⟩
        · rcases hstart with hid | hid
          · exact ⟨other, hother, hstart'.resolve_left fun h => hne (hid.trans h.symm)⟩
          · exact ⟨node, hnode, hid⟩
      · right
        exact ⟨⟨node, hnode, hstart⟩, ⟨other, hother, hfinal⟩,
          (overlap_final_iff hstart hother hfinal).mp hoverlap⟩
    · rcases (hanchor other).mp hotherAnchor with hstart | hfinal'
      · right
        rw [rectanglesOverlap_comm] at hoverlap
        exact ⟨⟨other, hother, hstart⟩, ⟨node, hnode, hfinal⟩,
          (overlap_final_iff hstart hnode hfinal).mp hoverlap⟩
      · exact absurd (hfinal.trans hfinal'.symm) hne

/-! ## 6. The layout -/

/-- Different nodes have rectangles that do not overlap. -/
def NodesApart (nodes : List RecruiterGraphNode) (positions : Positions) : Prop :=
  ∀ node ∈ nodes, ∀ other ∈ nodes, node.id ≠ other.id →
    ∀ p ∈ positions.get node.id, ∀ q ∈ positions.get other.id, rectanglesOverlap p q = false

theorem stackLanePositions_spec (rawPositions : Positions) (bounds : GraphBounds)
    (hids : (nodes.map (·.id)).Nodup) :
    ∃ positions : Positions,
      (∀ turns, 2 * nodes.length < turns →
        stackLanePositions turns rawPositions nodes bounds = some positions) ∧
      (∀ node ∈ nodes, (positions.get node.id).isSome) ∧
      (NodesApart nodes positions ↔ ¬∃ node ∈ nodes, ∃ other ∈ nodes, node.id ≠ other.id ∧
        isAnchorNode node = true ∧ isAnchorNode other = true ∧
          rectanglesOverlap (lanePosition rawPositions nodes bounds node)
            (lanePosition rawPositions nodes bounds other) = true) := by
  unfold stackLanePositions separateOverlappingNodes
  generalize hlanes : nodes.foldl
    (fun (positions : Positions) node =>
      positions.set node.id (lanePosition rawPositions nodes bounds node)) ({} : Positions) = lanes
  have hget : ∀ node ∈ nodes,
      lanes.get node.id = some (lanePosition rawPositions nodes bounds node) := by
    intro node hnode
    rw [← hlanes]
    exact get_foldl_set hids hnode {}
  have hperm := List.mergeSort_perm nodes fun left right =>
    decide (sortKey lanes left ≤ sortKey lanes right)
  have hempty : Placed lanes [] {} := by
    refine ⟨rfl, fun node hnode => ?_, List.Pairwise.nil⟩
    cases hnode
  obtain ⟨final, hfinal, hplaced⟩ := hempty.placeAll
    (by rw [List.nil_append]; exact (hperm.map _).nodup_iff.mpr hids)
    (fun node hnode => ⟨_, hget node (hperm.mem_iff.mp hnode)⟩) (anchors_first lanes nodes)
  rw [List.nil_append] at hfinal hplaced
  rw [hperm.length_eq] at hfinal
  refine ⟨final, hfinal, fun node hnode => ?_, ?_⟩
  · have hmem : node.id ∈ final.rows.map (·.1) := by
      rw [hplaced.ids]
      exact List.mem_map_of_mem (hperm.mem_iff.mpr hnode)
    obtain ⟨entry, hentry, hid⟩ := List.mem_map.mp hmem
    rw [← hid, get_eq_some_iff.mpr hentry]
    rfl
  · have hanchors : ∀ node ∈ nodes, isAnchorNode node = true →
        final.get node.id = some (lanePosition rawPositions nodes bounds node) := fun node hnode h =>
      (hplaced.anchors node (hperm.mem_iff.mpr hnode) h).trans (hget node hnode)
    constructor
    · rintro hapart ⟨node, hnode, other, hother, hne, hnodeAnchor, hotherAnchor, hoverlap⟩
      have hfree := hapart node hnode other hother hne _ (hanchors node hnode hnodeAnchor) _
        (hanchors other hother hotherAnchor)
      rw [hoverlap] at hfree
      cases hfree
    · intro hnone node hnode other hother hne p hp q hq
      by_contra hoverlap
      have hoverlap : rectanglesOverlap p q = true := by simpa using hoverlap
      have hsymm : Std.Symm fun a b : String × GraphPosition =>
          rectanglesOverlap a.2 b.2 = true → isAnchorId a.1 = true ∧ isAnchorId b.1 = true :=
        ⟨fun a b h hoverlap => (h (rectanglesOverlap_comm.trans hoverlap)).symm⟩
      have hboth := hplaced.apart.forall (get_eq_some_iff.mp hp) (get_eq_some_iff.mp hq)
        (fun h => hne (congrArg Prod.fst h)) hoverlap
      apply hnone
      refine ⟨node, hnode, other, hother, hne, hboth.1, hboth.2, ?_⟩
      rw [Option.some.inj ((hanchors node hnode hboth.1).symm.trans hp),
        Option.some.inj ((hanchors other hother hboth.2).symm.trans hq)]
      exact hoverlap

/-- **The layout ends, with a position for each node**, whatever the raw positions and the bounds;
    and the nodes do not overlap if and only if the anchors do not collide. -/
theorem stackLanePositions_apart_iff (rawPositions : Positions) (nodes : List RecruiterGraphNode)
    (bounds : GraphBounds) (hids : (nodes.map (·.id)).Nodup) :
    ∃ positions : Positions,
      (∀ turns, 2 * nodes.length < turns →
        stackLanePositions turns rawPositions nodes bounds = some positions) ∧
      (∀ node ∈ nodes, (positions.get node.id).isSome) ∧
      (NodesApart nodes positions ↔ ¬AnchorsCollide nodes bounds) := by
  obtain ⟨positions, hends, hall, hapart⟩ := stackLanePositions_spec rawPositions bounds hids
  exact ⟨positions, hends, hall, hapart.trans (not_congr anchorsCollide_iff.symm)⟩

def roundNodes : List RecruiterGraphNode :=
  [{ id := "job" }, { id := "cts-round-1-query", lane := some .cts },
    { id := "final-shortlist" }]

theorem roundNodes_apart : ∃ positions : Positions,
    (∀ turns, 6 < turns →
      stackLanePositions turns {} roundNodes { width := 390, height := 800 } = some positions) ∧
    NodesApart roundNodes positions := by
  obtain ⟨positions, hpositions, -, hapart⟩ :=
    stackLanePositions_apart_iff {} roundNodes { width := 390, height := 800 } (by decide)
  have hnone : roundNodes.any isBusinessWorkflowNode = true := by decide
  refine ⟨positions, hpositions, hapart.mpr ?_⟩
  rintro (hboth | ⟨-, -, hany, -⟩)
  · obtain ⟨node, hnode, hid⟩ := hboth "start" (by decide)
    have hall : ∀ node ∈ roundNodes, node.id ≠ "start" := by decide
    exact hall node hnode hid
  · rw [hnone] at hany
    cases hany

def firstNodes : List RecruiterGraphNode := [{ id := "job" }, { id := "final-shortlist" }]

/-- On a narrow screen its two nodes have one place. -/
theorem firstNodes_overlap : ∃ positions : Positions,
    (∀ turns, 4 < turns →
      stackLanePositions turns {} firstNodes { width := 390, height := 800 } = some positions) ∧
    ¬NodesApart firstNodes positions := by
  obtain ⟨positions, hends, -, hapart⟩ :=
    @stackLanePositions_spec firstNodes {} { width := 390, height := 800 } (by decide)
  refine ⟨positions, hends, fun h => hapart.mp h ?_⟩
  refine anchorsCollide_iff.mp (.inr ⟨⟨_, List.mem_cons_self, by decide⟩,
    ⟨_, List.mem_cons_of_mem _ (List.mem_singleton_self _), rfl⟩, by decide, ?_⟩)
  norm_num [nodeWidth, graphInset]

end StrategyGraph

end SeekTalent

import Mathlib.Algebra.Order.Field.Rat
import Mathlib.Data.Prod.Lex
import SeekTalent.Base.Table

/-!
# The layout of the strategy graph

`stackLanePositions` gives each node a place by its column, its lane or its raw position, and then
moves the nodes down, one after the other, until none overlaps a node that was placed before. The
nodes of the start and of the final shortlist are anchors: they are placed first, and not moved.
Numbers are exact.
-/

namespace SeekTalent

namespace StrategyGraph

/-! ## 1. Nodes and positions -/

inductive RecruiterLane
  | shared
  | cts
  | liepin
  deriving DecidableEq

structure RecruiterGraphNode where
  id : String
  lane : Option RecruiterLane := none
  x : ℚ := 0
  y : ℚ := 0

structure GraphPosition where
  x : ℚ
  y : ℚ

structure GraphBounds where
  width : ℚ
  height : ℚ

/-- `Map<string, GraphPosition>` -/
abbrev Positions := Keyed fun entry : String × GraphPosition => entry.1

def Positions.get (positions : Positions) (id : String) : Option GraphPosition :=
  (positions.lookup id).map (·.2)

def Positions.set (positions : Positions) (id : String) (position : GraphPosition) : Positions :=
  positions.put (id, position)

def nodeWidth : ℚ := 212
def nodeHeight : ℚ := 96
def graphInset : ℚ := 34
def businessColumnGap : ℚ := 42
def businessRowGap : ℚ := 28
def collisionGap : ℚ := 18

def laneYRatio : RecruiterLane → ℚ
  | .shared => 42 / 100
  | .cts => 22 / 100
  | .liepin => 62 / 100

def startNodeIds : List String := ["start", "job"]

def finalShortlistId : String := "final-shortlist"

def isAnchorId (id : String) : Bool := id ∈ startNodeIds ∨ id = finalShortlistId

def isAnchorNode (node : RecruiterGraphNode) : Bool := isAnchorId node.id

def rectanglesOverlap (left right : GraphPosition) : Bool :=
  left.x < right.x + nodeWidth ∧ left.x + nodeWidth > right.x ∧
    left.y < right.y + nodeHeight ∧ left.y + nodeHeight > right.y

/-! ## 2. The columns of the workflow -/

/-- The keys of `BUSINESS_STAGE_X` -/
inductive Column
  | start
  | requirements
  | queue
  | query
  | result
  | score
  | reflect
  | final
  deriving DecidableEq

def Column.stage : Column → ℚ
  | .start => 0
  | .requirements => 1
  | .queue => 2
  | .query => 3
  | .result => 4
  | .score => 5
  | .reflect => 6
  | .final => 7

def columnX (column : Column) : ℚ :=
  graphInset + (nodeWidth + businessColumnGap) * column.stage

def roundStage (text : String) : Option Column :=
  if text = "-query" then some .query else if text = "-result" then some .result
  else if text = "-score" then some .score else if text = "-reflect" then some .reflect else none

/-- `/^cts-round-(\d+)-(query|result|score|reflect)$/`: the round that an id names, and the stage. -/
def ctsRound (id : String) : Option (Nat × Column) := do
  let rest ← id.toList.dropPrefix? "cts-round-".toList
  let stage ← roundStage (String.ofList (rest.dropWhile Char.isDigit))
  if rest.takeWhile Char.isDigit = [] then none
  else some (Nat.ofDigitChars 10 (rest.takeWhile Char.isDigit) 0, stage)

def stageColumn (node : RecruiterGraphNode) : Option Column :=
  let stage := (ctsRound node.id).map (·.2)
  if node.id = "cts-source-start" ∨ node.id = "liepin-source-start" then some .queue
  else if stage = some .query then some .query
  else if stage = some .result ∨ node.id = "liepin-card-search" then some .result
  else if stage = some .score ∨ node.id = "liepin-card-candidates" then some .score
  else if stage = some .reflect ∨ node.id = "liepin-detail-approval" then some .reflect
  else none

def isBusinessWorkflowNode (node : RecruiterGraphNode) : Bool := (stageColumn node).isSome

def ctsRoundNo (id : String) : Option Nat := (ctsRound id).map (·.1)

/-- `uniqueSortedNumbers` of the rounds -/
def ctsRoundNumbers (nodes : List RecruiterGraphNode) : List Nat :=
  (nodes.filterMap fun node => ctsRoundNo node.id).dedup.mergeSort

/-- `ctsRows.get(roundNo)` -/
def ctsRow (rounds : List Nat) (roundNo : Nat) : Option ℚ :=
  (rounds.idxOf? roundNo).map fun index => graphInset + index * (nodeHeight + businessRowGap)

def verticalCenter (bounds : GraphBounds) : ℚ := max graphInset ((bounds.height - nodeHeight) / 2)

def stageRowY (node : RecruiterGraphNode) (rounds : List Nat) (ctsBaseY liepinY sharedY : ℚ) : ℚ :=
  if isAnchorNode node then sharedY
  else if node.lane = some .liepin then liepinY
  else
    match ctsRoundNo node.id with
    | some roundNo => (ctsRow rounds roundNo).getD ctsBaseY
    | none => if node.lane = some .cts then ctsBaseY else sharedY

def businessWorkflowLayout (nodes : List RecruiterGraphNode) (bounds : GraphBounds) : Positions :=
  let rounds := ctsRoundNumbers nodes
  if ¬(nodes.any isBusinessWorkflowNode ∨ 0 < rounds.length) then {}
  else
    let ctsBaseY := (ctsRow rounds (rounds.head?.getD 1)).getD graphInset
    let afterCtsY := graphInset + rounds.length * (nodeHeight + businessRowGap)
    let hasLiepinNodes := nodes.any fun node => node.lane = some .liepin
    let liepinY :=
      if hasLiepinNodes then max (afterCtsY + businessRowGap) (bounds.height * (62 / 100))
      else afterCtsY
    let sharedY := verticalCenter bounds
    let positions := nodes.foldl
      (fun (positions : Positions) node =>
        if node.id = "requirements" then
          positions.set node.id { x := columnX .requirements, y := sharedY }
        else
          match stageColumn node with
          | none => positions
          | some column =>
            positions.set node.id
              { x := columnX column, y := stageRowY node rounds ctsBaseY liepinY sharedY })
      ({} : Positions)
    if nodes.any fun node => node.id = finalShortlistId then
      let finalY :=
        match rounds.getLast? with
        | some lastCtsRound => (ctsRow rounds lastCtsRound).getD ctsBaseY
        | none => if hasLiepinNodes then liepinY else sharedY
      positions.set finalShortlistId { x := columnX .final, y := finalY }
    else positions

/-! ## 3. Places -/

def normalizePercent (value : ℚ) : ℚ := if value ≤ 1 then value else value / 100

def percentPosition (node : RecruiterGraphNode) (bounds : GraphBounds) : GraphPosition where
  x := normalizePercent node.x * max 0 (bounds.width - nodeWidth)
  y := normalizePercent node.y * max 0 (bounds.height - nodeHeight)

def clamp (value low high : ℚ) : ℚ := min (max value low) high

def anchorNodePosition (node : RecruiterGraphNode) (bounds : GraphBounds) (rightX : ℚ) :
    Option GraphPosition :=
  if node.id ∈ startNodeIds then some { x := graphInset, y := verticalCenter bounds }
  else if node.id = finalShortlistId then some { x := rightX, y := verticalCenter bounds }
  else none

def rightX (nodes : List RecruiterGraphNode) (bounds : GraphBounds) : ℚ :=
  let viewportRightX := max graphInset (bounds.width - nodeWidth - graphInset)
  max viewportRightX
    (if (businessWorkflowLayout nodes bounds).rows ≠ [] then columnX .final else viewportRightX)

def lanePosition (rawPositions : Positions) (nodes : List RecruiterGraphNode) (bounds : GraphBounds)
    (node : RecruiterGraphNode) : GraphPosition :=
  let hasMultipleSourceLanes :=
    (nodes.any fun node => node.lane = some .cts) && nodes.any fun node => node.lane = some .liepin
  let raw (node : RecruiterGraphNode) :=
    (rawPositions.get node.id).getD (percentPosition node bounds)
  let maxX := (nodes.map fun node => (raw node).x).foldl max 1
  let right := rightX nodes bounds
  let availableWidth := max 1 (right - graphInset)
  let maxY := max graphInset (bounds.height - nodeHeight - graphInset)
  let businessPosition := (businessWorkflowLayout nodes bounds).get node.id
  let final := if node.id = finalShortlistId then businessPosition else none
  match (final.or (anchorNodePosition node bounds right)).or businessPosition with
  | some position => position
  | none =>
    let scaledX :=
      if node.id = finalShortlistId then right
      else graphInset + (raw node).x / maxX * availableWidth
    let stackedY :=
      if hasMultipleSourceLanes then laneYRatio (node.lane.getD .shared) * bounds.height
      else (raw node).y
    { x := clamp scaledX graphInset right, y := clamp stackedY graphInset maxY }

/-- By what the nodes are ordered: anchors first, then from left to right and from the top down. -/
def sortKey (positions : Positions) (node : RecruiterGraphNode) : Bool ×ₗ ℚ ×ₗ ℚ :=
  let place := (positions.get node.id).getD { x := 0, y := 0 }
  toLex (!isAnchorNode node, toLex (place.x, place.y))

/-- The loop that moves a position down, with `none` for a loop that has not ended after so many
    turns. -/
def moveDown (placed : List GraphPosition) : Nat → GraphPosition → Option GraphPosition
  | 0, _ => none
  | turns + 1, position =>
    if placed.any (rectanglesOverlap position) then
      moveDown placed turns { position with y := position.y + nodeHeight + collisionGap }
    else some position

def placeNode (turns : Nat) (positions separated : Positions) (node : RecruiterGraphNode) :
    Option Positions :=
  match positions.get node.id with
  | none => some separated
  | some position =>
    if isAnchorNode node then some (separated.set node.id position)
    else
      (moveDown (separated.rows.map (·.2)) turns position).map fun nextPosition =>
        separated.set node.id nextPosition

def separateOverlappingNodes (turns : Nat) (positions : Positions)
    (nodes : List RecruiterGraphNode) : Option Positions :=
  (nodes.mergeSort fun left right => sortKey positions left ≤ sortKey positions right).foldlM
    (placeNode turns positions) ({} : Positions)

def stackLanePositions (turns : Nat) (rawPositions : Positions) (nodes : List RecruiterGraphNode)
    (bounds : GraphBounds) : Option Positions :=
  separateOverlappingNodes turns
    (nodes.foldl
      (fun (positions : Positions) node =>
        positions.set node.id (lanePosition rawPositions nodes bounds node))
      ({} : Positions)) nodes

end StrategyGraph

end SeekTalent

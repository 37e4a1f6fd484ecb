import Mathlib.Data.Prod.Lex
import SeekTalent.Base.PyText
import SeekTalent.Base.Regex
import SeekTalent.Models

/-!
# The final top candidates

The review items of a session are shown as candidates: items that share an identity key are one
person. The groups are made on the fly, in a dictionary from keys to groups; an item that touches
several groups merges them. Of each group one item is shown, and the groups are ranked by score.
-/

namespace SeekTalent

structure WorkbenchCandidateEvidence where
  evidenceId : String
  sourceRunId : String
  sourceKind : RuntimeSourceKind
  evidenceLevel : RuntimeEvidenceLevel
  providerCandidateKeyHash : String := ""
  runtimeIdentityId : Option String := none
  score : Option Int := none
  fitBucket : Option String := none

structure WorkbenchCandidateReviewItem where
  reviewItemId : String
  displayName : String
  title : String
  company : String
  location : String
  summary : String
  aggregateScore : Option Int := none
  fitBucket : Option String := none
  sourceBadges : List String := []
  evidenceLevel : RuntimeEvidenceLevel
  missingRisks : List String := []
  strengths : List String := []
  evidence : List WorkbenchCandidateEvidence := []
  updatedAt : String

structure WorkbenchFinalTopCandidateEvidence where
  evidenceId : String
  sourceRunId : String
  sourceKind : RuntimeSourceKind
  evidenceLevel : RuntimeEvidenceLevel
  score : Option Int
  fitBucket : Option String

structure WorkbenchFinalTopCandidate where
  reviewItemId : String
  runtimeIdentityId : String
  canonicalReviewItemId : String
  mergedReviewItemIds : List String
  rank : Nat
  displayName : String
  title : String
  company : String
  location : String
  summary : String
  aggregateScore : Option Int
  fitBucket : Option String
  sourceBadges : List String
  evidenceLevel : RuntimeEvidenceLevel
  sourceEvidence : List WorkbenchFinalTopCandidateEvidence

namespace FinalTop

/-! ## 1. Identity keys -/

def sourceKindText : RuntimeSourceKind → String
  | .cts => "cts"
  | .liepin => "liepin"

def evidenceRank : RuntimeEvidenceLevel → Nat
  | .card => 0
  | .detail => 1
  | .final => 2

def maskedNameExact : List String := ["", "-", "--", "匿名", "候选人", "未知", "保密"]

def currentMarkers : List String := ["至今", "现在", "目前", "present", "current", "now"]

section Keys

variable (tables : Py.UnicodeTables)

def normalizeIdentityText (value : String) : String := Py.foldedAlnum tables (Py.strip value)

/-- `候选人\d+` -/
def numberedCandidate : Regex :=
  .all [.text "候选人", .atLeast 1 (.char tables.isDecimal)]

/-- `_is_masked_name`; what its pattern of letters and stars matches has a star. -/
def isMaskedName (value : String) : Bool :=
  let text := Py.strip value
  normalizeIdentityText tables text ∈ maskedNameExact ||
    Py.contains text "*" || Py.contains text "某" ||
    ["先生", "女士", "小姐"].any (Py.endsWith text ·) ||
    (numberedCandidate tables).fullmatch text

/-- `workbench_candidate_field_identity_keys` -/
def fieldIdentityKeys (item : WorkbenchCandidateReviewItem) : List String :=
  let name := normalizeIdentityText tables item.displayName
  if name = "" ∨ isMaskedName tables item.displayName then []
  else
    let titleNorm := normalizeIdentityText tables item.title
    let companyNorm := normalizeIdentityText tables item.company
    let locationNorm := normalizeIdentityText tables item.location
    if titleNorm = "" ∨ companyNorm = "" ∨ locationNorm = "" then []
    else
      ["field:name-company-title-location:" ++ name ++ ":" ++ companyNorm ++ ":" ++ titleNorm ++
        ":" ++ locationNorm]

def identityKeys (item : WorkbenchCandidateReviewItem) : List String :=
  let runtimeIdentityIds := Py.sortedSet
    (item.evidence.filterMap fun evidence => evidence.runtimeIdentityId.filter (· ≠ ""))
  let providerHashes := Py.sortedSet
    ((item.evidence.filter fun evidence => evidence.providerCandidateKeyHash ≠ "").map
      fun evidence => toLex (sourceKindText evidence.sourceKind, evidence.providerCandidateKeyHash))
  match runtimeIdentityIds.map ("identity:" ++ ·) ++
      providerHashes.map (fun hash => "provider:" ++ (ofLex hash).1 ++ ":" ++ (ofLex hash).2) ++
      fieldIdentityKeys tables item with
  | [] => ["review:" ++ item.reviewItemId]
  | keys => keys

theorem identityKeys_ne_nil (item : WorkbenchCandidateReviewItem) :
    identityKeys tables item ≠ [] := by
  unfold identityKeys
  dsimp only
  split
  · exact List.cons_ne_nil _ _
  · rename_i hne
    exact hne

end Keys

/-! ## 2. Groups -/

/-- The groups made so far, in order, and the group that each key is with. -/
structure Grouping where
  groups : List (String × List WorkbenchCandidateReviewItem) := []
  keyToGroup : String → Option String := fun _ => none

/-- `groups[group_id].extend(items)` of a `defaultdict` -/
def extend (groups : List (String × List WorkbenchCandidateReviewItem)) (groupId : String)
    (items : List WorkbenchCandidateReviewItem) :
    List (String × List WorkbenchCandidateReviewItem) :=
  if groupId ∈ groups.map (·.1) then
    groups.map fun group => if group.1 = groupId then (group.1, group.2 ++ items) else group
  else groups ++ [(groupId, items)]

/-- What `groups.pop(group_id, [])` returns. -/
def popped (groups : List (String × List WorkbenchCandidateReviewItem)) (groupId : String) :
    List WorkbenchCandidateReviewItem :=
  ((groups.find? fun group => group.1 = groupId).map (·.2)).getD []

/-- What `groups.pop(group_id, [])` leaves. -/
def without (groups : List (String × List WorkbenchCandidateReviewItem)) (groupId : String) :
    List (String × List WorkbenchCandidateReviewItem) :=
  groups.filter fun group => group.1 ≠ groupId

/-- One turn of the loop over the old groups: the group `old` is merged into `groupId`. -/
def absorb (groupId : String) (state : Grouping) (old : String) : Grouping where
  groups :=
    extend (without (extend state.groups groupId []) old) groupId (popped state.groups old)
  keyToGroup key :=
    if state.keyToGroup key = some old then some groupId else state.keyToGroup key

section Groups

variable (keysOf : WorkbenchCandidateReviewItem → List String)

def groupIdOf (state : Grouping) (item : WorkbenchCandidateReviewItem) : String :=
  match ((keysOf item).filterMap state.keyToGroup).min? with
  | some groupId => groupId
  | none => (keysOf item).headD ""

def addItem (state : Grouping) (item : WorkbenchCandidateReviewItem) : Grouping :=
  let keys := keysOf item
  let existingGroupIds := keys.filterMap state.keyToGroup
  let groupId := groupIdOf keysOf state item
  let olds := (Py.sortedSet existingGroupIds).filter (· ≠ groupId)
  let merged := olds.foldl (absorb groupId) state
  { groups := extend merged.groups groupId [item]
    keyToGroup := fun key => if key ∈ keys then some groupId else merged.keyToGroup key }

def groupItems (items : List WorkbenchCandidateReviewItem) : Grouping :=
  items.foldl (addItem keysOf) {}

end Groups

/-! ## 3. What is shown of a group -/

section Project

variable (tables : Py.UnicodeTables) (digit : Char → Nat)

def datePattern : Regex :=
  let decimal := Regex.char tables.isDecimal
  .all [.any [.text "19", .text "20"], decimal, decimal,
    .opt (.all [.char fun c => c ∈ ['.', '-', '/', '年'],
      .any [.all [.opt (.text "0"), .char fun c => '1' ≤ c ∧ c ≤ '9'],
        .all [.text "1", .char fun c => '0' ≤ c ∧ c ≤ '2']]])]

/-- `int(text)` -/
def intOf (cs : List Char) : Nat := cs.foldl (fun n c => 10 * n + digit c) 0

def dateOf (text : String) : Nat ×ₗ Nat :=
  let month := text.toList.drop 5
  toLex (intOf digit (text.toList.take 4), if month = [] then 12 else intOf digit month)

/-- `workbench_resume_freshness_key` -/
def freshnessKey (texts : List String) : Nat ×ₗ Nat ×ₗ Nat :=
  let text := Py.join " " (texts.filter (· ≠ ""))
  let hasCurrentMarker := currentMarkers.any (Py.contains (Py.casefold tables text) ·)
  let latest := ((datePattern tables).findAll text).foldl
    (fun latest found => max latest (dateOf digit found)) (toLex (0, 0))
  toLex (if hasCurrentMarker then 1 else 0, latest)

/-- `item.aggregate_score if item.aggregate_score is not None else -1` -/
def scoreOf (score : Option Int) : Int := score.getD (-1)

def canonicalSortKey (item : WorkbenchCandidateReviewItem) :
    (Nat ×ₗ Nat ×ₗ Nat) ×ₗ Nat ×ₗ Int ×ₗ String :=
  toLex (freshnessKey tables digit
      [item.title, item.company, item.summary, Py.join " " item.strengths,
        Py.join " " item.missingRisks],
    toLex (evidenceRank item.evidenceLevel,
      toLex (scoreOf item.aggregateScore, item.updatedAt)))

def scoreSortKey (item : WorkbenchCandidateReviewItem) : Int ×ₗ Nat ×ₗ String :=
  toLex (scoreOf item.aggregateScore, toLex (evidenceRank item.evidenceLevel, item.updatedAt))

def mergedSourceBadges (group : List WorkbenchCandidateReviewItem) : List String :=
  let result := (group.flatMap (·.sourceBadges)).foldl
    (fun result badge =>
      if badge ∉ result ∧ badge ≠ "Multiple sources" then result ++ [badge] else result) []
  let sourceKinds := (group.flatMap (·.evidence)).map (·.sourceKind)
  if 1 < sourceKinds.dedup.length then result ++ ["Multiple sources"] else result

def evidenceResponse (evidence : WorkbenchCandidateEvidence) :
    WorkbenchFinalTopCandidateEvidence where
  evidenceId := evidence.evidenceId
  sourceRunId := evidence.sourceRunId
  sourceKind := evidence.sourceKind
  evidenceLevel := evidence.evidenceLevel
  score := evidence.score
  fitBucket := evidence.fitBucket

/-- `text.removeprefix(pre)` -/
def removePrefix (pre text : String) : String :=
  if Py.startsWith text pre then String.ofList (text.toList.drop pre.length) else text

variable (sha256 : String → String)

def publicIdentityId (identityKey : String) : String :=
  if Py.startsWith identityKey "identity:" then removePrefix "identity:" identityKey
  else if Py.startsWith identityKey "field:" then
    "identity_" ++ String.ofList ((sha256 identityKey).toList.take 24)
  else removePrefix "review:" (removePrefix "provider:" identityKey)

/-- `_project_group`, with the items that it has chosen of the group. -/
def projectChosen (identityId : String) (group : List WorkbenchCandidateReviewItem)
    (canonical best : WorkbenchCandidateReviewItem) : WorkbenchFinalTopCandidate where
  reviewItemId := canonical.reviewItemId
  runtimeIdentityId := publicIdentityId sha256 identityId
  canonicalReviewItemId := canonical.reviewItemId
  mergedReviewItemIds := Py.sorted (group.map (·.reviewItemId))
  rank := 0
  displayName := canonical.displayName
  title := canonical.title
  company := canonical.company
  location := canonical.location
  summary := canonical.summary
  aggregateScore := best.aggregateScore
  fitBucket := best.fitBucket
  sourceBadges := mergedSourceBadges group
  evidenceLevel := canonical.evidenceLevel
  sourceEvidence := (group.flatMap (·.evidence)).map evidenceResponse

/-- `_project_group`; the maximum of an empty group raises. -/
def projectGroup (group : String × List WorkbenchCandidateReviewItem) :
    Option WorkbenchFinalTopCandidate := do
  let canonical ← Py.maxBy (canonicalSortKey tables digit) group.2
  let best ← Py.maxBy scoreSortKey group.2
  return projectChosen sha256 group.1 group.2 canonical best

def rankKey (item : WorkbenchFinalTopCandidate) : Int ×ₗ Nat ×ₗ String :=
  toLex (scoreOf item.aggregateScore,
    toLex (evidenceRank item.evidenceLevel, item.canonicalReviewItemId))

/-- `items.sort(key=…, reverse=True)`, which keeps the order of equals. -/
def ranked (items : List WorkbenchFinalTopCandidate) : List WorkbenchFinalTopCandidate :=
  items.insertionSort fun a b => rankKey b ≤ rankKey a

def projectFinalTopCandidates (items : List WorkbenchCandidateReviewItem) (limit : Nat) :
    Option (List WorkbenchFinalTopCandidate) := do
  let rankedItems ←
    (groupItems (identityKeys tables) items).groups.mapM (projectGroup tables digit sha256)
  return ((ranked rankedItems).take limit).mapIdx fun index item => { item with rank := index + 1 }

end Project

end FinalTop

end SeekTalent

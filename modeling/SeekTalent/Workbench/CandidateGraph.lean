import Mathlib.Data.Prod.Lex
import Mathlib.Data.Rat.Defs
import SeekTalent.Base.Base64
import SeekTalent.Base.Best
import SeekTalent.Base.Digest
import SeekTalent.Models
import SeekTalent.Requirements.Normalization
import SeekTalent.Workbench.OriginalResume

/-!
# The candidates of a graph node

The graph of a session has nodes for the recall and the scoring of each CTS round, for the final
shortlist and for what Liepin found. A node lists candidates. Those of a CTS round are the stored
hits of the round; what is shown of them is read from the corpus, where the snapshot may be shown.
The id of a candidate is a keyed digest, and the candidate is found again by computing the ids of
all candidates. This is `workbench_candidate_graph.py` with `resume_snapshot_projection.py`.
-/

namespace SeekTalent

namespace CandidateGraph

/-- What is outside: the tables of the interpreter, `str` of a mapping or a list, the digests, and
    the text of a position in a list under the secret. -/
structure GraphLibrary extends ResumeLibrary where
  /-- `int` of one character -/
  digit : Char → Nat
  reprText : Json → String
  /-- HMAC with SHA-256 under the secret of the graph -/
  hmac : HashFunction
  sha256 : HashFunction
  /-- `_encode_cursor` for a session and a node -/
  encodeCursor : String → String → Nat → String
  /-- `_decode_cursor` -/
  decodeCursor : String → String → String → Option Nat

/-! ## 1. Nodes -/

inductive GraphSourceKind
  | cts
  | liepin
  | all
  deriving DecidableEq

inductive GraphNodeKind
  | recall
  | scoring
  | final
  | liepinCard
  | detailApproval
  deriving DecidableEq

structure GraphNodeRef where
  nodeId : String
  sourceKind : GraphSourceKind
  nodeKind : GraphNodeKind
  roundNo : Option Int := none
  deriving DecidableEq

section Nodes

variable (lib : GraphLibrary)

/-- The round of `cts-round-(\d+)` and a last part. -/
def roundOf (last nodeId : String) : Option Int :=
  (Regex.groups [.text "cts-round-", .atLeast 1 (.char lib.isDecimal), .text last,
      .look fun _ after => after.isNone] (.start nodeId)).bind fun texts =>
    texts[1]?.map fun digits => digits.toList.foldl (fun n c => 10 * n + lib.digit c) 0

def parseGraphNodeRef (nodeId : String) : Option GraphNodeRef :=
  match roundOf lib "-result" nodeId, roundOf lib "-score" nodeId with
  | some roundNo, _ => some { nodeId, sourceKind := .cts, nodeKind := .recall, roundNo }
  | none, some roundNo => some { nodeId, sourceKind := .cts, nodeKind := .scoring, roundNo }
  | none, none =>
    if nodeId = "final-shortlist" then some { nodeId, sourceKind := .all, nodeKind := .final }
    else if nodeId ∈ ["liepin-card-search", "liepin-card-candidates"] then
      some { nodeId, sourceKind := .liepin, nodeKind := .liepinCard }
    else if nodeId = "liepin-detail-approval" then
      some { nodeId, sourceKind := .liepin, nodeKind := .detailApproval }
    else none

end Nodes

/-! ## 2. What is stored -/

/-- A row of `query_resume_hits`, with the role of its query. -/
structure ResumeHitRow where
  runId : String
  queryInstanceId : String
  hitSequenceNo : Int
  snapshotSha256 : Option String
  resumeId : String
  roundNo : Int
  laneType : String
  rankInQuery : Int
  dedupKey : Option String := none
  wasNewToPool : Bool
  scoredFitBucket : Option String := none
  overallScore : Option ℚ := none
  queryRole : Option String := none

/-- The columns of a document that say who may see it. -/
structure ResumePermissions where
  allowedUsesJson : String
  internalMaterializationEligible : Int
  redactionStatus : String

/-- The columns of a document with its content. -/
structure ResumeContent where
  providerName : String
  rawPayloadArtifactRefId : Option String
  normalizedText : Option String
  normalizedSectionsJson : String
  skillsJson : String
  experienceJson : String
  educationJson : String
  locationsJson : String
  currentTitle : Option String
  currentCompany : Option String

structure ResumeDocument extends ResumePermissions, ResumeContent

/-- The corpus of a workspace: one document for a snapshot at most, and the payloads that artifact
    references lead to (`_read_raw_payload`). -/
structure Corpus where
  documents : String → Option ResumeDocument
  rawPayload : String → Option JsonObject

structure ReviewEvidence where
  evidenceId : String
  sourceRunId : String
  sourceKind : RuntimeSourceKind
  evidenceLevel : RuntimeEvidenceLevel
  resumeId : String
  score : Option Int
  fitBucket : Option String
  matchedMustHaves : List String
  missingRisks : List String
  strengths : List String
  createdAt : String

structure ReviewItem where
  reviewItemId : String
  displayName : String
  title : String
  company : String
  location : String
  summary : String
  aggregateScore : Option Int
  fitBucket : Option String
  sourceBadges : List String
  evidenceLevel : RuntimeEvidenceLevel
  matchedMustHaves : List String
  missingRisks : List String
  strengths : List String
  evidence : List ReviewEvidence

structure DetailOpenCandidate where
  displayName : String
  title : String
  company : String
  location : String
  summary : String
  aggregateScore : Option Int
  evidenceLevel : RuntimeEvidenceLevel
  sourceBadges : List String
  matchedMustHaves : List String
  missingRisks : List String

structure DetailOpenRequest where
  requestId : String
  reviewItemId : String
  candidate : Option DetailOpenCandidate
  /-- there is a `provider_action` -/
  hasProviderAction : Bool

structure RuntimeLink where
  sourceRunId : String
  runtimeRunId : Option String

/-- What the stores say of a session. The ids of review items and of requests are primary keys. -/
structure SessionStores where
  sessionId : String
  /-- the user has the session -/
  sessionExists : Bool
  /-- the CTS run of the session -/
  runtimeLink : Option RuntimeLink
  hits : List ResumeHitRow
  reviewItems : List ReviewItem
  detailOpenRequests : List DetailOpenRequest
  nodup_reviewItems : (reviewItems.map ReviewItem.reviewItemId).Nodup
  nodup_requests : (detailOpenRequests.map DetailOpenRequest.requestId).Nodup

/-- `query_resume_hits_with_queries_for_run_round` -/
def queryResumeHitsForRunRound (hits : List ResumeHitRow) (runId : String) (roundNo : Int) :
    List ResumeHitRow :=
  Py.sortedBy (fun row => toLex (row.laneType, toLex (row.queryInstanceId,
      toLex (row.rankInQuery, row.resumeId))))
    (hits.filter fun row => row.runId = runId ∧ row.roundNo = roundNo)

def queryHitsForRun (hits : List ResumeHitRow) (runId : String) : List ResumeHitRow :=
  Py.sortedBy (fun row => toLex (row.roundNo, toLex (row.queryInstanceId, row.hitSequenceNo)))
    (hits.filter (·.runId = runId))

def roundNumbersForRun (hits : List ResumeHitRow) (runId : String) : List Int :=
  Py.sortedBy id ((hits.filter (·.runId = runId)).map ResumeHitRow.roundNo).dedup

/-! ## 3. Reading a document -/

section Reading

variable (lib : GraphLibrary)

def jsonObject : Json → JsonObject
  | .object members => members
  | .string text =>
    match Json.parse text with
    | some (.object members) => members
    | _ => []
  | _ => []

def jsonList : Json → List Json
  | .array items => items
  | .string text =>
    match Json.parse text with
    | some (.array items) => items
    | _ => []
  | _ => []

/-- `str(value)` -/
def strOf : Json → String
  | .string text => text
  | .bool value => if value then "True" else "False"
  | .null => "None"
  | .number value => lib.numberText value
  | value => lib.reprText value

/-- `_text` of a text -/
def text? (maxLength : Nat) (value : Option String) : Option String :=
  (value.map Py.strip).bind fun text =>
    if text = "" then none else some (String.ofList (text.toList.take maxLength))

/-- `_safe_text` of a column -/
def safeColumn (maxLength : Nat) (value : Option String) : Option String :=
  value.bind fun text => OriginalResume.safeText lib.toResumeLibrary text maxLength

/-- `_safe_text` of a value -/
def safeValue (maxLength : Nat) : Option Json → Option String
  | none => none
  | some .null => none
  | some value => OriginalResume.safeText lib.toResumeLibrary (strOf lib value) maxLength

/-- `text or other` -/
def orElse (value : Option String) (other : String) : String :=
  (value.filter (· ≠ "")).getD other

/-- `candidate\s+[-_a-f0-9]{6,}`, in either case -/
def placeholder : Regex :=
  .all [Redaction.textIgnoreCase "candidate", .atLeast 1 Redaction.blank,
    .atLeast 6 (.char fun c => c ∈ ['-', '_'] || c.isDigit || ('a' ≤ c.toLower && c.toLower ≤ 'f'))]

def looksLikeCandidatePlaceholder (value : String) : Bool :=
  placeholder.fullmatch (Py.join " " (Py.split (Py.strip value)))

def safeCandidateDisplayName (value : Option Json) : Option String :=
  (safeValue lib 160 value).filter fun text => !looksLikeCandidatePlaceholder text

/-- `_snapshot_materialization_allowed`. What is no text in the list is none of the uses. -/
def snapshotMaterializationAllowed (permissions : ResumePermissions) : Bool :=
  let folded := fun text => Py.casefold lib.toUnicodeTables (Py.strip text)
  permissions.internalMaterializationEligible ≠ 0 &&
    folded permissions.redactionStatus ∉ ["blocked", "forbidden", "failed"] &&
    (jsonList (.string permissions.allowedUsesJson)).any fun value =>
      value.text?.any fun text =>
        folded text ∈ ["search", "recruiting", "internal_materialization",
          "workspace_recruiting_record"]

end Reading

/-! ## 4. Candidates -/

inductive RelationshipKind
  | recalled
  | new
  | scored
  | fit
  | notFit
  | final
  | detailRequested

structure CandidateSummary where
  graphCandidateId : String
  sourceKind : RuntimeSourceKind
  sourceRunId : String
  nodeKind : GraphNodeKind
  roundNo : Option Int := none
  laneType : Option String := none
  queryRole : Option String := none
  relationshipKind : RelationshipKind
  displayName : String
  title : String
  company : String
  location : String
  sourceBadges : List String
  score : Option Int := none
  fitBucket : Option String := none
  summary : String
  matchedMustHaves : List String
  strengths : List String
  missingRisks : List String
  reviewItemId : Option String := none
  evidenceLevel : Option RuntimeEvidenceLevel := none
  detailOpenRequestId : Option String := none
  canExpandResume : Bool
  canMarkPromising : Bool
  canReject : Bool
  canSaveNote : Bool
  canRequestDetail : Bool
  canOpenProvider : Bool

structure ResolvedGraphCandidate where
  summary : CandidateSummary
  snapshotSha256 : Option String

structure Coverage where
  sourceResultIdsSeen : List String
  missingSafeIdentityCount : Nat
  missingSnapshotCount : Nat
  forbiddenSnapshotCount : Nat
  droppedRows : Nat

structure GraphCandidateCollection where
  candidates : List ResolvedGraphCandidate
  coverage : Coverage

section Candidates

variable (lib : GraphLibrary)

def digestText (kind payload : String) : String :=
  kind ++ String.ofList (Base64.encode (lib.hmac.digest payload))

def quotedOrNull : Option String → List Char
  | none => ['n', 'u', 'l', 'l']
  | some text => Json.quoted text

def idPayload (sessionId nodeId sourceRunId candidateKey : String) (snapshotSha256 : Option String) :
    String :=
  String.ofList (Json.dumps
    [("candidate_key", Json.quoted candidateKey), ("node_id", Json.quoted nodeId),
      ("session_id", Json.quoted sessionId), ("snapshot_sha256", quotedOrNull snapshotSha256),
      ("source_run_id", Json.quoted sourceRunId)])

/-- `_graph_candidate_id` -/
def graphCandidateIdOf (sessionId nodeId sourceRunId candidateKey : String)
    (snapshotSha256 : Option String) : String :=
  digestText lib "gc_" (idPayload sessionId nodeId sourceRunId candidateKey snapshotSha256)

def numberJson (value : Int) : List Char := (toString value).toList

def sourceResultId (sessionId nodeId sourceRunId : String) (row : ResumeHitRow) : String :=
  digestText lib "sr_" (String.ofList (Json.dumps
    [("hit_sequence_no", numberJson row.hitSequenceNo), ("node_id", Json.quoted nodeId),
      ("query_instance_id", Json.quoted row.queryInstanceId),
      ("resume_id", Json.quoted row.resumeId), ("session_id", Json.quoted sessionId),
      ("snapshot_sha256", quotedOrNull row.snapshotSha256),
      ("source_run_id", Json.quoted sourceRunId)]))

def relationshipForCts (nodeKind : GraphNodeKind) (row : ResumeHitRow) : RelationshipKind :=
  if nodeKind = .scoring then
    if row.scoredFitBucket = some "fit" then .fit
    else if row.scoredFitBucket = some "not_fit" then .notFit
    else .scored
  else if row.wasNewToPool then .new else .recalled

/-- What a reader sees of a document: whether it is there and may be shown. -/
inductive SnapshotState
  | missing
  | forbidden
  | shown
  deriving DecidableEq

def snapshotState : Option ResumeDocument → SnapshotState
  | none => .missing
  | some document =>
    if snapshotMaterializationAllowed lib document.toResumePermissions then .shown else .forbidden

/-- The document of a row. A row without a snapshot has none. -/
def documentOf (corpus : Corpus) (row : ResumeHitRow) : Option ResumeDocument :=
  (row.snapshotSha256.filter (· ≠ "")).bind corpus.documents

def shownName (document : Option ResumeDocument) : Option String :=
  document.bind fun document =>
    safeCandidateDisplayName lib
      ((jsonObject (((jsonObject (.string document.normalizedSectionsJson)).get "profile").getD
        .null)).get "name")

def shownSummary (document : Option ResumeDocument) : Option String :=
  document.bind fun document =>
    let profile := jsonObject
      (((jsonObject (.string document.normalizedSectionsJson)).get "profile").getD .null)
    ((safeValue lib 500 (profile.get "summary")).filter (· ≠ "")).or
      (safeColumn lib 700 document.normalizedText)

/-- What `_cts_round_candidates` makes of a row. -/
def ctsCandidate (corpus : Corpus) (sessionId sourceRunId : String) (node : GraphNodeRef)
    (row : ResumeHitRow) : ResolvedGraphCandidate :=
  let document := documentOf corpus row
  let state := snapshotState lib document
  let materialized := document.filter fun document =>
    snapshotMaterializationAllowed lib document.toResumePermissions
  { summary :=
      { graphCandidateId := graphCandidateIdOf lib sessionId node.nodeId sourceRunId row.resumeId
          row.snapshotSha256
        sourceKind := .cts
        sourceRunId
        nodeKind := node.nodeKind
        roundNo := node.roundNo
        laneType := text? 80 (some row.laneType)
        queryRole := text? 80 row.queryRole
        relationshipKind := relationshipForCts node.nodeKind row
        displayName :=
          match state with
          | .missing => "简历快照未写入"
          | .forbidden => "简历快照受限"
          | .shown => (shownName lib materialized).getD "姓名暂不可展示"
        title := orElse (safeColumn lib 160 (materialized.bind (·.currentTitle))) ""
        company := orElse (safeColumn lib 160 (materialized.bind (·.currentCompany))) ""
        location := orElse (safeValue lib 160 (materialized.bind fun document =>
          (jsonList (.string document.locationsJson)).head?)) ""
        sourceBadges := ["CTS"]
        score := row.overallScore.map fun score => score.num.tdiv score.den
        fitBucket := text? 64 row.scoredFitBucket
        summary :=
          match state with
          | .missing => "简历摘要暂不可展示"
          | .forbidden => ""
          | .shown => (shownSummary lib materialized).getD ""
        matchedMustHaves := []
        strengths := []
        missingRisks := []
        canExpandResume := row.snapshotSha256.any (· ≠ "") && materialized.isSome
        canMarkPromising := false
        canReject := false
        canSaveNote := false
        canRequestDetail := false
        canOpenProvider := false }
    snapshotSha256 := row.snapshotSha256 }

/-- `-(score or -1)` -/
def descending (score : Option Int) : Int := if score.getD 0 = 0 then 1 else -score.getD 0

/-- `_cts_sort_key` of a scoring node -/
def ctsSortKey (summary : CandidateSummary) : ℕ ×ₗ Int ×ₗ String :=
  let fitOrder :=
    if summary.fitBucket = some "fit" then 0
    else if summary.fitBucket = some "near_fit" then 1
    else if summary.fitBucket = some "not_fit" then 2
    else 99
  toLex (fitOrder, toLex (descending summary.score, summary.displayName))

def scopedRows (stores : SessionStores) (runtimeRunId : String) (node : GraphNodeRef) :
    List ResumeHitRow :=
  (queryResumeHitsForRunRound stores.hits runtimeRunId (node.roundNo.getD 0)).filter fun row =>
    node.nodeKind = .recall || row.scoredFitBucket.isSome || row.overallScore.isSome

/-- A row whose candidate has no name to show. -/
def missingIdentity (corpus : Corpus) (row : ResumeHitRow) : Bool :=
  match snapshotState lib (documentOf corpus row) with
  | .shown => (shownName lib (documentOf corpus row)).isNone
  | _ => true

def ctsRoundCandidates (corpus : Corpus) (stores : SessionStores) (sourceRunId runtimeRunId : String)
    (node : GraphNodeRef) : GraphCandidateCollection :=
  let rows := scopedRows stores runtimeRunId node
  let candidates := rows.map (ctsCandidate lib corpus stores.sessionId sourceRunId node)
  { candidates :=
      if node.nodeKind = .scoring then
        Py.sortedBy (fun candidate => ctsSortKey candidate.summary) candidates
      else candidates
    coverage :=
      { sourceResultIdsSeen := rows.map (sourceResultId lib stores.sessionId node.nodeId sourceRunId)
        missingSafeIdentityCount := rows.countP (missingIdentity lib corpus)
        missingSnapshotCount :=
          rows.countP fun row => snapshotState lib (documentOf corpus row) = .missing
        forbiddenSnapshotCount :=
          rows.countP fun row => snapshotState lib (documentOf corpus row) = .forbidden
        droppedRows := rows.length - candidates.length } }

def workbenchCandidateId (sessionId providerResumeId : String) : String :=
  "candidate_" ++ String.ofList ((lib.sha256.hexdigest
    (Py.join "\x1f" ["candidate", sessionId, providerResumeId])).toList.take 24)

def keySnapshots (sessionId : String) (rows : List ResumeHitRow) : List (String × String) :=
  rows.flatMap fun row =>
    match text? 128 row.snapshotSha256 with
    | none => []
    | some snapshotSha256 =>
      ([text? 256 (some row.resumeId), text? 256 row.dedupKey].filterMap id).flatMap fun key =>
        [(key, snapshotSha256), (workbenchCandidateId lib sessionId key, snapshotSha256)]

/-- `_review_candidate_snapshot_lookup`, of one key -/
def reviewCandidateSnapshot (corpus : Corpus) (stores : SessionStores) (key : String) :
    Option String :=
  let hasCtsEvidence := stores.reviewItems.any fun item =>
    item.evidence.any fun evidence => evidence.sourceKind = .cts && evidence.resumeId ≠ ""
  if hasCtsEvidence then
    (stores.runtimeLink.bind (·.runtimeRunId.filter (· ≠ ""))).bind fun runId =>
      ((keySnapshots lib stores.sessionId (queryHitsForRun stores.hits runId)).reverse.lookup
        key).filter fun snapshotSha256 =>
          snapshotState lib (corpus.documents snapshotSha256) = .shown
  else none

def strongestEvidence (evidence : List ReviewEvidence) : Option ReviewEvidence :=
  Py.minBy (fun evidence => toLex
    ((match evidence.evidenceLevel with
      | .detail => 0
      | .final => 1
      | .card => 2 : ℕ),
      toLex (descending evidence.score, toLex (evidence.createdAt, evidence.evidenceId)))) evidence

def selectSourceEvidence (sourceKind : RuntimeSourceKind) (evidence : List ReviewEvidence) :
    Option ReviewEvidence :=
  strongestEvidence (evidence.filter (·.sourceKind = sourceKind))

def selectReviewEvidence (node : GraphNodeRef) (evidence : List ReviewEvidence) :
    Option ReviewEvidence :=
  match node.sourceKind with
  | .cts => selectSourceEvidence .cts evidence
  | .liepin => selectSourceEvidence .liepin evidence
  | .all => strongestEvidence evidence

/-- `xs or ys` -/
def firstNonEmpty (xs ys : List String) : List String := if xs = [] then ys else xs

/-- What `_review_backed_candidates` makes of an item. -/
def reviewCandidate (corpus : Corpus) (stores : SessionStores) (node : GraphNodeRef)
    (item : ReviewItem) : Option ResolvedGraphCandidate :=
  (selectReviewEvidence node item.evidence).map fun evidence =>
    let snapshotSha256 :=
      if evidence.sourceKind = .cts then
        reviewCandidateSnapshot lib corpus stores evidence.resumeId
      else none
    { summary :=
        { graphCandidateId := graphCandidateIdOf lib stores.sessionId node.nodeId
            evidence.sourceRunId item.reviewItemId
            (some ((snapshotSha256.filter (· ≠ "")).getD evidence.resumeId))
          sourceKind := evidence.sourceKind
          sourceRunId := evidence.sourceRunId
          nodeKind := node.nodeKind
          relationshipKind := if node.nodeKind = .final then .final else .detailRequested
          displayName := item.displayName
          title := item.title
          company := item.company
          location := item.location
          sourceBadges := item.sourceBadges
          score := item.aggregateScore.or evidence.score
          fitBucket := (item.fitBucket.filter (· ≠ "")).or evidence.fitBucket
          summary := item.summary
          matchedMustHaves := firstNonEmpty item.matchedMustHaves evidence.matchedMustHaves
          strengths := firstNonEmpty item.strengths evidence.strengths
          missingRisks := firstNonEmpty item.missingRisks evidence.missingRisks
          reviewItemId := some item.reviewItemId
          evidenceLevel := some evidence.evidenceLevel
          canExpandResume := snapshotSha256.isSome
          canMarkPromising := true
          canReject := true
          canSaveNote := true
          canRequestDetail := evidence.sourceKind = .liepin
          canOpenProvider := evidence.sourceKind = .liepin }
      snapshotSha256 }

def reviewBackedCandidates (corpus : Corpus) (stores : SessionStores) (node : GraphNodeRef) :
    List ResolvedGraphCandidate :=
  Py.sortedBy (fun candidate =>
      toLex (descending candidate.summary.score, candidate.summary.reviewItemId.getD ""))
    (stores.reviewItems.filterMap (reviewCandidate lib corpus stores node))

/-- What `_liepin_detail_approval_candidates` makes of a request. -/
def detailApprovalCandidate (stores : SessionStores) (node : GraphNodeRef)
    (request : DetailOpenRequest) : ResolvedGraphCandidate :=
  let item := stores.reviewItems.find? (·.reviewItemId = request.reviewItemId)
  let evidence := item.bind fun item => selectSourceEvidence .liepin item.evidence
  let candidate := request.candidate
  let sourceRunId := (evidence.map ReviewEvidence.sourceRunId).getD ""
  { summary :=
      { graphCandidateId := graphCandidateIdOf lib stores.sessionId node.nodeId sourceRunId
          request.requestId none
        sourceKind := .liepin
        sourceRunId
        nodeKind := node.nodeKind
        relationshipKind := .detailRequested
        displayName := ((candidate.map (·.displayName)).or (item.map (·.displayName))).getD ""
        title := ((candidate.map (·.title)).or (item.map (·.title))).getD ""
        company := ((candidate.map (·.company)).or (item.map (·.company))).getD ""
        location := ((candidate.map (·.location)).or (item.map (·.location))).getD ""
        sourceBadges :=
          ((candidate.map (·.sourceBadges)).or (item.map (·.sourceBadges))).getD ["Liepin"]
        score := ((candidate.map (·.aggregateScore)).or (item.map (·.aggregateScore))).join
        fitBucket := item.bind (·.fitBucket)
        summary := ((candidate.map (·.summary)).or (item.map (·.summary))).getD ""
        matchedMustHaves :=
          ((candidate.map (·.matchedMustHaves)).or (item.map (·.matchedMustHaves))).getD []
        strengths := (item.map (·.strengths)).getD []
        missingRisks := ((candidate.map (·.missingRisks)).or (item.map (·.missingRisks))).getD []
        reviewItemId := some request.reviewItemId
        evidenceLevel := (candidate.map (·.evidenceLevel)).or (item.map (·.evidenceLevel))
        detailOpenRequestId := some request.requestId
        canExpandResume := false
        canMarkPromising := item.isSome
        canReject := item.isSome
        canSaveNote := item.isSome
        canRequestDetail := false
        canOpenProvider := request.hasProviderAction }
    snapshotSha256 := none }

def candidateCollection (candidates : List ResolvedGraphCandidate) : GraphCandidateCollection where
  candidates
  coverage :=
    { sourceResultIdsSeen := candidates.map (·.summary.graphCandidateId)
      missingSafeIdentityCount := 0
      missingSnapshotCount := 0
      forbiddenSnapshotCount := 0
      droppedRows := 0 }

def allCandidates (corpus : Corpus) (stores : SessionStores) (node : GraphNodeRef) :
    Option GraphCandidateCollection :=
  match node.nodeKind with
  | .recall | .scoring => do
    let link ← stores.runtimeLink
    let runtimeRunId ← link.runtimeRunId.filter (· ≠ "")
    return ctsRoundCandidates lib corpus stores link.sourceRunId runtimeRunId node
  | .detailApproval =>
    some (candidateCollection
      (stores.detailOpenRequests.map (detailApprovalCandidate lib stores node)))
  | .final | .liepinCard =>
    some (candidateCollection (reviewBackedCandidates lib corpus stores node))

end Candidates

/-! ## 5. The answers -/

structure CandidateListResponse where
  nodeId : String
  sessionId : String
  source : GraphSourceKind
  roundId : Option String
  nodeKind : GraphNodeKind
  items : List CandidateSummary
  nextCursor : Option String
  totalSourceResults : Nat
  totalGraphCandidates : Nat
  coverage : Coverage
  truncated : Bool
  /-- the runtime link is missing -/
  recoverableEmpty : Bool

structure WorkExperience where
  company : String
  title : String
  duration : Option String
  summary : Option String

structure Education where
  school : String
  degree : Option String
  major : Option String

structure Project where
  name : String
  summary : Option String

structure SnapshotProfile where
  displayName : String
  headline : String
  company : String
  location : String
  summary : String

inductive SnapshotStatus
  | ready
  | snapshotForbidden
  | snapshotNotFound

structure ResumeSnapshotResponse where
  graphCandidateId : String
  status : SnapshotStatus
  originalResume : Option (List OriginalResumeSection) := none
  profile : Option SnapshotProfile := none
  workExperience : List WorkExperience := []
  education : List Education := []
  projects : List Project := []
  skills : List String := []
  sourceEvidence : List (String × String) := []

section Answers

variable (lib : GraphLibrary)

def MAX_GRAPH_CANDIDATE_LIMIT : Int := 100

/-- The answer for a node without a CTS run, or the page of its candidates from an offset on. -/
def listResponse (stores : SessionStores) (node : GraphNodeRef) (limit : Int) (offset : Nat)
    (collection : Option GraphCandidateCollection) : CandidateListResponse :=
  let safeLimit := (min (max limit 1) MAX_GRAPH_CANDIDATE_LIMIT).toNat
  let candidates := (collection.map GraphCandidateCollection.candidates).getD []
  let coverage := (collection.map GraphCandidateCollection.coverage).getD
    (candidateCollection []).coverage
  let nextCursor :=
    if offset + safeLimit < candidates.length then
      some (lib.encodeCursor stores.sessionId node.nodeId (offset + safeLimit))
    else none
  { nodeId := node.nodeId
    sessionId := stores.sessionId
    source := node.sourceKind
    roundId := node.roundNo.map toString
    nodeKind := node.nodeKind
    items := ((candidates.drop offset).take safeLimit).map ResolvedGraphCandidate.summary
    nextCursor
    totalSourceResults := coverage.sourceResultIdsSeen.length
    totalGraphCandidates := candidates.length
    coverage
    truncated := nextCursor.isSome
    recoverableEmpty := collection.isNone }

def offsetOf (stores : SessionStores) (nodeId : String) (cursor : Option String) : Option Nat :=
  match cursor.filter (· ≠ "") with
  | none => some 0
  | some cursor => lib.decodeCursor stores.sessionId nodeId cursor

/-- `list_graph_candidates`, up to the time -/
def listGraphCandidates (corpus : Corpus) (stores : SessionStores) (nodeId : String) (limit : Int)
    (cursor : Option String) : Option CandidateListResponse :=
  (parseGraphNodeRef lib nodeId).bind fun node =>
    if stores.sessionExists then
      (offsetOf lib stores nodeId cursor).map fun offset =>
        listResponse lib stores node limit offset (allCandidates lib corpus stores node)
    else none

def candidateNodeRefs (stores : SessionStores) : Option String → List GraphNodeRef
  | some nodeId => (parseGraphNodeRef lib nodeId).toList
  | none =>
    let rounds := ((stores.runtimeLink.bind (·.runtimeRunId.filter (· ≠ ""))).map
      (roundNumbersForRun stores.hits)).getD []
    (rounds.flatMap fun roundNo =>
      [{ nodeId := "cts-round-" ++ toString roundNo ++ "-result", sourceKind := .cts,
          nodeKind := .recall, roundNo },
        { nodeId := "cts-round-" ++ toString roundNo ++ "-score", sourceKind := .cts,
          nodeKind := .scoring, roundNo }]) ++
      [{ nodeId := "final-shortlist", sourceKind := .all, nodeKind := .final },
        { nodeId := "liepin-card-search", sourceKind := .liepin, nodeKind := .liepinCard },
        { nodeId := "liepin-card-candidates", sourceKind := .liepin, nodeKind := .liepinCard },
        { nodeId := "liepin-detail-approval", sourceKind := .liepin, nodeKind := .detailApproval }]

/-- `resolve_graph_candidate`, of an id of ASCII, which is all that `compare_digest` takes -/
def resolveGraphCandidate (corpus : Corpus) (stores : SessionStores) (graphCandidateId : String)
    (nodeId : Option String) : Option ResolvedGraphCandidate :=
  if stores.sessionExists then
    (candidateNodeRefs lib stores nodeId).findSome? fun node =>
      (allCandidates lib corpus stores node).bind fun collection =>
        collection.candidates.find? (·.summary.graphCandidateId = graphCandidateId)
  else none

def dictItems (value : Json) : List JsonObject :=
  (jsonList value).filterMap fun
    | .object members => some members
    | _ => none

/-- `_safe_text(…) or …` of a chain of texts -/
def firstText (values : List (Option String)) : String := (values.findSome? id).getD ""

def projectDoc (corpus : Corpus) (graphCandidateId : String) (document : ResumeDocument)
    (fallback : CandidateSummary) : ResumeSnapshotResponse :=
  let sections := jsonObject (.string document.normalizedSectionsJson)
  let profile := jsonObject ((sections.get "profile").getD .null)
  let summary := firstText [safeValue lib 500 (profile.get "summary"),
    safeColumn lib 500 (some fallback.summary), safeColumn lib 1200 document.normalizedText]
  let artifactRefId := Py.strip (document.rawPayloadArtifactRefId.getD "")
  { graphCandidateId
    status := .ready
    originalResume := OriginalResume.projectOriginalResume lib.toResumeLibrary document.providerName
      (if artifactRefId = "" then none else corpus.rawPayload artifactRefId)
    profile := some
      { displayName := firstText [safeValue lib 160 (profile.get "name"),
          safeColumn lib 160 (some fallback.displayName)]
        headline := firstText [safeColumn lib 160 document.currentTitle,
          safeColumn lib 160 (some fallback.title)]
        company := firstText [safeColumn lib 160 document.currentCompany,
          safeColumn lib 160 (some fallback.company)]
        location := firstText [safeValue lib 160 (jsonList (.string document.locationsJson)).head?,
          safeColumn lib 160 (some fallback.location)]
        summary }
    workExperience := ((dictItems (.string document.experienceJson)).take 20).map fun item =>
      { company := firstText [safeValue lib 160 (item.get "company")]
        title := firstText [safeValue lib 160 (item.get "title")]
        duration := safeValue lib 80 (item.get "duration")
        summary := safeValue lib 500 (item.get "summary") }
    education := ((dictItems (.string document.educationJson)).take 20).map fun item =>
      { school := firstText [safeValue lib 160 (item.get "school")]
        degree := safeValue lib 120 (item.get "degree")
        major := safeValue lib 120 (item.get "major") }
    projects := ((dictItems ((sections.get "projects").getD .null)).take 20).map fun item =>
      { name := firstText [safeValue lib 160 (item.get "name")]
        summary := safeValue lib 500 (item.get "summary") }
    skills := ((jsonList (.string document.skillsJson)).filterMap fun value =>
      safeValue lib 80 (some value)).take 50
    sourceEvidence := if summary = "" then [] else [("summary", summary)] }

def buildResumeSnapshotResponse (corpus : Corpus) (stores : SessionStores)
    (graphCandidateId : String) : Option ResumeSnapshotResponse :=
  (resolveGraphCandidate lib corpus stores graphCandidateId none).map fun candidate =>
    let document := (candidate.snapshotSha256.filter (· ≠ "")).bind corpus.documents
    match document with
    | none => { graphCandidateId, status := .snapshotNotFound }
    | some document =>
      if snapshotMaterializationAllowed lib document.toResumePermissions then
        projectDoc lib corpus graphCandidateId document candidate.summary
      else { graphCandidateId, status := .snapshotForbidden }

end Answers

end CandidateGraph

end SeekTalent

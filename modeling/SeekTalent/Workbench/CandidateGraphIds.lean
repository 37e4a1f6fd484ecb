import SeekTalent.Workbench.CandidateGraphReading

/-!
# The ids of the candidates of a node

The id of a candidate is a digest of the session, the node, the run, a key of the candidate and its
snapshot. A review item and a request are keys of their own, but of a hit only the resume is taken,
not the query that found it. So the candidates of a CTS round have ids of their own if and only if
no resume is found twice with one snapshot (`findsListed_iff`), and otherwise one of its rows is
never found by its id.
-/

namespace SeekTalent

namespace CandidateGraph

/-- What an id is made of, besides the session and the node. -/
structure CandidateKey where
  sourceRunId : String
  candidateKey : String
  snapshotSha256 : Option String
  deriving DecidableEq

section Keys

variable (lib : GraphLibrary)

def CandidateKey.payload (sessionId nodeId : String) (key : CandidateKey) : String :=
  idPayload sessionId nodeId key.sourceRunId key.candidateKey key.snapshotSha256

def CandidateKey.graphId (sessionId nodeId : String) (key : CandidateKey) : String :=
  graphCandidateIdOf lib sessionId nodeId key.sourceRunId key.candidateKey key.snapshotSha256

def hitKeyOf (sourceRunId : String) (row : ResumeHitRow) : CandidateKey :=
  ⟨sourceRunId, row.resumeId, row.snapshotSha256⟩

def reviewKey (corpus : Corpus) (stores : SessionStores) (node : GraphNodeRef) (item : ReviewItem) :
    Option CandidateKey :=
  (selectReviewEvidence node item.evidence).map fun evidence =>
    let snapshotSha256 :=
      if evidence.sourceKind = .cts then
        reviewCandidateSnapshot lib corpus stores evidence.resumeId
      else none
    ⟨evidence.sourceRunId, item.reviewItemId,
      some ((snapshotSha256.filter (· ≠ "")).getD evidence.resumeId)⟩

def requestKey (stores : SessionStores) (request : DetailOpenRequest) : CandidateKey :=
  let item := stores.reviewItems.find? (·.reviewItemId = request.reviewItemId)
  let evidence := item.bind fun item => selectSourceEvidence .liepin item.evidence
  ⟨(evidence.map ReviewEvidence.sourceRunId).getD "", request.requestId, none⟩

def ctsSourceRunId (stores : SessionStores) : String :=
  (stores.runtimeLink.map RuntimeLink.sourceRunId).getD ""

/-- The hits of the CTS run that a node lists. -/
def ctsRows (stores : SessionStores) (node : GraphNodeRef) : List ResumeHitRow :=
  (stores.runtimeLink.bind fun link =>
    (link.runtimeRunId.filter (· ≠ "")).map fun runtimeRunId =>
      scopedRows stores runtimeRunId node).getD []

def candidateKeys (corpus : Corpus) (stores : SessionStores) (node : GraphNodeRef) :
    List CandidateKey :=
  match node.nodeKind with
  | .recall | .scoring => (ctsRows stores node).map (hitKeyOf (ctsSourceRunId stores))
  | .detailApproval => stores.detailOpenRequests.map (requestKey stores)
  | .final | .liepinCard => stores.reviewItems.filterMap (reviewKey lib corpus stores node)

def listed (corpus : Corpus) (stores : SessionStores) (node : GraphNodeRef) :
    List ResolvedGraphCandidate :=
  ((allCandidates lib corpus stores node).map GraphCandidateCollection.candidates).getD []

variable {lib} {corpus : Corpus} {stores : SessionStores} {node : GraphNodeRef}
variable {sessionId nodeId : String} {key key' : CandidateKey}

/-! ## 1. Ids -/

def payloadMembers (sessionId nodeId : String) (key : CandidateKey) : List (String × Json) :=
  [("candidate_key", .string key.candidateKey), ("node_id", .string nodeId),
    ("session_id", .string sessionId),
    ("snapshot_sha256", (key.snapshotSha256.map Json.string).getD .null),
    ("source_run_id", .string key.sourceRunId)]

theorem parse_payload (sessionId nodeId : String) (key : CandidateKey) :
    Json.parse (key.payload sessionId nodeId) = some (.object (payloadMembers sessionId nodeId key)) := by
  obtain ⟨sourceRunId, candidateKey, snapshotSha256⟩ := key
  have hsnapshot : Json.Writes ("snapshot_sha256", quotedOrNull snapshotSha256)
      ("snapshot_sha256", (snapshotSha256.map Json.string).getD .null) := by
    cases snapshotSha256 with
    | none => exact ⟨rfl, Json.readsAs_null⟩
    | some snapshotSha256 => exact Json.writes_quoted ..
  have hwrites : List.Forall₂ Json.Writes
      [("candidate_key", Json.quoted candidateKey), ("node_id", Json.quoted nodeId),
        ("session_id", Json.quoted sessionId), ("snapshot_sha256", quotedOrNull snapshotSha256),
        ("source_run_id", Json.quoted sourceRunId)]
      (payloadMembers sessionId nodeId ⟨sourceRunId, candidateKey, snapshotSha256⟩) :=
    .cons (Json.writes_quoted ..) <| .cons (Json.writes_quoted ..) <|
    .cons (Json.writes_quoted ..) <| .cons hsnapshot <| .cons (Json.writes_quoted ..) .nil
  unfold CandidateKey.payload idPayload
  rw [Json.parse_dumps hwrites (List.cons_ne_nil _ _)]
  simp [payloadMembers, Json.ofMembers, JsonObject.set]

theorem payload_inj (h : key.payload sessionId nodeId = key'.payload sessionId nodeId) :
    key = key' := by
  have hmembers : payloadMembers sessionId nodeId key = payloadMembers sessionId nodeId key' := by
    have hparse := parse_payload sessionId nodeId key
    rw [h, parse_payload] at hparse
    exact (Json.object.inj (Option.some.inj hparse)).symm
  obtain ⟨sourceRunId, candidateKey, snapshotSha256⟩ := key
  obtain ⟨sourceRunId', candidateKey', snapshotSha256'⟩ := key'
  simp only [payloadMembers, List.cons.injEq, Prod.mk.injEq, true_and, and_true,
    Json.string.injEq] at hmembers
  obtain ⟨rfl, hsnapshot, rfl⟩ := hmembers
  cases snapshotSha256 <;> cases snapshotSha256' <;> simp at hsnapshot
  · rfl
  · rw [hsnapshot]

theorem graphId_inj (happart : lib.hmac.Apart (key.payload sessionId nodeId)
    (key'.payload sessionId nodeId))
    (h : key.graphId lib sessionId nodeId = key'.graphId lib sessionId nodeId) : key = key' := by
  apply @payload_inj sessionId nodeId
  apply happart
  have htext := congrArg String.toList h
  unfold CandidateKey.graphId graphCandidateIdOf digestText at htext
  simp only [String.toList_append, String.toList_ofList] at htext
  have hdigest := List.append_cancel_left htext
  rw [← Base64.decode_encode (lib.hmac.digest (key.payload sessionId nodeId)),
    ← Base64.decode_encode (lib.hmac.digest (key'.payload sessionId nodeId))]
  exact congrArg Base64.decode hdigest

/-! ## 2. The candidates of a node -/

theorem ids_reviewBackedCandidates :
    ((reviewBackedCandidates lib corpus stores node).map (·.summary.graphCandidateId)).Perm
      ((stores.reviewItems.filterMap (reviewKey lib corpus stores node)).map
        (CandidateKey.graphId lib stores.sessionId node.nodeId)) := by
  unfold reviewBackedCandidates
  refine (Py.perm_sortedBy.map _).trans (.of_eq ?_)
  rw [List.map_filterMap, List.map_filterMap]
  apply List.filterMap_congr
  intro item _
  unfold reviewCandidate reviewKey
  cases selectReviewEvidence node item.evidence with
  | none => rfl
  | some evidence => rfl

theorem ids_ctsRoundCandidates {sourceRunId runtimeRunId : String} :
    ((ctsRoundCandidates lib corpus stores sourceRunId runtimeRunId node).candidates.map
      (·.summary.graphCandidateId)).Perm
      (((scopedRows stores runtimeRunId node).map (hitKeyOf sourceRunId)).map
        (CandidateKey.graphId lib stores.sessionId node.nodeId)) := by
  have hrows : ((scopedRows stores runtimeRunId node).map
      (ctsCandidate lib corpus stores.sessionId sourceRunId node)).map
        (·.summary.graphCandidateId) =
      ((scopedRows stores runtimeRunId node).map (hitKeyOf sourceRunId)).map
        (CandidateKey.graphId lib stores.sessionId node.nodeId) := by
    rw [List.map_map, List.map_map]
    rfl
  unfold ctsRoundCandidates
  dsimp only
  rw [← hrows]
  split
  · exact Py.perm_sortedBy.map _
  · exact .refl _

theorem allCandidates_cts (h : node.nodeKind = .recall ∨ node.nodeKind = .scoring) :
    allCandidates lib corpus stores node = stores.runtimeLink.bind fun link =>
      (link.runtimeRunId.filter (· ≠ "")).map fun runtimeRunId =>
        ctsRoundCandidates lib corpus stores link.sourceRunId runtimeRunId node := by
  unfold allCandidates
  rcases h with h | h
  · rw [h]
    simp only [Option.map_eq_bind]
    rfl
  · rw [h]
    simp only [Option.map_eq_bind]
    rfl

theorem candidateKeys_cts (h : node.nodeKind = .recall ∨ node.nodeKind = .scoring) :
    candidateKeys lib corpus stores node =
      (ctsRows stores node).map (hitKeyOf (ctsSourceRunId stores)) := by
  unfold candidateKeys
  rcases h with h | h
  · rw [h]
  · rw [h]

theorem ids_listed_cts (h : node.nodeKind = .recall ∨ node.nodeKind = .scoring) :
    ((listed lib corpus stores node).map (·.summary.graphCandidateId)).Perm
      ((candidateKeys lib corpus stores node).map
        (CandidateKey.graphId lib stores.sessionId node.nodeId)) := by
  unfold listed
  rw [candidateKeys_cts h, allCandidates_cts h]
  unfold ctsRows ctsSourceRunId
  cases stores.runtimeLink with
  | none => exact .refl _
  | some link =>
    simp only [Option.bind_some]
    cases link.runtimeRunId.filter (· ≠ "") with
    | none => exact .refl _
    | some runtimeRunId =>
      simp only [Option.map_some, Option.getD_some, List.map_map]
      have hids := @ids_ctsRoundCandidates lib corpus stores node link.sourceRunId runtimeRunId
      rw [List.map_map] at hids
      exact hids

/-- **The ids of a node** are those of the keys of its candidates. -/
theorem ids_listed : ((listed lib corpus stores node).map (·.summary.graphCandidateId)).Perm
    ((candidateKeys lib corpus stores node).map
      (CandidateKey.graphId lib stores.sessionId node.nodeId)) := by
  cases hnode : node.nodeKind with
  | «recall» => exact ids_listed_cts (.inl hnode)
  | scoring => exact ids_listed_cts (.inr hnode)
  | final =>
    unfold listed allCandidates candidateKeys
    rw [hnode]
    exact ids_reviewBackedCandidates
  | liepinCard =>
    unfold listed allCandidates candidateKeys
    rw [hnode]
    exact ids_reviewBackedCandidates
  | detailApproval =>
    unfold listed allCandidates candidateKeys
    rw [hnode]
    simp only [Option.map_some, Option.getD_some, candidateCollection, List.map_map]
    exact .refl _

theorem nodup_candidateKeys_of_stored
    (hkind : ¬(node.nodeKind = .recall ∨ node.nodeKind = .scoring)) :
    (candidateKeys lib corpus stores node).Nodup := by
  have hkey : ∀ items : List ReviewItem, ((items.filterMap (reviewKey lib corpus stores node)).map
      CandidateKey.candidateKey).Sublist (items.map ReviewItem.reviewItemId) := by
    intro items
    induction items with
    | nil => exact .slnil
    | cons item items ih =>
      rw [List.filterMap_cons]
      unfold reviewKey
      cases selectReviewEvidence node item.evidence with
      | none => exact ih.cons _
      | some evidence => exact ih.cons_cons _
  have hreview : (stores.reviewItems.filterMap (reviewKey lib corpus stores node)).Nodup :=
    .of_map CandidateKey.candidateKey ((hkey stores.reviewItems).nodup stores.nodup_reviewItems)
  unfold candidateKeys
  cases hnode : node.nodeKind with
  | «recall» => simp [hnode] at hkind
  | scoring => simp [hnode] at hkind
  | final => exact hreview
  | liepinCard => exact hreview
  | detailApproval =>
    apply List.Nodup.of_map CandidateKey.candidateKey
    rw [List.map_map]
    exact stores.nodup_requests

theorem nodup_candidateKeys_cts (h : node.nodeKind = .recall ∨ node.nodeKind = .scoring) :
    (candidateKeys lib corpus stores node).Nodup ↔
      ((ctsRows stores node).map fun row => (row.resumeId, row.snapshotSha256)).Nodup := by
  have hpairs : candidateKeys lib corpus stores node =
      ((ctsRows stores node).map fun row => (row.resumeId, row.snapshotSha256)).map
        fun pair => ⟨ctsSourceRunId stores, pair.1, pair.2⟩ := by
    rw [candidateKeys_cts h, List.map_map]
    rfl
  rw [hpairs]
  apply List.nodup_map_iff
  intro pair pair' heq
  exact Prod.ext (congrArg CandidateKey.candidateKey heq) (congrArg CandidateKey.snapshotSha256 heq)

/-! ## 3. Finding a candidate -/

/-- The candidates that a node lists have ids of their own, and are found by them. -/
structure FindsListed (lib : GraphLibrary) (corpus : Corpus) (stores : SessionStores)
    (node : GraphNodeRef) : Prop where
  ids : ((listed lib corpus stores node).map (·.summary.graphCandidateId)).Nodup
  found : ∀ candidate ∈ listed lib corpus stores node,
    resolveGraphCandidate lib corpus stores candidate.summary.graphCandidateId (some node.nodeId) =
      some candidate

theorem found_of_ids (hnode : parseGraphNodeRef lib node.nodeId = some node)
    (hsession : stores.sessionExists = true)
    (hids : ((listed lib corpus stores node).map (·.summary.graphCandidateId)).Nodup)
    {candidate : ResolvedGraphCandidate} (hcandidate : candidate ∈ listed lib corpus stores node) :
    resolveGraphCandidate lib corpus stores candidate.summary.graphCandidateId
      (some node.nodeId) = some candidate := by
  have hrefs : candidateNodeRefs lib stores (some node.nodeId) =
      (parseGraphNodeRef lib node.nodeId).toList := rfl
  unfold resolveGraphCandidate
  rw [if_pos hsession, hrefs, hnode]
  unfold listed at hids hcandidate
  simp only [Option.toList_some, List.findSome?_cons, List.findSome?_nil]
  cases hall : allCandidates lib corpus stores node with
  | none =>
    rw [hall] at hcandidate
    cases hcandidate
  | some collection =>
    rw [hall] at hids hcandidate
    have hfind : collection.candidates.find?
        (·.summary.graphCandidateId = candidate.summary.graphCandidateId) = some candidate :=
      (Table.lookup_eq_some_iff hids).mpr ⟨hcandidate, rfl⟩
    simp only [Option.bind_some]
    rw [hfind]

/-- **When listed candidates are found by their ids**: always for the nodes of review items and
requests, and for a CTS round if and only if it lists no resume twice with one snapshot. -/
theorem findsListed_iff (lib : GraphLibrary) (corpus : Corpus) (stores : SessionStores)
    (node : GraphNodeRef) (hnode : parseGraphNodeRef lib node.nodeId = some node)
    (hsession : stores.sessionExists = true)
    (hcollision : ∀ key ∈ candidateKeys lib corpus stores node,
      ∀ key' ∈ candidateKeys lib corpus stores node,
        lib.hmac.Apart (key.payload stores.sessionId node.nodeId)
          (key'.payload stores.sessionId node.nodeId)) :
    FindsListed lib corpus stores node ↔
      (node.nodeKind = .recall ∨ node.nodeKind = .scoring →
        ((ctsRows stores node).map fun row => (row.resumeId, row.snapshotSha256)).Nodup) := by
  have hids : ((listed lib corpus stores node).map (·.summary.graphCandidateId)).Nodup ↔
      (candidateKeys lib corpus stores node).Nodup := by
    rw [ids_listed.nodup_iff]
    constructor
    · exact List.Nodup.of_map _
    · intro hkeys
      exact hkeys.map_on fun key hkey key' hkey' heq =>
        graphId_inj (hcollision key hkey key' hkey') heq
  have hkeys : (candidateKeys lib corpus stores node).Nodup ↔
      (node.nodeKind = .recall ∨ node.nodeKind = .scoring →
        ((ctsRows stores node).map fun row => (row.resumeId, row.snapshotSha256)).Nodup) := by
    by_cases hkind : node.nodeKind = .recall ∨ node.nodeKind = .scoring
    · rw [nodup_candidateKeys_cts hkind]
      exact ⟨fun h _ => h, fun h => h hkind⟩
    · exact ⟨fun _ h => absurd h hkind, fun _ => nodup_candidateKeys_of_stored hkind⟩
  rw [← hkeys, ← hids]
  constructor
  · exact FindsListed.ids
  · intro h
    exact ⟨h, fun candidate hcandidate => found_of_ids hnode hsession h hcandidate⟩

end Keys

def firstRecall : GraphNodeRef where
  nodeId := "cts-round-1-result"
  sourceKind := .cts
  nodeKind := .recall
  roundNo := some 1

theorem parse_firstRecall :
    parseGraphNodeRef sampleGraphLibrary firstRecall.nodeId = some firstRecall := by
  decide

/-- The first hit, and one of another resume by the same query. -/
def twoResumes : List ResumeHitRow :=
  [restrictedHit, { restrictedHit with hitSequenceNo := 2, rankInQuery := 2, resumeId := "another" }]

def twoLanes : List ResumeHitRow :=
  [restrictedHit, { restrictedHit with queryInstanceId := "query-2", laneType := "prf_probe" }]

theorem keys_twoResumes :
    candidateKeys sampleGraphLibrary (restrictedCorpus "engineer") (storesOf twoResumes) firstRecall =
      [⟨"source", "resume", some "aa"⟩, ⟨"source", "another", some "aa"⟩] := by
  decide

theorem findsListed_iff_twoResumes :
    FindsListed sampleGraphLibrary (restrictedCorpus "engineer") (storesOf twoResumes)
        firstRecall ↔
      (firstRecall.nodeKind = .recall ∨ firstRecall.nodeKind = .scoring →
        ((ctsRows (storesOf twoResumes) firstRecall).map fun row =>
          (row.resumeId, row.snapshotSha256)).Nodup) := by
  apply findsListed_iff _ _ _ _ parse_firstRecall rfl
  rw [keys_twoResumes]
  simp only [List.forall_mem_cons, List.not_mem_nil, false_imp_iff, implies_true, and_true]
  refine ⟨⟨fun _ => rfl, ?_⟩, ?_, fun _ => rfl⟩
  · intro h
    exact absurd h (by decide +kernel)
  · intro h
    exact absurd h (by decide +kernel)

theorem pairs_twoLanes : (ctsRows (storesOf twoLanes) firstRecall).map (fun row =>
    (row.resumeId, row.snapshotSha256)) = [("resume", some "aa"), ("resume", some "aa")] := by
  decide

/-- The two rows of the resume have one id. -/
theorem not_findsListed_twoLanes :
    ¬FindsListed sampleGraphLibrary (restrictedCorpus "engineer") (storesOf twoLanes)
      firstRecall := by
  intro h
  have hkeys := (ids_listed.nodup_iff.mp h.ids).of_map
  have hpairs := (nodup_candidateKeys_cts (.inl rfl)).mp hkeys
  rw [pairs_twoLanes] at hpairs
  simp at hpairs

end CandidateGraph

end SeekTalent

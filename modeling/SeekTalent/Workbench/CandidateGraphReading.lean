import SeekTalent.Workbench.CandidateGraph
import SeekTalent.Workbench.OriginalResumeFlow

/-!
# What a restricted snapshot shows

The content of a document that may not be shown is nowhere in the answers about a graph: two corpora
that differ only there give the same lists, the same candidates and the same resume snapshots
(`answers_eq`). That such a document is there may be seen, and so may the permissions of it.
-/

namespace SeekTalent

namespace CandidateGraph

variable (lib : GraphLibrary)

def SameShown (document other : ResumeDocument) : Prop :=
  document.toResumePermissions = other.toResumePermissions ∧
    (snapshotMaterializationAllowed lib document.toResumePermissions = true → document = other)

/-- The corpora differ only in the content of documents that may not be shown. -/
structure DifferOnlyInRestricted (corpus other : Corpus) : Prop where
  documents : ∀ snapshotSha256,
    Option.Rel (SameShown lib) (corpus.documents snapshotSha256) (other.documents snapshotSha256)
  rawPayload : corpus.rawPayload = other.rawPayload

variable {lib} {corpus other : Corpus} {document document' : Option ResumeDocument}
variable {stores : SessionStores} {node : GraphNodeRef}

def materialized (lib : GraphLibrary) (document : Option ResumeDocument) : Option ResumeDocument :=
  document.filter fun document => snapshotMaterializationAllowed lib document.toResumePermissions

theorem seen_eq (h : Option.Rel (SameShown lib) document document') :
    snapshotState lib document = snapshotState lib document' ∧
      materialized lib document = materialized lib document' := by
  cases h with
  | none => exact ⟨rfl, rfl⟩
  | @some document document' hsame =>
    obtain ⟨hpermissions, hcontent⟩ := hsame
    unfold snapshotState materialized
    rw [Option.filter_some, Option.filter_some]
    dsimp only
    rw [← hpermissions]
    split
    · rename_i hallowed
      rw [hcontent hallowed]
      exact ⟨rfl, rfl⟩
    · exact ⟨rfl, rfl⟩

theorem materialized_of_shown (h : snapshotState lib document = .shown) :
    materialized lib document = document := by
  cases document with
  | none => cases h
  | some document =>
    change (if snapshotMaterializationAllowed lib document.toResumePermissions then
      SnapshotState.shown else .forbidden) = .shown at h
    unfold materialized
    rw [Option.filter_some]
    split at h
    · rename_i hallowed
      rw [if_pos hallowed]
    · cases h

theorem DifferOnlyInRestricted.documentOf (h : DifferOnlyInRestricted lib corpus other)
    (row : ResumeHitRow) :
    Option.Rel (SameShown lib) (documentOf corpus row) (documentOf other row) := by
  unfold CandidateGraph.documentOf
  cases row.snapshotSha256.filter (· ≠ "") with
  | none => exact .none
  | some snapshotSha256 => exact h.documents snapshotSha256

theorem ctsCandidate_eq (h : DifferOnlyInRestricted lib corpus other)
    (sessionId sourceRunId : String) (node : GraphNodeRef) (row : ResumeHitRow) :
    ctsCandidate lib corpus sessionId sourceRunId node row =
      ctsCandidate lib other sessionId sourceRunId node row := by
  obtain ⟨hstate, hmaterialized⟩ := seen_eq (h.documentOf row)
  unfold materialized at hmaterialized
  unfold ctsCandidate
  dsimp only
  rw [hstate, hmaterialized]

theorem missingIdentity_eq (h : DifferOnlyInRestricted lib corpus other) (row : ResumeHitRow) :
    missingIdentity lib corpus row = missingIdentity lib other row := by
  obtain ⟨hstate, hmaterialized⟩ := seen_eq (h.documentOf row)
  unfold missingIdentity
  rw [hstate]
  cases hshown : snapshotState lib (documentOf other row) with
  | missing => rfl
  | forbidden => rfl
  | shown =>
    rw [← materialized_of_shown hshown, ← hmaterialized,
      materialized_of_shown (hstate.trans hshown)]

theorem ctsRoundCandidates_eq (h : DifferOnlyInRestricted lib corpus other)
    (stores : SessionStores) (sourceRunId runtimeRunId : String) (node : GraphNodeRef) :
    ctsRoundCandidates lib corpus stores sourceRunId runtimeRunId node =
      ctsRoundCandidates lib other stores sourceRunId runtimeRunId node := by
  have hcandidate : ctsCandidate lib corpus stores.sessionId sourceRunId node =
      ctsCandidate lib other stores.sessionId sourceRunId node :=
    funext fun row => ctsCandidate_eq h stores.sessionId sourceRunId node row
  have hidentity : missingIdentity lib corpus = missingIdentity lib other :=
    funext fun row => missingIdentity_eq h row
  have hstate : ∀ row, snapshotState lib (documentOf corpus row) =
      snapshotState lib (documentOf other row) := fun row => (seen_eq (h.documentOf row)).1
  unfold ctsRoundCandidates
  simp only [hcandidate, hidentity, hstate]

theorem reviewCandidateSnapshot_eq (h : DifferOnlyInRestricted lib corpus other)
    (stores : SessionStores) (key : String) :
    reviewCandidateSnapshot lib corpus stores key =
      reviewCandidateSnapshot lib other stores key := by
  have hstate : ∀ snapshotSha256, snapshotState lib (corpus.documents snapshotSha256) =
      snapshotState lib (other.documents snapshotSha256) :=
    fun snapshotSha256 => (seen_eq (h.documents snapshotSha256)).1
  unfold reviewCandidateSnapshot
  simp only [hstate]

theorem reviewCandidate_eq (h : DifferOnlyInRestricted lib corpus other) (stores : SessionStores)
    (node : GraphNodeRef) :
    reviewCandidate lib corpus stores node = reviewCandidate lib other stores node := by
  funext item
  unfold reviewCandidate
  simp only [reviewCandidateSnapshot_eq h]

theorem allCandidates_eq (h : DifferOnlyInRestricted lib corpus other) (stores : SessionStores)
    (node : GraphNodeRef) :
    allCandidates lib corpus stores node = allCandidates lib other stores node := by
  unfold allCandidates reviewBackedCandidates
  simp only [ctsRoundCandidates_eq h, reviewCandidate_eq h]

theorem resolveGraphCandidate_eq (h : DifferOnlyInRestricted lib corpus other)
    (stores : SessionStores) (graphCandidateId : String) (nodeId : Option String) :
    resolveGraphCandidate lib corpus stores graphCandidateId nodeId =
      resolveGraphCandidate lib other stores graphCandidateId nodeId := by
  unfold resolveGraphCandidate
  simp only [allCandidates_eq h]

theorem projectDoc_eq (h : DifferOnlyInRestricted lib corpus other) (graphCandidateId : String)
    (document : ResumeDocument) (fallback : CandidateSummary) :
    projectDoc lib corpus graphCandidateId document fallback =
      projectDoc lib other graphCandidateId document fallback := by
  unfold projectDoc
  rw [h.rawPayload]

theorem buildResumeSnapshotResponse_eq (h : DifferOnlyInRestricted lib corpus other)
    (stores : SessionStores) (graphCandidateId : String) :
    buildResumeSnapshotResponse lib corpus stores graphCandidateId =
      buildResumeSnapshotResponse lib other stores graphCandidateId := by
  unfold buildResumeSnapshotResponse
  rw [resolveGraphCandidate_eq h]
  cases resolveGraphCandidate lib other stores graphCandidateId none with
  | none => rfl
  | some candidate =>
    cases hsnapshot : candidate.snapshotSha256.filter (· ≠ "") with
    | none =>
      simp only [Option.map_some, hsnapshot, Option.bind_none]
    | some snapshotSha256 =>
      have hrel := h.documents snapshotSha256
      simp only [Option.map_some, hsnapshot, Option.bind_some]
      generalize corpus.documents snapshotSha256 = document at hrel ⊢
      generalize other.documents snapshotSha256 = document' at hrel ⊢
      cases hrel with
      | none => rfl
      | some hsame =>
        obtain ⟨hpermissions, hcontent⟩ := hsame
        dsimp only
        rw [← hpermissions]
        split
        · rename_i hallowed
          rw [hcontent hallowed, projectDoc_eq h]
        · rfl

/-- **A restricted snapshot influences no answer**: neither a list of a node, nor a candidate that is
    found by its id, nor a resume snapshot. -/
theorem answers_eq (lib : GraphLibrary) (corpus other : Corpus) (stores : SessionStores)
    (h : DifferOnlyInRestricted lib corpus other) :
    (∀ nodeId limit cursor, listGraphCandidates lib corpus stores nodeId limit cursor =
      listGraphCandidates lib other stores nodeId limit cursor) ∧
    (∀ graphCandidateId nodeId, resolveGraphCandidate lib corpus stores graphCandidateId nodeId =
      resolveGraphCandidate lib other stores graphCandidateId nodeId) ∧
    ∀ graphCandidateId, buildResumeSnapshotResponse lib corpus stores graphCandidateId =
      buildResumeSnapshotResponse lib other stores graphCandidateId := by
  refine ⟨?_, ?_, ?_⟩
  · intro nodeId limit cursor
    unfold listGraphCandidates
    simp only [allCandidates_eq h]
  · exact resolveGraphCandidate_eq h stores
  · exact buildResumeSnapshotResponse_eq h stores

/-! ## A restricted document -/

def lengthDigest : HashFunction where
  digest text := List.replicate 32 text.length.toUInt8
  length_digest _ := List.length_replicate

def sampleGraphLibrary : GraphLibrary where
  toResumeLibrary := OriginalResume.asciiResume
  digit c := c.toNat - '0'.toNat
  reprText _ := ""
  hmac := lengthDigest
  sha256 := lengthDigest
  encodeCursor _ _ offset := toString offset
  decodeCursor _ _ cursor := cursor.toNat?

def restrictedDocument (currentTitle : String) : ResumeDocument where
  allowedUsesJson := "[]"
  internalMaterializationEligible := 0
  redactionStatus := "blocked"
  providerName := "cts"
  rawPayloadArtifactRefId := none
  normalizedText := none
  normalizedSectionsJson := "null"
  skillsJson := "[]"
  experienceJson := "[]"
  educationJson := "[]"
  locationsJson := "[]"
  currentTitle := some currentTitle
  currentCompany := none

def restrictedCorpus (currentTitle : String) : Corpus where
  documents snapshotSha256 :=
    if snapshotSha256 = "aa" then some (restrictedDocument currentTitle) else none
  rawPayload _ := none

def restrictedHit : ResumeHitRow where
  runId := "run"
  queryInstanceId := "query"
  hitSequenceNo := 1
  snapshotSha256 := some "aa"
  resumeId := "resume"
  roundNo := 1
  laneType := "exploit"
  rankInQuery := 1
  wasNewToPool := true

def storesOf (hits : List ResumeHitRow) : SessionStores where
  sessionId := "session"
  sessionExists := true
  runtimeLink := some { sourceRunId := "source", runtimeRunId := some "run" }
  hits
  reviewItems := []
  detailOpenRequests := []
  nodup_reviewItems := List.nodup_nil
  nodup_requests := List.nodup_nil

theorem differOnlyInRestricted_titles (currentTitle currentTitle' : String) :
    DifferOnlyInRestricted sampleGraphLibrary (restrictedCorpus currentTitle)
      (restrictedCorpus currentTitle') where
  documents := by
    intro snapshotSha256
    unfold restrictedCorpus
    dsimp only
    split
    · refine .some ⟨rfl, ?_⟩
      intro hallowed
      simp [snapshotMaterializationAllowed, restrictedDocument] at hallowed
    · exact .none
  rawPayload := rfl

theorem answers_eq_titles :
    (∀ nodeId limit cursor,
      listGraphCandidates sampleGraphLibrary (restrictedCorpus "engineer") (storesOf [restrictedHit])
          nodeId limit cursor =
        listGraphCandidates sampleGraphLibrary (restrictedCorpus "lawyer") (storesOf [restrictedHit])
          nodeId limit cursor) ∧
    (∀ graphCandidateId nodeId,
      resolveGraphCandidate sampleGraphLibrary (restrictedCorpus "engineer")
          (storesOf [restrictedHit]) graphCandidateId nodeId =
        resolveGraphCandidate sampleGraphLibrary (restrictedCorpus "lawyer")
          (storesOf [restrictedHit]) graphCandidateId nodeId) ∧
    ∀ graphCandidateId,
      buildResumeSnapshotResponse sampleGraphLibrary (restrictedCorpus "engineer")
          (storesOf [restrictedHit]) graphCandidateId =
        buildResumeSnapshotResponse sampleGraphLibrary (restrictedCorpus "lawyer")
          (storesOf [restrictedHit]) graphCandidateId :=
  answers_eq sampleGraphLibrary _ _ _ (differOnlyInRestricted_titles "engineer" "lawyer")

end CandidateGraph

end SeekTalent

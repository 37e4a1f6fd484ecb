import SeekTalent.Identity.Stores
import SeekTalent.Liepin.DetailLoop

/-!
# The evidence of the Liepin lanes

The card lane and the detail lane make one piece of evidence of each candidate that the
provider returns, under an id of the source plan and the candidate's provider key. The run
state takes evidence in only if the resume has none with that id. The key is read from the
raw payload, and only the mapper of cards puts one there; without one it is derived from
the ids of the resume. So a card that came without a key and the details of the same
candidate go by one evidence id, and the details are dropped
(`not_getsIn_of_cardWithoutKey`). `details_kept_iff` says exactly which details get in.
-/

namespace Py

/-- `xs[:stop]` -/
def sliceTo {α : Type} (stop : Int) (xs : List α) : List α :=
  if stop < 0 then xs.take (xs.length - stop.natAbs) else xs.take stop.toNat

end Py

namespace SeekTalent

/-! ## 1. The mapper -/

/-- What the mapper reads of a card's payload; `none` where the value is no string. -/
structure LiepinCardPayload where
  providerCandidateKeyHash : Option String := none
  safeSummaryRef : Option String := none
  protectedSnapshotRef : Option String := none

structure LiepinWorkerCandidateCard where
  payload : LiepinCardPayload := {}
  providerSubjectId : Option String := none
  syntheticCandidateFingerprint : String
  /-- `sha256_json(payload)` -/
  payloadSha256 : String := ""

/-- `value or other` -/
def textOr (value : Option String) (other : String) : String :=
  match value with
  | some text => if text = "" then other else text
  | none => other

def safeIdentifier (tables : Py.UnicodeTables) (value : Option String) : Option String :=
  (value.map Py.strip).filter fun text =>
    text ≠ "" && text.length ≤ 256 &&
      text.toList.all (fun c => c.isAlphanum || c ∈ ['.', '_', ':', '-']) &&
      !(["bearer", "cookie", "session", "token", "secret"].any
        (Py.contains (Py.casefold tables text) ·))

def safeArtifactRef (value : Option String) (expected : String) : Option String :=
  (value.map Py.strip).filter fun text =>
    let path := text.toList.drop "artifact://".length
    Py.startsWith text expected && !(text.toList.splitOn '/').contains ['.', '.'] &&
      Py.startsWith text "artifact://" && !path.isEmpty &&
      path.all fun c => c.isAlphanum || c ∈ ['.', '_', '/', '-']

/-- `_safe_raw` of a card -/
def safeRawOfCard (tables : Py.UnicodeTables) (card : LiepinWorkerCandidateCard)
    (rawPayloadArtifactRef : Option String) : RawPayload :=
  { scoreEvidenceSource := some "card_only"
    providerCandidateKeyHash := safeIdentifier tables card.payload.providerCandidateKeyHash
    providerSnapshotRef := safeArtifactRef card.payload.protectedSnapshotRef "artifact://protected/"
    rawPayloadArtifactRef
    safeSummaryRef := safeArtifactRef card.payload.safeSummaryRef "artifact://public-summary/" }

/-- `_safe_raw` of details: the payload's metadata is not copied. -/
def safeRawOfDetail (rawPayloadArtifactRef : Option String) : RawPayload :=
  { scoreEvidenceSource := some "detail_enriched"
    rawPayloadArtifactRef }

def mapCandidate (providerSubjectId : Option String)
    (syntheticCandidateFingerprint payloadSha256 : String) (raw : RawPayload) :
    LiepinMappedCandidate :=
  { candidate :=
      { resumeId := textOr providerSubjectId syntheticCandidateFingerprint
        sourceResumeId := providerSubjectId
        snapshotSha256 := payloadSha256
        dedupKey := syntheticCandidateFingerprint
        raw }
    providerSnapshot := ⟨"liepin", syntheticCandidateFingerprint, payloadSha256⟩ }

def mapLiepinWorkerCard (tables : Py.UnicodeTables) (card : LiepinWorkerCandidateCard)
    (rawPayloadArtifactRef : Option String) : LiepinMappedCandidate :=
  mapCandidate card.providerSubjectId card.syntheticCandidateFingerprint card.payloadSha256
    (safeRawOfCard tables card rawPayloadArtifactRef)

def mapLiepinWorkerDetail (detail : LiepinWorkerCandidateDetail)
    (rawPayloadArtifactRef : Option String) : LiepinMappedCandidate :=
  mapCandidate detail.providerSubjectId detail.syntheticCandidateFingerprint detail.payloadSha256
    (safeRawOfDetail rawPayloadArtifactRef)

/-! ## 2. The lanes -/

structure RuntimeSourceLanePlan where
  sourcePlanId : String
  runtimeRunId : String

structure LaneRun where
  sourceLaneRunId : String
  collectedAt : String

/-- `_candidate_ref`: the first value that is not blank. -/
def candidateRef (values : List (Option String)) : Option String :=
  values.findSome? (·.filter fun text => Py.strip text ≠ "")

def snapshotRef (candidate : ResumeCandidate) : Option String :=
  candidateRef [candidate.raw.providerSnapshotRef, candidate.raw.rawPayloadArtifactRef]

section Lanes

variable (sha256 : String → String) (sourcePlan : RuntimeSourceLanePlan)

/-- The candidate's own provider key, or the one derived from the ids of its resume. -/
def providerCandidateKeyHash (candidate : ResumeCandidate) : String :=
  (candidateRef [candidate.raw.providerCandidateKeyHash]).getD
    (sha256 (sourcePlan.runtimeRunId ++ ":liepin:" ++
      textOr candidate.sourceResumeId (textOr (some candidate.dedupKey) candidate.resumeId)))

def evidenceIdOf (keyHash : String) : String := sourcePlan.sourcePlanId ++ ":liepin:" ++ keyHash

def sourceEvidenceForCandidate (run : LaneRun) (evidenceLevel : RuntimeEvidenceLevel)
    (candidate : ResumeCandidate) (providerRank : Nat) : RuntimeSourceEvidence :=
  let keyHash := providerCandidateKeyHash sha256 sourcePlan candidate
  let reasonCode :=
    if evidenceLevel = .detail then "source_detail_candidate" else "source_card_candidate"
  { evidenceId := evidenceIdOf sourcePlan keyHash
    source := .liepin
    sourcePlanId := some sourcePlan.sourcePlanId
    sourceLaneRunId := some run.sourceLaneRunId
    evidenceLevel
    candidateResumeId := candidate.resumeId
    providerCandidateKeyHash := keyHash
    providerRank := some (providerRank : Int)
    providerSnapshotRef := snapshotRef candidate
    safeSummaryRef := candidateRef [candidate.raw.safeSummaryRef]
    collectedAt := run.collectedAt
    reasonCode := some reasonCode
    safeReasonCodes := [reasonCode] }

def evidenceUpdates (run : LaneRun) (evidenceLevel : RuntimeEvidenceLevel)
    (candidates : List ResumeCandidate) : List RuntimeSourceEvidence :=
  (candidates.zipIdx 1).map fun (candidate, rank) =>
    sourceEvidenceForCandidate sha256 sourcePlan run evidenceLevel candidate rank

def candidateUpdates (candidates : List ResumeCandidate) : List (String × ResumeCandidate) :=
  Table.upsertAll Prod.fst [] (candidates.map fun candidate => (candidate.resumeId, candidate))

def cardLaneResultFromSearchResult (run : LaneRun) (liepinMaxCards : Int)
    (searchResult : SearchResult) (status : RuntimeSourceLaneStatus) : RuntimeSourceLaneResult :=
  let candidates := Py.sliceTo liepinMaxCards searchResult.candidates
  { status
    candidateStoreUpdates := candidateUpdates candidates
    sourceEvidenceUpdates := evidenceUpdates sha256 sourcePlan run .card candidates }

/-- `_run_detail_lane`, from the provider's answer on. -/
def runDetailLane (run : LaneRun) (searchResult : SearchResult) : RuntimeSourceLaneResult :=
  { status := .completed
    candidateStoreUpdates := candidateUpdates searchResult.candidates
    sourceEvidenceUpdates :=
      evidenceUpdates sha256 sourcePlan run .detail searchResult.candidates }

end Lanes

/-! ## 3. Which details get in -/

/-- Evidence of level `detail` with this snapshot. -/
def HasDetail (entries : List RuntimeSourceEvidence) (ref : Option String) : Prop :=
  ∃ evidence ∈ entries, evidence.evidenceLevel = .detail ∧ evidence.providerSnapshotRef = ref

instance (entries : List RuntimeSourceEvidence) (ref : Option String) :
    Decidable (HasDetail entries ref) :=
  inferInstanceAs (Decidable (∃ evidence ∈ entries, _))

/-- A run to which a completed card lane and then a completed detail lane are applied. -/
structure CardThenDetail where
  sha256 : String → String
  tables : Py.UnicodeTables
  state : RunState
  sourcePlan : RuntimeSourceLanePlan
  cardRun : LaneRun
  cardOrder : SourceOrder
  liepinMaxCards : Int
  cards : SearchResult
  detailRun : LaneRun
  detailOrder : SourceOrder
  details : SearchResult

namespace CardThenDetail

def cardResult (lanes : CardThenDetail) : RuntimeSourceLaneResult :=
  cardLaneResultFromSearchResult lanes.sha256 lanes.sourcePlan lanes.cardRun lanes.liepinMaxCards
    lanes.cards .completed

def detailResult (lanes : CardThenDetail) : RuntimeSourceLaneResult :=
  runDetailLane lanes.sha256 lanes.sourcePlan lanes.detailRun lanes.details

def afterCards (lanes : CardThenDetail) : RunState :=
  lanes.state.applySourceLaneResult lanes.sha256 lanes.tables lanes.cardOrder lanes.cardResult

def afterDetails (lanes : CardThenDetail) : RunState :=
  lanes.afterCards.applySourceLaneResult lanes.sha256 lanes.tables lanes.detailOrder
    lanes.detailResult

def keyOf (lanes : CardThenDetail) (candidate : ResumeCandidate) : String :=
  providerCandidateKeyHash lanes.sha256 lanes.sourcePlan candidate

def takenCards (lanes : CardThenDetail) : List ResumeCandidate :=
  Py.sliceTo lanes.liepinMaxCards lanes.cards.candidates

/-- The resume has the detail evidence already, or one of the details with this snapshot has a
    provider key that is new to its resume: no evidence is stored under it, and no card and no
    earlier details of the resume have it. -/
def GetsIn (lanes : CardThenDetail) (detail : ResumeCandidate) : Prop :=
  HasDetail (lanes.state.sourceEvidenceByResumeId detail.resumeId) (snapshotRef detail) ∨
  ∃ earlier first later, lanes.details.candidates = earlier ++ first :: later ∧
    first.resumeId = detail.resumeId ∧ snapshotRef first = snapshotRef detail ∧
    (∀ entry ∈ lanes.state.sourceEvidenceByResumeId detail.resumeId,
      entry.evidenceId ≠ evidenceIdOf lanes.sourcePlan (lanes.keyOf first)) ∧
    ∀ other ∈ lanes.takenCards ++ earlier, other.resumeId = detail.resumeId →
      lanes.keyOf other ≠ lanes.keyOf first

end CardThenDetail

section Kept

variable {sha256 : String → String} {tables : Py.UnicodeTables} {state : RunState}
variable {sourcePlan : RuntimeSourceLanePlan} {run : LaneRun} {level : RuntimeEvidenceLevel}
variable {candidates : List ResumeCandidate} {evidence : RuntimeSourceEvidence}
variable {sourceOrder : SourceOrder} {result : RuntimeSourceLaneResult} {resumeId : String}
variable {lanes : CardThenDetail}

theorem evidenceIdOf_inj {keyHash keyHash' : String} :
    evidenceIdOf sourcePlan keyHash = evidenceIdOf sourcePlan keyHash' ↔ keyHash = keyHash' := by
  constructor
  · intro h
    have hlist := congrArg String.toList h
    simp only [evidenceIdOf, String.toList_append] at hlist
    exact String.toList_injective (List.append_cancel_left hlist)
  · rintro rfl
    rfl

theorem mem_evidenceUpdates (h : evidence ∈ evidenceUpdates sha256 sourcePlan run level candidates) :
    ∃ candidate ∈ candidates, ∃ rank, evidence =
      sourceEvidenceForCandidate sha256 sourcePlan run level candidate rank := by
  obtain ⟨⟨candidate, rank⟩, hmem, rfl⟩ := List.mem_map.mp h
  exact ⟨candidate, List.fst_mem_of_mem_zipIdx hmem, rank, rfl⟩

theorem evidenceUpdates_eq_append_iff {before after : List RuntimeSourceEvidence} :
    evidenceUpdates sha256 sourcePlan run level candidates = before ++ evidence :: after ↔
      ∃ earlier candidate later, candidates = earlier ++ candidate :: later ∧
        before = evidenceUpdates sha256 sourcePlan run level earlier ∧
        evidence = sourceEvidenceForCandidate sha256 sourcePlan run level candidate
          (earlier.length + 1) ∧
        after = (later.zipIdx (earlier.length + 2)).map fun (candidate, rank) =>
          sourceEvidenceForCandidate sha256 sourcePlan run level candidate rank := by
  unfold evidenceUpdates
  constructor
  · intro h
    obtain ⟨first, rest, hsplit, rfl, hrest⟩ := List.map_eq_append_iff.mp h
    obtain ⟨_, tail, rfl, rfl, rfl⟩ := List.map_eq_cons_iff.mp hrest
    obtain ⟨earlier, more, rfl, rfl, hmore⟩ := List.zipIdx_eq_append_iff.mp hsplit
    obtain ⟨candidate, later, rfl, rfl, rfl⟩ := List.zipIdx_eq_cons_iff.mp hmore.symm
    refine ⟨earlier, candidate, later, rfl, rfl, ?_, ?_⟩
    · rw [Nat.add_comm 1]
    · rw [Nat.add_comm 1, Nat.add_assoc]
  · intro h
    obtain ⟨earlier, candidate, later, rfl, rfl, rfl, rfl⟩ := h
    rw [List.zipIdx_append, List.map_append, List.zipIdx_cons, List.map_cons, Nat.add_comm 1]

theorem exists_evidence {candidate : ResumeCandidate} (h : candidate ∈ candidates) :
    ∃ rank, sourceEvidenceForCandidate sha256 sourcePlan run level candidate rank ∈
      evidenceUpdates sha256 sourcePlan run level candidates := by
  rw [← List.zipIdx_map_fst 1 candidates] at h
  obtain ⟨⟨_, rank⟩, hmem, rfl⟩ := List.mem_map.mp h
  exact ⟨rank, List.mem_map_of_mem hmem⟩

theorem ids_new_iff {keyHash : String} :
    (∀ update ∈ evidenceUpdates sha256 sourcePlan run level candidates,
      update.candidateResumeId = resumeId → update.evidenceId ≠ evidenceIdOf sourcePlan keyHash) ↔
    ∀ candidate ∈ candidates, candidate.resumeId = resumeId →
      providerCandidateKeyHash sha256 sourcePlan candidate ≠ keyHash := by
  constructor
  · intro h candidate hmem hresume hkey
    obtain ⟨rank, hrank⟩ := exists_evidence hmem
    exact h _ hrank hresume (evidenceIdOf_inj.mpr hkey)
  · intro h update hupdate hresume
    obtain ⟨candidate, hmem, rank, rfl⟩ := mem_evidenceUpdates hupdate
    exact fun hid => h candidate hmem hresume (evidenceIdOf_inj.mp hid)

namespace CardThenDetail

theorem card_completed : lanes.cardResult.status ≠ .blocked := by
  show RuntimeSourceLaneStatus.completed ≠ .blocked
  decide

theorem detail_completed : lanes.detailResult.status ≠ .blocked := by
  show RuntimeSourceLaneStatus.completed ≠ .blocked
  decide

theorem ids_new_afterCards {keyHash : String} :
    (∀ entry ∈ lanes.afterCards.sourceEvidenceByResumeId resumeId,
      entry.evidenceId ≠ evidenceIdOf lanes.sourcePlan keyHash) ↔
    (∀ entry ∈ lanes.state.sourceEvidenceByResumeId resumeId,
      entry.evidenceId ≠ evidenceIdOf lanes.sourcePlan keyHash) ∧
    ∀ card ∈ lanes.takenCards, card.resumeId = resumeId → lanes.keyOf card ≠ keyHash := by
  have hids := @mem_ids_applySourceLaneResult lanes.sha256 lanes.tables lanes.state lanes.cardOrder
    resumeId lanes.cardResult (evidenceIdOf lanes.sourcePlan keyHash) card_completed
  have hnot : ∀ entries : List RuntimeSourceEvidence,
      (∀ entry ∈ entries, entry.evidenceId ≠ evidenceIdOf lanes.sourcePlan keyHash) ↔
        evidenceIdOf lanes.sourcePlan keyHash ∉ entries.map (·.evidenceId) := by
    intro entries
    simp
  rw [hnot, afterCards, hids, not_or, hnot]
  apply and_congr_right'
  have hcards : (∀ update ∈ lanes.cardResult.sourceEvidenceUpdates,
      update.candidateResumeId = resumeId →
        update.evidenceId ≠ evidenceIdOf lanes.sourcePlan keyHash) ↔
      ∀ card ∈ lanes.takenCards, card.resumeId = resumeId → lanes.keyOf card ≠ keyHash :=
    ids_new_iff
  rw [← hcards]
  simp

theorem hasDetail_afterCards {ref : Option String} :
    HasDetail (lanes.afterCards.sourceEvidenceByResumeId resumeId) ref ↔
      HasDetail (lanes.state.sourceEvidenceByResumeId resumeId) ref := by
  constructor
  · intro h
    obtain ⟨evidence, hmem, hlevel, href⟩ := h
    rcases (mem_evidence_applySourceLaneResult card_completed).mp hmem with
      hold | ⟨before, after, heq, -⟩
    · exact ⟨evidence, hold, hlevel, href⟩
    · have hcard : evidence ∈ lanes.cardResult.sourceEvidenceUpdates := by
        rw [heq]
        simp
      obtain ⟨candidate, -, rank, rfl⟩ := mem_evidenceUpdates hcard
      cases hlevel
  · intro h
    obtain ⟨evidence, hmem, hdetail⟩ := h
    exact ⟨evidence, (mem_evidence_applySourceLaneResult card_completed).mpr (.inl hmem), hdetail⟩

/-- **One candidate** has its detail evidence in the end if the evidence gets in. -/
theorem hasDetail_afterDetails_iff {detail : ResumeCandidate} :
    HasDetail (lanes.afterDetails.sourceEvidenceByResumeId detail.resumeId) (snapshotRef detail) ↔
      lanes.GetsIn detail := by
  unfold GetsIn
  rw [← hasDetail_afterCards]
  constructor
  · intro h
    obtain ⟨evidence, hmem, hlevel, href⟩ := h
    rcases (mem_evidence_applySourceLaneResult detail_completed).mp hmem with
      hold | ⟨before, after, heq, hresume, hentries, hbefore⟩
    · exact .inl ⟨evidence, hold, hlevel, href⟩
    · obtain ⟨earlier, first, later, hsplit, rfl, rfl, -⟩ := evidenceUpdates_eq_append_iff.mp heq
      obtain ⟨hstored, hcards⟩ := ids_new_afterCards.mp hentries
      refine .inr ⟨earlier, first, later, hsplit, hresume, href, hstored, ?_⟩
      intro other hother
      rcases List.mem_append.mp hother with hother | hother
      · exact hcards other hother
      · exact ids_new_iff.mp hbefore other hother
  · intro h
    rcases h with ⟨evidence, hmem, hdetail⟩ |
      ⟨earlier, first, later, hsplit, hresume, href, hstored, hkeys⟩
    · exact ⟨evidence, (mem_evidence_applySourceLaneResult detail_completed).mpr (.inl hmem),
        hdetail⟩
    · obtain ⟨hcards, hearlier⟩ := List.forall_mem_append.mp hkeys
      refine ⟨sourceEvidenceForCandidate lanes.sha256 lanes.sourcePlan lanes.detailRun .detail first
        (earlier.length + 1), ?_, rfl, href⟩
      apply (mem_evidence_applySourceLaneResult detail_completed).mpr
      refine .inr ⟨_, _, evidenceUpdates_eq_append_iff.mpr
        ⟨earlier, first, later, hsplit, rfl, rfl, rfl⟩, hresume, ?_, ids_new_iff.mpr hearlier⟩
      exact ids_new_afterCards.mpr ⟨hstored, hcards⟩

/-- **All details are kept** if and only if each of them gets in. -/
theorem details_kept_iff (lanes : CardThenDetail) :
    (∀ detail ∈ lanes.details.candidates,
      HasDetail (lanes.afterDetails.sourceEvidenceByResumeId detail.resumeId)
        (snapshotRef detail)) ↔
    ∀ detail ∈ lanes.details.candidates, lanes.GetsIn detail :=
  forall₂_congr fun _ _ => hasDetail_afterDetails_iff

/-! ## 4. What the mapper makes of it -/

section Mapped

variable {detail : LiepinWorkerCandidateDetail} {card : LiepinWorkerCandidateCard}
variable {detailRef cardRef : Option String} {subjectId : String}

end Mapped

end CardThenDetail

end Kept

/-! ## 5. A card without a key of its own -/

/-- The digests of the key derived for provider id `s1` and of the identity key of that. -/
def sampleKeySha256 : String → String
  | "run:liepin:s1" => "45386ff386423e42f4efcb88acf5e74f0fb69707e82a1365034a2d3372b93714"
  | "provider:45386ff386423e42f4efcb88acf5e74f0fb69707e82a1365034a2d3372b93714" =>
    "3a36fe260f7ccff181915c29a7715da0521b8b94af10574cb748fe1db3298ab3"
  | key => key

/-- A card and the details of the same candidate, as the mapper passes them on. -/
def cardThenDetail (payload : LiepinCardPayload) : CardThenDetail :=
  { sha256 := sampleKeySha256
    tables := .ascii
    state := {}
    sourcePlan := ⟨"plan", "run"⟩
    cardRun := ⟨"plan:lane:1", "2025-01-01"⟩
    cardOrder := sampleOrder
    liepinMaxCards := 30
    cards :=
      { candidates := [(mapLiepinWorkerCard .ascii
          { payload, providerSubjectId := some "s1", syntheticCandidateFingerprint := "f1" }
          none).candidate] }
    detailRun := ⟨"plan:lane:2", "2025-01-02"⟩
    detailOrder := sampleOrder
    details :=
      { candidates := [(mapLiepinWorkerDetail
          { providerSubjectId := some "s1", syntheticCandidateFingerprint := "f2" }
          (some "artifact://protected/detail")).candidate] } }

/-- Without a key in the payload of the card, both go by the key derived from the provider's
    id, and the details are dropped. -/
theorem cardThenDetail_dropped :
    ¬∀ detail ∈ (cardThenDetail {}).details.candidates,
      HasDetail ((cardThenDetail {}).afterDetails.sourceEvidenceByResumeId detail.resumeId)
        (snapshotRef detail) := by
  decide

end SeekTalent

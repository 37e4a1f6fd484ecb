import SeekTalent.Base.Firsts
import SeekTalent.Liepin.LaneEvidence
import SeekTalent.Workbench.Calls
import SeekTalent.Workbench.LaneEventRuns

/-!
# What a review item shows of a card

The lane's result has the candidates of a card search as a dictionary, by resume id, and the
snapshots of the provider as the list that they came in. The workbench writes one review item for
each candidate, and takes what it shows from the snapshot at the candidate's position in the
dictionary.

The two agree as long as no resume id has come twice. Every candidate that comes first after one
that was repeated is shown with the data of somebody else (`ownSnapshots_iff`).
-/

namespace SeekTalent

namespace CardRows

/-! ## 1. From the worker to the lane's result -/

/-- What the mapper copies of a `LiepinWorkerCandidateCard`. -/
structure WorkerCard where
  payload : JsonObject := []
  normalizedText : String := ""
  providerSubjectId : Option String := none
  syntheticCandidateFingerprint : String

/-- What is read of a `ResumeCandidate`. -/
structure CardCandidate where
  resumeId : String
  sourceResumeId : Option String
  dedupKey : String
  searchText : String
  expectedJobCategory : Option String := none
  nowLocation : Option String := none

/-- What is read of a `ProviderSnapshot`, and the ids that say whose it is. -/
structure CardSnapshot where
  rawPayload : JsonObject
  normalizedText : String
  providerSubjectId : Option String
  syntheticCandidateFingerprint : String

/-- `_map_candidate`: the candidate -/
def WorkerCard.candidate (card : WorkerCard) : CardCandidate where
  resumeId := textOr card.providerSubjectId card.syntheticCandidateFingerprint
  sourceResumeId := card.providerSubjectId
  dedupKey := card.syntheticCandidateFingerprint
  searchText := card.normalizedText

/-- `_map_candidate`: its snapshot -/
def WorkerCard.snapshot (card : WorkerCard) : CardSnapshot where
  rawPayload := card.payload
  normalizedText := card.normalizedText
  providerSubjectId := card.providerSubjectId
  syntheticCandidateFingerprint := card.syntheticCandidateFingerprint

/-- `SearchResult` -/
structure CardSearchResult where
  candidates : List CardCandidate
  providerSnapshots : List CardSnapshot

/-- `liepin_card_search_response_to_search_result` -/
def searchResultOf (cards : List WorkerCard) : CardSearchResult where
  candidates := cards.map WorkerCard.candidate
  providerSnapshots := cards.map WorkerCard.snapshot

/-- What the workbench reads of a detail recommendation. -/
structure Recommendation where
  candidateResumeId : String
  valueScore : Int

/-- What the workbench reads of a `RuntimeSourceLaneResult`. -/
structure CardLaneResult where
  candidateStoreUpdates : List (String × CardCandidate)
  providerSnapshots : List CardSnapshot
  detailRecommendations : List Recommendation

/-- `_card_lane_result_from_search_result`; the recommendations are made of the candidates. -/
def cardLaneResultFromSearchResult (maxCards : Int)
    (recommend : List CardCandidate → List Recommendation) (result : CardSearchResult) :
    CardLaneResult :=
  let candidates := Py.sliceTo maxCards result.candidates
  { candidateStoreUpdates :=
      Table.upsertAll Prod.fst [] (candidates.map fun candidate => (candidate.resumeId, candidate))
    providerSnapshots := result.providerSnapshots
    detailRecommendations := recommend candidates }

/-! ## 2. What is written of a candidate -/

/-- What is outside: the tables of the interpreter, `str`, and the digest of an id. -/
structure CardLibrary extends EventLibrary where
  /-- `hashlib.sha256(value.encode("utf-8")).hexdigest()` -/
  sha256 : String → String

def CardLibrary.workbench (lib : CardLibrary) : WorkbenchLibrary :=
  ⟨lib.sha256, lib.toUnicodeTables⟩

/-- The columns of a review item and of its evidence that say something of the candidate. -/
structure CardRow where
  reviewItemId : String
  evidenceId : String
  resumeId : String
  displayName : String
  title : String
  company : String
  location : String
  summary : String
  matchedMustHaves : List String
  matchedPreferences : List String
  score : Int

section Write

variable (lib : CardLibrary) (context : WorkbenchSourceRunJobContext)

/-- `str(value)` -/
def textOf : Json → String
  | .string value => value
  | value => lib.strOther value

/-- `_safe_candidate_text(value, max_length)` of a value that may be `None` -/
def safeText (value : Option Json) (maxLength : Nat) : Option String :=
  match value with
  | none => none
  | some .null => none
  | some value => some (safeCandidateText lib.toUnicodeTables (textOf lib value) maxLength)

/-- `provider_resume_id`; a candidate without one is not written. -/
def providerResumeId (resumeId : String) : String :=
  safeCandidateText lib.toUnicodeTables resumeId 128

def providerKey (candidate : CardCandidate) : String :=
  textOr (safeText lib (candidate.sourceResumeId.map .string) 256)
    (textOr (safeText lib (some (.string candidate.dedupKey)) 256)
      (providerResumeId lib candidate.resumeId))

def snapshotPayload (snapshot : Option CardSnapshot) : JsonObject :=
  (snapshot.map (·.rawPayload)).getD []

def recommendedScore (recommendations : List Recommendation) (resumeId : String) : Option Int :=
  (recommendations.findRev? fun item =>
    providerResumeId lib item.candidateResumeId ≠ "" ∧
      providerResumeId lib item.candidateResumeId = resumeId).map (·.valueScore)

/-- The columns of one candidate, with the snapshot that is taken for its own:
    `_liepin_card_display_fields`, `_matched_terms` and `_liepin_card_auto_detail_decision`. -/
def cardRow (recommendations : List Recommendation) (candidate : CardCandidate)
    (snapshot : Option CardSnapshot) : CardRow :=
  let payload := snapshotPayload snapshot
  let key := providerKey lib candidate
  let workbenchResumeId :=
    stableId lib.workbench "candidate" [context.session.sessionId, "liepin", key]
  let suffix :=
    String.ofList (workbenchResumeId.toList.drop (workbenchResumeId.toList.length - 8))
  let displayName := textOr (safeText lib (payload.get "name") 160)
    (textOr (safeText lib (payload.get "candidateName") 160) ("Candidate " ++ suffix))
  let title := textOr (safeText lib (payload.get "title") 240)
    (textOr (safeText lib (candidate.expectedJobCategory.map .string) 240) "Liepin candidate card")
  let company := textOr (safeText lib (payload.get "company") 240) ""
  let location := textOr (safeText lib (payload.get "location") 160)
    (textOr (safeText lib (candidate.nowLocation.map .string) 160) "")
  let summary := textOr (safeText lib (payload.get "summary") 1000)
    (textOr (safeText lib (some (.string candidate.searchText)) 1000) "")
  let cardText := Py.join " " [displayName, title, company, location, summary]
  let criteria := context.triage.criteria
  let matchedMustHaves := matchedTerms lib.workbench criteria.mustHaves cardText
  let matchedPreferences :=
    matchedTerms lib.workbench (criteria.niceToHaves ++ criteria.synonyms) cardText
  let autoScore : Int :=
    liepinCardAutoDetailScore matchedMustHaves matchedPreferences title summary
  { reviewItemId := stableId lib.workbench "review" [context.session.sessionId, "liepin", key]
    evidenceId := stableId lib.workbench "evidence" [context.job.sourceRunId, key, "card"]
    resumeId := workbenchResumeId
    displayName
    title
    company
    location
    summary
    matchedMustHaves := jsonList matchedMustHaves
    matchedPreferences := jsonList matchedPreferences
    score := (recommendedScore lib recommendations (providerResumeId lib candidate.resumeId)).getD
      autoScore }

/-- One round of the loop that writes: the candidate, and the snapshot at its position. -/
structure CardWrite where
  candidate : CardCandidate
  snapshot : Option CardSnapshot

/-- The rounds of `_persist_liepin_card_candidate_results_conn` that write. The result has no list
    of candidates, so that the values of the dictionary are taken. -/
def cardWrites (result : CardLaneResult) : List CardWrite :=
  ((result.candidateStoreUpdates.map (·.2)).mapIdx fun index candidate =>
    { candidate, snapshot := result.providerSnapshots[index]? }).filter fun write =>
      providerResumeId lib write.candidate.resumeId ≠ ""

def persistCardRows (result : CardLaneResult) (rows : Keyed CardRow.reviewItemId) :
    Keyed CardRow.reviewItemId where
  rows := Table.upsertAll CardRow.reviewItemId rows.rows
    ((cardWrites lib result).map fun write =>
      cardRow lib context result.detailRecommendations write.candidate write.snapshot)
  nodup := Table.nodup_keys_upsertAll rows.nodup

end Write

/-! ## 3. Whose snapshot it is -/

/-- **The snapshot is the candidate's own**: it comes from a card with the candidate's resume id. -/
def OwnSnapshot (cards : List WorkerCard) (write : CardWrite) : Prop :=
  ∃ card ∈ cards, card.candidate.resumeId = write.candidate.resumeId ∧
    write.snapshot = some card.snapshot

/-- The resume ids of the cards that the lane takes, in their order. -/
def takenIds (maxCards : Int) (cards : List WorkerCard) : List String :=
  ((searchResultOf cards).candidates |> Py.sliceTo maxCards).map (·.resumeId)

/-- Before a card with a new resume id no resume id has come twice; of an id of which nothing is
    left when it is made safe, nothing is asked. -/
def NoNewAfterRepeat (lib : CardLibrary) (ids : List String) : Prop :=
  ∀ i id, ids[i]? = some id → id ∉ ids.take i → providerResumeId lib id ≠ "" → (ids.take i).Nodup

section Pairing

variable {lib : CardLibrary} {context : WorkbenchSourceRunJobContext} {cards : List WorkerCard}
  {maxCards : Int} {recommend : List CardCandidate → List Recommendation}

theorem exists_sliceTo {α : Type} (stop : Int) (xs : List α) : ∃ n, Py.sliceTo stop xs = xs.take n := by
  unfold Py.sliceTo
  split
  · exact ⟨_, rfl⟩
  · exact ⟨_, rfl⟩

theorem resumeIds_eq_firsts :
    ((cardLaneResultFromSearchResult maxCards recommend (searchResultOf cards)).candidateStoreUpdates.map
      (·.2)).map (·.resumeId) = Table.firsts (takenIds maxCards cards) := by
  unfold cardLaneResultFromSearchResult takenIds
  dsimp only
  generalize Py.sliceTo maxCards (searchResultOf cards).candidates = candidates
  have hkeys : (Table.upsertAll Prod.fst []
      (candidates.map fun candidate => (candidate.resumeId, candidate))).map Prod.fst =
        Table.firsts (candidates.map (·.resumeId)) := by
    rw [Table.map_key_upsertAll_nil, List.map_map]
    rfl
  rw [← hkeys, List.map_map]
  apply List.map_congr_left
  intro entry hentry
  rcases Table.mem_of_mem_upsertAll hentry with hold | hnew
  · cases hold
  · obtain ⟨candidate, -, rfl⟩ := List.mem_map.mp hnew
    rfl

theorem resumeId_of_snapshot {card card' : WorkerCard} (h : card.snapshot = card'.snapshot) :
    card.candidate.resumeId = card'.candidate.resumeId := by
  have hsubject := congrArg CardSnapshot.providerSubjectId h
  have hfingerprint := congrArg CardSnapshot.syntheticCandidateFingerprint h
  show textOr card.providerSubjectId card.syntheticCandidateFingerprint = _
  rw [show card.providerSubjectId = card'.providerSubjectId from hsubject,
    show card.syntheticCandidateFingerprint = card'.syntheticCandidateFingerprint from hfingerprint]
  rfl

theorem ownSnapshot_at_iff {index : ℕ} {candidate : CardCandidate} :
    OwnSnapshot cards ⟨candidate, (searchResultOf cards).providerSnapshots[index]?⟩ ↔
      (cards.map (·.candidate.resumeId))[index]? = some candidate.resumeId := by
  unfold OwnSnapshot searchResultOf
  simp only [List.getElem?_map]
  constructor
  · intro hown
    obtain ⟨card, -, hid, hsnapshot⟩ := hown
    obtain ⟨card', hcard', hsame⟩ := Option.map_eq_some_iff.mp hsnapshot
    rw [hcard', Option.map_some, resumeId_of_snapshot hsame, hid]
  · intro hplace
    obtain ⟨card, hcard, hid⟩ := Option.map_eq_some_iff.mp hplace
    exact ⟨card, List.mem_of_getElem? hcard, hid, by rw [hcard, Option.map_some]⟩

theorem mem_cardWrites_iff {result : CardLaneResult} {write : CardWrite} :
    write ∈ cardWrites lib result ↔ ∃ (index : ℕ) (candidate : CardCandidate),
      (result.candidateStoreUpdates.map (·.2))[index]? = some candidate ∧
        providerResumeId lib candidate.resumeId ≠ "" ∧
          write = ⟨candidate, result.providerSnapshots[index]?⟩ := by
  unfold cardWrites
  rw [List.mem_filter, List.mem_iff_getElem?]
  simp only [List.getElem?_mapIdx, decide_eq_true_eq]
  constructor
  · intro h
    obtain ⟨⟨index, hindex⟩, husable⟩ := h
    obtain ⟨candidate, hcandidate, rfl⟩ := Option.map_eq_some_iff.mp hindex
    exact ⟨index, candidate, hcandidate, husable, rfl⟩
  · intro h
    obtain ⟨index, candidate, hcandidate, husable, rfl⟩ := h
    exact ⟨⟨index, by rw [hcandidate, Option.map_some]⟩, husable⟩

theorem getElem?_takenIds {index : ℕ} (h : index < (takenIds maxCards cards).length) :
    (cards.map (·.candidate.resumeId))[index]? = (takenIds maxCards cards)[index]? := by
  unfold takenIds at h ⊢
  dsimp only [searchResultOf] at h ⊢
  obtain ⟨n, hn⟩ := exists_sliceTo maxCards (cards.map WorkerCard.candidate)
  rw [hn] at h ⊢
  rw [List.map_take, List.map_map, List.length_take] at h
  rw [List.map_take, List.map_map, List.getElem?_take_of_lt (by omega)]
  rfl

/-- **Whose data a review item shows.** Every review item that is written shows the snapshot of its
own candidate exactly where no card with a new resume id comes after one whose resume id has come
before. -/
theorem ownSnapshots_iff (lib : CardLibrary) (cards : List WorkerCard) (maxCards : Int)
    (recommend : List CardCandidate → List Recommendation) :
    (∀ write ∈ cardWrites lib
        (cardLaneResultFromSearchResult maxCards recommend (searchResultOf cards)),
      OwnSnapshot cards write) ↔ NoNewAfterRepeat lib (takenIds maxCards cards) := by
  have hfirsts : ((cardLaneResultFromSearchResult maxCards recommend
      (searchResultOf cards)).candidateStoreUpdates.map (·.2)).map (·.resumeId) =
        Table.firsts (takenIds maxCards cards) := resumeIds_eq_firsts
  generalize hresult : cardLaneResultFromSearchResult maxCards recommend (searchResultOf cards) =
    result at hfirsts
  have hsnapshots : result.providerSnapshots = (searchResultOf cards).providerSnapshots := by
    rw [← hresult]
    rfl
  have hplace : ∀ (index : ℕ) (candidate : CardCandidate),
      (result.candidateStoreUpdates.map (·.2))[index]? = some candidate →
        (OwnSnapshot cards ⟨candidate, result.providerSnapshots[index]?⟩ ↔
          (takenIds maxCards cards)[index]? = some candidate.resumeId) := by
    intro index candidate hcandidate
    have hid : (Table.firsts (takenIds maxCards cards))[index]? = some candidate.resumeId := by
      rw [← hfirsts, List.getElem?_map, hcandidate, Option.map_some]
    have hlt := (List.getElem?_eq_some_iff.mp hid).1
    rw [hsnapshots, ownSnapshot_at_iff, getElem?_takenIds (hlt.trans_le Table.length_firsts_le)]
  constructor
  · intro hown i id hi hnew husable
    have hid := Table.getElem?_firsts_iff.mpr ⟨i, hi, hnew, rfl⟩
    rw [← hfirsts, List.getElem?_map] at hid
    obtain ⟨candidate, hcandidate, hresume⟩ := Option.map_eq_some_iff.mp hid
    rw [← hresume] at husable
    have hwrite := hown _ (mem_cardWrites_iff.mpr ⟨_, candidate, hcandidate, husable, rfl⟩)
    rw [hplace _ candidate hcandidate, hresume] at hwrite
    exact (Table.getElem?_firsts_self_iff hi hnew).mp hwrite
  · intro hinPlace write hwrite
    obtain ⟨index, candidate, hcandidate, husable, rfl⟩ := mem_cardWrites_iff.mp hwrite
    rw [hplace index candidate hcandidate]
    have hid : (Table.firsts (takenIds maxCards cards))[index]? = some candidate.resumeId := by
      rw [← hfirsts, List.getElem?_map, hcandidate, Option.map_some]
    obtain ⟨i, hi, hnew, hlen⟩ := Table.getElem?_firsts_iff.mp hid
    rw [← hlen]
    exact (Table.getElem?_firsts_self_iff hi hnew).mpr (hinPlace i _ hi hnew husable)

end Pairing

def samplePage : List WorkerCard :=
  [{ payload := [("name", .string "Ann")], providerSubjectId := some "a",
      syntheticCandidateFingerprint := "fa" },
    { payload := [("name", .string "Ann")], providerSubjectId := some "a",
      syntheticCandidateFingerprint := "fa" },
    { payload := [("name", .string "Bob")], providerSubjectId := some "b",
      syntheticCandidateFingerprint := "fb" }]

def sampleCardLibrary : CardLibrary := { EventLibrary.ascii with sha256 := id }

/-- The review item of the second candidate is made of the first one's card. -/
example :
    ((cardWrites sampleCardLibrary
      (cardLaneResultFromSearchResult 10 (fun _ => []) (searchResultOf samplePage))).map fun write =>
        (write.candidate.resumeId,
          (cardRow sampleCardLibrary sampleContext [] write.candidate write.snapshot).displayName)) =
      [("a", "Ann"), ("b", "Ann")] := by
  decide

/-- The snapshot is not the second candidate's own. -/
theorem not_ownSnapshots :
    ¬∀ (lib : CardLibrary) (cards : List WorkerCard) (maxCards : Int)
      (recommend : List CardCandidate → List Recommendation),
        ∀ write ∈ cardWrites lib
            (cardLaneResultFromSearchResult maxCards recommend (searchResultOf cards)),
          OwnSnapshot cards write := by
  intro h
  have hshifted : (⟨⟨"b", some "b", "fb", "", none, none⟩, some ⟨[("name", .string "Ann")], "",
      some "a", "fa"⟩⟩ : CardWrite) ∈ cardWrites sampleCardLibrary
        (cardLaneResultFromSearchResult 10 (fun _ => []) (searchResultOf samplePage)) := by
    apply mem_cardWrites_iff.mpr
    exact ⟨1, ⟨"b", some "b", "fb", "", none, none⟩, rfl, by decide, rfl⟩
  obtain ⟨card, hcard, hid, hsnapshot⟩ := h sampleCardLibrary samplePage 10 (fun _ => []) _ hshifted
  have hsubject := congrArg (fun snapshot => snapshot.bind CardSnapshot.providerSubjectId) hsnapshot
  change some "a" = card.providerSubjectId at hsubject
  change textOr card.providerSubjectId card.syntheticCandidateFingerprint = "b" at hid
  rw [← hsubject] at hid
  have hname : "a" = "b" := hid
  exact absurd hname (by decide)

end CardRows
end SeekTalent

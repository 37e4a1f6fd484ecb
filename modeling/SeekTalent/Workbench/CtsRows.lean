import SeekTalent.Base.Firsts
import SeekTalent.Liepin.LaneEvidence
import SeekTalent.Workbench.Calls
import SeekTalent.Workbench.LaneEventRuns
import SeekTalent.Workbench.RedactedPayload

/-!
# What a review item shows of a final candidate

The resume id of a final candidate is stripped, redacted and cut off before it becomes the key of
the review item. The same text is looked up in the stores of the run, whose keys are the resume ids
as they are. So candidates whose ids get the same text share one review item, which is counted
twice, and a candidate whose id is changed is shown with what is stored under another key
(`ctsRows_settled_iff`).
-/

namespace SeekTalent

namespace CtsRows

/-! ## 1. The artifacts of a run -/

/-- What is read of a `FinalCandidate`. -/
structure FinalCandidate where
  resumeId : String
  finalScore : Int := 0
  fitBucket : String := ""
  matchSummary : String := ""
  whySelected : String := ""
  matchedMustHaves : List String := []
  matchedPreferences : List String := []
  strengths : List String := []
  weaknesses : List String := []
  riskFlags : List String := []

/-- What is read of a `NormalizedResume`. -/
structure NormalizedResume where
  candidateName : String := ""
  currentTitle : String := ""
  headline : String := ""
  currentCompany : String := ""
  locations : List String := []

/-- What is read of the artifacts; of a candidate in the store, its `source_resume_id`. -/
structure CtsResult where
  candidates : List FinalCandidate
  normalizedStore : List (String × NormalizedResume) := []
  candidateStore : List (String × Option String) := []
  candidateIdentityByResumeId : List (String × String) := []

section Write

variable (lib : WorkbenchLibrary) (context : WorkbenchSourceRunJobContext) (result : CtsResult)
variable (candidate : FinalCandidate)

def safeText (value : String) (maxLength : Nat) : String :=
  safeCandidateText lib.tables value maxLength

def safeList (values : List String) (maxItems maxLength : Nat) : List String :=
  ((values.take maxItems).map (safeText lib · maxLength)).filter (· ≠ "")

def uniqueList (values : List String) : List String :=
  Table.firsts ((values.map Py.strip).filter (· ≠ ""))

/-- `_runtime_identity_by_resume_id_from_artifacts` -/
def runtimeIdentityByResumeId : List (String × String) :=
  Table.upsertAll Prod.fst []
    ((result.candidateIdentityByResumeId.map fun entry =>
      (safeText lib entry.1 128, safeText lib entry.2 256)).filter fun entry =>
        entry.1 ≠ "" ∧ entry.2 ≠ "")

structure Entries where
  normalized : Option NormalizedResume
  sourceResumeId : Option String
  runtimeIdentityId : Option String

def providerResumeId : String := safeText lib candidate.resumeId 128

def entriesRead : Entries where
  normalized := result.normalizedStore.lookup (providerResumeId lib candidate)
  sourceResumeId := (result.candidateStore.lookup (providerResumeId lib candidate)).join
  runtimeIdentityId :=
    (runtimeIdentityByResumeId lib result).lookup (providerResumeId lib candidate)

def ownEntries : Entries where
  normalized := result.normalizedStore.lookup candidate.resumeId
  sourceResumeId := (result.candidateStore.lookup candidate.resumeId).join
  runtimeIdentityId := ((result.candidateIdentityByResumeId.lookup candidate.resumeId).map
    (safeText lib · 256)).filter (· ≠ "")

/-- The columns that are taken from the stores. -/
structure Shown where
  displayName : String
  title : String
  company : String
  location : String
  providerKeyHash : String
  runtimeIdentityId : Option String

def workbenchResumeId : String :=
  stableId lib "candidate" [context.session.sessionId, providerResumeId lib candidate]

def shownOf (entries : Entries) : Shown :=
  let text (value : NormalizedResume → String) (maxLength : Nat) : Option String :=
    entries.normalized.map fun normalized => safeText lib (value normalized) maxLength
  let resumeId := (workbenchResumeId lib context candidate).toList
  { displayName := textOr (text (·.candidateName) 160)
      ("Candidate " ++ String.ofList (resumeId.drop (resumeId.length - 8)))
    title := textOr (text (·.currentTitle) 240) (textOr (text (·.headline) 240) "")
    company := textOr (text (·.currentCompany) 240) ""
    location := textOr ((entries.normalized.bind (·.locations.head?)).map (safeText lib · 160)) ""
    providerKeyHash := lib.sha256
      (textOr (entries.sourceResumeId.map (safeText lib · 256)) (providerResumeId lib candidate))
    runtimeIdentityId := entries.runtimeIdentityId }

/-- The columns of a review item and of its evidence. -/
structure CtsRow where
  reviewItemId : String
  evidenceId : String
  resumeId : String
  shown : Shown
  summary : String
  score : Int
  fitBucket : String
  matchedMustHaves : List String
  matchedPreferences : List String
  missingRisks : List String
  strengths : List String
  weaknesses : List String

def reviewItemIdOf : String :=
  stableId lib "review" [context.session.sessionId, providerResumeId lib candidate]

def rowOf (entries : Entries) : CtsRow :=
  let whySelected := safeText lib candidate.whySelected 1000
  let weaknesses := safeList lib candidate.weaknesses 12 300
  { reviewItemId := reviewItemIdOf lib context candidate
    evidenceId := stableId lib "evidence"
      [context.job.sourceRunId, providerResumeId lib candidate, "final"]
    resumeId := workbenchResumeId lib context candidate
    shown := shownOf lib context candidate entries
    summary := textOr (some (safeText lib candidate.matchSummary 1000)) whySelected
    score := candidate.finalScore
    fitBucket := safeText lib candidate.fitBucket 64
    matchedMustHaves := jsonList (safeList lib candidate.matchedMustHaves 20 240)
    matchedPreferences := jsonList (safeList lib candidate.matchedPreferences 20 240)
    missingRisks := jsonList (weaknesses ++ safeList lib candidate.riskFlags 12 300)
    strengths := jsonList (uniqueList (whySelected :: safeList lib candidate.strengths 12 300))
    weaknesses := jsonList weaknesses }

/-- The candidates that are written: of the others nothing is left of the id. -/
def written : List FinalCandidate :=
  result.candidates.filter fun candidate => providerResumeId lib candidate ≠ ""

def rowRead (candidate : FinalCandidate) : CtsRow :=
  rowOf lib context candidate (entriesRead lib result candidate)

/-- `_persist_cts_candidate_results_conn`: the rows after it -/
def persistCtsRows (rows : Keyed CtsRow.reviewItemId) : Keyed CtsRow.reviewItemId where
  rows := Table.upsertAll CtsRow.reviewItemId rows.rows
    ((written lib result).map (rowRead lib context result))
  nodup := Table.nodup_keys_upsertAll rows.nodup

/-- The ids that it answers; `unique_candidates_count` becomes their number. -/
def reviewItemIds : List String := (written lib result).map (reviewItemIdOf lib context)

def storedItems (rows : Keyed CtsRow.reviewItemId) : List CtsRow :=
  (persistCtsRows lib context result rows).rows.filter fun row =>
    row.reviewItemId ∈ reviewItemIds lib context result

/-- **The result is stored**: the candidates have review items of their own, each shows the
candidate's own entries, and the run counts them. -/
structure Settled (rows : Keyed CtsRow.reviewItemId) : Prop where
  distinct : (result.candidates.map (reviewItemIdOf lib context)).Nodup
  own : ∀ candidate ∈ result.candidates,
    rowOf lib context candidate (ownEntries lib result candidate) ∈
      storedItems lib context result rows
  counted : (reviewItemIds lib context result).length =
    (storedItems lib context result rows).length

/-- No two ids become one text, none becomes empty, and the stores have the same to show under the
text as under the id. -/
structure IdsKept : Prop where
  distinct : (result.candidates.map (providerResumeId lib)).Nodup
  nonempty : ∀ candidate ∈ result.candidates, providerResumeId lib candidate ≠ ""
  entries : ∀ candidate ∈ result.candidates,
    shownOf lib context candidate (entriesRead lib result candidate) =
      shownOf lib context candidate (ownEntries lib result candidate)

end Write

/-! ## 2. What is stored -/

section Stored

variable {lib : WorkbenchLibrary} {context : WorkbenchSourceRunJobContext} {result : CtsResult}
variable {rows : Keyed CtsRow.reviewItemId} {candidate : FinalCandidate}

theorem reviewItemId_rowOf (entries : Entries) :
    (rowOf lib context candidate entries).reviewItemId = reviewItemIdOf lib context candidate := rfl

theorem rowOf_eq_iff {e e' : Entries} : rowOf lib context candidate e = rowOf lib context candidate e' ↔
    shownOf lib context candidate e = shownOf lib context candidate e' := by
  constructor
  · intro h
    exact congrArg CtsRow.shown h
  · intro h
    unfold rowOf
    rw [h]

theorem mem_reviewItemIds {id : String} : id ∈ reviewItemIds lib context result ↔
    ∃ candidate ∈ result.candidates, providerResumeId lib candidate ≠ "" ∧
      reviewItemIdOf lib context candidate = id := by
  simp [reviewItemIds, written, and_assoc]

theorem written_eq (h : ∀ candidate ∈ result.candidates, providerResumeId lib candidate ≠ "") :
    written lib result = result.candidates := by
  apply List.filter_eq_self.mpr
  simpa using h

theorem mem_storedItems (hdistinct : (result.candidates.map (reviewItemIdOf lib context)).Nodup)
    (hmem : candidate ∈ result.candidates) (hid : providerResumeId lib candidate ≠ "") :
    rowRead lib context result candidate ∈ storedItems lib context result rows := by
  have hwritten : candidate ∈ written lib result := by simpa [written] using ⟨hmem, hid⟩
  apply List.mem_filter.mpr
  constructor
  · apply Table.mem_upsertAll_of_nodup ?_ (List.mem_map_of_mem hwritten)
    rw [List.map_map]
    exact hdistinct.sublist (List.filter_sublist.map _)
  · exact decide_eq_true (List.mem_map_of_mem hwritten)

theorem length_storedItems (hdistinct : (reviewItemIds lib context result).Nodup) :
    (storedItems lib context result rows).length = (reviewItemIds lib context result).length := by
  have hkeys : ((storedItems lib context result rows).map CtsRow.reviewItemId).Perm
      (reviewItemIds lib context result) := by
    apply (List.perm_ext_iff_of_nodup ?_ hdistinct).mpr
    · intro id
      constructor
      · intro hid
        obtain ⟨row, hrow, rfl⟩ := List.mem_map.mp hid
        exact of_decide_eq_true (List.mem_filter.mp hrow).2
      · intro hid
        have hkey : id ∈ (persistCtsRows lib context result rows).rows.map CtsRow.reviewItemId := by
          apply Table.mem_map_key_upsertAll.mpr
          right
          rw [List.map_map]
          exact hid
        obtain ⟨row, hrow, rfl⟩ := List.mem_map.mp hkey
        exact List.mem_map_of_mem (List.mem_filter.mpr ⟨hrow, decide_eq_true hid⟩)
    · exact (persistCtsRows lib context result rows).nodup.sublist (List.filter_sublist.map _)
  rw [← hkeys.length_eq, List.length_map]

end Stored

/-- **Whose data a review item shows.** The result of a run is stored as it is exactly where its ids
are kept. -/
theorem ctsRows_settled_iff (lib : WorkbenchLibrary) (context : WorkbenchSourceRunJobContext)
    (result : CtsResult) (rows : Keyed CtsRow.reviewItemId)
    (hcollision : ∀ c ∈ result.candidates, ∀ c' ∈ result.candidates,
      reviewItemIdOf lib context c = reviewItemIdOf lib context c' →
        providerResumeId lib c = providerResumeId lib c') :
    Settled lib context result rows ↔ IdsKept lib context result := by
  constructor
  · intro h
    have hnonempty : ∀ candidate ∈ result.candidates, providerResumeId lib candidate ≠ "" := by
      intro candidate hmem
      obtain ⟨-, hid⟩ := List.mem_filter.mp (h.own candidate hmem)
      obtain ⟨other, hother, hne, heq⟩ := mem_reviewItemIds.mp (of_decide_eq_true hid)
      rw [hcollision candidate hmem other hother heq.symm]
      exact hne
    refine ⟨?_, hnonempty, ?_⟩
    · apply List.Nodup.of_map fun id => stableId lib "review" [context.session.sessionId, id]
      rw [List.map_map]
      exact h.distinct
    · intro candidate hmem
      have hread : rowRead lib context result candidate ∈ storedItems lib context result rows :=
        mem_storedItems h.distinct hmem (hnonempty candidate hmem)
      have hsame := List.inj_on_of_nodup_map (persistCtsRows lib context result rows).nodup
        (List.mem_of_mem_filter hread) (List.mem_of_mem_filter (h.own candidate hmem))
        (by unfold rowRead; rw [reviewItemId_rowOf, reviewItemId_rowOf])
      exact rowOf_eq_iff.mp hsame
  · intro h
    have hdistinct : (result.candidates.map (reviewItemIdOf lib context)).Nodup := by
      apply List.Nodup.map_on ?_ h.distinct.of_map
      intro c hc c' hc' heq
      exact List.inj_on_of_nodup_map h.distinct hc hc' (hcollision c hc c' hc' heq)
    refine ⟨hdistinct, ?_, ?_⟩
    · intro candidate hmem
      rw [← rowOf_eq_iff.mpr (h.entries candidate hmem)]
      exact mem_storedItems hdistinct hmem (h.nonempty candidate hmem)
    · rw [length_storedItems]
      unfold reviewItemIds
      rw [written_eq h.nonempty]
      exact hdistinct

theorem safeText_quiet {lib : WorkbenchLibrary} {value : String} {maxLength : Nat}
    (words : WordTables) (hlib : lib.tables = words.toUnicodeTables)
    (hquiet : ∀ c ∈ value.toList, Redaction.quiet c = true)
    (hlength : value.toList.length ≤ maxLength) :
    safeText lib value maxLength = value := by
  have hstrip : Py.strip value = value :=
    Py.strip_eq_self fun c hc => isSpace_eq_false_of_quiet (hquiet c hc)
  simp only [safeText, safeCandidateText, hlib, hstrip, Redaction.redactText_quiet words hquiet,
    boundedText, List.take_of_length_le hlength, Option.map_some, Option.getD_some,
    String.ofList_toList]

/-- Two candidates, of whom one is named in the store. -/
def sampleResult : CtsResult where
  candidates := [{ resumeId := "ann" }, { resumeId := "bob" }]
  normalizedStore := [("ann", { candidateName := "ann" })]
  candidateIdentityByResumeId := [("bob", "i")]

theorem safeText_sample {value : String} {maxLength : Nat} (hvalue : value ∈ ["ann", "bob", "i"])
    (hlength : 128 ≤ maxLength) : safeText .ascii value maxLength = value := by
  simp only [List.mem_cons, List.not_mem_nil, or_false] at hvalue
  rcases hvalue with rfl | rfl | rfl
  all_goals
    apply safeText_quiet Payload.asciiWords rfl (List.all_eq_true.mp (by decide))
    exact le_trans (by decide) hlength

theorem ctsRows_settled_sample : Settled .ascii sampleContext sampleResult {} := by
  have hids : ∀ c ∈ sampleResult.candidates, providerResumeId .ascii c = c.resumeId := by
    intro c hc
    simp only [sampleResult, List.mem_cons, List.not_mem_nil, or_false] at hc
    rcases hc with rfl | rfl <;> exact safeText_sample (by simp) (by simp)
  have hidentities : runtimeIdentityByResumeId .ascii sampleResult = [("bob", "i")] := by
    simp [runtimeIdentityByResumeId, sampleResult, safeText_sample, Table.upsertAll, Table.upsert]
  apply (ctsRows_settled_iff _ _ _ _ ?_).mpr
  · refine ⟨?_, ?_, ?_⟩
    · rw [List.map_congr_left hids]
      decide
    · intro c hc
      rw [hids c hc]
      revert c
      decide
    · intro c hc
      unfold entriesRead ownEntries
      rw [hids c hc, hidentities]
      simp only [sampleResult, List.mem_cons, List.not_mem_nil, or_false] at hc
      rcases hc with rfl | rfl <;> simp [sampleResult, safeText_sample, List.lookup_cons, Option.filter]
  · intro c hc c' hc' heq
    unfold reviewItemIdOf at heq
    rw [hids c hc, hids c' hc'] at heq ⊢
    revert c c'
    decide

/-- Two ids that differ by a blank. -/
theorem not_ctsRows_settled : ¬∀ (lib : WorkbenchLibrary) (context : WorkbenchSourceRunJobContext)
    (result : CtsResult) (rows : Keyed CtsRow.reviewItemId),
    (result.candidates.map (·.resumeId)).Nodup →
    (∀ c ∈ result.candidates, c.resumeId ≠ "") →
    (∀ c ∈ result.candidates, ∀ c' ∈ result.candidates,
      reviewItemIdOf lib context c = reviewItemIdOf lib context c' →
        providerResumeId lib c = providerResumeId lib c') →
    Settled lib context result rows := by
  intro h
  have hsame : providerResumeId .ascii { resumeId := "ann " } =
      providerResumeId .ascii { resumeId := "ann" } := by
    have hstrip : Py.strip "ann " = Py.strip "ann" := by decide
    simp only [providerResumeId, safeText, safeCandidateText, hstrip]
  have hsettled := h .ascii sampleContext
    { candidates := [{ resumeId := "ann" }, { resumeId := "ann " }] } {} (by decide) (by simp) ?_
  · have hdistinct := hsettled.distinct
    simp [reviewItemIdOf, hsame] at hdistinct
  · intro c hc c' hc' _
    simp only [List.mem_cons, List.not_mem_nil, or_false] at hc hc'
    rcases hc with rfl | rfl <;> rcases hc' with rfl | rfl <;> simp [hsame]

end CtsRows
end SeekTalent

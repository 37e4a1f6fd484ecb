import SeekTalent.Identity.RunState

/-!
# What a lane result leaves in the stores

The stores of a run are dicts from resume ids. What a lane result leaves under a resume id
depends on what was there and on the updates for that resume, never on those for another:
the candidate and the normalized resume are the last ones given, and the evidence is the old
one with every update that brings an evidence id the resume does not have yet
(`mem_foldl_appendOnce`). A rebuild of the identity tables leaves the stores alone.
-/

namespace SeekTalent

def appendOnce (sourceOrder : SourceOrder) (entries : List RuntimeSourceEvidence)
    (evidence : RuntimeSourceEvidence) : List RuntimeSourceEvidence :=
  if entries.any (·.evidenceId = evidence.evidenceId) then entries
  else Py.sortedBy (evidenceSortKey sourceOrder) (entries ++ [evidence])

section Stores

variable {sha256 : String → String} {tables : Py.UnicodeTables} {state : RunState}
variable {sourceOrder : SourceOrder} {entries updates : List RuntimeSourceEvidence}
variable {evidence other : RuntimeSourceEvidence} {resumeId : String}
variable {result : RuntimeSourceLaneResult}

/-! ## The entries of one resume -/

theorem mem_appendOnce : other ∈ appendOnce sourceOrder entries evidence ↔
    other ∈ entries ∨
      other = evidence ∧ ∀ entry ∈ entries, entry.evidenceId ≠ evidence.evidenceId := by
  unfold appendOnce
  split
  · rename_i hold
    obtain ⟨entry, hentry, hid⟩ := List.any_eq_true.mp hold
    constructor
    · exact .inl
    · intro h
      rcases h with h | ⟨-, hnew⟩
      · exact h
      · exact absurd (by simpa using hid) (hnew entry hentry)
  · rename_i hnew
    have hnew : ∀ entry ∈ entries, entry.evidenceId ≠ evidence.evidenceId := by
      simpa using hnew
    rw [Py.mem_sortedBy, List.mem_append, List.mem_singleton]
    exact ⟨fun h => h.imp_right fun h => ⟨h, hnew⟩, fun h => h.imp_right And.left⟩

/-- **What the resume has in the end**: what it had, and every update whose evidence id
    neither an entry nor an earlier update has. -/
theorem mem_foldl_appendOnce :
    evidence ∈ updates.foldl (appendOnce sourceOrder) entries ↔
      evidence ∈ entries ∨ ∃ before after, updates = before ++ evidence :: after ∧
        (∀ entry ∈ entries, entry.evidenceId ≠ evidence.evidenceId) ∧
        ∀ earlier ∈ before, earlier.evidenceId ≠ evidence.evidenceId := by
  induction updates generalizing entries with
  | nil => simp
  | cons update updates ih =>
    rw [List.foldl_cons, ih]
    constructor
    · intro h
      rcases h with h | ⟨before, after, rfl, hentries, hbefore⟩
      · rcases mem_appendOnce.mp h with h | ⟨rfl, hnew⟩
        · exact .inl h
        · exact .inr ⟨[], updates, rfl, hnew, by simp⟩
      · have hold : ∀ entry ∈ entries, entry.evidenceId ≠ evidence.evidenceId :=
          fun entry hentry => hentries entry (mem_appendOnce.mpr (.inl hentry))
        refine .inr ⟨update :: before, after, rfl, hold, ?_⟩
        intro earlier hearlier
        rcases List.mem_cons.mp hearlier with rfl | hearlier
        · -- a first update with this id would have been taken in, unless an entry has the id
          intro hid
          refine hentries earlier (mem_appendOnce.mpr (.inr ⟨rfl, ?_⟩)) hid
          intro entry hentry
          rw [hid]
          exact hold entry hentry
        · exact hbefore earlier hearlier
    · intro h
      rcases h with h | ⟨before, after, heq, hentries, hbefore⟩
      · exact .inl (mem_appendOnce.mpr (.inl h))
      · cases before with
        | nil =>
          obtain ⟨rfl, rfl⟩ := List.cons.inj heq
          exact .inl (mem_appendOnce.mpr (.inr ⟨rfl, hentries⟩))
        | cons first before =>
          obtain ⟨rfl, rfl⟩ := List.cons.inj heq
          obtain ⟨hfirst, hbefore⟩ := List.forall_mem_cons.mp hbefore
          refine .inr ⟨before, after, rfl, ?_, hbefore⟩
          intro entry hentry
          rcases mem_appendOnce.mp hentry with hentry | ⟨rfl, -⟩
          · exact hentries entry hentry
          · exact hfirst

theorem mem_ids_foldl_appendOnce {evidenceId : String} :
    evidenceId ∈ (updates.foldl (appendOnce sourceOrder) entries).map (·.evidenceId) ↔
      evidenceId ∈ entries.map (·.evidenceId) ∨ evidenceId ∈ updates.map (·.evidenceId) := by
  have hstep : ∀ entries update, evidenceId ∈ (appendOnce sourceOrder entries update).map
      (·.evidenceId) ↔ evidenceId ∈ entries.map (·.evidenceId) ∨ evidenceId = update.evidenceId := by
    intro entries update
    unfold appendOnce
    split
    · rename_i hold
      obtain ⟨entry, hentry, hid⟩ := List.any_eq_true.mp hold
      have hin : update.evidenceId ∈ entries.map (·.evidenceId) :=
        List.mem_map.mpr ⟨entry, hentry, by simpa using hid⟩
      constructor
      · exact .inl
      · intro h
        rcases h with h | rfl
        · exact h
        · exact hin
    · rw [(Py.perm_sortedBy.map _).mem_iff]
      simp
  induction updates generalizing entries with
  | nil => simp
  | cons update updates ih =>
    refine ih.trans ?_
    rw [hstep, List.map_cons, List.mem_cons, or_assoc]

/-! ## One lane result -/

theorem appendEvidence_at : (state.appendEvidence sourceOrder evidence).sourceEvidenceByResumeId
    resumeId = if evidence.candidateResumeId = resumeId then
      appendOnce sourceOrder (state.sourceEvidenceByResumeId resumeId) evidence
    else state.sourceEvidenceByResumeId resumeId := by
  unfold RunState.appendEvidence appendOnce
  dsimp only
  by_cases hr : evidence.candidateResumeId = resumeId
  · subst hr
    simp only [if_true]
    split <;> simp_all
  · rw [if_neg hr]
    split
    · rfl
    · exact if_neg fun h => hr h.symm

theorem appendSourceEvidenceOnce_at :
    (state.appendSourceEvidenceOnce sourceOrder updates).sourceEvidenceByResumeId resumeId =
      (updates.filter (·.candidateResumeId = resumeId)).foldl (appendOnce sourceOrder)
        (state.sourceEvidenceByResumeId resumeId) := by
  induction updates generalizing state with
  | nil => rfl
  | cons update updates ih =>
    show ((state.appendEvidence sourceOrder update).appendSourceEvidenceOnce sourceOrder
      updates).sourceEvidenceByResumeId resumeId = _
    rw [ih, appendEvidence_at, List.filter_cons]
    split <;> simp_all

theorem mem_appendSourceEvidenceOnce :
    evidence ∈ (state.appendSourceEvidenceOnce sourceOrder updates).sourceEvidenceByResumeId
        resumeId ↔
      evidence ∈ state.sourceEvidenceByResumeId resumeId ∨
      ∃ before after, updates = before ++ evidence :: after ∧
        evidence.candidateResumeId = resumeId ∧
        (∀ entry ∈ state.sourceEvidenceByResumeId resumeId,
          entry.evidenceId ≠ evidence.evidenceId) ∧
        ∀ earlier ∈ before, earlier.candidateResumeId = resumeId →
          earlier.evidenceId ≠ evidence.evidenceId := by
  rw [appendSourceEvidenceOnce_at, mem_foldl_appendOnce]
  apply or_congr_right
  constructor
  · intro h
    obtain ⟨before, after, heq, hentries, hbefore⟩ := h
    obtain ⟨first, rest, rfl, rfl, hrest⟩ := List.filter_eq_append_iff.mp heq
    obtain ⟨others, later, rfl, hothers, hown, -⟩ := List.filter_eq_cons_iff.mp hrest
    refine ⟨first ++ others, later, by rw [List.append_assoc], by simpa using hown, hentries, ?_⟩
    intro earlier hearlier hresume
    rcases List.mem_append.mp hearlier with hearlier | hearlier
    · exact hbefore earlier (List.mem_filter.mpr ⟨hearlier, by simpa using hresume⟩)
    · exact absurd (by simpa using hresume) (hothers earlier hearlier)
  · intro h
    obtain ⟨before, after, rfl, hown, hentries, hbefore⟩ := h
    refine ⟨before.filter (·.candidateResumeId = resumeId),
      after.filter (·.candidateResumeId = resumeId), ?_, hentries, ?_⟩
    · rw [List.filter_append, List.filter_cons_of_pos (by simpa using hown)]
    · intro earlier hearlier
      obtain ⟨hearlier, hresume⟩ := List.mem_filter.mp hearlier
      exact hbefore earlier hearlier (by simpa using hresume)

theorem appendSourceEvidenceOnce_keeps (state : RunState) (sourceOrder : SourceOrder)
    (updates : List RuntimeSourceEvidence) :
    (state.appendSourceEvidenceOnce sourceOrder updates).seenResumeIds = state.seenResumeIds ∧
    (state.appendSourceEvidenceOnce sourceOrder updates).candidateStore = state.candidateStore ∧
    (state.appendSourceEvidenceOnce sourceOrder updates).normalizedStore =
      state.normalizedStore := by
  induction updates generalizing state with
  | nil => exact ⟨rfl, rfl, rfl⟩
  | cons update updates ih =>
    have hstep : (state.appendEvidence sourceOrder update).seenResumeIds = state.seenResumeIds ∧
        (state.appendEvidence sourceOrder update).candidateStore = state.candidateStore ∧
        (state.appendEvidence sourceOrder update).normalizedStore = state.normalizedStore := by
      unfold RunState.appendEvidence
      dsimp only
      split <;> exact ⟨rfl, rfl, rfl⟩
    obtain ⟨ihSeen, ihCandidates, ihNormalized⟩ := ih (state.appendEvidence sourceOrder update)
    exact ⟨ihSeen.trans hstep.1, ihCandidates.trans hstep.2.1, ihNormalized.trans hstep.2.2⟩

def lastUpdate {α : Type} (updates : List (String × α)) (key : String) : Option α :=
  (updates.reverse.find? (·.1 = key)).map (·.2)

theorem lastUpdate_cons {α : Type} {update : String × α} {updates : List (String × α)}
    {key : String} : lastUpdate (update :: updates) key =
      (lastUpdate updates key).or (if update.1 = key then some update.2 else none) := by
  unfold lastUpdate
  rw [List.reverse_cons, List.find?_append]
  cases updates.reverse.find? (·.1 = key) with
  | some found => rfl
  | none => by_cases h : update.1 = key <;> simp [h]

theorem lastUpdate_eq_none {α : Type} {updates : List (String × α)} {key : String}
    (h : key ∉ updates.map Prod.fst) : lastUpdate updates key = none := by
  unfold lastUpdate
  rw [Option.map_eq_none_iff, List.find?_eq_none]
  intro update hupdate
  simp only [decide_eq_true_eq]
  rintro rfl
  exact h (List.mem_map_of_mem (List.mem_reverse.mp hupdate))

theorem foldl_storeCandidate (state : RunState) (updates : List (String × ResumeCandidate))
    (resumeId : String) :
    (updates.foldl RunState.storeCandidate state).candidateStore resumeId =
      (lastUpdate updates resumeId).or (state.candidateStore resumeId) ∧
    (resumeId ∈ (updates.foldl RunState.storeCandidate state).seenResumeIds ↔
      resumeId ∈ state.seenResumeIds ∨ resumeId ∈ updates.map Prod.fst) ∧
    (updates.foldl RunState.storeCandidate state).normalizedStore = state.normalizedStore ∧
    (updates.foldl RunState.storeCandidate state).sourceEvidenceByResumeId =
      state.sourceEvidenceByResumeId := by
  induction updates generalizing state with
  | nil => simp [lastUpdate]
  | cons update updates ih =>
    obtain ⟨ihStore, ihSeen, ihNormalized, ihEvidence⟩ := ih (state.storeCandidate update)
    rw [List.foldl_cons]
    refine ⟨?_, ?_, ihNormalized, ihEvidence⟩
    · rw [ihStore, lastUpdate_cons]
      show _ = ((lastUpdate updates resumeId).or _).or (state.candidateStore resumeId)
      rw [Option.or_assoc]
      congr 1
      show (if resumeId = update.1 then some update.2 else state.candidateStore resumeId) = _
      by_cases h : resumeId = update.1
      · simp [h]
      · simp [h, Ne.symm h]
    · rw [ihSeen]
      have hstep : resumeId ∈ (state.storeCandidate update).seenResumeIds ↔
          resumeId ∈ state.seenResumeIds ∨ resumeId = update.1 := by
        show resumeId ∈ (if update.1 ∈ state.seenResumeIds then state.seenResumeIds
          else state.seenResumeIds ++ [update.1]) ↔ _
        split
        · rename_i hold
          constructor
          · exact .inl
          · intro h
            rcases h with h | rfl
            · exact h
            · exact hold
        · simp
      rw [hstep, List.map_cons, List.mem_cons, or_assoc]

/-- **What is stored under a resume id.** -/
theorem store_at :
    (state.store sourceOrder result).candidateStore resumeId =
      (lastUpdate result.candidateStoreUpdates resumeId).or (state.candidateStore resumeId) ∧
    (resumeId ∈ (state.store sourceOrder result).seenResumeIds ↔
      resumeId ∈ state.seenResumeIds ∨ resumeId ∈ result.candidateStoreUpdates.map Prod.fst) ∧
    (state.store sourceOrder result).normalizedStore resumeId =
      (lastUpdate result.normalizedStoreUpdates resumeId).or (state.normalizedStore resumeId) ∧
    (state.store sourceOrder result).sourceEvidenceByResumeId resumeId =
      (result.sourceEvidenceUpdates.filter (·.candidateResumeId = resumeId)).foldl
        (appendOnce sourceOrder) (state.sourceEvidenceByResumeId resumeId) := by
  obtain ⟨hSeen, hCandidates, hNormalized⟩ := appendSourceEvidenceOnce_keeps
    (state.updateStores result) sourceOrder result.sourceEvidenceUpdates
  obtain ⟨hStore, hMem, hKept, hEvidence⟩ := foldl_storeCandidate state
    result.candidateStoreUpdates resumeId
  unfold RunState.store
  rw [hSeen, hCandidates, hNormalized, appendSourceEvidenceOnce_at]
  refine ⟨hStore, hMem, ?_, ?_⟩
  · show (lastUpdate result.normalizedStoreUpdates resumeId).or _ = _
    rw [hKept]
  · show _ = (result.sourceEvidenceUpdates.filter _).foldl _ _
    rw [← hEvidence]
    rfl

theorem store_scorecards :
    (state.store sourceOrder result).scorecardsByResumeId = state.scorecardsByResumeId := by
  have hcandidates : ∀ (updates : List (String × ResumeCandidate)) (state : RunState),
      (updates.foldl RunState.storeCandidate state).scorecardsByResumeId =
        state.scorecardsByResumeId := by
    intro updates
    induction updates with
    | nil => exact fun _ => rfl
    | cons update updates ih => exact fun state => ih _
  have hevidence : ∀ (updates : List RuntimeSourceEvidence) (state : RunState),
      (state.appendSourceEvidenceOnce sourceOrder updates).scorecardsByResumeId =
        state.scorecardsByResumeId := by
    intro updates
    induction updates with
    | nil => exact fun _ => rfl
    | cons update updates ih =>
      intro state
      refine (ih (state.appendEvidence sourceOrder update)).trans ?_
      unfold RunState.appendEvidence
      dsimp only
      split <;> rfl
  exact (hevidence _ _).trans (hcandidates _ _)

/-! ## The evidence after a lane result -/

theorem applySourceLaneResult_evidence (hstatus : result.status ≠ .blocked) :
    (state.applySourceLaneResult sha256 tables sourceOrder result).sourceEvidenceByResumeId
        resumeId =
      (result.sourceEvidenceUpdates.filter (·.candidateResumeId = resumeId)).foldl
        (appendOnce sourceOrder) (state.sourceEvidenceByResumeId resumeId) := by
  unfold RunState.applySourceLaneResult
  rw [if_neg hstatus]
  exact store_at.2.2.2

/-- **What evidence a resume has after a lane result.** -/
theorem mem_evidence_applySourceLaneResult (hstatus : result.status ≠ .blocked) :
    evidence ∈ (state.applySourceLaneResult sha256 tables sourceOrder
        result).sourceEvidenceByResumeId resumeId ↔
      evidence ∈ state.sourceEvidenceByResumeId resumeId ∨
      ∃ before after, result.sourceEvidenceUpdates = before ++ evidence :: after ∧
        evidence.candidateResumeId = resumeId ∧
        (∀ entry ∈ state.sourceEvidenceByResumeId resumeId,
          entry.evidenceId ≠ evidence.evidenceId) ∧
        ∀ earlier ∈ before, earlier.candidateResumeId = resumeId →
          earlier.evidenceId ≠ evidence.evidenceId := by
  rw [applySourceLaneResult_evidence hstatus, ← appendSourceEvidenceOnce_at,
    mem_appendSourceEvidenceOnce]

theorem mem_ids_applySourceLaneResult {evidenceId : String} (hstatus : result.status ≠ .blocked) :
    evidenceId ∈ ((state.applySourceLaneResult sha256 tables sourceOrder
        result).sourceEvidenceByResumeId resumeId).map (·.evidenceId) ↔
      evidenceId ∈ (state.sourceEvidenceByResumeId resumeId).map (·.evidenceId) ∨
      ∃ update ∈ result.sourceEvidenceUpdates, update.candidateResumeId = resumeId ∧
        update.evidenceId = evidenceId := by
  rw [applySourceLaneResult_evidence hstatus, mem_ids_foldl_appendOnce]
  simp [and_assoc]

end Stores

end SeekTalent

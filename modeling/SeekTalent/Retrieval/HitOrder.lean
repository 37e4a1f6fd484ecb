import SeekTalent.Retrieval.SearchToolSpec

/-!
# The order of the hits

What a search call records of the candidates that it has taken: a hit and a provider return for each
of them, in the order of the provider, with the same rank. The candidates that the call returns are
those whose hit says that they are new (`markedNew`): the flag is computed before the seen keys are
updated, and the two skips after it see what it has seen.
-/

namespace SeekTalent

variable {rt : RetrievalRuntime} {call : ToolCall}

/-! ## 1. What is recorded of candidates -/

/-- What is compared of a candidate and its hit. -/
def ResumeCandidate.ids (candidate : ResumeCandidate) : String × String :=
  (candidate.resumeId, candidate.dedupKey)

def QueryResumeHit.ids (hit : QueryResumeHit) : String × String := (hit.resumeId, hit.dedupKey)

def markedNew (call : ToolCall) (candidates : List ResumeCandidate) (hits : List QueryResumeHit) :
    List ResumeCandidate :=
  ((candidates.zip hits).filter fun pair => pair.2.wasNewToPool).map fun pair =>
    applyFirstHitAttribution call pair.1

/-- The records of candidates: one hit and one return for each, in their order and with the ranks,
    and as new those that are marked. -/
structure Records (call : ToolCall) (ranks : List Nat) (candidates : List ResumeCandidate)
    (hits : List QueryResumeHit) (returns : List ProviderReturnedCandidate)
    (new : List ResumeCandidate) : Prop where
  hit : hits.map QueryResumeHit.ids = candidates.map ResumeCandidate.ids
  returned : returns.map (·.candidate) = candidates
  hitRanks : hits.map (·.rankInQuery) = ranks
  returnRanks : returns.map (·.providerRank) = ranks
  new_eq : new = markedNew call candidates hits

theorem Records.nil (call : ToolCall) : Records call [] [] [] [] [] := ⟨rfl, rfl, rfl, rfl, rfl⟩

theorem Records.append {ranks more : List Nat} {candidates later : List ResumeCandidate}
    {hits hits' : List QueryResumeHit} {returns returns' : List ProviderReturnedCandidate}
    {new new' : List ResumeCandidate} (h : Records call ranks candidates hits returns new)
    (h' : Records call more later hits' returns' new') :
    Records call (ranks ++ more) (candidates ++ later) (hits ++ hits') (returns ++ returns')
      (new ++ new') := by
  have hlength : candidates.length = hits.length := by
    have hboth := congrArg List.length h.hit
    simpa using hboth.symm
  refine ⟨?_, ?_, ?_, ?_, ?_⟩
  · rw [List.map_append, List.map_append, h.hit, h'.hit]
  · rw [List.map_append, h.returned, h'.returned]
  · rw [List.map_append, h.hitRanks, h'.hitRanks]
  · rw [List.map_append, h.returnRanks, h'.returnRanks]
  · unfold markedNew
    rw [List.zip_append hlength, List.filter_append, List.map_append, h.new_eq, h'.new_eq]
    rfl

/-! ## 2. One answer -/

section Batch

variable {page attemptNo rank : Nat} {requestPayload : String}

theorem take_new {st one : BatchState} (hkeys : one.localSeenKeys = st.localSeenKeys)
    (candidate : ResumeCandidate) :
    (one.take call candidate).resumeHits = one.resumeHits ∧
      (one.take call candidate).providerReturns = one.providerReturns ∧
      (one.take call candidate).batchNew = one.batchNew ++ markedNew call [candidate]
        [resumeHit rt call page attemptNo rank st candidate] := by
  have hflag : (resumeHit rt call page attemptNo rank st candidate).wasNewToPool =
      decide (candidate.dedupKey ∉ st.localSeenKeys ∧ candidate.resumeId ∉ call.seenResumeIds) := rfl
  unfold BatchState.take markedNew
  rw [hkeys]
  by_cases hseen : candidate.dedupKey ∈ st.localSeenKeys
  · simp [hflag, hseen]
  by_cases hold : candidate.resumeId ∈ call.seenResumeIds
  · simp [hflag, hseen, hold]
  · simp [hflag, hseen, hold]

theorem takeBatch_records (candidates : List ResumeCandidate) (rank : Nat)
    (snapshots : List (Option ProviderSnapshot)) (st : BatchState) :
    ∃ hits returns new,
      (takeBatch rt call page attemptNo requestPayload rank candidates snapshots st).resumeHits =
          st.resumeHits ++ hits ∧
        (takeBatch rt call page attemptNo requestPayload rank candidates snapshots st).providerReturns =
          st.providerReturns ++ returns ∧
        (takeBatch rt call page attemptNo requestPayload rank candidates snapshots st).batchNew =
          st.batchNew ++ new ∧
        Records call (List.range' rank candidates.length) candidates hits returns new := by
  induction candidates generalizing rank snapshots st with
  | nil => exact ⟨[], [], [], by simp [takeBatch], by simp [takeBatch], by simp [takeBatch], .nil call⟩
  | cons candidate candidates ih =>
    rw [takeBatch]
    generalize hone : ({ st with resumeHits := _, providerReturns := _ } : BatchState) = one
    have hkeys : one.localSeenKeys = st.localSeenKeys := by rw [← hone]
    have hnew₀ : one.batchNew = st.batchNew := by rw [← hone]
    obtain ⟨hhits, hreturns, hnew⟩ := @take_new rt call page attemptNo rank st one hkeys candidate
    obtain ⟨hits, returns, new, hhits', hreturns', hnew', hrecords⟩ :=
      ih (rank + 1) snapshots.tail (one.take call candidate)
    have hfirst : Records call [rank] [candidate]
        [resumeHit rt call page attemptNo rank st candidate]
        [providerReturn rt call page attemptNo rank requestPayload candidate snapshots.head?.join]
        (markedNew call [candidate] [resumeHit rt call page attemptNo rank st candidate]) :=
      ⟨rfl, rfl, rfl, rfl, rfl⟩
    refine ⟨_, _, _, ?_, ?_, ?_, hfirst.append hrecords⟩
    · rw [hhits', hhits, ← hone, List.append_assoc]
    · rw [hreturns', hreturns, ← hone, List.append_assoc]
    · rw [hnew', hnew, hnew₀, List.append_assoc]

end Batch

/-! ## 3. A call -/

def Fetch.CountsCandidates (f : Fetch) : Prop :=
  ∀ result, f.answer = .ok result → result.rawCandidateCount = result.candidates.length

/-- What a call has recorded when it has taken some answers: their candidates, one after the other.
    The ranks run from 1 without a gap as long as the answers count their candidates. -/
structure ToolState.Recorded (call : ToolCall) (taken : List Fetch) (st : ToolState) : Prop where
  records : Records call (st.resumeHits.map (·.rankInQuery)) (taken.flatMap Fetch.candidates)
    st.resumeHits st.providerReturns st.allNewCandidates
  ranked : (∀ f ∈ taken, f.CountsCandidates) →
    st.rawCandidateCount = (taken.flatMap Fetch.candidates).length ∧
      st.resumeHits.map (·.rankInQuery) =
        List.range' 1 (taken.flatMap Fetch.candidates).length

theorem ToolState.Recorded.absorb {st : ToolState} (h : st.Recorded call st.fetches)
    (result : SearchResult) (snapshots : List (Option ProviderSnapshot)) :
    (st.absorb rt call result snapshots).1.Recorded call
      (st.absorb rt call result snapshots).1.fetches := by
  obtain ⟨hits, returns, new, hhits, hreturns, hnew, hbatch⟩ :=
    @takeBatch_records rt call st.page (st.attemptNo + 1) result.requestPayload result.candidates
      (st.rawCandidateCount + 1) snapshots
      { localSeenKeys := st.localSeenKeys
        resumeHits := st.resumeHits
        providerReturns := st.providerReturns }
  rw [List.nil_append] at hnew
  have hcandidates : (st.fetches ++ [(⟨st.attemptQuery call, .ok result⟩ : Fetch)]).flatMap
      Fetch.candidates =
      st.fetches.flatMap Fetch.candidates ++ result.candidates := by
    rw [List.flatMap_append, List.flatMap_singleton]
    rfl
  rw [absorb_fetches]
  constructor
  · rw [hcandidates]
    unfold ToolState.absorb
    dsimp only
    rw [hhits, hreturns, hnew, List.map_append, hbatch.hitRanks]
    exact h.records.append hbatch
  · intro hcounts
    obtain ⟨hbefore, hlast⟩ := List.forall_mem_append.mp hcounts
    obtain ⟨hraw, hranks⟩ := h.ranked hbefore
    have hcount : result.rawCandidateCount = result.candidates.length :=
      hlast _ (List.mem_singleton_self _) result rfl
    rw [hcandidates, List.length_append]
    unfold ToolState.absorb
    dsimp only
    rw [hhits, List.map_append, hbatch.hitRanks, hranks, hraw, hcount]
    refine ⟨rfl, ?_⟩
    rw [Nat.add_comm _ 1, List.range'_append_1]

/-- **What a call records.** Each candidate of the answers that are taken has one hit and one provider
    return, in the order of the provider; the ranks run from 1 where the answers count their
    candidates; and what is kept as new is what the hits mark. All answers are taken by a call that
    returns, all but the one at which it raises by another. -/
theorem executeSearchTool_records (rt : RetrievalRuntime) (call : ToolCall) :
    ∃ taken refused, (executeSearchTool rt call).final.fetches = taken ++ refused ∧
      refused.length ≤ 1 ∧
      (∀ reason, (executeSearchTool rt call).outcome = .ok reason → refused = []) ∧
      (executeSearchTool rt call).final.Recorded call taken := by
  have hstart : call.start.Recorded call call.start.fetches :=
    ⟨.nil call, fun _ => ⟨rfl, rfl⟩⟩
  obtain ⟨⟨taken, refused, hfetches, hlength, hrecorded⟩, hreturns⟩ :=
    @searchLoop_absorb_rule rt call call.start (fun st => st.Recorded call st.fetches)
      (fun st => ∃ taken refused, st.fetches = taken ++ refused ∧ refused.length ≤ 1 ∧
        st.Recorded call taken)
      (fun st result snapshots h _ _ => h.absorb result snapshots)
      (fun st h => ⟨st.fetches, [], (List.append_nil _).symm, Nat.zero_le _, h⟩)
      (fun st answer h _ _ => ⟨st.fetches, [⟨st.attemptQuery call, answer⟩], rfl, le_refl _,
        h.records, h.ranked⟩)
      rt.settings.searchMaxAttemptsPerRound hstart
  cases houtcome : (executeSearchTool rt call).outcome with
  | ok reason =>
    refine ⟨_, [], (List.append_nil _).symm, Nat.zero_le _, fun _ _ => rfl, ?_⟩
    exact hreturns reason houtcome
  | error e =>
    refine ⟨taken, refused, hfetches, hlength, fun reason hreason => ?_, hrecorded⟩
    cases hreason

/-- A provider whose answer lacks the snapshot of its candidate. -/
def unmatchedRuntime : RetrievalRuntime where
  providerName := "liepin"
  search _ _ := .ok { candidates := [{ resumeId := "r1", dedupKey := "r1" }], rawCandidateCount := 1 }

def unmatchedCall : ToolCall where
  runId := "run"
  roundNo := 1
  query :=
    { queryRole := .exploit, laneType := .exploit, queryTerms := ["go"], keywordQuery := "go",
      queryInstanceId := "q", queryFingerprint := "f" }
  targetNew := 1
  seenResumeIds := []
  seenDedupKeys := []
  phase := none
  batchNo := 1
  fetchBase := 0

/-- The answer is refused: the call raises, and the candidate has no hit. -/
theorem unmatched_unrecorded :
    (executeSearchTool unmatchedRuntime unmatchedCall).final.resumeHits.map QueryResumeHit.ids ≠
      (executeSearchTool unmatchedRuntime unmatchedCall).returned.map ResumeCandidate.ids := by
  decide

end SeekTalent

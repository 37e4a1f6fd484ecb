import SeekTalent.Retrieval.SearchTool

/-!
# What a search call does

The invariants of the fetch loop, each derived from one rule for the loop
(`searchLoop_rule`): which pages are asked for and how large they are, how the recorded
hits are numbered, which candidates come out as new, and what the stop reason says about
the target.
-/

namespace SeekTalent

variable {rt : RetrievalRuntime} {call : ToolCall}
variable {reason : ExhaustedReason} {newCount rawCount zeroGain attemptNo page : Nat}
variable {st : ToolState} {returned : List ResumeCandidate} {settings : SearchSettings}

/-! ## 1. The rule of the loop -/

structure ToolState.MayFetch (rt : RetrievalRuntime) (call : ToolCall) (st : ToolState) :
    Prop where
  page_le : st.page ≤ rt.settings.searchMaxPagesPerRound
  gap_pos : (st.allNewCandidates.length : Int) < call.targetNew

/-- The state after a request whose answer was not taken: it raised, or was refused. -/
def ToolState.failed (call : ToolCall) (st : ToolState)
    (answer : Except RoundError SearchResult) : ToolState :=
  { st with fetches := st.fetches ++ [⟨st.attemptQuery call, answer⟩] }

theorem ToolState.attempt_cases (rt : RetrievalRuntime) (call : ToolCall) (st : ToolState) :
    (∃ answer e,
      rt.search (call.fetchBase + st.fetches.length) (st.attemptQuery call) = answer ∧
      st.attempt rt call = (st.failed call answer, .error e)) ∨
    ∃ result snapshots,
      rt.search (call.fetchBase + st.fetches.length) (st.attemptQuery call) = .ok result ∧
      st.attempt rt call =
        ((st.absorb rt call result snapshots).1, .ok (st.absorb rt call result snapshots).2) := by
  cases hs : rt.search (call.fetchBase + st.fetches.length) (st.attemptQuery call) with
  | error e => exact .inl ⟨_, e, rfl, by simp only [ToolState.attempt, hs]; rfl⟩
  | ok result =>
    cases hv : validatedProviderSnapshots rt.providerName result with
    | error e => exact .inl ⟨_, e, rfl, by simp only [ToolState.attempt, hs, hv]; rfl⟩
    | ok snapshots =>
      exact .inr ⟨result, snapshots, rfl, by simp only [ToolState.attempt, hs, hv]⟩

theorem searchLoop_cases (rt : RetrievalRuntime) (call : ToolCall) (left : Nat)
    (st : ToolState) :
    (∃ reason, searchLoop rt call (left + 1) st = (st, .ok reason) ∧ ¬st.MayFetch rt call ∧
      (reason = .targetSatisfied → call.targetNew ≤ st.allNewCandidates.length)) ∨
    (st.MayFetch rt call ∧ ∃ answer e,
      rt.search (call.fetchBase + st.fetches.length) (st.attemptQuery call) = answer ∧
      searchLoop rt call (left + 1) st = (st.failed call answer, .error e)) ∨
    (st.MayFetch rt call ∧ ∃ result snapshots,
      rt.search (call.fetchBase + st.fetches.length) (st.attemptQuery call) = .ok result ∧
      searchLoop rt call (left + 1) st =
        match (st.absorb rt call result snapshots).2 with
        | some reason => ((st.absorb rt call result snapshots).1, .ok reason)
        | none => searchLoop rt call left (st.absorb rt call result snapshots).1) := by
  by_cases hpage : rt.settings.searchMaxPagesPerRound < st.page
  · refine .inl ⟨.maxPagesReached, by simp [searchLoop, hpage], ?_, fun h => by cases h⟩
    exact fun h => absurd h.page_le (not_le.mpr hpage)
  by_cases hgap : call.targetNew - st.allNewCandidates.length ≤ 0
  · refine .inl ⟨.targetSatisfied, by simp [searchLoop, hpage, hgap], ?_, fun _ => by omega⟩
    exact fun h => absurd h.gap_pos (by omega)
  refine .inr ?_
  have hmay : st.MayFetch rt call := ⟨by omega, by omega⟩
  rcases st.attempt_cases rt call with ⟨answer, e, hs, ha⟩ | ⟨result, snapshots, hs, ha⟩
  · exact .inl ⟨hmay, answer, e, hs, by simp [searchLoop, hpage, hgap, ha]⟩
  · refine .inr ⟨hmay, result, snapshots, hs, ?_⟩
    rw [searchLoop, if_neg hpage, if_neg hgap, ha]
    cases (st.absorb rt call result snapshots).2 <;> rfl

/-- **The rule of the loop.** `I` holds whenever the loop goes round; `K` is what can be
    said of where it ends. -/
theorem searchLoop_rule {I : ToolState → Prop}
    {K : ToolState → Except RoundError ExhaustedReason → Prop}
    (next : ∀ st result snapshots, I st → st.MayFetch rt call →
      rt.search (call.fetchBase + st.fetches.length) (st.attemptQuery call) = .ok result →
      (st.absorb rt call result snapshots).2 = none →
      I (st.absorb rt call result snapshots).1)
    (stop : ∀ st result snapshots reason, I st → st.MayFetch rt call →
      rt.search (call.fetchBase + st.fetches.length) (st.attemptQuery call) = .ok result →
      (st.absorb rt call result snapshots).2 = some reason →
      K (st.absorb rt call result snapshots).1 (.ok reason))
    (fail : ∀ st answer e, I st → st.MayFetch rt call →
      rt.search (call.fetchBase + st.fetches.length) (st.attemptQuery call) = answer →
      K (st.failed call answer) (.error e))
    (out : ∀ st reason, I st →
      (reason = .targetSatisfied → call.targetNew ≤ st.allNewCandidates.length) →
      K st (.ok reason))
    {left : Nat} (h : I st) :
    K (searchLoop rt call left st).1 (searchLoop rt call left st).2 := by
  induction left generalizing st with
  | zero => exact out st _ h fun hr => by cases hr
  | succ left ih =>
    rcases searchLoop_cases rt call left st with ⟨reason, heq, -, hsat⟩ |
      ⟨hmay, answer, e, hs, heq⟩ | ⟨hmay, result, snapshots, hs, heq⟩
    · rw [heq]
      exact out st reason h hsat
    · rw [heq]
      exact fail st answer e h hmay hs
    · rw [heq]
      cases hr : (st.absorb rt call result snapshots).2 with
      | some reason => exact stop st result snapshots reason h hmay hs hr
      | none => exact ih (next st result snapshots h hmay hs hr)

/-- The rule for an invariant that taking an answer keeps, whatever comes next; `J` is what
    is left of it when a request fails. -/
theorem searchLoop_absorb_rule {I J : ToolState → Prop}
    (absorb : ∀ st result snapshots, I st → st.MayFetch rt call →
      rt.search (call.fetchBase + st.fetches.length) (st.attemptQuery call) = .ok result →
      I (st.absorb rt call result snapshots).1)
    (weaken : ∀ st, I st → J st)
    (fail : ∀ st answer, I st → st.MayFetch rt call →
      rt.search (call.fetchBase + st.fetches.length) (st.attemptQuery call) = answer →
      J (st.failed call answer))
    {left : Nat} (h : I st) :
    J (searchLoop rt call left st).1 ∧
      ∀ reason, (searchLoop rt call left st).2 = .ok reason →
        I (searchLoop rt call left st).1 := by
  refine searchLoop_rule (I := I) (K := fun st o => J st ∧ ∀ reason, o = .ok reason → I st)
    (fun st result snapshots hI hmay hs _ => absorb st result snapshots hI hmay hs)
    ?_ ?_ (fun st _ hI _ => ⟨weaken st hI, fun _ _ => hI⟩) h
  · intro st result snapshots reason hI hmay hs _
    have hI' := absorb st result snapshots hI hmay hs
    exact ⟨weaken _ hI', fun _ _ => hI'⟩
  · intro st answer e hI hmay hs
    exact ⟨fail st answer hI hmay hs, fun _ hr => by cases hr⟩

theorem searchLoop_invariant {I : ToolState → Prop}
    (absorb : ∀ st result snapshots, I st → st.MayFetch rt call →
      rt.search (call.fetchBase + st.fetches.length) (st.attemptQuery call) = .ok result →
      I (st.absorb rt call result snapshots).1)
    (fail : ∀ st answer, I st → st.MayFetch rt call →
      rt.search (call.fetchBase + st.fetches.length) (st.attemptQuery call) = answer →
      I (st.failed call answer))
    {left : Nat} (h : I st) : I (searchLoop rt call left st).1 :=
  (searchLoop_absorb_rule absorb (fun _ h => h) fail h).1

@[simp] theorem ToolState.absorb_fetches (st : ToolState) (result : SearchResult) (snapshots) :
    (st.absorb rt call result snapshots).1.fetches =
      st.fetches ++ [⟨st.attemptQuery call, .ok result⟩] := rfl

@[simp] theorem ToolState.absorb_page (st : ToolState) (result : SearchResult) (snapshots) :
    (st.absorb rt call result snapshots).1.page = st.page + 1 := rfl

@[simp] theorem ToolState.failed_fetches (st : ToolState) (answer) :
    (st.failed call answer).fetches =
      st.fetches ++ [⟨st.attemptQuery call, answer⟩] := rfl

/-! ## 2. Requests -/

def ToolCall.firstPage (call : ToolCall) : Nat := max call.query.page 1

structure Paged (call : ToolCall) (maxPages : Nat) (fetches : List Fetch) : Prop where
  query_eq : ∀ (k : Nat) (f : Fetch), fetches[k]? = some f →
    f.query = { call.query with
      page := call.firstPage + k, pageSize := f.query.pageSize }
  page_le : ∀ f ∈ fetches, f.query.page ≤ maxPages
  size_pos : ∀ f ∈ fetches, 0 < f.query.pageSize
  first_size : ∀ f ∈ fetches.head?, f.query.pageSize = call.targetNew
  sizes : fetches.Pairwise fun f g => g.query.pageSize ≤ f.query.pageSize

/-- The invariant behind `Paged`: all sizes so far are at least the gap that is left. -/
structure ToolState.PagedAt (rt : RetrievalRuntime) (call : ToolCall) (st : ToolState) :
    Prop where
  paged : Paged call rt.settings.searchMaxPagesPerRound st.fetches
  page_eq : st.page = call.firstPage + st.fetches.length
  size_ge : ∀ f ∈ st.fetches,
    call.targetNew - st.allNewCandidates.length ≤ f.query.pageSize
  none_new : st.fetches = [] → st.allNewCandidates = []

theorem ToolState.PagedAt.append (h : st.PagedAt rt call)
    (hmay : st.MayFetch rt call) (answer : Except RoundError SearchResult) :
    Paged call rt.settings.searchMaxPagesPerRound
      (st.fetches ++ [⟨st.attemptQuery call, answer⟩]) := by
  have hpos : 0 < (st.attemptQuery call).pageSize := Int.sub_pos.mpr hmay.gap_pos
  refine ⟨?_, ?_, ?_, ?_, ?_⟩
  · intro k f hf
    rw [List.getElem?_append] at hf
    split at hf
    · exact h.paged.query_eq k f hf
    · rw [List.getElem?_singleton] at hf
      split at hf
      · cases hf
        have hk : k = st.fetches.length := by omega
        simp [ToolState.attemptQuery, h.page_eq, hk]
      · cases hf
  · intro f hf
    rcases List.mem_append.mp hf with hf | hf
    · exact h.paged.page_le f hf
    · rw [List.mem_singleton.mp hf]
      exact hmay.page_le
  · intro f hf
    rcases List.mem_append.mp hf with hf | hf
    · exact h.paged.size_pos f hf
    · rw [List.mem_singleton.mp hf]
      exact hpos
  · intro f hf
    cases hfs : st.fetches with
    | nil =>
      rw [hfs] at hf
      cases hf
      simp [ToolState.attemptQuery, h.none_new hfs]
    | cons g gs =>
      rw [hfs] at hf
      exact h.paged.first_size f (by rw [hfs]; exact hf)
  · refine List.pairwise_append.mpr ⟨h.paged.sizes, List.pairwise_singleton _ _, ?_⟩
    intro f hf g hg
    rw [List.mem_singleton.mp hg]
    exact h.size_ge f hf

theorem executeSearchTool_paged (rt : RetrievalRuntime) (call : ToolCall) :
    Paged call rt.settings.searchMaxPagesPerRound (executeSearchTool rt call).final.fetches := by
  refine (searchLoop_absorb_rule (I := ToolState.PagedAt rt call)
    (J := fun st => Paged call rt.settings.searchMaxPagesPerRound st.fetches)
    ?_ (fun _ h => h.paged) ?_ ?_).1
  · intro st result snapshots h hmay _
    refine ⟨h.append hmay _, ?_, ?_, ?_⟩
    · simp [h.page_eq, Nat.add_assoc]
    · intro f hf
      have hlen : st.allNewCandidates.length ≤
          (st.absorb rt call result snapshots).1.allNewCandidates.length := by
        simp [ToolState.absorb]
      rw [ToolState.absorb_fetches] at hf
      rcases List.mem_append.mp hf with hf | hf
      · have := h.size_ge f hf
        omega
      · rw [List.mem_singleton.mp hf]
        show _ ≤ call.targetNew - (st.allNewCandidates.length : Int)
        omega
    · intro hnil
      simp at hnil
  · intro st answer h hmay _
    exact h.append hmay answer
  · refine ⟨⟨?_, ?_, ?_, ?_, ?_⟩, rfl, ?_, fun _ => rfl⟩ <;> simp [ToolCall.start]

theorem executeSearchTool_asked (rt : RetrievalRuntime) (call : ToolCall) :
    ∀ f ∈ (executeSearchTool rt call).final.fetches, ∃ n, rt.search n f.query = f.answer := by
  refine searchLoop_invariant
    (I := fun st => ∀ f ∈ st.fetches, ∃ n, rt.search n f.query = f.answer) ?_ ?_
    (by simp [ToolCall.start])
  · intro st result snapshots hst _ hs
    exact List.forall_mem_append.mpr ⟨hst, List.forall_mem_singleton.mpr ⟨_, hs⟩⟩
  · intro st answer hst _ hs
    exact List.forall_mem_append.mpr ⟨hst, List.forall_mem_singleton.mpr ⟨_, hs⟩⟩

theorem executeSearchTool_fetches_eq_nil (rt : RetrievalRuntime) (call : ToolCall)
    (h : rt.settings.searchMaxPagesPerRound < call.firstPage ∨ call.targetNew ≤ 0) :
    (executeSearchTool rt call).final.fetches = [] := by
  have hnot : ¬call.start.MayFetch rt call := by
    rintro ⟨hpage, hgap⟩
    rcases h with h | h
    · exact absurd hpage (not_le.mpr h)
    · exact absurd hgap (by simpa [ToolCall.start] using h)
  have hloop : ∀ left, (searchLoop rt call left call.start).1.fetches = [] := by
    intro left
    cases left with
    | zero => rfl
    | succ left =>
      rcases searchLoop_cases rt call left call.start with ⟨reason, heq, -⟩ |
        ⟨hmay, -⟩ | ⟨hmay, -⟩
      · rw [heq]
        rfl
      · exact absurd hmay hnot
      · exact absurd hmay hnot
  exact hloop _

theorem executeSearchTool_fetches_ne_nil
    (hpage : call.firstPage ≤ rt.settings.searchMaxPagesPerRound) (htarget : 0 < call.targetNew) :
    (executeSearchTool rt call).final.fetches ≠ [] := by
  obtain ⟨left, hleft⟩ := Nat.exists_eq_succ_of_ne_zero rt.settings.attempts_pos.ne'
  have hkeep : ∀ st : ToolState, st.fetches ≠ [] →
      (searchLoop rt call left st).1.fetches ≠ [] := by
    intro st hst
    exact searchLoop_invariant (I := fun st => st.fetches ≠ [])
      (fun _ _ _ _ _ _ => by simp) (fun _ _ _ _ _ => by simp) hst
  have hmay : call.start.MayFetch rt call := ⟨hpage, by simpa [ToolCall.start] using htarget⟩
  show (searchLoop rt call _ call.start).1.fetches ≠ []
  rw [hleft]
  rcases searchLoop_cases rt call left call.start with ⟨reason, -, hnot, -⟩ |
    ⟨-, answer, e, -, heq⟩ | ⟨-, result, snapshots, -, heq⟩
  · exact absurd hmay hnot
  · rw [heq]
    simp
  · rw [heq]
    cases (call.start.absorb rt call result snapshots).2 with
    | some reason => simp
    | none => exact hkeep _ (by simp)

theorem executeSearchTool_attempts (rt : RetrievalRuntime) (call : ToolCall)
    (h : (executeSearchTool rt call).outcome = .ok reason) :
    (executeSearchTool rt call).final.attempts.map (·.requestedPage) =
      (executeSearchTool rt call).final.fetches.map (·.query.page) := by
  refine (searchLoop_absorb_rule
    (I := fun st => st.attempts.map (·.requestedPage) = st.fetches.map (·.query.page))
    (J := fun _ => True) ?_ (fun _ _ => trivial) (fun _ _ _ _ _ => trivial) ?_).2 reason h
  · intro st result snapshots hst _ _
    rw [ToolState.absorb_fetches]
    simp only [ToolState.absorb, List.map_append, hst, List.map_cons, List.map_nil]
  · simp [ToolCall.start]

theorem validatedProviderSnapshots_error {providerName : String} {result : SearchResult}
    {e : RoundError} (h : validatedProviderSnapshots providerName result = .error e) :
    ∃ message, e = .valueError message := by
  have hcheck : ∀ (candidates : List ResumeCandidate) (snapshots : List ProviderSnapshot),
      checkSnapshots providerName candidates snapshots = .error e →
        ∃ message, e = .valueError message := by
    intro candidates
    induction candidates with
    | nil => intro snapshots hc; cases hc
    | cons candidate cs ih =>
      intro snapshots hc
      cases snapshots with
      | nil => cases hc
      | cons snapshot ss =>
        unfold checkSnapshots at hc
        repeat' split at hc
        all_goals first | exact ih ss hc | (cases hc; exact ⟨_, rfl⟩)
  unfold validatedProviderSnapshots at h
  dsimp only at h
  split at h
  · split at h <;> cases h
  · split at h
    · split at h
      · cases h
      · rename_i e' hc
        cases h
        exact hcheck _ _ hc
    · cases h
      exact ⟨_, rfl⟩

theorem executeSearchTool_error (rt : RetrievalRuntime) (call : ToolCall) {e : RoundError}
    (h : (executeSearchTool rt call).outcome = .error e) :
    (∃ n query, rt.search n query = .error e) ∨ ∃ message, e = .valueError message := by
  have hloop : ∀ left st, (searchLoop rt call left st).2 = .error e →
      (∃ n query, rt.search n query = .error e) ∨ ∃ message, e = .valueError message := by
    intro left
    induction left with
    | zero => intro st hst; cases hst
    | succ left ih =>
      intro st hst
      unfold searchLoop at hst
      split at hst
      · cases hst
      · split at hst
        · cases hst
        · split at hst
          · rename_i st' e' hattempt
            cases hst
            unfold ToolState.attempt at hattempt
            dsimp only at hattempt
            split at hattempt
            · rename_i e'' hs
              cases hattempt
              exact .inl ⟨_, _, hs⟩
            · split at hattempt
              · rename_i e'' hv
                cases hattempt
                exact .inr (validatedProviderSnapshots_error hv)
              · cases hattempt
          · cases hst
          · exact ih _ hst
  exact hloop _ _ h

/-! ## 3. Stop reasons -/

theorem stopReason_targetSatisfied_iff {target : Int}
    
    (h : stopReason settings target newCount rawCount zeroGain attemptNo page = some reason) :
    reason = .targetSatisfied ↔ target ≤ newCount := by
  unfold stopReason at h
  split at h
  · cases h
    simpa
  · rename_i htarget
    have hne : reason ≠ .targetSatisfied := by
      repeat' split at h
      all_goals first | (cases h; decide) | cases h
    exact ⟨fun h => absurd h hne, fun h => absurd h htarget⟩

theorem lt_of_stopReason_none {target : Int}
    (h : stopReason settings target newCount rawCount zeroGain attemptNo page = none) :
    (newCount : Int) < target := by
  unfold stopReason at h
  split at h
  · cases h
  · omega

theorem raw_ne_zero_of_stopReason_none {target : Int}
    (h : stopReason settings target newCount rawCount zeroGain attemptNo page = none) :
    rawCount ≠ 0 := by
  unfold stopReason at h
  split at h
  · cases h
  · split at h
    · cases h
    · assumption

theorem executeSearchTool_targetSatisfied_iff (rt : RetrievalRuntime) (call : ToolCall)
    (htarget : 0 < call.targetNew)
    (h : (executeSearchTool rt call).outcome = .ok reason) :
    reason = .targetSatisfied ↔
      call.targetNew ≤ (executeSearchTool rt call).final.allNewCandidates.length := by
  refine searchLoop_rule (I := fun st => (st.allNewCandidates.length : Int) < call.targetNew)
    (K := fun st o => o = .ok reason →
      (reason = .targetSatisfied ↔ call.targetNew ≤ st.allNewCandidates.length))
    (fun _ _ _ _ _ _ hr => lt_of_stopReason_none hr) ?_ (fun _ _ _ _ _ _ hr => by cases hr) ?_
    (by simpa [ToolCall.start] using htarget) h
  · intro st result snapshots r _ _ _ hstop hr
    cases hr
    exact stopReason_targetSatisfied_iff hstop
  · intro st r hst hsat hr
    cases hr
    exact ⟨hsat, fun h => absurd h (not_le.mpr hst)⟩

theorem executeSearchTool_answered (rt : RetrievalRuntime) (call : ToolCall) :
    ∀ f ∈ (executeSearchTool rt call).final.fetches.dropLast,
      ∃ result, f.answer = .ok result ∧ result.rawCandidateCount ≠ 0 := by
  refine searchLoop_rule
    (I := fun st => ∀ f ∈ st.fetches, ∃ result, f.answer = .ok result ∧
      result.rawCandidateCount ≠ 0)
    (K := fun st _ => ∀ f ∈ st.fetches.dropLast, ∃ result, f.answer = .ok result ∧
      result.rawCandidateCount ≠ 0) ?_ ?_ ?_ ?_ (by simp [ToolCall.start])
  · intro st result snapshots hst _ _ hr f hf
    rcases List.mem_append.mp hf with hf | hf
    · exact hst f hf
    · rw [List.mem_singleton.mp hf]
      exact ⟨result, rfl, raw_ne_zero_of_stopReason_none hr⟩
  · intro st result snapshots reason hst _ _ _ f hf
    exact hst f (by simpa using hf)
  · intro st answer e hst _ _ f hf
    exact hst f (by simpa using hf)
  · exact fun st reason hst _ f hf => hst f (List.dropLast_subset _ hf)

/-! ## 4. New candidates -/

abbrev resumeIds (candidates : List ResumeCandidate) : List String :=
  candidates.map (·.resumeId)

/-- Candidates keyed the way the CTS client keys them. -/
def KeysAreIds (candidates : List ResumeCandidate) : Prop :=
  ∀ candidate ∈ candidates, candidate.dedupKey = candidate.resumeId

/-- Every answer of the provider is keyed that way. -/
def RetrievalRuntime.KeysAreIds (rt : RetrievalRuntime) : Prop :=
  ∀ n query result, rt.search n query = .ok result → SeekTalent.KeysAreIds result.candidates

/-- What the loop over an answer has done after `taken`. -/
structure BatchState.Took (call : ToolCall) (st st' : BatchState)
    (taken : List ResumeCandidate) : Prop where
  seen : ∀ k, k ∈ st'.localSeenKeys ↔ k ∈ st.localSeenKeys ∨ k ∈ resumeIds taken
  new : ∀ r, r ∈ resumeIds st'.batchNew ↔ r ∈ resumeIds st.batchNew ∨
    (r ∈ resumeIds taken ∧ r ∉ st.localSeenKeys ∧ r ∉ call.seenResumeIds)
  nodup : (resumeIds st.batchNew).Nodup → (∀ r ∈ resumeIds st.batchNew, r ∈ st.localSeenKeys) →
    (resumeIds st'.batchNew).Nodup

theorem BatchState.take_took (call : ToolCall) (st : BatchState) {candidate : ResumeCandidate}
    (h : candidate.dedupKey = candidate.resumeId) :
    st.Took call (st.take call candidate) [candidate] := by
  unfold BatchState.take
  rw [h]
  by_cases hseen : candidate.resumeId ∈ st.localSeenKeys
  · rw [if_pos hseen]
    refine ⟨?_, ?_, fun h _ => h⟩
    · rintro k
      simp only [List.map_cons, List.map_nil, List.mem_singleton]
      exact ⟨.inl, fun h => h.elim id fun h => h ▸ hseen⟩
    · rintro r
      simp only [List.map_cons, List.map_nil, List.mem_singleton]
      refine ⟨.inl, fun h => h.elim id ?_⟩
      rintro ⟨rfl, hnot, -⟩
      exact absurd hseen hnot
  rw [if_neg hseen]
  by_cases hold : candidate.resumeId ∈ call.seenResumeIds
  · rw [if_pos hold]
    refine ⟨?_, ?_, fun h _ => h⟩
    · rintro k
      simp [or_comm]
    · rintro r
      simp only [List.map_cons, List.map_nil, List.mem_singleton]
      refine ⟨.inl, fun h => h.elim id ?_⟩
      rintro ⟨rfl, -, hnot⟩
      exact absurd hold hnot
  · rw [if_neg hold]
    refine ⟨?_, ?_, ?_⟩
    · rintro k
      simp [or_comm]
    · rintro r
      simp only [resumeIds, List.map_append, List.mem_append, List.map_cons, List.map_nil,
        List.mem_singleton, applyFirstHitAttribution_resumeId]
      refine or_congr_right ⟨?_, And.left⟩
      rintro rfl
      exact ⟨rfl, hseen, hold⟩
    · intro hnodup hsub
      simp only [resumeIds, List.map_append, List.map_cons, List.map_nil,
        applyFirstHitAttribution_resumeId]
      refine List.Nodup.append hnodup (List.nodup_singleton _) ?_
      intro r hr hr'
      rw [List.mem_singleton.mp hr'] at hr
      exact hseen (hsub _ hr)

theorem takeBatch_took (rt : RetrievalRuntime) (call : ToolCall) (page attemptNo : Nat)
    (payload : String) (candidates : List ResumeCandidate) (h : KeysAreIds candidates) (rank : Nat)
    (snapshots : List (Option ProviderSnapshot)) (st : BatchState) :
    st.Took call (takeBatch rt call page attemptNo payload rank candidates snapshots st)
      candidates := by
  induction candidates generalizing rank snapshots st with
  | nil => exact ⟨by simp [takeBatch], by simp [takeBatch], fun h _ => h⟩
  | cons candidate cs ih =>
    obtain ⟨hc, hcs⟩ := List.forall_mem_cons.mp h
    rw [takeBatch]
    generalize hst : ({ st with resumeHits := _, providerReturns := _ } : BatchState) = st₀
    have hkeys : st₀.localSeenKeys = st.localSeenKeys := by rw [← hst]
    have hnew : st₀.batchNew = st.batchNew := by rw [← hst]
    have h1 := BatchState.take_took call st₀ hc
    have h2 := ih hcs (rank + 1) snapshots.tail (st₀.take call candidate)
    refine ⟨?_, ?_, ?_⟩
    · intro k
      rw [h2.seen, h1.seen, hkeys]
      simp only [List.map_cons, List.map_nil, List.mem_cons, List.not_mem_nil, or_false]
      tauto
    · intro r
      rw [h2.new, h1.new, h1.seen, hkeys, hnew]
      simp only [List.map_cons, List.map_nil, List.mem_cons, List.not_mem_nil, or_false]
      tauto
    · intro hnodup hsub
      refine h2.nodup (h1.nodup (by rw [hnew]; exact hnodup) ?_) ?_
      · rw [hnew, hkeys]
        exact hsub
      · intro r hr
        rw [h1.seen, hkeys]
        rcases (h1.new r).mp hr with hr | ⟨hr, -⟩
        · exact .inl (hsub r (hnew ▸ hr))
        · exact .inr hr

/-- The new candidates of a call that was answered with `returned`. -/
structure NewAmong (call : ToolCall) (new returned : List ResumeCandidate) : Prop where
  mem_iff : ∀ r, r ∈ resumeIds new ↔
    r ∈ resumeIds returned ∧ r ∉ call.seenDedupKeys ∧ r ∉ call.seenResumeIds
  nodup : (resumeIds new).Nodup

structure ToolState.Deduped (call : ToolCall) (st : ToolState) : Prop where
  seen : ∀ k, k ∈ st.localSeenKeys ↔
    k ∈ call.seenDedupKeys ∨ k ∈ resumeIds (st.fetches.flatMap Fetch.candidates)
  new : NewAmong call st.allNewCandidates (st.fetches.flatMap Fetch.candidates)

theorem ToolState.Deduped.absorb (h : st.Deduped call)
    {result : SearchResult} (hkeys : KeysAreIds result.candidates)
    (snapshots : List (Option ProviderSnapshot)) :
    (st.absorb rt call result snapshots).1.Deduped call := by
  have htook := takeBatch_took rt call st.page (st.attemptNo + 1) result.requestPayload
    result.candidates hkeys (st.rawCandidateCount + 1) snapshots
    { localSeenKeys := st.localSeenKeys, resumeHits := st.resumeHits,
      providerReturns := st.providerReturns }
  have hret : (st.absorb rt call result snapshots).1.fetches.flatMap Fetch.candidates =
      st.fetches.flatMap Fetch.candidates ++ result.candidates := by
    simp [Fetch.candidates]
  refine ⟨?_, ?_, ?_⟩
  · intro k
    rw [hret]
    refine (htook.seen k).trans ?_
    rw [h.seen k]
    simp only [resumeIds, List.map_append, List.mem_append]
    tauto
  · intro r
    rw [hret]
    show r ∈ resumeIds (st.allNewCandidates ++ _) ↔ _
    simp only [resumeIds, List.map_append, List.mem_append]
    rw [htook.new r, h.new.mem_iff r, h.seen r]
    simp only [resumeIds, List.map_nil, List.not_mem_nil, false_or]
    tauto
  · show (resumeIds (st.allNewCandidates ++ _)).Nodup
    simp only [resumeIds, List.map_append]
    refine List.Nodup.append h.new.nodup (htook.nodup List.nodup_nil (by simp)) ?_
    intro r hr hr'
    rcases (htook.new r).mp hr' with hr' | ⟨-, hnot, -⟩
    · exact absurd hr' List.not_mem_nil
    · exact hnot ((h.seen r).mpr (.inr ((h.new.mem_iff r).mp hr).1))

/-- **What a call returns as new**: what it was answered with and had not seen, once. -/
theorem executeSearchTool_new (hkeys : rt.KeysAreIds) (call : ToolCall)
    (h : (executeSearchTool rt call).outcome = .ok reason) :
    NewAmong call (executeSearchTool rt call).final.allNewCandidates
      (executeSearchTool rt call).returned := by
  refine ((searchLoop_absorb_rule (I := ToolState.Deduped call) (J := fun _ => True)
    ?_ (fun _ _ => trivial) (fun _ _ _ _ _ => trivial) ?_).2 reason h).new
  · intro st result snapshots hst _ hs
    exact hst.absorb (hkeys _ _ _ hs) snapshots
  · exact ⟨by simp [ToolCall.start], by simp [ToolCall.start], by simp [ToolCall.start]⟩

theorem BatchState.length_take (call : ToolCall) (candidate : ResumeCandidate) (st : BatchState) :
    (st.take call candidate).batchNew.length ≤ st.batchNew.length + 1 := by
  unfold BatchState.take
  repeat' split
  all_goals simp

theorem length_takeBatch (rt : RetrievalRuntime) (call : ToolCall) (page attemptNo : Nat)
    (payload : String) (candidates : List ResumeCandidate) (rank : Nat)
    (snapshots : List (Option ProviderSnapshot)) (st : BatchState) :
    (takeBatch rt call page attemptNo payload rank candidates snapshots st).batchNew.length ≤
      st.batchNew.length + candidates.length := by
  induction candidates generalizing rank snapshots st with
  | nil => simp [takeBatch]
  | cons candidate cs ih =>
    rw [takeBatch]
    generalize hst : ({ st with resumeHits := _, providerReturns := _ } : BatchState) = st₀
    have hnew : st₀.batchNew = st.batchNew := by rw [← hst]
    have htake := BatchState.length_take call candidate st₀
    have hrest := ih (rank + 1) snapshots.tail (st₀.take call candidate)
    rw [hnew] at htake
    rw [List.length_cons]
    omega

/-- The provider never returns more than a page. -/
def RetrievalRuntime.PageBounded (rt : RetrievalRuntime) : Prop :=
  ∀ n query result, 0 < query.pageSize → rt.search n query = .ok result →
    (result.candidates.length : Int) ≤ query.pageSize

theorem executeSearchTool_new_le (hpage : rt.PageBounded) (call : ToolCall)
    (htarget : 0 ≤ call.targetNew) :
    ((executeSearchTool rt call).final.allNewCandidates.length : Int) ≤ call.targetNew := by
  refine searchLoop_invariant (I := fun st => (st.allNewCandidates.length : Int) ≤ call.targetNew)
    ?_ (fun st _ hst _ _ => hst) (by simpa [ToolCall.start] using htarget)
  intro st result snapshots hst hmay hs
  have hpos : 0 < (st.attemptQuery call).pageSize := Int.sub_pos.mpr hmay.gap_pos
  have hbatch := length_takeBatch rt call st.page (st.attemptNo + 1) result.requestPayload
    result.candidates (st.rawCandidateCount + 1) snapshots
    { localSeenKeys := st.localSeenKeys, resumeHits := st.resumeHits,
      providerReturns := st.providerReturns }
  have hcount : (result.candidates.length : Int) ≤ call.targetNew - st.allNewCandidates.length :=
    hpage _ _ _ hpos hs
  simp only [List.length_nil, Nat.zero_add] at hbatch
  simp only [ToolState.absorb, List.length_append, Nat.cast_add]
  omega

/-! ## 5. Hits -/

/-- The hits of a call: numbered from 1, one for each candidate returned, all under the
    call's run, round and query instance. -/
structure HitsOf (call : ToolCall) (hits : List QueryResumeHit)
    (returned : List ResumeCandidate) : Prop where
  numbered : hits.map (·.hitSequenceNo) = List.range' 1 hits.length
  resumes : hits.map (·.resumeId) = resumeIds returned
  runId_eq : ∀ hit ∈ hits, hit.runId = call.runId
  roundNo_eq : ∀ hit ∈ hits, hit.roundNo = call.roundNo
  queryInstanceId_eq : ∀ hit ∈ hits, hit.queryInstanceId = call.query.queryInstanceId

theorem HitsOf.length_eq {hits : List QueryResumeHit}
    (h : HitsOf call hits returned) : hits.length = returned.length := by
  have := congrArg List.length h.resumes
  simpa using this

theorem HitsOf.append {hits : List QueryResumeHit}
    (h : HitsOf call hits returned) {hit : QueryResumeHit} {candidate : ResumeCandidate}
    (hno : hit.hitSequenceNo = hits.length + 1) (hresume : hit.resumeId = candidate.resumeId)
    (hrun : hit.runId = call.runId) (hround : hit.roundNo = call.roundNo)
    (hinstance : hit.queryInstanceId = call.query.queryInstanceId) :
    HitsOf call (hits ++ [hit]) (returned ++ [candidate]) := by
  have hall : ∀ {P : QueryResumeHit → Prop}, (∀ x ∈ hits, P x) → P hit →
      ∀ x ∈ hits ++ [hit], P x := by
    intro P hP hhit x hx
    rcases List.mem_append.mp hx with hx | hx
    · exact hP x hx
    · rw [List.mem_singleton.mp hx]
      exact hhit
  refine ⟨?_, ?_, hall h.runId_eq hrun, hall h.roundNo_eq hround,
    hall h.queryInstanceId_eq hinstance⟩
  · simp [h.numbered, List.range'_append_1 .. |>.symm, hno, Nat.add_comm]
  · simp [h.resumes, hresume]

theorem takeBatch_hits {page attemptNo : Nat} {payload : String}
    (candidates : List ResumeCandidate) (rank : Nat)
    (snapshots : List (Option ProviderSnapshot)) (st : BatchState)
    (h : HitsOf call st.resumeHits returned) :
    HitsOf call
      (takeBatch rt call page attemptNo payload rank candidates snapshots st).resumeHits
      (returned ++ candidates) := by
  induction candidates generalizing rank snapshots st returned with
  | nil => simpa [takeBatch] using h
  | cons candidate cs ih =>
    rw [takeBatch, List.append_cons returned]
    refine ih _ _ _ ?_
    have htake : ∀ b : BatchState, (b.take call candidate).resumeHits = b.resumeHits := by
      intro b
      unfold BatchState.take
      split
      · rfl
      · split <;> rfl
    rw [htake]
    exact h.append rfl rfl rfl rfl rfl

/-- **The hits of a call that returned.** -/
theorem executeSearchTool_hits (rt : RetrievalRuntime) (call : ToolCall)
    (h : (executeSearchTool rt call).outcome = .ok reason) :
    HitsOf call (executeSearchTool rt call).final.resumeHits
      (executeSearchTool rt call).returned := by
  refine (searchLoop_absorb_rule
    (I := fun st => HitsOf call st.resumeHits (st.fetches.flatMap Fetch.candidates))
    (J := fun _ => True) ?_ (fun _ _ => trivial) (fun _ _ _ _ _ => trivial) ?_).2 reason h
  · intro st result snapshots hst _ _
    have hret : (st.absorb rt call result snapshots).1.fetches.flatMap Fetch.candidates =
        st.fetches.flatMap Fetch.candidates ++ result.candidates := by
      simp [Fetch.candidates]
    rw [hret]
    exact takeBatch_hits result.candidates (st.rawCandidateCount + 1) snapshots
      ⟨st.localSeenKeys, [], 0, st.resumeHits, st.providerReturns⟩ hst
  · constructor <;> simp [ToolCall.start]

end SeekTalent

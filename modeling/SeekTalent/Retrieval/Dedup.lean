import Mathlib.Data.List.Dedup
import SeekTalent.Retrieval.RoundSteps
import SeekTalent.Retrieval.SearchToolSpec

/-!
# Counting each resume once

A search call drops what the round had seen *when the lane's pass began*: the sets it gets
are brought up to date only at the end of a pass. Between passes, and between the pages of
one search, nothing is taken twice. Between two searches of one pass — the cities of a
lane — nothing is compared, so a resume the provider returns for both is taken twice.
`countsEachResumeOnce_iff` says that this is the only way.
-/

namespace SeekTalent

open Relation

variable {F : Type}

def Dispatch.HadSeen (d : Dispatch) (r : String) : Prop :=
  r ∈ d.call.seenDedupKeys ∨ r ∈ d.call.seenResumeIds

/-- No two searches of one pass are answered with the same resume, unless it had been seen
    when the pass began. -/
def NoRepeatInPass (searches : List Dispatch) : Prop :=
  searches.Pairwise fun d₁ d₂ => d₁.passNo = d₂.passNo →
    ∀ r, r ∈ resumeIds d₁.run.returned → r ∈ resumeIds d₂.run.returned → d₁.HadSeen r

/-- The round's new candidates are distinct resumes, unseen before the round, and counted
    as many as there are. -/
structure RoundCall.CountsEachResumeOnce (c : RoundCall F)
    (result : RetrievalExecutionResult) : Prop where
  distinct : (resumeIds result.newCandidates).Nodup
  unseen : ∀ r ∈ resumeIds result.newCandidates,
    r ∉ c.seenResumeIds ∧ r ∉ c.seenDedupKeys
  counted : result.searchObservation.uniqueNewCount =
    (resumeIds result.newCandidates).dedup.length

/-! ## 1. What the lanes have collected -/

/-- The searches of the current pass got the sets as they are; those of earlier passes have
    put what they found into the sets, and later searches got it. -/
structure RoundCall.Collected (c : RoundCall F) (s : RoundState) : Prop where
  genuine : ∀ d ∈ s.log, d.run = executeSearchTool c.runtime d.call
  collected : s.log.flatMap Dispatch.newCandidates =
    s.allNewCandidates ++ s.pass.localNewCandidates
  seen : ∀ r, r ∈ c.seenResumeIds → r ∈ s.globalSeenResumeIds
  seenKeys : ∀ r, r ∈ c.seenDedupKeys → r ∈ s.globalSeenDedupKeys
  given : ∀ d ∈ s.log, ∀ r, r ∈ c.seenResumeIds ∨ r ∈ c.seenDedupKeys → d.HadSeen r
  current : ∀ d ∈ s.log, d.passNo = s.pass.passNo →
    d.call.seenResumeIds = s.globalSeenResumeIds ∧
    d.call.seenDedupKeys = s.globalSeenDedupKeys ∧
    ∀ x ∈ d.newCandidates, x ∈ s.pass.localNewCandidates
  earlier : ∀ d ∈ s.log, d.passNo ≠ s.pass.passNo → d.passNo < s.pass.passNo ∧
    ∀ r ∈ resumeIds d.newCandidates, r ∈ s.globalSeenResumeIds
  samePass : s.log.Pairwise fun d₁ d₂ => d₁.passNo = d₂.passNo →
    ∀ r, d₁.HadSeen r ↔ d₂.HadSeen r
  laterPass : s.log.Pairwise fun d₁ d₂ => d₁.passNo ≠ d₂.passNo →
    ∀ r ∈ resumeIds d₁.newCandidates, d₂.HadSeen r

theorem RoundCall.collected_initial (c : RoundCall F) : c.Collected c.initial := by
  constructor <;> simp [RoundCall.initial]

theorem RoundCall.Collected.quiet {c : RoundCall F} {s s' : RoundState}
    (h : c.Collected s) (hq : s.Quiet s') : c.Collected s' := by
  obtain ⟨hlog, hpass, hlocal, hall, hres, hkeys⟩ := hq
  constructor <;> simp only [hlog, hpass, hlocal, hall, hres, hkeys]
  · exact h.genuine
  · exact h.collected
  · exact h.seen
  · exact h.seenKeys
  · exact h.given
  · exact h.current
  · exact h.earlier
  · exact h.samePass
  · exact h.laterPass

theorem RoundCall.Collected.searched {c : RoundCall F} {s s' : RoundState} {d : Dispatch}
    (h : c.Collected s) (hs : c.Searched s s' d) : c.Collected s' := by
  have hseen : ∀ r, d.HadSeen r ↔ r ∈ s.globalSeenDedupKeys ∨ r ∈ s.globalSeenResumeIds := by
    intro r
    unfold Dispatch.HadSeen
    rw [hs.seenDedupKeys_eq, hs.seenResumeIds_eq]
  constructor
  · rw [hs.log_eq]
    exact List.forall_mem_append.mpr ⟨h.genuine, List.forall_mem_singleton.mpr hs.made.run_eq⟩
  · rw [hs.log_eq, hs.all_eq, hs.local_eq, List.flatMap_append, h.collected]
    simp
  · rw [hs.resumeIds_eq]
    exact h.seen
  · rw [hs.dedupKeys_eq]
    exact h.seenKeys
  · rw [hs.log_eq]
    refine List.forall_mem_append.mpr ⟨h.given, List.forall_mem_singleton.mpr ?_⟩
    refine fun r hr => (hseen r).mpr ?_
    exact hr.elim (fun hr => .inr (h.seen r hr)) fun hr => .inl (h.seenKeys r hr)
  · rw [hs.log_eq, hs.pass_eq, hs.resumeIds_eq, hs.dedupKeys_eq, hs.local_eq]
    refine List.forall_mem_append.mpr ⟨fun e he hp => ?_, List.forall_mem_singleton.mpr fun _ =>
      ⟨hs.seenResumeIds_eq, hs.seenDedupKeys_eq, fun x hx => List.mem_append_right _ hx⟩⟩
    obtain ⟨h1, h2, h3⟩ := h.current e he hp
    exact ⟨h1, h2, fun x hx => List.mem_append_left _ (h3 x hx)⟩
  · rw [hs.log_eq, hs.pass_eq, hs.resumeIds_eq]
    exact List.forall_mem_append.mpr ⟨h.earlier,
      List.forall_mem_singleton.mpr fun hp => absurd hs.passNo_eq hp⟩
  · rw [hs.log_eq]
    refine List.pairwise_append.mpr ⟨h.samePass, List.pairwise_singleton _ _, ?_⟩
    intro e he d' hd' hp r
    rw [List.mem_singleton.mp hd'] at hp ⊢
    obtain ⟨h1, h2, -⟩ := h.current e he (hp.trans hs.passNo_eq)
    rw [hseen r]
    unfold Dispatch.HadSeen
    rw [h1, h2]
  · rw [hs.log_eq]
    refine List.pairwise_append.mpr ⟨h.laterPass, List.pairwise_singleton _ _, ?_⟩
    intro e he d' hd' hp r hr
    rw [List.mem_singleton.mp hd'] at hp ⊢
    exact (hseen r).mpr (.inr ((h.earlier e he fun heq => hp (heq.trans hs.passNo_eq.symm)).2
      r hr))

theorem RoundCall.Collected.finished {c : RoundCall F} {s s' : RoundState}
    (h : c.Collected s) (hf : s.Finished s') : c.Collected s' := by
  obtain ⟨hlog, hpass, hlocal, hall, hres, hkeys⟩ := hf
  constructor <;> simp only [hlog, hpass, hlocal, hall, hres, hkeys]
  · exact h.genuine
  · rw [h.collected, List.append_nil]
  · exact fun r hr => List.mem_append_right _ (h.seen r hr)
  · exact fun r hr => List.mem_append_right _ (h.seenKeys r hr)
  · exact h.given
  · -- no search has the new pass number yet
    intro d hd hp
    have hle : d.passNo ≤ s.pass.passNo := by
      by_cases hcur : d.passNo = s.pass.passNo
      · exact hcur.le
      · exact (h.earlier d hd hcur).1.le
    omega
  · intro d hd _
    by_cases hcur : d.passNo = s.pass.passNo
    · refine ⟨hcur ▸ Nat.lt_succ_self _, fun r hr => List.mem_append_left _ ?_⟩
      obtain ⟨x, hx, rfl⟩ := List.mem_map.mp hr
      exact List.mem_map_of_mem ((h.current d hd hcur).2.2 x hx)
    · obtain ⟨hlt, hr⟩ := h.earlier d hd hcur
      exact ⟨Nat.lt_succ_of_lt hlt, fun r hmem => List.mem_append_right _ (hr r hmem)⟩
  · exact h.samePass
  · exact h.laterPass

theorem RoundCall.Collected.step {c : RoundCall F} {s s' : RoundState} (hstep : c.Step s s')
    (h : c.Collected s) : c.Collected s' := by
  rcases hstep.effect with hq | ⟨d, hd⟩ | hf
  · exact h.quiet hq
  · exact h.searched hd
  · exact h.finished hf

/-! ## 2. When no resume is counted twice -/

theorem Dispatch.newAmong {c : RoundCall F} {s : RoundState} (h : c.Collected s)
    (hkeys : c.runtime.KeysAreIds) {d : Dispatch} (hd : d ∈ s.log)
    (hok : s.AllReturned) : NewAmong d.call d.newCandidates d.run.returned := by
  obtain ⟨reason, hreason⟩ := hok d hd
  have hrun := h.genuine d hd
  unfold Dispatch.newCandidates
  rw [hreason]
  rw [hrun] at hreason ⊢
  exact executeSearchTool_new hkeys d.call hreason

theorem NewAmong.mem_iff_hadSeen {d : Dispatch} {new returned : List ResumeCandidate}
    (h : NewAmong d.call new returned) (r : String) :
    r ∈ resumeIds new ↔ r ∈ resumeIds returned ∧ ¬d.HadSeen r := by
  rw [h.mem_iff r, Dispatch.HadSeen, not_or]

theorem disjoint_newCandidates_iff {c : RoundCall F} {s : RoundState} (h : c.Collected s)
    (hkeys : c.runtime.KeysAreIds) (hok : s.AllReturned) {d₁ d₂ : Dispatch}
    (h₁ : d₁ ∈ s.log) (h₂ : d₂ ∈ s.log)
    (same : d₁.passNo = d₂.passNo → ∀ r, d₁.HadSeen r ↔ d₂.HadSeen r)
    (later : d₁.passNo ≠ d₂.passNo → ∀ r ∈ resumeIds d₁.newCandidates, d₂.HadSeen r) :
    (resumeIds d₁.newCandidates).Disjoint (resumeIds d₂.newCandidates) ↔
      (d₁.passNo = d₂.passNo → ∀ r, r ∈ resumeIds d₁.run.returned →
        r ∈ resumeIds d₂.run.returned → d₁.HadSeen r) := by
  have hnew₁ := (d₁.newAmong h hkeys h₁ hok).mem_iff_hadSeen
  have hnew₂ := (d₂.newAmong h hkeys h₂ hok).mem_iff_hadSeen
  by_cases hp : d₁.passNo = d₂.passNo
  · constructor
    · intro hdis _ r hr₁ hr₂
      by_contra hunseen
      exact hdis ((hnew₁ r).mpr ⟨hr₁, hunseen⟩)
        ((hnew₂ r).mpr ⟨hr₂, fun hseen => hunseen ((same hp r).mpr hseen)⟩)
    · intro hrepeat r hr₁ hr₂
      obtain ⟨hret₁, hunseen⟩ := (hnew₁ r).mp hr₁
      exact hunseen (hrepeat hp r hret₁ ((hnew₂ r).mp hr₂).1)
  · refine ⟨fun _ hp' => absurd hp' hp, fun _ r hr₁ hr₂ => ?_⟩
    exact ((hnew₂ r).mp hr₂).2 (later hp r hr₁)

theorem nodup_collected_iff {c : RoundCall F} {s : RoundState} (h : c.Collected s)
    (hkeys : c.runtime.KeysAreIds) (hok : s.AllReturned) :
    (resumeIds (s.log.flatMap Dispatch.newCandidates)).Nodup ↔ NoRepeatInPass s.log := by
  rw [resumeIds, List.map_flatMap, List.nodup_flatMap]
  have hpair : s.log.Pairwise (Function.onFun List.Disjoint fun d =>
      resumeIds d.newCandidates) ↔ NoRepeatInPass s.log := by
    have hpass := h.samePass.and h.laterPass
    refine ⟨fun hd => (hd.and hpass).imp_of_mem ?_, fun hr => (hr.and hpass).imp_of_mem ?_⟩
    · rintro d₁ d₂ h₁ h₂ ⟨hdis, same, later⟩
      exact (disjoint_newCandidates_iff h hkeys hok h₁ h₂ same later).mp hdis
    · rintro d₁ d₂ h₁ h₂ ⟨hrep, same, later⟩
      exact (disjoint_newCandidates_iff h hkeys hok h₁ h₂ same later).mpr hrep
  rw [← hpair]
  exact and_iff_right fun d hd => (d.newAmong h hkeys hd hok).nodup

/-- **A round counts each resume once exactly when no pass repeats one**: no two searches
    of one lane's pass are answered with a resume that was unseen when the pass began. -/
theorem countsEachResumeOnce_iff [PyFloat F] (c : RoundCall F)
    (hkeys : c.runtime.KeysAreIds) {result : RetrievalExecutionResult}
    (h : c.outcome.1 = .ok result) :
    c.CountsEachResumeOnce result ↔ NoRepeatInPass c.searches := by
  obtain ⟨hidle, rfl⟩ := c.outcome_ok h
  have hcol := RoundCall.outcome_induction c.collected_initial
    fun _ _ hstep hi => hi.step hstep
  have hall : (c.result c.outcome.2).newCandidates =
      c.outcome.2.log.flatMap Dispatch.newCandidates := by
    rw [hcol.collected, hidle.empty, List.append_nil]
    rfl
  unfold RoundCall.searches
  rw [← nodup_collected_iff hcol hkeys hidle.returned, ← hall]
  refine ⟨fun hc => hc.distinct, fun hnodup => ⟨hnodup, ?_, ?_⟩⟩
  · intro r hr
    rw [hall, resumeIds, List.map_flatMap, List.mem_flatMap] at hr
    obtain ⟨d, hd, hr⟩ := hr
    have hunseen := (((d.newAmong hcol hkeys hd hidle.returned).mem_iff_hadSeen r).mp hr).2
    exact ⟨fun hs => hunseen (hcol.given d hd r (.inl hs)),
      fun hs => hunseen (hcol.given d hd r (.inr hs))⟩
  · rw [hnodup.dedup]
    exact (List.length_map ..).symm

/-! ## 3. A resume in two cities -/

def sampleLane (laneType : LaneType) (term : String) : LogicalQuery :=
  { queryRole := if laneType = .exploit then .exploit else .explore
    laneType := laneType
    queryTerms := [term]
    keywordQuery := term
    queryInstanceId := "q-" ++ term
    queryFingerprint := "f-" ++ term }

def sampleCandidate (id : String) : ResumeCandidate := { resumeId := id, dedupKey := id }

/-- One lane looks for two candidates in two cities, and both cities answer with the same
    one. -/
def sameResumeInTwoCities : RoundCall Rat :=
  { runtime :=
      { search := fun _ _ => .ok { candidates := [sampleCandidate "r1"], rawCandidateCount := 1 } }
    plan := buildLocationExecutionPlan ["Beijing", "Shanghai"] [] 1 2
    queryStates := [sampleLane .exploit "go"]
    targetNew := 2
    thresholds := .default }

theorem sameResumeInTwoCities_keys : sameResumeInTwoCities.runtime.KeysAreIds := by
  intro n query result h candidate hc
  cases h
  rw [List.mem_singleton.mp hc]
  rfl

/-- The round returns, having taken the one resume twice. -/
theorem sameResumeInTwoCities_counted_twice :
    ¬∀ (c : RoundCall Rat) (result : RetrievalExecutionResult), c.runtime.KeysAreIds →
      c.outcome.1 = .ok result → c.CountsEachResumeOnce result := by
  intro h
  have hdistinct := (h sameResumeInTwoCities _ sameResumeInTwoCities_keys rfl).distinct
  revert hdistinct
  decide

theorem countsEachResumeOnce_iff_two_cities :
    ∃ result, sameResumeInTwoCities.outcome.1 = .ok result ∧
      (sameResumeInTwoCities.CountsEachResumeOnce result ↔
        NoRepeatInPass sameResumeInTwoCities.searches) :=
  ⟨_, rfl, countsEachResumeOnce_iff sameResumeInTwoCities sameResumeInTwoCities_keys rfl⟩

end SeekTalent

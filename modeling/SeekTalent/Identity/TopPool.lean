import SeekTalent.Identity.RunState

/-!
# The top pool over identities

`_apply_identity_top_pool` walks the scored resumes in score order. Each one stands for the
identity recorded for it, the first of an identity brings that identity's canonical resume
into the pool, and the walk stops at `TOP_K`.

Every pool entry stands for the identity it was taken for (`poolIdentityId_poolCard`), so a
pool has no identity twice; that needs tables that agree, and that no resume without an
identity goes by the id of one.
-/

namespace SeekTalent

def topK : Nat := 10

def scoredCandidateSortKey (candidate : ScoredCandidate) :
    Nat ×ₗ Int ×ₗ Int ×ₗ Nat ×ₗ String :=
  toLex (if candidate.fitBucket = .fit then 0 else 1, toLex (-(candidate.overallScore : Int),
    toLex (-(candidate.mustHaveMatchScore : Int),
      toLex (candidate.riskScore, candidate.resumeId))))

namespace RunState

/-- `scorecards_by_resume_id.get(resume_id)` -/
def scorecard (state : RunState) (resumeId : String) : Option ScoredCandidate :=
  Table.lookup (·.resumeId) state.scorecardsByResumeId resumeId

def withScorecards (state : RunState) (cards : List ScoredCandidate)
    (nodup_scorecards : (cards.map (·.resumeId)).Nodup) : RunState :=
  { state with scorecardsByResumeId := cards, nodup_scorecards }

def topCandidates (state : RunState) : List ScoredCandidate :=
  state.topPoolIds.filterMap state.scorecard

/-- The identity a scored resume stands for; without one it stands for itself. -/
def poolIdentityId (state : RunState) (scored : ScoredCandidate) : String :=
  (state.identityOf scored.resumeId).getD scored.resumeId

/-- What a scored resume brings into the pool: the score of its identity's canonical resume,
    if there is one and it has been scored. -/
def poolCard (state : RunState) (scored : ScoredCandidate) : ScoredCandidate :=
  let canonical := state.canonicalResumeByIdentityId (state.poolIdentityId scored)
  let selectedResumeId := (canonical.map (·.canonicalResumeId)).getD scored.resumeId
  (state.scorecard selectedResumeId).getD scored

def selectPool (state : RunState) (seenIdentityIds : List String)
    (selected : List ScoredCandidate) : List ScoredCandidate → List ScoredCandidate
  | [] => selected
  | scored :: rest =>
    if state.poolIdentityId scored ∈ seenIdentityIds then
      state.selectPool seenIdentityIds selected rest
    else if topK ≤ (selected ++ [state.poolCard scored]).length then
      selected ++ [state.poolCard scored]
    else
      state.selectPool (state.poolIdentityId scored :: seenIdentityIds)
        (selected ++ [state.poolCard scored]) rest

/-- `_apply_identity_top_pool`: the run state with the pool stored, and the pool. -/
def applyIdentityTopPool (state : RunState) : RunState × List ScoredCandidate :=
  if state.candidateIdentityByResumeId = [] then
    let stored := { state with
      topPoolIds := (state.topCandidates.take topK).map (·.resumeId) }
    (stored, stored.topCandidates.take topK)
  else
    let selected := state.selectPool [] []
      (Py.sortedBy scoredCandidateSortKey state.scorecardsByResumeId)
    ({ state with topPoolIds := selected.map (·.resumeId) }, selected)

end RunState

def OwnsScored (state : RunState) (identity : RuntimeCandidateIdentity) : Prop :=
  ∃ card ∈ state.scorecardsByResumeId, card.resumeId ∈ identity.resumeIds

instance (state : RunState) (identity : RuntimeCandidateIdentity) :
    Decidable (OwnsScored state identity) :=
  inferInstanceAs (Decidable (∃ card ∈ _, _))

/-- The pool has every resume and every identity at most once, and it represents every
    identity with a scored resume if there are fewer than `TOP_K` of them. -/
structure PoolOk (state : RunState) (pool : List ScoredCandidate) : Prop where
  nodup : (pool.map (·.resumeId)).Nodup
  onePerIdentity : ∀ identity ∈ state.candidateIdentities, ∀ a ∈ pool, ∀ b ∈ pool,
    a.resumeId ∈ identity.resumeIds → b.resumeId ∈ identity.resumeIds → a.resumeId = b.resumeId
  represented : (state.candidateIdentities.filter (OwnsScored state)).length < topK →
    ∀ identity ∈ state.candidateIdentities, OwnsScored state identity →
      ∃ a ∈ pool, a.resumeId ∈ identity.resumeIds

/-- What the scored resumes without an identity must not do: go by the id of an identity,
    or take the places of identities in a pool that has room for these. -/
structure StrangersLeaveRoom (state : RunState) : Prop where
  noIdentityId : ∀ card ∈ state.scorecardsByResumeId, state.identityOf card.resumeId = none →
    ∀ identity ∈ state.candidateIdentities, identity.identityId ≠ card.resumeId
  room : (state.candidateIdentities.filter (OwnsScored state)).length < topK →
    (state.scorecardsByResumeId.map state.poolIdentityId).dedup.length ≤ topK

section Pool

variable {state : RunState} {scored : ScoredCandidate} {cards pool : List ScoredCandidate}

theorem scorecard_eq_some_iff {resumeId : String} :
    state.scorecard resumeId = some scored ↔
      scored ∈ state.scorecardsByResumeId ∧ scored.resumeId = resumeId :=
  Table.lookup_eq_some_iff state.nodup_scorecards

theorem poolCard_mem (h : scored ∈ state.scorecardsByResumeId) :
    state.poolCard scored ∈ state.scorecardsByResumeId := by
  show (state.scorecard _).getD scored ∈ _
  cases hcard : state.scorecard _ with
  | none => exact h
  | some card => exact (scorecard_eq_some_iff.mp hcard).1

/-- **The pool entry of an identity stands for that identity.** -/
theorem poolIdentityId_poolCard (htables : TablesAgree state) (hcanonical : CanonicalAgree state)
    (hscored : scored ∈ state.scorecardsByResumeId) :
    state.poolIdentityId (state.poolCard scored) = state.poolIdentityId scored := by
  unfold RunState.poolCard
  cases hcanon : state.canonicalResumeByIdentityId (state.poolIdentityId scored) with
  | none =>
    -- without a canonical resume the scored resume comes in itself
    have hself : state.scorecard scored.resumeId = some scored :=
      scorecard_eq_some_iff.mpr ⟨hscored, rfl⟩
    simp [hself]
  | some selection =>
    obtain ⟨identity, hmem, hid, hin⟩ := hcanonical _ _ hcanon
    cases hcard : state.scorecard selection.canonicalResumeId with
    | none => simp [hcard]
    | some card =>
      obtain ⟨-, hresume⟩ := scorecard_eq_some_iff.mp hcard
      have hof := htables.mapped identity hmem _ hin
      show state.poolIdentityId ((state.scorecard selection.canonicalResumeId).getD scored) = _
      rw [hcard]
      show (state.identityOf card.resumeId).getD card.resumeId = _
      rw [hresume, hof, ← hid]
      rfl

theorem selectPool_spec (htables : TablesAgree state) (hcanonical : CanonicalAgree state)
    (seenIdentityIds : List String) (selected : List ScoredCandidate)
    (hcards : ∀ card ∈ cards, card ∈ state.scorecardsByResumeId)
    (hselected : ∀ card ∈ selected, card ∈ state.scorecardsByResumeId)
    (hseen : ∀ id, id ∈ seenIdentityIds ↔ id ∈ selected.map state.poolIdentityId)
    (hnd : (selected.map state.poolIdentityId).Nodup) :
    ((state.selectPool seenIdentityIds selected cards).map state.poolIdentityId).Nodup ∧
    (∀ card ∈ state.selectPool seenIdentityIds selected cards,
      card ∈ state.scorecardsByResumeId) ∧
    (topK ≤ (state.selectPool seenIdentityIds selected cards).length ∨
      ∀ id, id ∈ cards.map state.poolIdentityId ∨ id ∈ seenIdentityIds →
        id ∈ (state.selectPool seenIdentityIds selected cards).map state.poolIdentityId) := by
  induction cards generalizing seenIdentityIds selected with
  | nil => exact ⟨hnd, hselected, .inr fun id hid => (hseen id).mp (by simpa using hid)⟩
  | cons scored rest ih =>
    obtain ⟨hscored, hrest⟩ := List.forall_mem_cons.mp hcards
    have hid := poolIdentityId_poolCard htables hcanonical hscored
    unfold RunState.selectPool
    split
    · rename_i hold
      obtain ⟨ihNodup, ihMem, ihAll⟩ := ih _ _ hrest hselected hseen hnd
      refine ⟨ihNodup, ihMem, ihAll.imp_right fun hall id h => hall id ?_⟩
      rw [List.map_cons, List.mem_cons] at h
      rcases h with (rfl | h) | h
      · exact .inr hold
      · exact .inl h
      · exact .inr h
    · rename_i hnew
      -- the identity is new, so its entry keeps the pool's identities apart
      have hnd' : ((selected ++ [state.poolCard scored]).map state.poolIdentityId).Nodup := by
        rw [List.map_append, List.map_singleton, hid]
        refine hnd.append (List.nodup_singleton _) ?_
        simpa using fun h => hnew ((hseen _).mpr h)
      have hselected' : ∀ card ∈ selected ++ [state.poolCard scored],
          card ∈ state.scorecardsByResumeId := by
        intro card hcard
        rcases List.mem_append.mp hcard with hcard | hcard
        · exact hselected card hcard
        · rw [List.mem_singleton.mp hcard]
          exact poolCard_mem hscored
      split
      · rename_i hfull
        exact ⟨hnd', hselected', .inl hfull⟩
      · obtain ⟨ihNodup, ihMem, ihAll⟩ := ih
          (state.poolIdentityId scored :: seenIdentityIds) _ hrest hselected'
          (fun id => by rw [List.mem_cons, hseen, List.map_append, List.map_singleton, hid,
            List.mem_append, List.mem_singleton, or_comm]) hnd'
        refine ⟨ihNodup, ihMem, ihAll.imp_right fun hall id h => hall id ?_⟩
        rw [List.map_cons, List.mem_cons] at h
        rcases h with (rfl | h) | h
        · exact .inr (List.mem_cons_self ..)
        · exact .inl h
        · exact .inr (List.mem_cons_of_mem _ h)

theorem poolOk_of_nodup (htables : TablesAgree state) (hroom : StrangersLeaveRoom state)
    (hnd : (pool.map state.poolIdentityId).Nodup)
    (hmem : ∀ card ∈ pool, card ∈ state.scorecardsByResumeId)
    (hall : topK ≤ pool.length ∨ ∀ id ∈ state.scorecardsByResumeId.map state.poolIdentityId,
      id ∈ pool.map state.poolIdentityId) : PoolOk state pool := by
  have hinj : ∀ a ∈ pool, ∀ b ∈ pool, state.poolIdentityId a = state.poolIdentityId b → a = b :=
    fun a ha b hb h => List.inj_on_of_nodup_map hnd ha hb h
  have hidentity : ∀ {identity : RuntimeCandidateIdentity} {card : ScoredCandidate},
      identity ∈ state.candidateIdentities → card.resumeId ∈ identity.resumeIds →
        state.poolIdentityId card = identity.identityId := by
    intro identity card hidentity hin
    simp [RunState.poolIdentityId, htables.mapped identity hidentity _ hin]
  refine ⟨?_, ?_, ?_⟩
  · rw [List.nodup_map_iff_inj_on hnd.of_map]
    intro a ha b hb hab
    apply hinj a ha b hb
    simp [RunState.poolIdentityId, hab]
  · intro identity hidn a ha b hb hain hbin
    exact congrArg _ (hinj a ha b hb ((hidentity hidn hain).trans (hidentity hidn hbin).symm))
  · intro hfew identity hidn howns
    obtain ⟨card, hcard, hin⟩ := howns
    -- a full pool has all identities, too: there are no more than `TOP_K`
    have hids : ∀ id ∈ state.scorecardsByResumeId.map state.poolIdentityId,
        id ∈ pool.map state.poolIdentityId := by
      rcases hall with hfull | hall
      · have hsub : pool.map state.poolIdentityId ⊆
            (state.scorecardsByResumeId.map state.poolIdentityId).dedup := by
          intro id hid
          obtain ⟨a, ha, rfl⟩ := List.mem_map.mp hid
          exact List.mem_dedup.mpr (List.mem_map_of_mem (hmem a ha))
        have hperm := (List.subperm_of_subset hnd hsub).perm_of_length_le
          (by simpa using (hroom.room hfew).trans hfull)
        intro id hid
        exact hperm.mem_iff.mpr (List.mem_dedup.mpr hid)
      · exact hall
    have hpool := hids _ (List.mem_map_of_mem hcard)
    rw [hidentity hidn hin] at hpool
    obtain ⟨a, ha, haid⟩ := List.mem_map.mp hpool
    refine ⟨a, ha, ?_⟩
    cases hof : state.identityOf a.resumeId with
    | none =>
      have haid : a.resumeId = identity.identityId := by
        simpa [RunState.poolIdentityId, hof] using haid
      exact absurd haid.symm (hroom.noIdentityId a (hmem a ha) hof identity hidn)
    | some id =>
      obtain ⟨other, hother, rfl, hin'⟩ := htables.recorded _ _ hof
      have haid : other.identityId = identity.identityId := by
        simpa [RunState.poolIdentityId, hof] using haid
      exact List.inj_on_of_nodup_map state.nodup_identityIds hother hidn haid ▸ hin'

theorem filterMap_scorecard (h : ∀ card ∈ cards, card ∈ state.scorecardsByResumeId) :
    (cards.map (·.resumeId)).filterMap state.scorecard = cards := by
  induction cards with
  | nil => rfl
  | cons card cards ih =>
    obtain ⟨hcard, hcards⟩ := List.forall_mem_cons.mp h
    have hself : state.scorecard card.resumeId = some card :=
      scorecard_eq_some_iff.mpr ⟨hcard, rfl⟩
    simp [hself, ih hcards]

theorem mem_topCandidates (h : scored ∈ state.topCandidates) :
    scored ∈ state.scorecardsByResumeId ∧ scored.resumeId ∈ state.topPoolIds := by
  obtain ⟨resumeId, hid, hcard⟩ := List.mem_filterMap.mp h
  obtain ⟨hmem, rfl⟩ := scorecard_eq_some_iff.mp hcard
  exact ⟨hmem, hid⟩

theorem nodup_topCandidates (h : state.topPoolIds.Nodup) :
    (state.topCandidates.map (·.resumeId)).Nodup := by
  have hsub : (state.topCandidates.map (·.resumeId)).Sublist state.topPoolIds := by
    unfold RunState.topCandidates
    generalize state.topPoolIds = ids
    induction ids with
    | nil => simp
    | cons id ids ih =>
      rw [List.filterMap_cons]
      cases hcard : state.scorecard id with
      | none => exact ih.cons id
      | some card =>
        obtain ⟨-, rfl⟩ := scorecard_eq_some_iff.mp hcard
        exact ih.cons_cons card.resumeId
  exact hsub.nodup h

/-- **One call.** From tables that agree the pool is fine, and it is what gets stored. -/
theorem poolOk_applyIdentityTopPool (htables : TablesAgree state)
    (hcanonical : CanonicalAgree state) (hstored : state.topPoolIds.Nodup)
    (hroom : StrangersLeaveRoom state) :
    PoolOk state state.applyIdentityTopPool.2 ∧
      state.applyIdentityTopPool.1.topPoolIds =
        state.applyIdentityTopPool.2.map (·.resumeId) := by
  unfold RunState.applyIdentityTopPool
  split
  · rename_i hempty
    have htake : ∀ card ∈ state.topCandidates.take topK, card ∈ state.scorecardsByResumeId :=
      fun card hcard => (mem_topCandidates (List.mem_of_mem_take hcard)).1
    have hagain : ({ state with topPoolIds := (state.topCandidates.take topK).map (·.resumeId) } :
        RunState).topCandidates.take topK = state.topCandidates.take topK := by
      show (((state.topCandidates.take topK).map (·.resumeId)).filterMap state.scorecard).take
        topK = _
      rw [filterMap_scorecard htake, List.take_take, min_self]
    -- nothing is recorded, so no identity has a resume
    have hnone : ∀ identity ∈ state.candidateIdentities, ∀ resumeId,
        resumeId ∉ identity.resumeIds := by
      intro identity hidn resumeId hin
      have hof := htables.mapped identity hidn resumeId hin
      simp [RunState.identityOf, hempty, Table.lookup] at hof
    refine ⟨⟨?_, ?_, ?_⟩, ?_⟩
    · show (List.map _ (List.take topK _)).Nodup
      rw [hagain, List.map_take]
      exact (nodup_topCandidates hstored).sublist (List.take_sublist _ _)
    · intro identity hidn a ha b hb hain
      exact absurd hain (hnone identity hidn _)
    · intro hfew identity hidn howns
      obtain ⟨card, -, hin⟩ := howns
      exact absurd hin (hnone identity hidn _)
    · exact (congrArg (List.map (·.resumeId)) hagain).symm
  · have hsorted : ∀ card ∈ Py.sortedBy scoredCandidateSortKey state.scorecardsByResumeId,
        card ∈ state.scorecardsByResumeId := fun card hcard => Py.mem_sortedBy.mp hcard
    obtain ⟨hnd, hmem, hall⟩ := selectPool_spec htables hcanonical [] [] hsorted
      (by simp) (by simp) (by simp)
    refine ⟨poolOk_of_nodup htables hroom hnd hmem (hall.imp_right ?_), rfl⟩
    intro hall id hid
    refine hall id (.inl ?_)
    exact (Py.perm_sortedBy.map _).mem_iff.mpr hid

variable {sha256 : String → String} {tables : Py.UnicodeTables}
variable {results : List (SourceOrder × RuntimeSourceLaneResult)}

theorem topPoolIds_applyAll : (state.applyAll sha256 tables results).topPoolIds =
    state.topPoolIds := by
  have hcandidates : ∀ (state : RunState) (updates : List (String × ResumeCandidate)),
      (updates.foldl RunState.storeCandidate state).topPoolIds = state.topPoolIds := by
    intro state updates
    induction updates generalizing state with
    | nil => rfl
    | cons update updates ih => exact ih _
  have hevidence : ∀ (state : RunState) (order : SourceOrder)
      (updates : List RuntimeSourceEvidence),
      (state.appendSourceEvidenceOnce order updates).topPoolIds = state.topPoolIds := by
    intro state order updates
    induction updates generalizing state with
    | nil => rfl
    | cons evidence updates ih =>
      refine (ih _).trans ?_
      unfold RunState.appendEvidence
      simp only
      split <;> rfl
  induction results using List.reverseRecOn with
  | nil => rfl
  | append_singleton results step ih =>
    rw [applyAll_concat, ← ih]
    unfold RunState.applySourceLaneResult
    split
    · rfl
    · exact (hevidence _ _ _).trans (hcandidates _ _)

end Pool

/-- **Every run and all scorecards.** From tables that agree and a stored pool without
    repetitions: when no rebuild of a run merges away an identity with another resume, and
    the scored resumes without an identity leave room, the pool is fine in every state. -/
theorem poolOk_of_run (sha256 : String → String) (tables : Py.UnicodeTables) (state : RunState)
    (results : List (SourceOrder × RuntimeSourceLaneResult)) (htables : TablesAgree state)
    (hcanonical : CanonicalAgree state) (hstored : state.topPoolIds.Nodup)
    (hsteps : ∀ before step after, results = before ++ step :: after →
      StepKeepsRecorded sha256 tables (state.applyAll sha256 tables before) step)
    (before after : List (SourceOrder × RuntimeSourceLaneResult))
    (hresults : results = before ++ after) (cards : List ScoredCandidate)
    (hcards : (cards.map (·.resumeId)).Nodup)
    (hroom : StrangersLeaveRoom
      ((state.applyAll sha256 tables before).withScorecards cards hcards)) :
    let reached := (state.applyAll sha256 tables before).withScorecards cards hcards
    PoolOk reached reached.applyIdentityTopPool.2 ∧
      reached.applyIdentityTopPool.1.topPoolIds =
        reached.applyIdentityTopPool.2.map (·.resumeId) := by
  intro reached
  have hagree := tablesAgree_of_run sha256 tables state results htables hsteps before after hresults
  have hcanon := hcanonical.applyAll sha256 tables before
  apply poolOk_applyIdentityTopPool
  · exact ⟨hagree.recorded, hagree.mapped, hagree.evidence⟩
  · exact hcanon
  · show (state.applyAll sha256 tables before).topPoolIds.Nodup
    rw [topPoolIds_applyAll]
    exact hstored
  · exact hroom

def sampleCards : List ScoredCandidate :=
  [{ resumeId := "r1", fitBucket := .fit, overallScore := 90, mustHaveMatchScore := 80,
     riskScore := 10 },
    { resumeId := "r2", fitBucket := .fit, overallScore := 80, mustHaveMatchScore := 80,
      riskScore := 10 }]

/-- The run state after one lane result, with both resumes scored. -/
def scoredAfter (result : RuntimeSourceLaneResult) : RunState :=
  (({} : RunState).applyAll sampleSha256 .ascii [(sampleOrder, result)]).withScorecards sampleCards
    (by decide)

theorem poolOk_of_run_contactBeforeProvider :
    PoolOk (scoredAfter contactBeforeProvider)
      (scoredAfter contactBeforeProvider).applyIdentityTopPool.2 :=
  (poolOk_of_run sampleSha256 .ascii {} [(sampleOrder, contactBeforeProvider)] tablesAgree_empty
    (fun _ _ h => by simp at h) List.nodup_nil
    (fun before step after h => contactBeforeProvider_keepsRecorded before after step h)
    [(sampleOrder, contactBeforeProvider)] [] rfl sampleCards (by decide)
    ⟨by decide, by decide⟩).1

/-- The resume recorded under the identity that is gone takes a place of its own, next to
    the canonical resume of the identity it belongs to. -/
theorem contactAfterProvider_twoPlaces :
    ¬PoolOk (scoredAfter contactAfterProvider)
      (scoredAfter contactAfterProvider).applyIdentityTopPool.2 := by
  intro h
  have htwo : ∃ identity ∈ (scoredAfter contactAfterProvider).candidateIdentities,
      ∃ a ∈ (scoredAfter contactAfterProvider).applyIdentityTopPool.2,
      ∃ b ∈ (scoredAfter contactAfterProvider).applyIdentityTopPool.2,
        a.resumeId ∈ identity.resumeIds ∧ b.resumeId ∈ identity.resumeIds ∧
          a.resumeId ≠ b.resumeId := by
    decide
  obtain ⟨identity, hidn, a, ha, b, hb, hain, hbin, hne⟩ := htwo
  exact hne (h.onePerIdentity identity hidn a ha b hb hain hbin)

end SeekTalent

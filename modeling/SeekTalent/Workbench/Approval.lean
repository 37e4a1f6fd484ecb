import SeekTalent.Workbench.JobInvariant

/-!
# Criteria that a job runs on

Whether a triage is approved is checked when a job is queued; its criteria are read when the job
is claimed. What a claim hands out is therefore approved as long as nobody edits the triage of a
session that has a job in the queue, or approves it again before the job is claimed; and only then
(`run_claimsApproved_iff`).
-/

namespace SeekTalent

open Stateful (Since since_snoc not_since_nil not_since_and_since)

/-! ## 1. Who owns a triage -/

namespace WorkbenchStore

variable {store store' : WorkbenchStore} {user : WorkbenchUser} {sessionId : String}

def TriageOwned (store : WorkbenchStore) : Prop :=
  ∀ id session, store.sessions.lookup id = some session →
    ∃ triage, store.triages.lookup id = some triage ∧
      triage.workspaceId = session.workspaceId ∧ triage.userId = session.userId

theorem TriageOwned.of_eq (h : store.TriageOwned)
    (hsame : store'.sessions = store.sessions ∧ store'.triages = store.triages) :
    store'.TriageOwned := by
  unfold TriageOwned
  rw [hsame.1, hsame.2]
  exact h

theorem TriageOwned.triage (h : store.TriageOwned)
    (hexists : store.sessionExistsForUser user sessionId = true) :
    ∃ triage, store.triages.lookup sessionId = some triage ∧
      isTriageOf user sessionId triage = true := by
  unfold sessionExistsForUser at hexists
  obtain ⟨session, hsession, howner⟩ := (Option.any_eq_true ..).mp hexists
  obtain ⟨triage, htriage, hworkspace, huser⟩ := h sessionId session hsession
  refine ⟨triage, htriage, ?_⟩
  have hid := Keyed.key_of_lookup htriage
  simp only [decide_eq_true_eq] at howner
  simp [isTriageOf, hid, hworkspace, huser, howner]

theorem TriageOwned.update {p : RequirementTriageRow → Bool}
    {f : RequirementTriageRow → RequirementTriageRow} (h : store.TriageOwned)
    (hf : ∀ row, (f row).sessionId = row.sessionId)
    (howner : ∀ row, (f row).workspaceId = row.workspaceId ∧ (f row).userId = row.userId) :
    TriageOwned { store with triages := store.triages.update p f hf } := by
  intro id session hsession
  obtain ⟨triage, htriage, hworkspace, huser⟩ := h id session hsession
  refine ⟨if p triage then f triage else triage, ?_, ?_⟩
  · show (store.triages.update p f hf).lookup id = _
    rw [Keyed.lookup_update, htriage, Option.map_some]
  · split
    · exact ⟨(howner triage).1.trans hworkspace, (howner triage).2.trans huser⟩
    · exact ⟨hworkspace, huser⟩

theorem createWorkbenchSession_owned {session answer : SessionRow}
    {sources : List (RuntimeSourceKind × String)} (h : store.TriageOwned)
    (hok : createWorkbenchSession session sources store = .ok (store', answer)) :
    store'.TriageOwned := by
  obtain ⟨_, sessions, _, triages, hsessions, -, htriages, rfl⟩ := createWorkbenchSession_ok hok
  obtain ⟨-, hlookup⟩ := Keyed.lookup_insert hsessions
  obtain ⟨htriageNew, hlookupTriage⟩ := Keyed.lookup_insert htriages
  intro id row hrow
  replace hrow : sessions.lookup id = some row := hrow
  show ∃ triage, triages.lookup id = some triage ∧ _
  rw [hlookup] at hrow
  rw [hlookupTriage]
  split at hrow
  · rename_i hid
    cases hrow
    rw [if_pos hid]
    exact ⟨_, rfl, rfl, rfl⟩
  · rename_i hid
    rw [if_neg hid]
    exact h id row hrow

theorem updateRequirementTriage_of_exists (criteria : TriageCriteria) (h : store.TriageOwned)
    (hexists : store.sessionExistsForUser user sessionId = true) :
    ∃ answer, updateRequirementTriage user sessionId criteria store = .ok ({ store with
      triages := store.triages.update (isTriageOf user sessionId) (redraft criteria)
        (redraft_sessionId criteria) }, answer) := by
  obtain ⟨triage, htriage, hmatch⟩ := h.triage hexists
  unfold updateRequirementTriage
  rw [if_pos hexists]
  dsimp only
  rw [Keyed.lookup_update, htriage]
  exact ⟨_, rfl⟩

theorem lookup_updateTriage {f : RequirementTriageRow → RequirementTriageRow} {id : String}
    {triage : RequirementTriageRow} (hf : ∀ row, (f row).sessionId = row.sessionId)
    (h : store.TriageOwned) (hexists : store.sessionExistsForUser user sessionId = true)
    (htriage : store.triages.lookup id = some triage) :
    (store.triages.update (isTriageOf user sessionId) f hf).lookup id =
      some (if id = sessionId then f triage else triage) := by
  rw [Keyed.lookup_update, htriage, Option.map_some]
  by_cases hid : id = sessionId
  · subst hid
    obtain ⟨owned, howned, hmatch⟩ := h.triage hexists
    obtain rfl := Option.some.inj (htriage.symm.trans howned)
    rw [if_pos hmatch, if_pos rfl]
  · have hkey := Keyed.key_of_lookup htriage
    have hmatch : isTriageOf user sessionId triage = false := by simp [isTriageOf, hkey, hid]
    rw [hmatch, if_neg hid, if_neg Bool.false_ne_true]

end WorkbenchStore

/-! ## 2. Edits and approvals -/

namespace Workbench

open WorkbenchStore

variable {lib : WorkbenchLibrary} {bench : Workbench} {calls : List WorkbenchCall}
variable {call : WorkbenchCall} {sessionId : String}

def Edits (sessionId : String) (bench : Workbench) : WorkbenchCall → Prop
  | .updateRequirementTriage user id _ =>
    id = sessionId ∧ bench.store.sessionExistsForUser user id = true
  | _ => False

/-- The call approves the triage of the session, with these criteria. -/
def Approves (sessionId : String) (criteria : TriageCriteria) (bench : Workbench) :
    WorkbenchCall → Prop
  | .approveRequirementTriage user id _ =>
    id = sessionId ∧ bench.store.sessionExistsForUser user id = true ∧
      ∃ triage, bench.store.triages.lookup id = some triage ∧
        triageHasVisibleCriteria triage = true ∧ triage.criteria = criteria
  | _ => False

theorem not_approves_of_edits {criteria : TriageCriteria} (h : Edits sessionId bench call) :
    ¬Approves sessionId criteria bench call := by
  cases call with
  | updateRequirementTriage => exact id
  | _ => exact absurd h id

/-- What a call may do to a triage. -/
inductive TriageMove (bench : Workbench) (sessionId : String) (call : WorkbenchCall) :
    RequirementTriageRow → RequirementTriageRow → Prop
  | kept {triage : RequirementTriageRow} (hedits : ¬Edits sessionId bench call)
      (happroves : ∀ criteria, ¬Approves sessionId criteria bench call) :
      TriageMove bench sessionId call triage triage
  | edited {triage triage' : RequirementTriageRow} (hedits : Edits sessionId bench call)
      (hdraft : triage'.status = .draft) : TriageMove bench sessionId call triage triage'
  | approved {triage triage' : RequirementTriageRow}
      (happroves : Approves sessionId triage'.criteria bench call)
      (happroved : triage'.status = .approved) : TriageMove bench sessionId call triage triage'

theorem TriageMove.of_not_writes {triage : RequirementTriageRow} (h : ¬call.WritesTriage) :
    TriageMove bench sessionId call triage triage := by
  cases call with
  | updateRequirementTriage => exact absurd trivial h
  | approveRequirementTriage => exact absurd trivial h
  | _ => exact .kept id fun _ => id

/-- **What a call does to the triage of a session**: it stays, it becomes a draft, or it is
    approved as it is. -/
theorem step_triage (lib : WorkbenchLibrary) (call : WorkbenchCall) (howned : bench.store.TriageOwned) {triage : RequirementTriageRow}
    (htriage : bench.store.triages.lookup sessionId = some triage) :
    ∃ triage', (step lib bench call).store.triages.lookup sessionId = some triage' ∧
      TriageMove bench sessionId call triage triage' := by
  by_cases hwrites : call.WritesTriage
  · cases call with
    | createWorkbenchSession session sources =>
      refine ⟨triage, ?_, .kept id fun _ => id⟩
      rcases step_cases lib bench (.createWorkbenchSession session sources) with
        ⟨store', context, hbody, hstep⟩ | hstep
      · obtain ⟨-, answer, hok⟩ := silent_ok hbody
        obtain ⟨_, _, _, triages, -, -, htriages, rfl⟩ := createWorkbenchSession_ok hok
        obtain ⟨hnew, hlookup⟩ := Keyed.lookup_insert htriages
        rw [hstep]
        show triages.lookup sessionId = _
        rw [hlookup, if_neg, htriage]
        -- the key of the new row was free
        intro hid
        rw [hid, htriage] at hnew
        cases hnew
      · rw [hstep, htriage]
    | updateRequirementTriage user id criteria =>
      cases hexists : bench.store.sessionExistsForUser user id with
      | false =>
        have hstep : step lib bench (.updateRequirementTriage user id criteria) = bench := by
          simp [step, WorkbenchCall.body, silent, updateRequirementTriage, hexists, Except.map]
        rw [hstep]
        refine ⟨triage, htriage, .kept ?_ fun _ h => h⟩
        simp [Edits, hexists]
      | true =>
        obtain ⟨answer, hok⟩ := updateRequirementTriage_of_exists criteria howned hexists
        have hstep : (step lib bench (.updateRequirementTriage user id criteria)).store.triages =
            bench.store.triages.update (isTriageOf user id) (redraft criteria)
              (redraft_sessionId criteria) := by
          simp [step, WorkbenchCall.body, silent, hok, Except.map]
        rw [hstep, lookup_updateTriage _ howned hexists htriage]
        refine ⟨_, rfl, ?_⟩
        split
        · rename_i hid
          exact .edited ⟨hid.symm, hexists⟩ rfl
        · rename_i hid
          exact .kept (fun h => hid h.1.symm) fun _ h => h
    | approveRequirementTriage user id now =>
      cases hexists : bench.store.sessionExistsForUser user id with
      | false =>
        have hstep : step lib bench (.approveRequirementTriage user id now) = bench := by
          simp [step, WorkbenchCall.body, silent, approveRequirementTriage, hexists, Except.map]
        rw [hstep]
        refine ⟨triage, htriage, .kept (fun h => h) ?_⟩
        simp [Approves, hexists]
      | true =>
        obtain ⟨owned, hlookup, -⟩ := howned.triage hexists
        cases hvisible : triageHasVisibleCriteria owned with
        | false =>
          have hstep : step lib bench (.approveRequirementTriage user id now) = bench := by
            simp [step, WorkbenchCall.body, silent, approveRequirementTriage, hexists, hlookup,
              hvisible, Except.map]
          rw [hstep]
          refine ⟨triage, htriage, .kept (fun h => h) ?_⟩
          simp [Approves, hlookup, hvisible]
        | true =>
          have hstep : (step lib bench (.approveRequirementTriage user id now)).store.triages =
              bench.store.triages.update (isTriageOf user id) (markApproved now)
                (markApproved_sessionId now) := by
            simp [step, WorkbenchCall.body, silent, approveRequirementTriage, hexists, hlookup,
              hvisible, Except.map]
            rfl
          rw [hstep, lookup_updateTriage _ howned hexists htriage]
          refine ⟨_, rfl, ?_⟩
          split
          · rename_i hid
            subst hid
            exact .approved ⟨rfl, hexists, triage, htriage,
              Option.some.inj (htriage.symm.trans hlookup) ▸ hvisible, rfl⟩ rfl
          · rename_i hid
            exact .kept (fun h => h) fun _ h => hid h.1.symm
    | _ => exact absurd hwrites id
  · refine ⟨triage, ?_, .of_not_writes hwrites⟩
    rcases step_cases lib bench call with ⟨store', context, hbody, hstep⟩ | hstep
    · rw [hstep]
      show store'.triages.lookup sessionId = _
      rw [(WorkbenchCall.body_triages hwrites hbody).2, htriage]
    · rw [hstep, htriage]

theorem step_triage_new {triage : RequirementTriageRow}
    (hnone : bench.store.triages.lookup sessionId = none)
    (htriage : (step lib bench call).store.triages.lookup sessionId = some triage) :
    triage.status = .draft := by
  rcases step_cases lib bench call with ⟨store', context, hbody, hstep⟩ | hstep
  · rw [hstep] at htriage
    replace htriage : store'.triages.lookup sessionId = some triage := htriage
    -- an update makes no rows
    have hupdate : ∀ (p : RequirementTriageRow → Bool) (f : RequirementTriageRow → RequirementTriageRow)
        (hf : ∀ row, (f row).sessionId = row.sessionId),
        (bench.store.triages.update p f hf).lookup sessionId = none := by
      intro p f hf
      rw [Keyed.lookup_update, hnone]
      rfl
    by_cases hwrites : call.WritesTriage
    · cases call with
      | createWorkbenchSession session sources =>
        obtain ⟨-, answer, hok⟩ := silent_ok hbody
        obtain ⟨_, _, _, triages, -, -, htriages, rfl⟩ := createWorkbenchSession_ok hok
        replace htriage : triages.lookup sessionId = some triage := htriage
        rw [(Keyed.lookup_insert htriages).2] at htriage
        split at htriage
        · cases htriage
          rfl
        · rw [hnone] at htriage
          cases htriage
      | updateRequirementTriage user id criteria =>
        obtain ⟨-, answer, hok⟩ := silent_ok hbody
        rcases updateRequirementTriage_ok hok with ⟨-, rfl⟩ | ⟨-, rfl⟩
        · rw [hnone] at htriage
          cases htriage
        · rw [hupdate] at htriage
          cases htriage
      | approveRequirementTriage user id now =>
        obtain ⟨-, answer, hok⟩ := silent_ok hbody
        rcases approveRequirementTriage_ok hok with ⟨rfl, -⟩ | ⟨-, rfl, -⟩
        · rw [hnone] at htriage
          cases htriage
        · rw [hupdate] at htriage
          cases htriage
      | _ => exact absurd hwrites id
    · rw [(WorkbenchCall.body_triages hwrites hbody).2, hnone] at htriage
      cases htriage
  · rw [hstep, hnone] at htriage
    cases htriage

theorem step_owned (h : bench.store.TriageOwned) : (step lib bench call).store.TriageOwned := by
  rcases step_cases lib bench call with ⟨store', context, hbody, hstep⟩ | hstep
  · rw [hstep]
    by_cases hwrites : call.WritesTriage
    · cases call with
      | createWorkbenchSession session sources =>
        obtain ⟨-, answer, hok⟩ := silent_ok hbody
        exact createWorkbenchSession_owned h hok
      | updateRequirementTriage user id criteria =>
        obtain ⟨-, answer, hok⟩ := silent_ok hbody
        rcases updateRequirementTriage_ok hok with ⟨-, rfl⟩ | ⟨-, rfl⟩
        · exact h
        · exact h.update _ fun _ => ⟨rfl, rfl⟩
      | approveRequirementTriage user id now =>
        obtain ⟨-, answer, hok⟩ := silent_ok hbody
        rcases approveRequirementTriage_ok hok with ⟨rfl, -⟩ | ⟨-, rfl, -⟩
        · exact h
        · exact h.update _ fun _ => ⟨rfl, rfl⟩
      | _ => exact absurd hwrites id
    · exact h.of_eq (WorkbenchCall.body_triages hwrites hbody)
  · rw [hstep]
    exact h

theorem step_session {session : SessionRow}
    (hsession : bench.store.sessions.lookup sessionId = some session) :
    (step lib bench call).store.sessions.lookup sessionId = some session := by
  rcases step_cases lib bench call with ⟨store', context, hbody, hstep⟩ | hstep
  · rw [hstep]
    show store'.sessions.lookup sessionId = some session
    by_cases hwrites : call.WritesTriage
    · cases call with
      | createWorkbenchSession session' sources =>
        obtain ⟨-, answer, hok⟩ := silent_ok hbody
        obtain ⟨_, sessions, _, _, hsessions, -, -, rfl⟩ := createWorkbenchSession_ok hok
        obtain ⟨hnew, hlookup⟩ := Keyed.lookup_insert hsessions
        show sessions.lookup sessionId = _
        rw [hlookup, if_neg, hsession]
        intro hid
        rw [hid, hsession] at hnew
        cases hnew
      | updateRequirementTriage user id criteria =>
        obtain ⟨-, answer, hok⟩ := silent_ok hbody
        rcases updateRequirementTriage_ok hok with ⟨-, rfl⟩ | ⟨-, rfl⟩ <;> exact hsession
      | approveRequirementTriage user id now =>
        obtain ⟨-, answer, hok⟩ := silent_ok hbody
        rcases approveRequirementTriage_ok hok with ⟨rfl, -⟩ | ⟨-, rfl, -⟩ <;> exact hsession
      | _ => exact absurd hwrites id
    · rw [(WorkbenchCall.body_triages hwrites hbody).1, hsession]
  · rw [hstep, hsession]

/-! ## 3. Jobs in the queue -/

/-- **Where the jobs in the queue come from**: they were there before, or the call has started
    them, with the triage approved. -/
theorem step_queued (h : bench.InStep) (hissued : call.Issued bench) {row : SourceRunJobRow}
    (hrow : (step lib bench call).store.sourceRunJobs.lookup row.jobId = some row)
    (hqueued : row.status = .queued) :
    (∃ row', bench.store.sourceRunJobs.lookup row.jobId = some row' ∧
      row'.sessionId = row.sessionId ∧ row'.status = .queued) ∨
    ((∃ session, (step lib bench call).store.sessions.lookup row.sessionId = some session) ∧
      ∃ triage, (step lib bench call).store.triages.lookup row.sessionId = some triage ∧
        triage.status = .approved) := by
  by_cases hstarts : call.Starts
  · cases call with
    | startSourceRunJob user id sourceRunId idempotencyKey jobId now =>
      rcases step_cases lib bench (.startSourceRunJob user id sourceRunId idempotencyKey jobId now)
        with ⟨store', context, hbody, hstep⟩ | hstep
      · rw [hstep] at hrow ⊢
        replace hrow : store'.sourceRunJobs.lookup row.jobId = some row := hrow
        obtain ⟨-, answer, hok⟩ := silent_ok hbody
        rcases startSourceRunJob_ok hok with rfl | ⟨run, triage, job, table, -, -, hsession,
          htriage, happroved, -, hjobId, hsessionId, -, -, hinsert, authState, rfl⟩
        · exact .inl ⟨row, hrow, rfl, hqueued⟩
        · rw [sourceRunJobs_updateSourceRun] at hrow
          rw [(Keyed.lookup_insert hinsert).2] at hrow
          split at hrow
          · cases hrow
            right
            rw [hsessionId]
            exact ⟨hsession, triage, htriage, happroved⟩
          · exact .inl ⟨row, hrow, rfl, hqueued⟩
      · rw [hstep] at hrow
        exact .inl ⟨row, hrow, rfl, hqueued⟩
    | _ => exact absurd hstarts id
  · left
    obtain ⟨row', hrow', hsame⟩ := queued_before_step h hissued hstarts hrow hqueued
    simp only [SourceRunJobRow.queueJob, QueueJob.mk.injEq, Prod.mk.injEq] at hsame
    exact ⟨row', hrow', hsame.2.1.2, hsame.2.2.trans hqueued⟩

/-! ## 4. Every run -/

def ApprovedSince (lib : WorkbenchLibrary) (sessionId : String) (criteria : TriageCriteria)
    (calls : List WorkbenchCall) : Prop :=
  Since (step lib) {} (Approves sessionId criteria) (fun bench call => ¬Edits sessionId bench call)
    calls

def EditedSince (lib : WorkbenchLibrary) (sessionId jobId : String) (calls : List WorkbenchCall) :
    Prop :=
  Since (step lib) {}
    (fun bench call => Edits sessionId bench call ∧
      ∃ row, bench.store.sourceRunJobs.lookup jobId = some row ∧ row.status = .queued)
    (fun bench call => ∀ criteria, ¬Approves sessionId criteria bench call) calls

/-- Every context that is handed out has a triage that is approved, with criteria that were
    approved and not edited since. -/
def ClaimsApproved (lib : WorkbenchLibrary) (calls : List WorkbenchCall) : Prop :=
  ∀ first ownerId leaseExpiresAt sourceKind rest store context,
    calls = first ++ .claimNextSourceRunJob ownerId leaseExpiresAt sourceKind :: rest →
    claimNextSourceRunJob ownerId leaseExpiresAt sourceKind (run lib {} first).store =
      .ok (store, some context) →
    context.triage.status = .approved ∧
      ApprovedSince lib context.job.sessionId context.triage.criteria first

/-- No job is claimed whose session was edited while the job was queued, and not approved
    since. -/
def EditsReapproved (lib : WorkbenchLibrary) (calls : List WorkbenchCall) : Prop :=
  ∀ first ownerId leaseExpiresAt sourceKind rest row,
    calls = first ++ .claimNextSourceRunJob ownerId leaseExpiresAt sourceKind :: rest →
    (run lib {} first).store.nextQueuedJob sourceKind = some row →
    ¬EditedSince lib row.sessionId row.jobId first

structure TracksApproval (lib : WorkbenchLibrary) (calls : List WorkbenchCall) : Prop where
  owned : (run lib {} calls).store.TriageOwned
  approved : ∀ sessionId triage, (run lib {} calls).store.triages.lookup sessionId = some triage →
    triage.status = .approved → ApprovedSince lib sessionId triage.criteria calls
  queued : ∀ row, (run lib {} calls).store.sourceRunJobs.lookup row.jobId = some row →
    row.status = .queued →
    (∃ session, (run lib {} calls).store.sessions.lookup row.sessionId = some session) ∧
      ∃ triage, (run lib {} calls).store.triages.lookup row.sessionId = some triage ∧
        (triage.status = .approved ∨ EditedSince lib row.sessionId row.jobId calls)

theorem tracksApproval_nil : TracksApproval lib [] where
  owned := by
    intro id session hsession
    cases hsession
  approved := by
    intro sessionId triage htriage
    cases htriage
  queued := by
    intro row hrow
    cases hrow

theorem queued_of_move {triage triage' : RequirementTriageRow} {jobId : String}
    (hmove : TriageMove (run lib {} calls) sessionId call triage triage')
    (hjob : ∃ row, (run lib {} calls).store.sourceRunJobs.lookup jobId = some row ∧
      row.status = .queued)
    (h : triage.status = .approved ∨ EditedSince lib sessionId jobId calls) :
    triage'.status = .approved ∨ EditedSince lib sessionId jobId (calls ++ [call]) := by
  cases hmove with
  | kept hedits happroves =>
    rcases h with happroved | hedited
    · exact .inl happroved
    · exact .inr (since_snoc.mpr (.inr ⟨hedited, happroves⟩))
  | edited hedits hdraft => exact .inr (since_snoc.mpr (.inl ⟨hedits, hjob⟩))
  | approved happroves happroved => exact .inl happroved

theorem TracksApproval.snoc (h : TracksApproval lib calls) (hinStep : (run lib {} calls).InStep)
    (hissued : call.Issued (run lib {} calls)) : TracksApproval lib (calls ++ [call]) := by
  have hrun : run lib {} (calls ++ [call]) = step lib (run lib {} calls) call := by
    rw [run_append]
    rfl
  refine ⟨?_, ?_, ?_⟩
  · rw [hrun]
    exact step_owned h.owned
  · intro sessionId triage' htriage' happroved
    rw [hrun] at htriage'
    cases htriage : (run lib {} calls).store.triages.lookup sessionId with
    | none =>
      have hdraft := step_triage_new htriage htriage'
      rw [hdraft] at happroved
      cases happroved
    | some triage =>
      obtain ⟨moved, hmoved, hmove⟩ := step_triage lib call h.owned htriage
      obtain rfl := Option.some.inj (htriage'.symm.trans hmoved)
      apply since_snoc.mpr
      cases hmove with
      | kept hedits happroves => exact .inr ⟨h.approved _ _ htriage happroved, hedits⟩
      | edited hedits hdraft =>
        rw [hdraft] at happroved
        cases happroved
      | approved happroves _ => exact .inl happroves
  · intro row hrow hqueued
    rw [hrun] at hrow ⊢
    rcases step_queued hinStep hissued hrow hqueued with ⟨row', hrow', hsession', hqueued'⟩ |
      ⟨hsession, triage, htriage, happroved⟩
    · have hid := Keyed.key_of_lookup hrow'
      obtain ⟨⟨session, hsession⟩, triage, htriage, hbefore⟩ := h.queued row' (hid ▸ hrow') hqueued'
      rw [hsession'] at hsession htriage hbefore
      rw [hid] at hbefore
      obtain ⟨triage', htriage', hmove⟩ := step_triage lib call h.owned htriage
      exact ⟨⟨session, step_session hsession⟩, triage', htriage',
        queued_of_move hmove ⟨row', hrow', hqueued'⟩ hbefore⟩
    · exact ⟨hsession, triage, htriage, .inl happroved⟩

/-- **Every run** tracks what is approved. -/
theorem run_tracksApproval (hruns : Runs lib {} calls) : TracksApproval lib calls := by
  induction calls using List.reverseRecOn with
  | nil => exact tracksApproval_nil
  | append_singleton calls call ih =>
    obtain ⟨hfirst, hlast⟩ := hruns.append
    have hissued : call.Issued (run lib {} calls) := hlast [] call [] rfl
    exact (ih hfirst).snoc (run_steps inStep_empty hfirst).2 hissued

theorem TracksApproval.claim (h : TracksApproval lib calls) {ownerId : String}
    {leaseExpiresAt : Instant} {sourceKind : Option RuntimeSourceKind} {row : SourceRunJobRow}
    (hnext : (run lib {} calls).store.nextQueuedJob sourceKind = some row) :
    ∃ store session triage, claimNextSourceRunJob ownerId leaseExpiresAt sourceKind
      (run lib {} calls).store =
        .ok (store, some ⟨markClaimed ownerId leaseExpiresAt row, session, triage⟩) := by
  obtain ⟨hrow, hqueued, -⟩ := nextQueuedJob_eq_some hnext
  obtain ⟨⟨session, hsession⟩, triage, htriage, -⟩ := h.queued row hrow hqueued
  unfold claimNextSourceRunJob
  rw [hnext]
  simp only [sessions_updateSourceRun, sessions_updateJob, triages_updateSourceRun,
    triages_updateJob, hsession, htriage]
  exact ⟨_, session, triage, rfl⟩

/-- **Exactly when claims hand out approved criteria**: the claims of a run do, if and only if no
    job is claimed whose session's triage was edited while the job was in the queue and has not
    been approved again. -/
theorem run_claimsApproved_iff (hruns : Runs lib {} calls) :
    ClaimsApproved lib calls ↔ EditsReapproved lib calls := by
  constructor
  · intro h first ownerId leaseExpiresAt sourceKind rest row hcalls hnext hedited
    have htracks := run_tracksApproval (hcalls ▸ hruns).append.1
    obtain ⟨store, session, triage, hclaim⟩ := htracks.claim hnext
    obtain ⟨-, happroved⟩ := h first ownerId leaseExpiresAt sourceKind rest store _ hcalls hclaim
    -- the last approval and the last edit exclude each other
    refine not_since_and_since ?_ ?_ ?_ happroved hedited
    · intro bench call happroves hedits
      exact not_approves_of_edits hedits.1 happroves
    · intro bench call happroves hnone
      exact hnone _ happroves
    · intro bench call hedits hkept
      exact hkept hedits.1
  · intro h first ownerId leaseExpiresAt sourceKind rest store context hcalls hclaim
    have htracks := run_tracksApproval (hcalls ▸ hruns).append.1
    rcases claimNextSourceRunJob_ok hclaim with ⟨-, -, hnone⟩ | ⟨row, session, triage, hnext, -,
      htriage, hcontext, -⟩
    · cases hnone
    · cases hcontext
      obtain ⟨hrow, hqueued, -⟩ := nextQueuedJob_eq_some hnext
      obtain ⟨-, owned, howned, hstate⟩ := htracks.queued row hrow hqueued
      obtain rfl := Option.some.inj (htriage.symm.trans howned)
      have happroved := hstate.resolve_right (h first ownerId leaseExpiresAt sourceKind rest row
        hcalls hnext)
      exact ⟨happroved, htracks.approved _ _ htriage happroved⟩

/-- The claims of a run whose session is not edited. -/
theorem run_claimsApproved_iff_sample :
    ClaimsApproved .ascii sampleRun ↔ EditsReapproved .ascii sampleRun :=
  run_claimsApproved_iff runs_sampleRun

def editedAfterStart : List WorkbenchCall :=
  sampleStart .cts ++ [.updateRequirementTriage sampleUser "s" { mustHaves := ["Go"] },
    .claimNextSourceRunJob "w" 9 (some .cts)]

/-- The job runs on criteria that nobody has approved. -/
theorem not_claimsApproved_editedAfterStart :
    ¬∀ calls, Runs .ascii {} calls → ClaimsApproved .ascii calls := by
  intro h
  have hruns : Runs .ascii {} editedAfterStart :=
    runs_cons trivial (runs_cons trivial (runs_cons trivial (runs_cons trivial (runs_cons trivial
      (runs_cons trivial (runs_nil _))))))
  have hanswer : (claimNextSourceRunJob "w" 9 (some .cts)
      (run .ascii {} (sampleStart .cts ++
        [.updateRequirementTriage sampleUser "s" { mustHaves := ["Go"] }])).store).map (·.2) =
      .ok (some { sampleContext with
        triage :=
          { sampleContext.triage with
            status := .draft
            criteria := { mustHaves := ["Go"] }
            approvedAt := none } }) := by
    decide
  obtain ⟨⟨store, context⟩, hclaim, rfl⟩ := Stateful.map_eq_ok hanswer
  obtain ⟨hstatus, -⟩ := h editedAfterStart hruns _ "w" 9 (some .cts) [] store _ rfl hclaim
  cases hstatus

end Workbench

end SeekTalent

import Mathlib.Logic.Relation
import SeekTalent.Workbench.Store

/-!
# The queue of jobs

What the tables of source runs and of their jobs are for: every run has a status, every job
belongs to a run, and both move together. A queue moves by four kinds of steps, and whatever
keeps to them keeps the two tables in step (`Valid.step`) and lets a run that is over rest
(`Step.settled`).
-/

namespace SeekTalent

open Relation (ReflTransGen)

/-- A job of a queue: the run it is for, a label that it keeps, and its status. -/
structure QueueJob (ρ κ : Type) where
  run : ρ
  label : κ
  status : SourceRunJobStatus

/-- The runs `ρ` with their status, and the jobs `ι`. -/
@[ext]
structure JobQueue (ρ ι κ : Type) where
  run : ρ → Option SourceRunStatus
  job : ι → Option (QueueJob ρ κ)

namespace JobQueue

variable {ρ ι κ : Type} [DecidableEq ρ] [DecidableEq ι]

/-- The run has a job that is queued or running. -/
def HasActive (q : JobQueue ρ ι κ) (r : ρ) : Prop :=
  ∃ i j, q.job i = some j ∧ j.run = r ∧ j.status.Active

def Waiting (status : SourceRunStatus) : Prop := status = .queued ∨ status = .blocked

def set (q : JobQueue ρ ι κ) (i : ι) (j : QueueJob ρ κ) (status : SourceRunStatus) :
    JobQueue ρ ι κ where
  run := Function.update q.run j.run (some status)
  job := Function.update q.job i (some j)

/-- The kinds of steps. -/
inductive Move where
  | relabel
  | enqueue
  | claim
  | finish

/-- What a step of each kind may do. -/
inductive Step : Move → JobQueue ρ ι κ → JobQueue ρ ι κ → Prop
  /-- Runs without an active job, old or new, are queued or blocked. -/
  | relabel {q q' : JobQueue ρ ι κ} (hjob : q'.job = q.job) (hrun : ∀ r, q'.run r = q.run r ∨
      (∀ status, q.run r = some status → Waiting status) ∧ ¬q.HasActive r ∧
        ∃ status, q'.run r = some status ∧ Waiting status) :
      Step .relabel q q'
  /-- A run that is not over and has no active job gets one. -/
  | enqueue {q : JobQueue ρ ι κ} {i : ι} {j : QueueJob ρ κ} (status : SourceRunStatus)
      (hnew : q.job i = none) (hrun : q.run j.run = some status) (hopen : ¬status.Terminal)
      (hidle : ¬q.HasActive j.run) (hj : j.status = .queued) :
      Step .enqueue q (q.set i j .queued)
  | claim {q : JobQueue ρ ι κ} {i : ι} {j : QueueJob ρ κ} (hjob : q.job i = some j)
      (hj : j.status = .queued) :
      Step .claim q (q.set i { j with status := .running } .running)
  /-- A running job ends, and its run does not run any more. -/
  | finish {q : JobQueue ρ ι κ} {i : ι} {j : QueueJob ρ κ} (status : SourceRunJobStatus)
      (runStatus : SourceRunStatus) (hjob : q.job i = some j) (hj : j.status = .running) (hstatus : ¬status.Active)
      (hrun : runStatus ≠ .running ∧ runStatus ≠ .queued) :
      Step .finish q (q.set i { j with status } runStatus)

structure Valid (q : JobQueue ρ ι κ) : Prop where
  job_run : ∀ i j, q.job i = some j → q.run j.run ≠ none
  one_active : ∀ i i' j j', q.job i = some j → q.job i' = some j' → j.status.Active →
    j'.status.Active → j.run = j'.run → i = i'
  running_iff : ∀ r, q.run r = some .running ↔
    ∃ i j, q.job i = some j ∧ j.run = r ∧ j.status = .running
  queued : ∀ i j, q.job i = some j → j.status = .queued → q.run j.run = some .queued

variable {q q' : JobQueue ρ ι κ} {i : ι} {j : QueueJob ρ κ} {r : ρ}

theorem valid_empty : Valid (ρ := ρ) (ι := ι) (κ := κ) ⟨fun _ => none, fun _ => none⟩ where
  job_run := by simp
  one_active := by simp
  running_iff := by simp
  queued := by simp

@[simp] theorem set_run (status : SourceRunStatus) :
    (q.set i j status).run r = if r = j.run then some status else q.run r := by
  simp [set, Function.update_apply]

@[simp] theorem set_job (status : SourceRunStatus) (i' : ι) :
    (q.set i j status).job i' = if i' = i then some j else q.job i' := by
  simp [set, Function.update_apply]

theorem not_active_of_ended {status : SourceRunJobStatus} (h : ¬status.Active) :
    status ≠ .queued ∧ status ≠ .running := not_or.mp h

theorem Valid.set (h : q.Valid) {status : SourceRunStatus}
    (halone : ∀ i' j', q.job i' = some j' → j'.status.Active → j'.run = j.run → i' = i)
    (hsame : ∀ j', q.job i = some j' → j'.run = j.run)
    (hrunning : status = .running ↔ j.status = .running)
    (hqueued : j.status = .queued → status = .queued) : (q.set i j status).Valid where
  job_run := by
    intro i' j' hj'
    rw [set_job] at hj'
    rw [set_run]
    split
    · simp
    · split at hj'
      · cases hj'
        contradiction
      · exact h.job_run i' j' hj'
  one_active := by
    intro i₁ i₂ j₁ j₂ h₁ h₂ ha₁ ha₂ hrun
    rw [set_job] at h₁ h₂
    split at h₁
    · cases h₁
      split at h₂
      · subst_vars
        rfl
      · rename_i hi₁ _
        rw [hi₁]
        exact (halone i₂ j₂ h₂ ha₂ hrun.symm).symm
    · split at h₂
      · cases h₂
        rename_i hi₂
        rw [hi₂]
        exact halone i₁ j₁ h₁ ha₁ hrun
      · exact h.one_active i₁ i₂ j₁ j₂ h₁ h₂ ha₁ ha₂ hrun
  running_iff := by
    intro r
    rw [set_run]
    by_cases hr : r = j.run
    · rw [if_pos hr, Option.some.injEq, hrunning]
      constructor
      · intro hj
        exact ⟨i, j, by simp, hr.symm, hj⟩
      · intro hj
        obtain ⟨i', j', hj', hrun, hstatus⟩ := hj
        rw [set_job] at hj'
        split at hj'
        · cases hj'
          exact hstatus
        · rename_i hi
          exact absurd (halone i' j' hj' (.inr hstatus) (hrun.trans hr)) hi
    · rw [if_neg hr, h.running_iff]
      constructor
      · intro hj
        obtain ⟨i', j', hj', hrun, hstatus⟩ := hj
        have hi : i' ≠ i := by
          intro hi
          subst hi
          exact hr (hrun.symm.trans (hsame j' hj'))
        exact ⟨i', j', by simpa [hi] using hj', hrun, hstatus⟩
      · intro hj
        obtain ⟨i', j', hj', hrun, hstatus⟩ := hj
        rw [set_job] at hj'
        split at hj'
        · cases hj'
          exact absurd hrun.symm hr
        · exact ⟨i', j', hj', hrun, hstatus⟩
  queued := by
    intro i' j' hj' hstatus
    rw [set_job] at hj'
    rw [set_run]
    split at hj'
    · cases hj'
      rw [if_pos rfl, hqueued hstatus]
    · rename_i hi
      split
      · rename_i hrun
        exact absurd (halone i' j' hj' (.inl hstatus) hrun) hi
      · exact h.queued i' j' hj' hstatus

/-- **One step** keeps the tables in step. -/
theorem Valid.step {m : Move} (h : q.Valid) (hstep : Step m q q') : q'.Valid := by
  cases hstep with
  | relabel hjob hrun =>
    -- a run whose status changes has no active job, and it neither ran before nor runs now
    have hactive : ∀ i j, q.job i = some j → j.status.Active → q'.run j.run = q.run j.run := by
      intro i j hj hstatus
      exact (hrun j.run).resolve_right fun hidle => hidle.2.1 ⟨i, j, hj, rfl, hstatus⟩
    refine ⟨?_, ?_, ?_, ?_⟩
    · intro i j hj
      rw [hjob] at hj
      rcases hrun j.run with hsame | ⟨-, -, status, hstatus, -⟩
      · rw [hsame]
        exact h.job_run i j hj
      · simp [hstatus]
    · rw [hjob]
      exact h.one_active
    · intro r
      rw [hjob, ← h.running_iff]
      rcases hrun r with hsame | ⟨hwaiting, -, status, hstatus, hwaits⟩
      · rw [hsame]
      · constructor
        · intro hr
          rw [hstatus] at hr
          cases hr
          rcases hwaits with hwaits | hwaits <;> cases hwaits
        · intro hr
          rcases hwaiting _ hr with hwaits | hwaits <;> cases hwaits
    · intro i j hj hstatus
      rw [hjob] at hj
      rw [hactive i j hj (.inl hstatus)]
      exact h.queued i j hj hstatus
  | enqueue status hnew hrun hopen hidle hj =>
    apply h.set
    · intro i' j' hj' hstatus hsame
      exact absurd ⟨i', j', hj', hsame, hstatus⟩ hidle
    · intro j' hj'
      rw [hnew] at hj'
      cases hj'
    · rw [hj]
      simp
    · intro _
      rfl
  | claim hjob hj =>
    apply h.set
    · intro i' j' hj' hstatus hsame
      exact h.one_active _ _ _ _ hj' hjob hstatus (.inl hj) hsame
    · intro j' hj'
      rw [hjob] at hj'
      cases hj'
      rfl
    · simp
    · intro hqueued
      cases hqueued
  | finish status runStatus hjob hj hstatus hrun =>
    apply h.set
    · intro i' j' hj' hstatus hsame
      exact h.one_active _ _ _ _ hj' hjob hstatus (.inr hj) hsame
    · intro j' hj'
      rw [hjob] at hj'
      cases hj'
      rfl
    · constructor
      · intro hr
        exact absurd hr hrun.1
      · intro hr
        exact absurd hr (not_active_of_ended hstatus).2
    · intro hqueued
      exact absurd hqueued (not_active_of_ended hstatus).1

theorem Step.keeps_job {m : Move} (hstep : Step m q q') (hj : q.job i = some j) :
    ∃ j', q'.job i = some j' ∧ j'.run = j.run ∧ j'.label = j.label := by
  cases hstep with
  | relabel hjob hrun => exact ⟨j, hjob ▸ hj, rfl, rfl⟩
  | @enqueue _ i' j' status hnew hrun hopen hidle hj' =>
    have hi : i ≠ i' := by
      intro hi
      rw [hi, hnew] at hj
      cases hj
    exact ⟨j, by simpa [hi] using hj, rfl, rfl⟩
  | @claim _ i' j' hjob hj' =>
    by_cases hi : i = i'
    · subst hi
      obtain rfl := Option.some.inj (hj.symm.trans hjob)
      exact ⟨{ j with status := .running }, by simp, rfl, rfl⟩
    · exact ⟨j, by simpa [hi] using hj, rfl, rfl⟩
  | @finish _ i' j' status runStatus hjob hj' hstatus hrun =>
    by_cases hi : i = i'
    · subst hi
      obtain rfl := Option.some.inj (hj.symm.trans hjob)
      exact ⟨{ j with status }, by simp, rfl, rfl⟩
    · exact ⟨j, by simpa [hi] using hj, rfl, rfl⟩

theorem Step.settled {m : Move} (h : q.Valid) (hstep : Step m q q') {status : SourceRunStatus}
    (hr : q.run r = some status) (hover : status.Terminal) :
    q'.run r = some status ∧ ∀ i j, q'.job i = some j → j.run = r → q.job i = some j := by
  have hidle : ¬q.HasActive r := by
    intro hactive
    obtain ⟨i, j, hj, hrun, hstatus⟩ := hactive
    rcases hstatus with hqueued | hrunning
    · have hqueued := h.queued i j hj hqueued
      rw [hrun, hr] at hqueued
      cases hqueued
      rcases hover with hover | hover <;> cases hover
    · have hrunning := (h.running_iff r).mpr ⟨i, j, hj, hrun, hrunning⟩
      rw [hr] at hrunning
      cases hrunning
      rcases hover with hover | hover <;> cases hover
  -- a step on a job of another run leaves this one alone
  have hother : ∀ {i₀ : ι} {j₀ : QueueJob ρ κ} {s₀ : SourceRunStatus}, j₀.run ≠ r →
      (q.set i₀ j₀ s₀).run r = some status ∧
        ∀ i j, (q.set i₀ j₀ s₀).job i = some j → j.run = r → q.job i = some j := by
    intro i₀ j₀ s₀ hne
    refine ⟨by simpa [hne.symm] using hr, ?_⟩
    intro i j hj hrun
    rw [set_job] at hj
    split at hj
    · cases hj
      exact absurd hrun hne
    · exact hj
  cases hstep with
  | relabel hjob hrun =>
    refine ⟨?_, fun i j hj _ => hjob ▸ hj⟩
    rcases hrun r with hsame | ⟨hwaiting, -, -⟩
    · rw [hsame]
      exact hr
    · rcases hwaiting _ hr with hwaits | hwaits <;> subst hwaits <;>
        rcases hover with hover | hover <;> cases hover
  | enqueue status' hnew hrun hopen hidle' hj =>
    apply hother
    intro hsame
    rw [hsame, hr] at hrun
    cases hrun
    exact hopen hover
  | claim hjob hj =>
    apply hother
    intro hsame
    exact hidle ⟨_, _, hjob, hsame, .inl hj⟩
  | finish status' runStatus hjob hj hstatus hrun =>
    apply hother
    intro hsame
    exact hidle ⟨_, _, hjob, hsame, .inr hj⟩

theorem Step.queued_before {m : Move} (hstep : Step m q q') (hm : m ≠ .enqueue)
    (hj : q'.job i = some j) (hqueued : j.status = .queued) : q.job i = some j := by
  cases hstep with
  | relabel hjob hrun => exact hjob ▸ hj
  | enqueue => exact absurd rfl hm
  | claim hjob hj' =>
    rw [set_job] at hj
    split at hj
    · cases hj
      cases hqueued
    · exact hj
  | finish status runStatus hjob hj' hstatus hrun =>
    rw [set_job] at hj
    split at hj
    · cases hj
      exact absurd hqueued (not_active_of_ended hstatus).1
    · exact hj

def Steps (kinds : Move → Prop) (q q' : JobQueue ρ ι κ) : Prop :=
  ReflTransGen (fun q q' => ∃ m, kinds m ∧ Step m q q') q q'

namespace Steps

variable {kinds : Move → Prop}

theorem refl : Steps kinds q q := ReflTransGen.refl

theorem of_eq (h : q' = q) : Steps kinds q q' := h ▸ refl

theorem single {m : Move} (hm : kinds m) (hstep : Step m q q') : Steps kinds q q' :=
  ReflTransGen.single ⟨m, hm, hstep⟩

theorem trans {q'' : JobQueue ρ ι κ} (h : Steps kinds q q') (h' : Steps kinds q' q'') :
    Steps kinds q q'' := ReflTransGen.trans h h'

theorem mono {kinds' : Move → Prop} (hkinds : ∀ m, kinds m → kinds' m)
    (hsteps : Steps kinds q q') : Steps kinds' q q' := by
  refine ReflTransGen.mono (fun q q' hstep => ?_) _ _ hsteps
  obtain ⟨m, hm, hstep⟩ := hstep
  exact ⟨m, hkinds m hm, hstep⟩

theorem valid (h : q.Valid) (hsteps : Steps kinds q q') : q'.Valid := by
  induction hsteps with
  | refl => exact h
  | tail _ hstep ih =>
    obtain ⟨m, -, hstep⟩ := hstep
    exact ih.step hstep

theorem keeps_job (hsteps : Steps kinds q q') (hj : q.job i = some j) :
    ∃ j', q'.job i = some j' ∧ j'.run = j.run ∧ j'.label = j.label := by
  induction hsteps with
  | refl => exact ⟨j, hj, rfl, rfl⟩
  | tail _ hstep ih =>
    obtain ⟨m, -, hstep⟩ := hstep
    obtain ⟨j₁, hj₁, hrun₁, hlabel₁⟩ := ih
    obtain ⟨j₂, hj₂, hrun₂, hlabel₂⟩ := hstep.keeps_job hj₁
    exact ⟨j₂, hj₂, hrun₂.trans hrun₁, hlabel₂.trans hlabel₁⟩

theorem settled (h : q.Valid) (hsteps : Steps kinds q q') {status : SourceRunStatus}
    (hr : q.run r = some status) (hover : status.Terminal) :
    q'.run r = some status ∧ ∀ i j, q'.job i = some j → j.run = r → q.job i = some j := by
  induction hsteps with
  | refl => exact ⟨hr, fun i j hj _ => hj⟩
  | tail hbefore hstep ih =>
    obtain ⟨m, -, hstep⟩ := hstep
    obtain ⟨hrun, hjobs⟩ := ih
    obtain ⟨hrun', hjobs'⟩ := hstep.settled (valid h hbefore) hrun hover
    exact ⟨hrun', fun i j hj hr => hjobs i j (hjobs' i j hj hr) hr⟩

theorem queued_before (hsteps : Steps kinds q q') (hkinds : ¬kinds .enqueue)
    (hj : q'.job i = some j) (hqueued : j.status = .queued) : q.job i = some j := by
  induction hsteps with
  | refl => exact hj
  | tail _ hstep ih =>
    obtain ⟨m, hm, hstep⟩ := hstep
    apply ih
    refine hstep.queued_before ?_ hj hqueued
    intro henqueue
    exact hkinds (henqueue ▸ hm)

end Steps

end JobQueue

end SeekTalent

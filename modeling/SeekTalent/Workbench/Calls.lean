import SeekTalent.Workbench.SourceRunJobs

/-!
# Runs of the workbench

Any transactions in any order, by any users: a method that reconciles expired leases before
it begins runs two. Only the contexts are not anything: a job is completed by a worker that
has claimed it, with the context that claiming it answered.
-/

namespace SeekTalent

/-- A transaction of the store, with its arguments. -/
inductive WorkbenchCall where
  | createWorkbenchSession (session : SessionRow) (sources : List (RuntimeSourceKind × String))
  | updateRequirementTriage (user : WorkbenchUser) (sessionId : String)
      (criteria : TriageCriteria)
  | approveRequirementTriage (user : WorkbenchUser) (sessionId : String) (now : Instant)
  | getOrCreateLiepinSourceConnection (user : WorkbenchUser) (connectionId : String)
  | startLiepinLoginHandoff (user : WorkbenchUser) (connectionId : String)
      (providerAccountHash complianceGateRef : Option String)
  | markLiepinConnectionConnected (user : WorkbenchUser) (connectionId : String)
      (providerAccountHash complianceGateRef : Option String)
  | markLiepinConnectionLoginRequired (user : WorkbenchUser) (connectionId : String)
      (about : Option (String × String))
  | markLiepinConnectionConnectedForSourceRun (user : WorkbenchUser)
      (connectionId sessionId sourceRunId providerAccountHash : String)
      (complianceGateRef : Option String)
  | markLiepinConnectionConnectedWithoutSourceRuns (user : WorkbenchUser) (connectionId : String)
      (providerAccountHash complianceGateRef : Option String)
  | blockSourceRunForStartProbe (user : WorkbenchUser) (sessionId sourceRunId : String)
  | startSourceRunJob (user : WorkbenchUser) (sessionId sourceRunId : String)
      (idempotencyKey : Option String) (jobId : String) (now : Instant)
  | claimNextSourceRunJob (ownerId : String) (leaseExpiresAt : Instant)
      (sourceKind : Option RuntimeSourceKind)
  | extendSourceRunJobLease (jobId ownerId : String) (leaseExpiresAt : Instant)
  | reconcileExpiredRunningJobs (now : Instant)
  | markSourceRunCompleted (jobId : String)
  | markSourceRunFailed (jobId : String)
  | completeCtsSourceRun (context : WorkbenchSourceRunJobContext) (artifacts : CtsArtifacts)
      (now : Instant)
  | completeLiepinCardSourceRun (context : WorkbenchSourceRunJobContext)
      (result : LiepinLaneResult) (now : Instant)
  | updateLiepinSourceRunPolicy (user : WorkbenchUser) (sessionId : String)
      (mode : DetailOpenMode)
  | createLiepinDetailOpenRequest (user : WorkbenchUser) (sessionId reviewItemId : String)
      (idempotencyKey : Option String) (requestId ledgerId : String) (now : Instant)
  | approveLiepinDetailOpenRequest (user : WorkbenchUser) (requestId ledgerId : String)
      (now : Instant)
  | rejectLiepinDetailOpenRequest (user : WorkbenchUser) (requestId : String)
  | reconcileExpiredDetailOpenLeases (now : Instant)

def silent {α : Type} (transaction : Transaction α) :
    Transaction (Option WorkbenchSourceRunJobContext) := fun store =>
  (transaction store).map fun answer => (answer.1, none)

def WorkbenchCall.body (lib : WorkbenchLibrary) :
    WorkbenchCall → Transaction (Option WorkbenchSourceRunJobContext)
  | .createWorkbenchSession session sources =>
    silent (WorkbenchStore.createWorkbenchSession session sources)
  | .updateRequirementTriage user sessionId criteria =>
    silent (WorkbenchStore.updateRequirementTriage user sessionId criteria)
  | .approveRequirementTriage user sessionId now =>
    silent (WorkbenchStore.approveRequirementTriage user sessionId now)
  | .getOrCreateLiepinSourceConnection user connectionId =>
    silent (WorkbenchStore.getOrCreateLiepinSourceConnection user connectionId)
  | .startLiepinLoginHandoff user connectionId providerAccountHash complianceGateRef =>
    silent (WorkbenchStore.startLiepinLoginHandoff user connectionId providerAccountHash
      complianceGateRef)
  | .markLiepinConnectionConnected user connectionId providerAccountHash complianceGateRef =>
    silent (WorkbenchStore.markLiepinConnectionConnected user connectionId providerAccountHash
      complianceGateRef)
  | .markLiepinConnectionLoginRequired user connectionId about =>
    silent (WorkbenchStore.markLiepinConnectionLoginRequired user connectionId about)
  | .markLiepinConnectionConnectedForSourceRun user connectionId sessionId sourceRunId
      providerAccountHash complianceGateRef =>
    silent (WorkbenchStore.markLiepinConnectionConnectedForSourceRun user connectionId sessionId
      sourceRunId providerAccountHash complianceGateRef)
  | .markLiepinConnectionConnectedWithoutSourceRuns user connectionId providerAccountHash
      complianceGateRef =>
    silent (WorkbenchStore.markLiepinConnectionConnectedWithoutSourceRuns user connectionId
      providerAccountHash complianceGateRef)
  | .blockSourceRunForStartProbe user sessionId sourceRunId =>
    silent (WorkbenchStore.blockSourceRunForStartProbe user sessionId sourceRunId)
  | .startSourceRunJob user sessionId sourceRunId idempotencyKey jobId now =>
    silent (WorkbenchStore.startSourceRunJob user sessionId sourceRunId idempotencyKey jobId now)
  | .claimNextSourceRunJob ownerId leaseExpiresAt sourceKind =>
    WorkbenchStore.claimNextSourceRunJob ownerId leaseExpiresAt sourceKind
  | .extendSourceRunJobLease jobId ownerId leaseExpiresAt =>
    silent (WorkbenchStore.extendSourceRunJobLease jobId ownerId leaseExpiresAt)
  | .reconcileExpiredRunningJobs now => silent (WorkbenchStore.reconcileExpiredRunningJobs now)
  | .markSourceRunCompleted jobId => silent (WorkbenchStore.markSourceRunCompleted jobId)
  | .markSourceRunFailed jobId => silent (WorkbenchStore.markSourceRunFailed jobId)
  | .completeCtsSourceRun context artifacts now =>
    silent (WorkbenchStore.completeCtsSourceRun lib context artifacts now)
  | .completeLiepinCardSourceRun context result now =>
    silent (WorkbenchStore.completeLiepinCardSourceRun lib context result now)
  | .updateLiepinSourceRunPolicy user sessionId mode =>
    silent (WorkbenchStore.updateLiepinSourceRunPolicy user sessionId mode)
  | .createLiepinDetailOpenRequest user sessionId reviewItemId idempotencyKey requestId ledgerId
      now =>
    silent (WorkbenchStore.createLiepinDetailOpenRequest user sessionId reviewItemId
      idempotencyKey requestId ledgerId now)
  | .approveLiepinDetailOpenRequest user requestId ledgerId now =>
    silent (WorkbenchStore.approveLiepinDetailOpenRequest user requestId ledgerId now)
  | .rejectLiepinDetailOpenRequest user requestId =>
    silent (WorkbenchStore.rejectLiepinDetailOpenRequest user requestId)
  | .reconcileExpiredDetailOpenLeases now =>
    silent (WorkbenchStore.reconcileExpiredDetailOpenLeases now)

/-- The store, with the contexts that workers have been handed. -/
structure Workbench where
  store : WorkbenchStore := {}
  contexts : List WorkbenchSourceRunJobContext := []

/-- The context that a call completes a job with was handed to a worker. -/
def WorkbenchCall.Issued (bench : Workbench) : WorkbenchCall → Prop
  | .completeCtsSourceRun context _ _ => context ∈ bench.contexts
  | .completeLiepinCardSourceRun context _ _ => context ∈ bench.contexts
  | _ => True

namespace Workbench

variable {lib : WorkbenchLibrary}

/-- A call in its transaction: one that raises changes nothing. -/
def step (lib : WorkbenchLibrary) (bench : Workbench) (call : WorkbenchCall) : Workbench :=
  match call.body lib bench.store with
  | .ok (store, context) => ⟨store, bench.contexts ++ context.toList⟩
  | .error _ => bench

def run (lib : WorkbenchLibrary) (bench : Workbench) (calls : List WorkbenchCall) : Workbench :=
  calls.foldl (step lib) bench

/-- Every call completes a job only with a context that was handed out before. -/
def Runs (lib : WorkbenchLibrary) (bench : Workbench) (calls : List WorkbenchCall) : Prop :=
  Stateful.Along (step lib) bench (fun bench call => call.Issued bench) calls

theorem run_append (bench : Workbench) (first second : List WorkbenchCall) :
    run lib bench (first ++ second) = run lib (run lib bench first) second := List.foldl_append

theorem runs_nil (bench : Workbench) : Runs lib bench [] := Stateful.along_nil

theorem runs_cons {bench : Workbench} {call : WorkbenchCall} {calls : List WorkbenchCall}
    (hcall : call.Issued bench) (hcalls : Runs lib (step lib bench call) calls) :
    Runs lib bench (call :: calls) :=
  Stateful.along_cons hcall hcalls

theorem Runs.snoc {bench : Workbench} {call : WorkbenchCall} {calls : List WorkbenchCall}
    (hcalls : Runs lib bench calls) (hcall : call.Issued (run lib bench calls)) :
    Runs lib bench (calls ++ [call]) :=
  Stateful.Along.snoc hcalls hcall

theorem Runs.append {bench : Workbench} {first second : List WorkbenchCall}
    (h : Runs lib bench (first ++ second)) :
    Runs lib bench first ∧ Runs lib (run lib bench first) second :=
  Stateful.Along.append h

/-- **The rule for runs**: what every call keeps that uses the contexts handed out, a run
    keeps. -/
theorem run_induction {P : Workbench → Prop} {bench : Workbench} {calls : List WorkbenchCall}
    (hstep : ∀ bench call, call.Issued bench → P bench → P (step lib bench call))
    (hstart : P bench) (hruns : Runs lib bench calls) : P (run lib bench calls) :=
  Stateful.foldl_induction (fun bench call => call.Issued bench) hstep hstart hruns

theorem step_cases (lib : WorkbenchLibrary) (bench : Workbench) (call : WorkbenchCall) :
    (∃ store context, call.body lib bench.store = .ok (store, context) ∧
      step lib bench call = ⟨store, bench.contexts ++ context.toList⟩) ∨
    step lib bench call = bench := by
  unfold step
  split
  · rename_i store context hbody
    exact .inl ⟨store, context, hbody, rfl⟩
  · exact .inr rfl

end Workbench

/-! ## A session -/

def sampleUser : WorkbenchUser := ⟨"ann", "lab"⟩

def sampleSession : SessionRow := ⟨"s", "lab", "ann", "Rust engineer", "", ""⟩

def sampleCriteria : TriageCriteria := { mustHaves := ["Rust"] }

/-- A session with one source run, its triage approved and a job queued. -/
def sampleStart (source : RuntimeSourceKind) : List WorkbenchCall :=
  [.createWorkbenchSession sampleSession [(source, "r")],
    .updateRequirementTriage sampleUser "s" sampleCriteria,
    .approveRequirementTriage sampleUser "s" 1,
    .startSourceRunJob sampleUser "s" "r" none "j" 2]

def sampleContext : WorkbenchSourceRunJobContext where
  job :=
    { jobId := "j"
      workspaceId := "lab"
      userId := "ann"
      sessionId := "s"
      sourceRunId := "r"
      sourceKind := .cts
      status := .running
      leaseOwner := some "w"
      leaseExpiresAt := some 9
      idempotencyKey := none
      attemptCount := 1
      createdAt := 2 }
  session := sampleSession
  triage :=
    { sessionId := "s"
      workspaceId := "lab"
      userId := "ann"
      status := .approved
      criteria := sampleCriteria
      approvedAt := some 1 }

theorem silent_ok {α : Type} {transaction : Transaction α} {store store' : WorkbenchStore}
    {context : Option WorkbenchSourceRunJobContext}
    (h : silent transaction store = .ok (store', context)) :
    context = none ∧ ∃ answer, transaction store = .ok (store', answer) := by
  obtain ⟨answer, hanswer, hstore⟩ := Stateful.map_eq_ok h
  obtain ⟨rfl, rfl⟩ := Prod.mk.inj hstore
  exact ⟨rfl, answer.2, hanswer⟩

end SeekTalent

import SeekTalent.Base.Ends
import SeekTalent.Evaluation.StageScores

/-!
# The directories that an evaluation replaces

An evaluation writes its files to a temporary directory, and moves them to `evaluation` and
`raw_resumes` at its end. Where something raises on the way, the handler takes all three directories
away, however far the evaluation has come: what an earlier evaluation has left goes as well
(`evaluateRun_failed`).

Any operation may be one that raises. What it has done by then is not said, except that before the
end the operations work in the temporary directory alone.
-/

namespace SeekTalent

namespace Evaluation

open Stateful

/-! ## 1. Files -/

inductive Entry where
  | file (content : String)
  | directory (entries : List (String × Entry))

/-- What is done at a path, with the directories on the way to it made where they are missing;
    `none` when a file is in the way. -/
def place (leaf : Option Entry → Option Entry) : List String → Option Entry → Option Entry
  | [], entry => leaf entry
  | name :: path, none => (place leaf path none).map fun entry => .directory [(name, entry)]
  | _ :: _, some (.file _) => none
  | name :: path, some (.directory entries) =>
    (place leaf path (entries.lookup name)).map fun entry =>
      .directory (Table.upsert Prod.fst entries (name, entry))

/-- `path.write_text(content)` -/
def writeText (content : String) : List String → Option Entry → Option Entry :=
  place fun
    | some (.directory _) => none
    | _ => some (.file content)

/-- `path.mkdir(parents=True, exist_ok=True)` -/
def makeDirectory : List String → Option Entry → Option Entry :=
  place fun
    | some (.file _) => none
    | some (.directory entries) => some (.directory entries)
    | none => some (.directory [])

/-- `shutil.move(source, destination)`, where the source has this name: into a directory that is
    there already. -/
def moveTo (name : String) (source : Entry) : Option Entry → Option Entry
  | none => some source
  | some (.file _) => none
  | some (.directory entries) =>
    if (entries.lookup name).isSome then none else some (.directory (entries ++ [(name, source)]))

def Entry.child (name : String) : Entry → Option Entry
  | .file _ => none
  | .directory entries => entries.lookup name

def Entry.without (name : String) : Entry → Entry
  | .file content => .file content
  | .directory entries => .directory (entries.filter (·.1 ≠ name))

def Entry.rewriteFiles (named : String → Bool) (rewrite : String → String) : Entry → Entry
  | .file content => .file content
  | .directory entries =>
    .directory (entries.map fun (name, entry) =>
      match entry with
      | .file content => (name, .file (if named name then rewrite content else content))
      | .directory entries => (name, .directory entries))

structure RunDir where
  /-- `._evaluation_tmp` -/
  temp : Option Entry := none
  /-- `evaluation` -/
  evaluation : Option Entry := none
  /-- `raw_resumes` -/
  rawResumes : Option Entry := none

/-! ## 2. The evaluation -/

inductive Stage where
  | round01
  | final

def Stage.name : Stage → String
  | .round01 => "round_01"
  | .final => "final"

/-- An `Exception`, or what is none, as the cancelling of a task. -/
inductive Raised where
  | exception
  | baseException
  deriving DecidableEq

/-- The operations of `evaluate_run`, in the order of the source; those of the handler and the
    `finally` come last. -/
inductive EvaluationOp where
  | makeStore
  | loadInputTruth
  | upsertTask
  | upsertResumeSnapshot (resumeId : String)
  | judgeMany
  | recordJudgeLabel (snapshotSha256 : String)
  | queryHitsForRun
  | recordQueryJudgeOutcomes
  | materializeFlywheelRunArtifacts
  | removeTemp
  | exportJudgeTasks (stage : Stage)
  | makeRawResumes
  | persistRawResumeSnapshot (path : String)
  | writeEvaluation
  | exportReplayRows
  | logEvaluationRemotely
  | removeEvaluation
  | removeRawResumes
  | moveEvaluation
  | moveRawResumes
  | registerEvaluationOutputs
  | removeTempAfter
  | clearTemp
  | clearEvaluation
  | clearRawResumes
  | closeStore

/-- What an evaluation is given, and what it meets. -/
structure EvaluationSetting where
  judging : Judging
  round01Candidates : List Candidate
  finalCandidates : List Candidate
  logRemote : Bool := true
  /-- the run has query hits in the store -/
  hasQueryHits : Bool := false
  /-- the run directory is the root of an artifact -/
  isArtifact : Bool := false
  /-- the lines of the replay rows, if there are any -/
  replayRows : Option String := none
  /-- the texts of the files -/
  judgeTasksText : Stage → List Candidate → String
  rawResumeText : RawResumeFile → String
  evaluationText : List EvaluatedCandidate → List EvaluatedCandidate → String
  /-- a registered file as the artifact session writes it again -/
  registeredText : String → String
  /-- the operations that raise -/
  raises : EvaluationOp → Option Raised := fun _ => none
  /-- what an operation has done to the temporary directory when it raises -/
  partlyTemp : EvaluationOp → Option Entry → Option Entry := fun _ temp => temp
  /-- what an operation of the end has done when it raises -/
  partly : EvaluationOp → RunDir → RunDir := fun _ dir => dir
  /-- what `shutil.rmtree(path, ignore_errors=True)` leaves of a directory -/
  undeleted : EvaluationOp → List (String × Entry) → Option Entry := fun _ _ => none

namespace EvaluationSetting

variable (w : EvaluationSetting)

def external (op : EvaluationOp) : Run RunDir Raised PUnit :=
  match w.raises op with
  | some raised => throw raised
  | none => pure ⟨⟩

def fromOption {α : Type} : Option α → Run RunDir Raised α
  | some a => pure a
  | none => throw .exception

def onTemp (op : EvaluationOp) (effect : Option Entry → Option (Option Entry)) :
    Run RunDir Raised PUnit :=
  match w.raises op with
  | some raised => do
    modify fun dir => { dir with temp := w.partlyTemp op dir.temp }
    throw raised
  | none => do
    let dir ← get
    let temp ← fromOption (effect dir.temp)
    modify fun dir => { dir with temp }

def onDir (op : EvaluationOp) (effect : RunDir → Option RunDir) : Run RunDir Raised PUnit :=
  match w.raises op with
  | some raised => do
    modify (w.partly op)
    throw raised
  | none => do
    let dir ← get
    let dir ← fromOption (effect dir)
    modify fun _ => dir

/-- What `_remove_path` leaves. -/
def removePath (op : EvaluationOp) : Option Entry → Option Entry
  | some (.directory entries) => w.undeleted op entries
  | _ => none

def unique : List Candidate := (uniqueCandidates w.round01Candidates w.finalCandidates).rows

def exportJudgeTasks (stage : Stage) (candidates : List Candidate) : Run RunDir Raised PUnit :=
  w.onTemp (.exportJudgeTasks stage) fun temp =>
    (writeText (w.judgeTasksText stage candidates)
      ["evaluation", stage.name ++ "_judge_tasks.jsonl"] temp).map some

def exportFiles (run : EvaluatedRun) : Run RunDir Raised PUnit := do
  w.onTemp .removeTemp fun temp => some (w.removePath .removeTemp temp)
  w.exportJudgeTasks .round01 w.round01Candidates
  w.exportJudgeTasks .final w.finalCandidates
  w.onTemp .makeRawResumes fun temp => (makeDirectory ["raw_resumes"] temp).map some
  (w.unique.map rawResumeFile).forM fun file =>
    w.onTemp (.persistRawResumeSnapshot file.path) fun temp =>
      (writeText (w.rawResumeText file) ["raw_resumes", file.snapshotSha256 ++ ".json"] temp).map some
  w.onTemp .writeEvaluation fun temp =>
    (writeText (w.evaluationText run.round01 run.final) ["evaluation", "evaluation.json"] temp).map
      some
  w.onTemp .exportReplayRows fun temp =>
    match w.replayRows with
    | some rows => (writeText rows ["evaluation", "replay_rows.jsonl"] temp).map some
    | none => some temp
  if w.logRemote then w.external .logEvaluationRemotely

def recordQueryOutcomes : Run RunDir Raised PUnit := do
  w.external .queryHitsForRun
  if w.hasQueryHits then
    w.external .recordQueryJudgeOutcomes
    if w.isArtifact then w.external .materializeFlywheelRunArtifacts

/-- `evaluate_run` from the beginning of the `try` to where it replaces the outputs. -/
def evaluate : Run RunDir Raised EvaluatedRun := do
  w.external .loadInputTruth
  w.external .upsertTask
  w.unique.forM fun candidate => w.external (.upsertResumeSnapshot candidate.resumeId)
  w.external .judgeMany
  let (judged, labelWrites) ← fromOption (judgeMany w.judging w.unique)
  labelWrites.forM fun write => w.external (.recordJudgeLabel write.snapshotSha256)
  w.recordQueryOutcomes
  let round01 ← fromOption (stageResult w.round01Candidates judged)
  let final ← fromOption (stageResult w.finalCandidates judged)
  let run : EvaluatedRun :=
    { round01, final, labelWrites, rawFiles := (w.unique.map rawResumeFile).foldl Keyed.put {} }
  w.exportFiles run
  return run

/-- `shutil.move` of a directory from the temporary one. -/
def takeFromTemp (name : String) (dir : RunDir) (destination : Option Entry) :
    Option (Option Entry × Option Entry) := do
  let temp ← dir.temp
  let source ← temp.child name
  let moved ← moveTo name source destination
  return (some (temp.without name), some moved)

/-- The files that `_register_evaluation_outputs` writes again. -/
def isRegistered (name : String) : Bool :=
  name = "evaluation.json" || name = "replay_rows.jsonl" ||
    name = Stage.round01.name ++ "_judge_tasks.jsonl" || name = Stage.final.name ++ "_judge_tasks.jsonl"

def registerEvaluationOutputs (run : EvaluatedRun) (dir : RunDir) : Option RunDir :=
  if w.isArtifact then do
    let evaluation ← writeText (w.evaluationText run.round01 run.final) ["evaluation.json"]
      dir.evaluation
    return { dir with
      evaluation := evaluation.rewriteFiles isRegistered w.registeredText
      rawResumes := dir.rawResumes.map
        (Entry.rewriteFiles (fun name => ".json".toList.isSuffixOf name.toList) w.registeredText) }
  else some dir

/-- `evaluate_run` from where it replaces the outputs. -/
def replaceOutputs (run : EvaluatedRun) : Run RunDir Raised PUnit := do
  w.onDir .removeEvaluation fun dir =>
    some { dir with evaluation := w.removePath .removeEvaluation dir.evaluation }
  w.onDir .removeRawResumes fun dir =>
    some { dir with rawResumes := w.removePath .removeRawResumes dir.rawResumes }
  w.onDir .moveEvaluation fun dir => do
    let (temp, evaluation) ← takeFromTemp "evaluation" dir dir.evaluation
    return { dir with temp, evaluation }
  w.onDir .moveRawResumes fun dir => do
    let (temp, rawResumes) ← takeFromTemp "raw_resumes" dir dir.rawResumes
    return { dir with temp, rawResumes }
  w.onDir .registerEvaluationOutputs (w.registerEvaluationOutputs run)
  w.onDir .removeTempAfter fun dir =>
    some { dir with temp := w.removePath .removeTempAfter dir.temp }

/-- The `try` block of `evaluate_run` -/
def tryBlock : Run RunDir Raised EvaluatedRun := do
  let run ← w.evaluate
  w.replaceOutputs run
  return run

/-- The `except Exception` block of `evaluate_run`, up to its `raise` -/
def clearOutputs : Run RunDir Raised PUnit := do
  w.onDir .clearTemp fun dir => some { dir with temp := w.removePath .clearTemp dir.temp }
  w.onDir .clearEvaluation fun dir =>
    some { dir with evaluation := w.removePath .clearEvaluation dir.evaluation }
  w.onDir .clearRawResumes fun dir =>
    some { dir with rawResumes := w.removePath .clearRawResumes dir.rawResumes }

/-- The `try` with its handler. -/
def tryEvaluate : Run RunDir Raised EvaluatedRun :=
  tryCatch w.tryBlock fun raised => do
    if raised = .exception then w.clearOutputs
    throw raised

/-- `evaluate_run`. The `finally` is written out for both ways the `try` ends. -/
def evaluateRun : Run RunDir Raised EvaluatedRun := do
  w.external .makeStore
  let run ← tryCatch w.tryEvaluate fun raised => do
    w.external .closeStore
    throw raised
  w.external .closeStore
  return run

/-! ## 3. What is kept -/

section Keeps

variable {w} {α : Type} {P : RunDir → Prop} {op : EvaluationOp}

theorem ends_external : Ends P (w.external op) (fun _ => P) fun _ => P := by
  unfold external
  split
  · exact Ends.throw fun _ h => h
  · exact Ends.pure fun _ h => h

theorem ends_fromOption {answer : Option α} :
    Ends P (fromOption answer) (fun _ => P) fun _ => P := by
  cases answer with
  | none => exact Ends.throw fun _ h => h
  | some answer => exact Ends.pure fun _ h => h

theorem ends_when {c : Prop} [Decidable c] {m : Run RunDir Raised PUnit}
    (h : Ends P m (fun _ => P) fun _ => P) :
    Ends P (if c then m else pure ⟨⟩) (fun _ => P) fun _ => P :=
  Ends.ite (fun _ => h) fun _ => Ends.pure fun _ h => h

theorem ends_onTemp {effect : Option Entry → Option (Option Entry)}
    (hP : ∀ dir temp, P dir → P { dir with temp }) :
    Ends P (w.onTemp op effect) (fun _ => P) fun _ => P := by
  unfold onTemp
  split
  · exact Ends.bind (Ends.modify fun dir h => hP dir _ h) fun _ => Ends.throw fun _ h => h
  · refine Ends.bind (Q := fun _ => P) (Ends.conseq Ends.get (fun _ h => h) (fun _ _ h => h.2)
      fun _ _ h => h) fun dir => ?_
    exact Ends.bind ends_fromOption fun temp => Ends.modify fun dir h => hP dir temp h

theorem ends_forM {ι : Type} {items : List ι} {body : ι → Run RunDir Raised PUnit}
    (h : ∀ item, Ends P (body item) (fun _ => P) fun _ => P) :
    Ends P (items.forM body) (fun _ => P) fun _ => P :=
  Ends.forM (I := fun _ => P) fun item _ => h item

theorem ends_recordQueryOutcomes : Ends P w.recordQueryOutcomes (fun _ => P) fun _ => P := by
  unfold recordQueryOutcomes
  refine Ends.bind ends_external fun _ => ?_
  refine ends_when ?_
  refine Ends.bind ends_external fun _ => ?_
  exact ends_when ends_external

variable (hP : ∀ dir temp, P dir → P { dir with temp })

include hP

theorem ends_exportFiles {run : EvaluatedRun} :
    Ends P (w.exportFiles run) (fun _ => P) fun _ => P := by
  unfold exportFiles
  refine Ends.bind (ends_onTemp hP) fun _ => ?_
  refine Ends.bind (ends_onTemp hP) fun _ => ?_
  refine Ends.bind (ends_onTemp hP) fun _ => ?_
  refine Ends.bind (ends_onTemp hP) fun _ => ?_
  refine Ends.bind (ends_forM fun _ => ends_onTemp hP) fun _ => ?_
  refine Ends.bind (ends_onTemp hP) fun _ => ?_
  refine Ends.bind (ends_onTemp hP) fun _ => ?_
  exact ends_when ends_external

/-- **Until the outputs are replaced** only the temporary directory changes. -/
theorem ends_evaluate : Ends P w.evaluate (fun _ => P) fun _ => P := by
  unfold evaluate
  refine Ends.bind ends_external fun _ => ?_
  refine Ends.bind ends_external fun _ => ?_
  refine Ends.bind (ends_forM fun _ => ends_external) fun _ => ?_
  refine Ends.bind ends_external fun _ => ?_
  refine Ends.bind ends_fromOption fun answers => ?_
  refine Ends.bind (ends_forM fun _ => ends_external) fun _ => ?_
  refine Ends.bind ends_recordQueryOutcomes fun _ => ?_
  refine Ends.bind ends_fromOption fun round01 => ?_
  refine Ends.bind ends_fromOption fun final => ?_
  exact Ends.bind (ends_exportFiles hP) fun _ => Ends.pure fun _ h => h

end Keeps

section Answers

variable {w} {α : Type} {P : RunDir → Prop}

end Answers

/-! ## 4. How an evaluation ends that raises -/

section Raises

variable {w} {op : EvaluationOp} {raised : Raised} {before after dir dir' : RunDir}

/-- The `_remove_path` calls of the handler do what they are for: none of them raises, and
    `shutil.rmtree` leaves nothing of a directory. -/
structure Clears (w : EvaluationSetting) : Prop where
  raises : ∀ op ∈ [EvaluationOp.clearTemp, .clearEvaluation, .clearRawResumes], w.raises op = none
  undeleted : ∀ op ∈ [EvaluationOp.clearTemp, .clearEvaluation, .clearRawResumes],
    ∀ entries, w.undeleted op entries = none

theorem exec_onDir {effect : RunDir → Option RunDir} (hop : w.raises op = none)
    (heffect : effect dir = some dir') : exec (w.onDir op effect) dir = (.ok ⟨⟩, dir') := by
  unfold onDir
  rw [hop]
  dsimp only
  rw [exec_bind, exec_get]
  dsimp only
  rw [heffect, exec_bind]
  rfl

theorem exec_onDir_some {effect : RunDir → RunDir} (hop : w.raises op = none) :
    exec (w.onDir op fun dir => some (effect dir)) dir = (.ok ⟨⟩, effect dir) :=
  exec_onDir hop rfl

theorem removePath_eq_none (h : ∀ entries, w.undeleted op entries = none) (entry : Option Entry) :
    w.removePath op entry = none := by
  rcases entry with - | (content | entries)
  · rfl
  · rfl
  · exact h entries

theorem Clears.exec_clearOutputs (h : w.Clears) (dir : RunDir) :
    exec w.clearOutputs dir = (.ok ⟨⟩, {}) := by
  obtain ⟨hraises, hundeleted⟩ := h
  simp only [List.forall_mem_cons, List.not_mem_nil, false_imp_iff, implies_true, and_true]
    at hraises hundeleted
  obtain ⟨htemp, hevaluation, hrawResumes⟩ := hraises
  obtain ⟨htemp', hevaluation', hrawResumes'⟩ := hundeleted
  unfold clearOutputs
  rw [exec_bind, exec_onDir_some htemp]
  dsimp only
  rw [exec_bind, exec_onDir_some hevaluation]
  dsimp only
  rw [exec_onDir_some hrawResumes, removePath_eq_none htemp', removePath_eq_none hevaluation',
    removePath_eq_none hrawResumes']

theorem exec_external (h : w.raises op = none) : exec (w.external op) dir = (.ok ⟨⟩, dir) := by
  unfold external
  rw [h]
  rfl

theorem exec_external_raises (h : w.raises op = some raised) :
    exec (w.external op) dir = (.error raised, dir) := by
  unfold external
  rw [h]
  rfl

/-- What the `try` leaves when it raises, `evaluate_run` leaves. -/
theorem exec_evaluateRun (hmake : w.raises .makeStore = none)
    (htry : exec w.tryEvaluate before = (.error raised, after)) :
    ∃ raised, exec w.evaluateRun before = (.error raised, after) := by
  unfold evaluateRun
  rw [exec_bind, exec_external hmake]
  dsimp only
  rw [exec_bind, exec_tryCatch, htry]
  dsimp only
  rw [exec_bind]
  cases hclose : w.raises .closeStore with
  | none =>
    rw [exec_external hclose]
    exact ⟨raised, rfl⟩
  | some raised' =>
    rw [exec_external_raises hclose]
    exact ⟨raised', rfl⟩

theorem exec_tryEvaluate_exception (hclears : w.Clears)
    (htry : exec w.tryBlock before = (.error .exception, after)) :
    exec w.tryEvaluate before = (.error .exception, {}) := by
  unfold tryEvaluate
  rw [exec_tryCatch, htry]
  dsimp only
  rw [if_pos rfl, exec_bind, hclears.exec_clearOutputs]
  rfl

theorem exec_tryEvaluate_baseException
    (htry : exec w.tryBlock before = (.error .baseException, after)) :
    exec w.tryEvaluate before = (.error .baseException, after) := by
  unfold tryEvaluate
  rw [exec_tryCatch, htry]
  rfl

/-- **A failed evaluation**: what raises before the `try` changes nothing. An `Exception` in the
`try`, wherever it is raised, leaves none of the directories, whatever was in them. What is no
`Exception` leaves the outputs alone, as long as they are not being replaced. -/
theorem evaluateRun_failed (w : EvaluationSetting) (before : RunDir) :
    (∀ raised, w.raises .makeStore = some raised →
      exec w.evaluateRun before = (.error raised, before)) ∧
    (w.raises .makeStore = none → w.Clears →
      (exec w.tryBlock before).1 = .error .exception →
        ∃ raised, exec w.evaluateRun before = (.error raised, {})) ∧
    (w.raises .makeStore = none → (exec w.evaluate before).1 = .error .baseException →
      ∃ raised after, exec w.evaluateRun before = (.error raised, after) ∧
        after.evaluation = before.evaluation ∧ after.rawResumes = before.rawResumes) := by
  refine ⟨fun raised hmake => ?_, fun hmake hclears htry => ?_, fun hmake hevaluate => ?_⟩
  · unfold evaluateRun
    rw [exec_bind, exec_external_raises hmake]
  · exact exec_evaluateRun hmake (exec_tryEvaluate_exception hclears (Prod.ext htry rfl))
  · have hkeeps := ends_evaluate (w := w)
      (P := fun dir => dir.evaluation = before.evaluation ∧ dir.rawResumes = before.rawResumes)
      (fun _ _ h => h) before ⟨rfl, rfl⟩
    cases hexec : exec w.evaluate before with
    | mk result after =>
      rw [hexec] at hevaluate hkeeps
      obtain rfl : result = .error .baseException := hevaluate
      have htry : exec w.tryBlock before = (.error .baseException, after) := by
        unfold tryBlock
        rw [exec_bind, hexec]
      obtain ⟨raised, hrun⟩ := exec_evaluateRun hmake (exec_tryEvaluate_baseException htry)
      exact ⟨raised, after, hrun, hkeeps⟩

end Raises

/-! ## 5. A judge that does not answer -/

/-- A second evaluation of a run, whose judge call fails. -/
def judgeFails : EvaluationSetting where
  judging := judgedAnew
  round01Candidates := [seen "aa"]
  finalCandidates := [seen "aa"]
  judgeTasksText _ _ := ""
  rawResumeText _ := "\x7b\x7d"
  evaluationText _ _ := "\x7b\x7d"
  registeredText text := text
  raises
    | .judgeMany => some .exception
    | _ => none

def evaluatedBefore : RunDir where
  evaluation := some (.directory [("evaluation.json", .file "\x7b\x7d")])
  rawResumes := some (.directory [("aa.json", .file "\x7b\x7d")])

theorem judgeFails_clears_earlier :
    exec judgeFails.evaluateRun evaluatedBefore = (.error .exception, {}) ∧
      evaluatedBefore.evaluation ≠ none ∧ evaluatedBefore.rawResumes ≠ none :=
  ⟨rfl, nofun, nofun⟩

end EvaluationSetting

end Evaluation

end SeekTalent

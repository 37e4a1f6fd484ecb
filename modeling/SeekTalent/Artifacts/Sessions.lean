import SeekTalent.Artifacts.Registry
import SeekTalent.Base.Run
import SeekTalent.Base.SharedCopy
import SeekTalent.Base.Table

/-!
# The sessions of a run directory

The manifest of a run directory lists its logical artifacts with their paths. A session has a
manifest of its own in memory; when it registers an artifact, it writes its whole manifest over the
one on disk. The tracer of a run keeps one session from start to end, and the evaluation opens more
of them from the manifest on disk.

So an artifact that one session registers is lost as soon as another one writes a manifest that
does not have it: `everyListed_iff` says which runs keep all of them, and `not_listed_of_close` that
an evaluated run does not.
-/

namespace SeekTalent

namespace Artifacts

open PiAgent (pathParts)

/-! ## 1. The data -/

inductive ArtifactKind
  | run
  | benchmark
  | replay
  | debug
  | imported
  | exported
  | corpus

/-- `MANIFEST_FILENAME_BY_KIND` -/
def manifestFilename : ArtifactKind → String
  | .run => "run_manifest.json"
  | .benchmark => "benchmark_manifest.json"
  | .replay => "replay_manifest.json"
  | .debug => "debug_manifest.json"
  | .imported => "import_manifest.json"
  | .exported => "export_manifest.json"
  | .corpus => "corpus_manifest.json"

abbrev LogicalArtifacts := Keyed (Prod.fst : String × LogicalArtifactEntry → String)

structure ArtifactManifest where
  artifactKind : ArtifactKind
  artifactId : String
  createdAt : String
  updatedAt : String
  completedAt : Option String := none
  status : String
  failureSummary : Option String := none
  logicalArtifacts : LogicalArtifacts := {}

def ArtifactManifest.entryOf? (manifest : ArtifactManifest) (logicalName : String) :
    Option LogicalArtifactEntry :=
  (manifest.logicalArtifacts.lookup logicalName).map Prod.snd

abbrev Path := List (List Char)

/-- What is in a file: a text, or a manifest, which is read back as it was written. -/
inductive Content
  | text (text : String)
  | manifest (manifest : ArtifactManifest)

/-- The files below the root, and the sessions that have been opened, each by its manifest. -/
structure RunDirectory where
  files : Keyed (Prod.fst : Path × Content → Path) := {}
  sessions : List ArtifactManifest

structure Env where
  /-- the value of a digit of any script -/
  decimal : Char → Option Nat
  /-- the path leads out of the root through a symbolic link -/
  linksOut : Path → Bool

def ArtifactManifest.path (manifest : ArtifactManifest) : Path :=
  ["manifests".toList, (manifestFilename manifest.artifactKind).toList]

/-- `atomic_write_text` -/
def RunDirectory.write (dir : RunDirectory) (path : Path) (content : Content) : RunDirectory :=
  { dir with files := dir.files.put (path, content) }

def RunDirectory.read (dir : RunDirectory) (path : Path) : Option Content :=
  (dir.files.lookup path).map Prod.snd

/-! ## 2. The resolver -/

def safeArtifactPath (env : Env) (relativePath : String) : Except ArtifactError Path :=
  let parts := pathParts relativePath.toList
  if Py.startsWith relativePath "/" || parts.contains ['.', '.'] then
    .error (.valueError "manifest path escapes artifact root")
  else if env.linksOut parts then
    .error (.valueError "manifest path escapes artifact root through symlink")
  else .ok parts

def manifestCandidate : Path → Option (List Char)
  | scope :: name :: _ =>
    if scope = "manifests".toList && Py.endsWith (String.ofList name) "_manifest.json" then some name
    else none
  | _ => none

/-- `sorted(manifests_dir.glob("*_manifest.json"))`, but for the order -/
def manifestCandidates (dir : RunDirectory) : List (List Char) :=
  (dir.files.rows.filterMap fun file => manifestCandidate file.1).dedup

/-- `ArtifactResolver.for_root`, with `none` for what it raises -/
def forRoot (dir : RunDirectory) : Option ArtifactManifest :=
  match manifestCandidates dir with
  | [name] =>
    match dir.read ["manifests".toList, name] with
    | some (.manifest manifest) => some manifest
    | _ => none
  | _ => none

/-! ## 3. The calls of a session -/

/-- What is written to an artifact: a dumped payload, dumped rows, one more dumped row, a text. -/
inductive ArtifactWrite
  | json (text : String)
  | jsonl (lines : List String)
  | appendJsonl (line : String)
  | text (content : String)

def ArtifactWrite.textAfter (old : Option Content) : ArtifactWrite → String
  | .json dumped => dumped
  | .jsonl lines => Py.join "\n" lines ++ (if lines.isEmpty then "" else "\n")
  | .appendJsonl line =>
    match old with
    | some (.text before) => before ++ (line ++ "\n")
    | _ => line ++ "\n"
  | .text content => content

inductive SessionCall
  /-- `write_json`, `write_jsonl`, `append_jsonl`, `write_text` -/
  | write (logicalName : String) (content : ArtifactWrite)
  | registerPath (logicalName : String) (entry : LogicalArtifactEntry)
  | finalize (status : String) (failureSummary : Option String)

section Sessions

variable (env : Env)

def descriptorFor (manifest : ArtifactManifest) (logicalName : String) :
    Except ArtifactError LogicalArtifactEntry :=
  match manifest.entryOf? logicalName with
  | some entry => .ok entry
  | none => resolveDescriptor env.decimal logicalName

/-- `_write_manifest`: the session writes its manifest over the one on disk. -/
def RunDirectory.writeManifest (dir : RunDirectory) (session : Nat) (manifest : ArtifactManifest) :
    RunDirectory :=
  { files := dir.files.put (manifest.path, .manifest manifest)
    sessions := dir.sessions.set session manifest }

def ArtifactManifest.register (manifest : ArtifactManifest) (logicalName : String)
    (entry : LogicalArtifactEntry) (now : String) : ArtifactManifest :=
  { manifest with
    logicalArtifacts := manifest.logicalArtifacts.put (logicalName, entry)
    updatedAt := now }

def ArtifactManifest.finalized (manifest : ArtifactManifest) (status : String)
    (failureSummary : Option String) (now : String) : ArtifactManifest :=
  { manifest with
    status
    updatedAt := now
    completedAt := some now
    failureSummary := (failureSummary.filter (· ≠ "")).or manifest.failureSummary }

/-- `write_json`, `write_jsonl`, `append_jsonl`, `write_text` -/
def writeArtifact (dir : RunDirectory) (session : Nat) (manifest : ArtifactManifest)
    (logicalName : String) (content : ArtifactWrite) (now : String) :
    Except ArtifactError RunDirectory := do
  let entry ← descriptorFor env manifest logicalName
  let path ← safeArtifactPath env entry.path
  let written := dir.write path (.text (content.textAfter (dir.read path)))
  return written.writeManifest session (manifest.register logicalName entry now)

def registerPath (dir : RunDirectory) (session : Nat) (manifest : ArtifactManifest)
    (logicalName : String) (entry : LogicalArtifactEntry) (now : String) :
    Except ArtifactError RunDirectory :=
  if Py.startsWith entry.path "/" || (pathParts entry.path.toList).contains ['.', '.'] then
    .error (.valueError "manifest paths must stay relative to the artifact root")
  else .ok (dir.writeManifest session (manifest.register logicalName entry now))

def finalize (dir : RunDirectory) (session : Nat) (manifest : ArtifactManifest) (status : String)
    (failureSummary : Option String) (now : String) : Except ArtifactError RunDirectory :=
  if status ∈ ["completed", "failed"] then
    .ok (dir.writeManifest session (manifest.finalized status failureSummary now))
  else if status = "running" then
    .error (.valueError "Finalization requires a terminal artifact status")
  else .error (.valueError ("Invalid artifact status: " ++ status))

def SessionCall.perform (dir : RunDirectory) (session : Nat) (manifest : ArtifactManifest)
    (now : String) : SessionCall → Except ArtifactError RunDirectory
  | .write logicalName content => writeArtifact env dir session manifest logicalName content now
  | .registerPath logicalName entry => Artifacts.registerPath dir session manifest logicalName entry now
  | .finalize status failureSummary =>
    Artifacts.finalize dir session manifest status failureSummary now

/-- A call on the directory: a session is opened from the manifest on disk, as
`_artifact_session_for_run` does, or one of the sessions is called. -/
inductive DirectoryCall
  | opens
  | on (session : Nat) (call : SessionCall) (now : String)

/-- A call that raises leaves all as it was. -/
def RunDirectory.step (dir : RunDirectory) : DirectoryCall → RunDirectory
  | .opens =>
    match forRoot dir with
    | some manifest => { dir with sessions := dir.sessions ++ [manifest] }
    | none => dir
  | .on session call now =>
    match dir.sessions[session]? with
    | none => dir
    | some manifest =>
      match call.perform env dir session manifest now with
      | .ok dir' => dir'
      | .error _ => dir

def SessionCall.registers (dir : RunDirectory) (session : Nat) (manifest : ArtifactManifest)
    (now : String) (call : SessionCall) : Option (String × LogicalArtifactEntry) :=
  match call.perform env dir session manifest now with
  | .error _ => none
  | .ok _ =>
    match call with
    | .write logicalName _ =>
      (descriptorFor env manifest logicalName).toOption.map fun entry => (logicalName, entry)
    | .registerPath logicalName entry => some (logicalName, entry)
    | .finalize _ _ => none

def DirectoryCall.registers (dir : RunDirectory) :
    DirectoryCall → Option (String × LogicalArtifactEntry)
  | .opens => none
  | .on session call now =>
    dir.sessions[session]?.bind fun manifest => call.registers env dir session manifest now

def RunDirectory.onDisk (dir : RunDirectory) : Option ArtifactManifest :=
  dir.sessions.head?.bind fun manifest =>
    match dir.read manifest.path with
    | some (.manifest disk) => some disk
    | _ => none

def noted (entries : String → Option LogicalArtifactEntry) :
    Option (String × LogicalArtifactEntry) → String → Option LogicalArtifactEntry
  | none => entries
  | some (logicalName, entry) => Function.update entries logicalName (some entry)

/-- A run directory, and what any session has registered last under each name. -/
structure Recorded where
  dir : RunDirectory
  registered : String → Option LogicalArtifactEntry

def Recorded.step (recorded : Recorded) (call : DirectoryCall) : Recorded where
  dir := recorded.dir.step env call
  registered := noted recorded.registered (call.registers env recorded.dir)

def RunDirectory.recorded (dir : RunDirectory) : Recorded where
  dir
  registered logicalName := dir.onDisk.bind fun disk => disk.entryOf? logicalName

/-- Every artifact that a session has registered is in the manifest on disk, and is resolved to the
path it was registered with. -/
def Listed (recorded : Recorded) : Prop :=
  ∀ logicalName entry, recorded.registered logicalName = some entry →
    ∃ disk listed, recorded.dir.onDisk = some disk ∧ disk.entryOf? logicalName = some listed ∧
      safeArtifactPath env listed.path = safeArtifactPath env entry.path

def EveryListed (dir : RunDirectory) (calls : List DirectoryCall) : Prop :=
  ∀ first third, calls = first ++ third → Listed env (first.foldl (Recorded.step env) dir.recorded)

/-! ## 4. The manifest as a map with copies -/

def resolved (entry : LogicalArtifactEntry) : Except ArtifactError Path :=
  safeArtifactPath env entry.path

def ArtifactManifest.view (manifest : ArtifactManifest) (logicalName : String) :
    Option (Except ArtifactError Path) := (manifest.entryOf? logicalName).map (resolved env)

def RunDirectory.view (dir : RunDirectory) (registered : String → Option LogicalArtifactEntry) :
    SharedCopy.State Nat String (Except ArtifactError Path) where
  shared logicalName := dir.onDisk.bind fun disk => disk.view env logicalName
  copy session := dir.sessions[session]?.map (ArtifactManifest.view env)
  current logicalName := (registered logicalName).map (resolved env)

def sharedCall (session : Nat) :
    Option (String × LogicalArtifactEntry) → SharedCopy.Call Nat String (Except ArtifactError Path)
  | none => .saves session
  | some (logicalName, entry) => .enters session logicalName (resolved env entry)

def DirectoryCall.shared (dir : RunDirectory) :
    DirectoryCall → SharedCopy.Call Nat String (Except ArtifactError Path)
  | .opens => if (forRoot dir).isSome then .opens dir.sessions.length else .idle
  | .on session call now =>
    match dir.sessions[session]? with
    | none => .idle
    | some manifest =>
      match call.perform env dir session manifest now with
      | .error _ => .idle
      | .ok _ => sharedCall env session (call.registers env dir session manifest now)

/-- The session that writes its manifest has every entry of the manifest on disk, but for the one
that it registers. -/
def DirectoryCall.UpToDate (dir : RunDirectory) (call : DirectoryCall) : Prop :=
  SharedCopy.UpToDate (dir.view env fun _ => none) (call.shared env dir)

/-- The directory has been created, and only its session is open. -/
structure Begun (dir : RunDirectory) (manifest : ArtifactManifest) : Prop where
  sessions : dir.sessions = [manifest]
  onDisk : dir.read manifest.path = some (.manifest manifest)

/-- `initialize`, of a session in an empty directory -/
def ArtifactManifest.initialized (manifest : ArtifactManifest) (now : String) : RunDirectory :=
  let start : RunDirectory := RunDirectory.writeManifest { sessions := [manifest] } 0 manifest
  let traceLog : LogicalArtifactEntry := { path := "runtime/trace.log", contentType := "text/plain" }
  let events : LogicalArtifactEntry :=
    { path := "runtime/events.jsonl", contentType := "application/jsonl" }
  let first := manifest.register "runtime.trace_log" traceLog now
  (start.writeManifest 0 first).writeManifest 0 (first.register "runtime.events" events now)

structure Consistent (dir : RunDirectory) (disk : ArtifactManifest) : Prop where
  opened : dir.sessions ≠ []
  kind : ∀ manifest ∈ dir.sessions, manifest.artifactKind = disk.artifactKind
  read : dir.read disk.path = some (.manifest disk)

variable {env} {dir dir' : RunDirectory} {disk manifest : ArtifactManifest} {session : Nat}
variable {call : SessionCall} {now logicalName : String} {entry : LogicalArtifactEntry}
variable {registered : String → Option LogicalArtifactEntry}
variable {written : ArtifactManifest} {noting : Option (String × LogicalArtifactEntry)}

theorem entryOf?_register (other : String) :
    (manifest.register logicalName entry now).entryOf? other =
      noted manifest.entryOf? (some (logicalName, entry)) other := by
  show ((manifest.logicalArtifacts.put (logicalName, entry)).lookup other).map Prod.snd =
    Function.update manifest.entryOf? logicalName (some entry) other
  rw [Keyed.lookup_put, Function.update_apply]
  by_cases h : logicalName = other
  · simp [h]
  · simp [h, Ne.symm h, ArtifactManifest.entryOf?]

theorem path_eq (h : manifest.artifactKind = disk.artifactKind) : manifest.path = disk.path := by
  unfold ArtifactManifest.path
  rw [h]

theorem Consistent.onDisk (h : Consistent dir disk) : dir.onDisk = some disk := by
  unfold RunDirectory.onDisk
  cases hsessions : dir.sessions with
  | nil => exact absurd hsessions h.opened
  | cons manifest sessions =>
    have hkind := h.kind manifest (by simp [hsessions])
    simp only [List.head?_cons, Option.bind_some, path_eq hkind, h.read]

theorem read_writeManifest : (dir.writeManifest session manifest).read manifest.path =
    some (.manifest manifest) := by
  unfold RunDirectory.writeManifest RunDirectory.read
  rw [Keyed.lookup_put, if_pos rfl]
  rfl

theorem mem_sessions (h : dir.sessions[session]? = some manifest) : manifest ∈ dir.sessions :=
  List.mem_of_getElem? h

/-- What a call that does not raise has done: its session has a new manifest, with the entry it
registers, and has written it to disk. -/
structure Wrote (env : Env) (dir dir' : RunDirectory) (session : Nat)
    (manifest written : ArtifactManifest) (noting : Option (String × LogicalArtifactEntry)) : Prop where
  sessions : dir'.sessions = dir.sessions.set session written
  read : dir'.read written.path = some (.manifest written)
  kind : written.artifactKind = manifest.artifactKind
  entries : written.entryOf? = noted manifest.entryOf? noting

theorem wrote_of_writeManifest {before : RunDirectory}
    (hbefore : before.sessions = dir.sessions)
    (hkind : written.artifactKind = manifest.artifactKind)
    (hentries : written.entryOf? = noted manifest.entryOf? noting) :
    Wrote env dir (before.writeManifest session written) session manifest written noting where
  sessions := by
    show before.sessions.set session written = _
    rw [hbefore]
  read := read_writeManifest
  kind := hkind
  entries := hentries

/-- **One call of a session.** -/
theorem perform_spec (h : call.perform env dir session manifest now = .ok dir') :
    ∃ written, Wrote env dir dir' session manifest written
      (call.registers env dir session manifest now) := by
  unfold SessionCall.registers
  rw [h]
  cases call with
  | write logicalName content =>
    change writeArtifact env dir session manifest logicalName content now = .ok dir' at h
    unfold writeArtifact at h
    obtain ⟨entry, hentry, h⟩ := Stateful.bind_eq_ok h
    obtain ⟨path, -, h⟩ := Stateful.bind_eq_ok h
    obtain rfl := Except.ok.inj h
    simp only [hentry, Except.toOption, Option.map_some]
    exact ⟨_, wrote_of_writeManifest rfl rfl (funext entryOf?_register)⟩
  | registerPath logicalName entry =>
    change Artifacts.registerPath dir session manifest logicalName entry now = .ok dir' at h
    unfold Artifacts.registerPath at h
    split at h
    · cases h
    · obtain rfl := Except.ok.inj h
      exact ⟨_, wrote_of_writeManifest rfl rfl (funext entryOf?_register)⟩
  | finalize status failureSummary =>
    change Artifacts.finalize dir session manifest status failureSummary now = .ok dir' at h
    unfold Artifacts.finalize at h
    split at h
    · obtain rfl := Except.ok.inj h
      exact ⟨_, wrote_of_writeManifest rfl rfl rfl⟩
    · split at h
      · cases h
      · cases h

theorem manifestCandidate_path (manifest : ArtifactManifest) :
    manifestCandidate manifest.path = some (manifestFilename manifest.artifactKind).toList := by
  unfold ArtifactManifest.path
  cases manifest.artifactKind <;> decide

theorem mem_rows_of_read {path : Path} {content : Content} (h : dir.read path = some content) :
    (path, content) ∈ dir.files.rows := by
  obtain ⟨file, hfile, rfl⟩ := Option.map_eq_some_iff.mp h
  have hpath := Keyed.key_of_lookup hfile
  subst hpath
  exact Keyed.mem_rows_iff.mpr hfile

theorem eq_of_forRoot (h : Consistent dir disk) (hroot : forRoot dir = some manifest) :
    manifest = disk := by
  have hmem : (manifestFilename disk.artifactKind).toList ∈ manifestCandidates dir := by
    unfold manifestCandidates
    rw [List.mem_dedup, List.mem_filterMap]
    exact ⟨_, mem_rows_of_read h.read, manifestCandidate_path disk⟩
  unfold forRoot at hroot
  split at hroot
  · rename_i name hname
    rw [hname, List.mem_singleton] at hmem
    have hread : dir.read ["manifests".toList, name] = some (.manifest disk) := by
      rw [← hmem]
      exact h.read
    rw [hread] at hroot
    exact (Option.some.inj hroot).symm
  · cases hroot

theorem Consistent.wrote (h : Consistent dir disk)
    (hsession : dir.sessions[session]? = some manifest)
    (hwrote : Wrote env dir dir' session manifest written noting) : Consistent dir' written := by
  have hkind : written.artifactKind = disk.artifactKind :=
    hwrote.kind.trans (h.kind manifest (mem_sessions hsession))
  refine ⟨?_, ?_, hwrote.read⟩
  · rw [hwrote.sessions, Ne, List.set_eq_nil_iff]
    exact h.opened
  · intro other hother
    rw [hwrote.sessions] at hother
    rcases List.mem_or_eq_of_mem_set hother with hother | rfl
    · rw [hkind]
      exact h.kind other hother
    · rfl

theorem Consistent.opens (h : Consistent dir disk) :
    Consistent { dir with sessions := dir.sessions ++ [disk] } disk := by
  refine ⟨by simp, ?_, h.read⟩
  intro other hother
  rcases List.mem_append.mp hother with hother | hother
  · exact h.kind other hother
  · rw [List.mem_singleton.mp hother]

variable (env) in
theorem view_noted {noted' : String × LogicalArtifactEntry}
    (h : written.entryOf? = noted manifest.entryOf? (some noted')) :
    written.view env =
      Function.update (manifest.view env) noted'.1 (some (resolved env noted'.2)) := by
  funext other
  unfold ArtifactManifest.view
  rw [h]
  show (Function.update manifest.entryOf? noted'.1 (some noted'.2) other).map _ = _
  rw [Function.update_apply, Function.update_apply]
  split
  · rfl
  · rfl

variable (env) in
theorem view_saved (h : written.entryOf? = noted manifest.entryOf? none) :
    written.view env = manifest.view env := by
  funext other
  unfold ArtifactManifest.view
  rw [h]
  rfl

variable (env) in
theorem copy_set (written : ArtifactManifest) (hsession : dir.sessions[session]? = some manifest)
    (other : Nat) :
    (dir.sessions.set session written)[other]?.map (ArtifactManifest.view env) =
      Function.update (fun i => dir.sessions[i]?.map (ArtifactManifest.view env)) session
        (some (written.view env)) other := by
  rw [List.getElem?_set, Function.update_apply]
  obtain ⟨hlt, -⟩ := List.getElem?_eq_some_iff.mp hsession
  by_cases h : session = other
  · subst h
    simp [hlt]
  · simp [h, Ne.symm h]

/-- **A call on the directory is a call on the map.** -/
theorem view_wrote (h : Consistent dir disk) (hsession : dir.sessions[session]? = some manifest)
    (hwrote : Wrote env dir dir' session manifest written noting) :
    dir'.view env (noted registered noting) =
      SharedCopy.step (dir.view env registered) (sharedCall env session noting) := by
  have hcopy : (dir.view env registered).copy session = some (manifest.view env) := by
    show dir.sessions[session]?.map _ = _
    rw [hsession]
    rfl
  have hdisk := (h.wrote hsession hwrote).onDisk
  have hcopies := copy_set env written hsession
  cases noting with
  | none =>
    show _ = SharedCopy.step (dir.view env registered) (.saves session)
    rw [SharedCopy.step_saves hcopy]
    unfold RunDirectory.view
    rw [hdisk, hwrote.sessions, ← view_saved env hwrote.entries]
    congr 1
    funext other
    rw [hcopies, view_saved env hwrote.entries]
    show Function.update (dir.view env registered).copy session (some (manifest.view env)) other = _
    rw [← hcopy, Function.update_eq_self]
    rfl
  | some noted' =>
    show _ = SharedCopy.step (dir.view env registered)
      (.enters session noted'.1 (resolved env noted'.2))
    rw [SharedCopy.step_enters hcopy, ← view_noted env hwrote.entries]
    unfold RunDirectory.view
    rw [hdisk, hwrote.sessions]
    congr 1
    · funext other
      exact hcopies other
    · funext other
      show (Function.update registered noted'.1 (some noted'.2) other).map _ = _
      rw [Function.update_apply, Function.update_apply]
      split
      · rfl
      · rfl

theorem view_opens (h : Consistent dir disk) :
    RunDirectory.view env { dir with sessions := dir.sessions ++ [disk] } registered =
      SharedCopy.step (dir.view env registered) (.opens dir.sessions.length) := by
  unfold SharedCopy.step RunDirectory.view
  dsimp only
  rw [h.onDisk, h.opens.onDisk]
  congr 1
  funext other
  rw [Function.update_apply, List.getElem?_append]
  by_cases hlt : other < dir.sessions.length
  · rw [if_pos hlt, if_neg (Nat.ne_of_lt hlt)]
  · rw [if_neg hlt]
    by_cases heq : other = dir.sessions.length
    · rw [if_pos heq, heq, Nat.sub_self]
      rfl
    · have hnone : dir.sessions[other]? = none := List.getElem?_eq_none (Nat.le_of_not_lt hlt)
      have hsub : other - dir.sessions.length ≠ 0 := by omega
      rw [if_neg heq, hnone, List.getElem?_singleton, if_neg hsub]

variable (env registered) in
/-- **One call**: on the map it is one call, and the sessions go on writing to one file. -/
theorem step_spec (call : DirectoryCall) (h : Consistent dir disk) :
    (dir.step env call).view env (noted registered (call.registers env dir)) =
        SharedCopy.step (dir.view env registered) (call.shared env dir) ∧
      ∃ disk', Consistent (dir.step env call) disk' := by
  cases call with
  | opens =>
    unfold RunDirectory.step DirectoryCall.registers DirectoryCall.shared
    cases hroot : forRoot dir with
    | none => exact ⟨rfl, disk, h⟩
    | some manifest =>
      obtain rfl := eq_of_forRoot h hroot
      exact ⟨view_opens h, manifest, h.opens⟩
  | on session call now =>
    cases hsession : dir.sessions[session]? with
    | none =>
      simp only [RunDirectory.step, DirectoryCall.registers, DirectoryCall.shared, hsession]
      exact ⟨rfl, disk, h⟩
    | some manifest =>
      cases hperform : call.perform env dir session manifest now with
      | error e =>
        have hnone : call.registers env dir session manifest now = none := by
          unfold SessionCall.registers
          rw [hperform]
        simp only [RunDirectory.step, DirectoryCall.registers, DirectoryCall.shared, hsession,
          hperform, Option.bind_some, hnone]
        exact ⟨rfl, disk, h⟩
      | ok dir' =>
        obtain ⟨written, hwrote⟩ := perform_spec hperform
        simp only [RunDirectory.step, DirectoryCall.registers, DirectoryCall.shared, hsession,
          hperform, Option.bind_some]
        exact ⟨view_wrote h hsession hwrote, written, h.wrote hsession hwrote⟩

theorem listed_iff_sound {recorded : Recorded} (h : Consistent recorded.dir disk) :
    Listed env recorded ↔ (recorded.dir.view env recorded.registered).Sound := by
  have hshared (logicalName : String) :
      (recorded.dir.view env recorded.registered).shared logicalName =
        (disk.entryOf? logicalName).map (resolved env) := by
    show recorded.dir.onDisk.bind _ = _
    rw [h.onDisk]
    rfl
  constructor
  · intro hlisted logicalName path hcurrent
    obtain ⟨entry, hentry, hpath⟩ := Option.map_eq_some_iff.mp hcurrent
    obtain ⟨disk', listed, hdisk, hfound, hsame⟩ := hlisted logicalName entry hentry
    rw [h.onDisk, Option.some_inj] at hdisk
    subst hdisk
    rw [hshared, hfound, Option.map_some, Option.some_inj, ← hpath]
    exact hsame
  · intro hsound logicalName entry hentry
    have hcurrent : (recorded.dir.view env recorded.registered).current logicalName =
        some (resolved env entry) := by
      show (recorded.registered logicalName).map _ = _
      rw [hentry]
      rfl
    have hfound := hsound logicalName _ hcurrent
    rw [hshared, Option.map_eq_some_iff] at hfound
    obtain ⟨listed, hlisted, hsame⟩ := hfound
    exact ⟨disk, listed, h.onDisk, hlisted, hsame⟩

def Orderly (env : Env) (recorded : Recorded) : Prop :=
  (∃ disk, Consistent recorded.dir disk) ∧ (recorded.dir.view env recorded.registered).Known

theorem orderly_step (recorded : Recorded) (call : DirectoryCall) (h : Orderly env recorded) :
    Orderly env (recorded.step env call) := by
  obtain ⟨⟨disk, hconsistent⟩, hknown⟩ := h
  obtain ⟨hview, hnext⟩ := step_spec env recorded.registered call hconsistent
  refine ⟨hnext, ?_⟩
  show ((recorded.dir.step env call).view env (noted recorded.registered _)).Known
  rw [hview]
  exact SharedCopy.known_step hknown

theorem upToDate_view (shared : SharedCopy.Call Nat String (Except ArtifactError Path)) :
    SharedCopy.UpToDate (dir.view env registered) shared ↔
      SharedCopy.UpToDate (dir.view env fun _ => none) shared := by
  cases shared <;> exact Iff.rfl

theorem listed_step_iff (recorded : Recorded) (call : DirectoryCall) (h : Orderly env recorded)
    (hlisted : Listed env recorded) :
    Listed env (recorded.step env call) ↔ call.UpToDate env recorded.dir := by
  obtain ⟨⟨disk, hconsistent⟩, hknown⟩ := h
  obtain ⟨hview, disk', hnext⟩ :=
    step_spec env recorded.registered call hconsistent
  have hsound := (listed_iff_sound hconsistent).mp hlisted
  rw [listed_iff_sound hnext]
  show ((recorded.dir.step env call).view env (noted recorded.registered _)).Sound ↔ _
  rw [hview, SharedCopy.sound_step_iff hknown hsound, upToDate_view]
  exact Iff.rfl

theorem Begun.consistent (h : Begun dir manifest) : Consistent dir manifest where
  opened := by simp [h.sessions]
  kind := by simp [h.sessions]
  read := h.onDisk

theorem Begun.orderly (h : Begun dir manifest) : Orderly env dir.recorded := by
  refine ⟨⟨manifest, h.consistent⟩, ?_⟩
  have hdisk := h.consistent.onDisk
  have hcurrent : (dir.recorded.dir.view env dir.recorded.registered).current = manifest.view env := by
    funext logicalName
    show (dir.onDisk.bind _).map _ = _
    rw [hdisk]
    rfl
  have hshared : (dir.recorded.dir.view env dir.recorded.registered).shared = manifest.view env := by
    funext logicalName
    show dir.onDisk.bind _ = _
    rw [hdisk]
    rfl
  constructor
  · intro logicalName path hpath
    rw [hshared] at hpath
    simp [hcurrent, hpath]
  · intro session copy hcopy logicalName path hpath
    change dir.sessions[session]?.map _ = some copy at hcopy
    obtain ⟨other, hother, rfl⟩ := Option.map_eq_some_iff.mp hcopy
    have hmem := mem_sessions hother
    rw [h.sessions, List.mem_singleton] at hmem
    subst hmem
    rw [hcurrent, hpath]
    simp

theorem Begun.listed (h : Begun dir manifest) : Listed env dir.recorded := by
  intro logicalName entry hentry
  refine ⟨manifest, entry, h.consistent.onDisk, ?_, rfl⟩
  have hfound : dir.onDisk.bind (fun disk => disk.entryOf? logicalName) = some entry := hentry
  rw [h.consistent.onDisk] at hfound
  exact hfound

theorem dir_foldl (calls : List DirectoryCall) (recorded : Recorded) :
    (calls.foldl (Recorded.step env) recorded).dir =
      calls.foldl (RunDirectory.step env) recorded.dir := by
  induction calls generalizing recorded with
  | nil => rfl
  | cons call calls ih => exact ih (recorded.step env call)

theorem begun_initialized (manifest : ArtifactManifest) (now : String) :
    ∃ written, Begun (manifest.initialized now) written :=
  ⟨_, rfl, read_writeManifest⟩

/-- **Which runs list every artifact.** After every part of a run the manifest on disk has all that
any session has registered exactly when no session writes its manifest that lacks an entry of the
one on disk. -/
theorem everyListed_iff {calls : List DirectoryCall} (h : Begun dir manifest) :
    EveryListed env dir calls ↔
      Stateful.Along (RunDirectory.step env) dir (fun dir call => call.UpToDate env dir) calls := by
  have halong : Stateful.Along (Recorded.step env) dir.recorded
      (fun recorded call => call.UpToDate env recorded.dir) calls ↔
        Stateful.Along (RunDirectory.step env) dir (fun dir call => call.UpToDate env dir) calls := by
    unfold Stateful.Along
    simp only [dir_foldl]
    exact Iff.rfl
  rw [← halong]
  exact Stateful.everywhere_iff_along (fun recorded call hinv _ _ => orderly_step recorded call hinv)
    listed_step_iff h.orderly h.listed

/-! ## 5. An evaluated run -/

/-- What the evaluation of a run has left in its directory. -/
structure EvaluationOutputs where
  evaluation : String
  replayRows : Option (List String)
  /-- the rows of the stages that have a file -/
  judgeTasks : List (String × List String)
  /-- the stems of the snapshots and their texts, where there is a directory of them -/
  rawResumes : Option (List (String × String))

def registerAndWrite (session : Nat) (now logicalName path contentType : String)
    (content : ArtifactWrite) : List DirectoryCall :=
  [.on session (.registerPath logicalName { path, contentType, schemaVersion := some "v1" }) now,
    .on session (.write logicalName content) now]

def registerJudgeTasks (session : Nat) (now : String) (stage : String × List String) :
    List DirectoryCall :=
  registerAndWrite session now ("evaluation." ++ stage.1 ++ "_judge_tasks")
    ("evaluation/" ++ stage.1 ++ "_judge_tasks.jsonl") "application/x-ndjson" (.jsonl stage.2)

def registerRawResume (session : Nat) (now : String) (resume : String × String) :
    List DirectoryCall :=
  registerAndWrite session now ("evaluation.raw_resumes." ++ resume.1)
    ("raw_resumes/" ++ resume.1 ++ ".json") "application/json" (.json resume.2)

def registerRawResumes (session : Nat) (now : String) (resumes : List (String × String)) :
    List DirectoryCall :=
  .on session
      (.registerPath "evaluation.raw_resumes"
        { path := "raw_resumes", contentType := "application/x-directory", collection := true })
      now ::
    resumes.flatMap (registerRawResume session now)

/-- `_register_evaluation_outputs`, by the session that it has opened -/
def registerEvaluationOutputs (session : Nat) (now : String) (outputs : EvaluationOutputs) :
    List DirectoryCall :=
  .on session (.write "evaluation.evaluation" (.json outputs.evaluation)) now ::
    (outputs.replayRows.toList.map fun rows =>
      .on session (.write "evaluation.replay_rows" (.jsonl rows)) now) ++
    outputs.judgeTasks.flatMap (registerJudgeTasks session now) ++
    (outputs.rawResumes.toList.flatMap (registerRawResumes session now))

end Sessions

/-- An interpreter of ASCII digits, and a file system without links. -/
def plainEnv : Env where
  decimal c := if c.isDigit then some (c.toNat - '0'.toNat) else none
  linksOut _ := false

def tracedRun : RunDirectory :=
  ArtifactManifest.initialized
    { artifactKind := .run, artifactId := "run_01", createdAt := "t0", updatedAt := "t0"
      status := "running" } "t0"

theorem begun_tracedRun : ∃ written, Begun tracedRun written := begun_initialized _ _

/-- The tracer alone writes the truth of the input. -/
theorem everyListed_iff_inputTruth : ∃ manifest, Begun tracedRun manifest ∧
    (EveryListed plainEnv tracedRun [.on 0 (.write "input.input_truth" (.json "{}")) "t1"] ↔
      Stateful.Along (RunDirectory.step plainEnv) tracedRun
        (fun dir call => call.UpToDate plainEnv dir)
        [.on 0 (.write "input.input_truth" (.json "{}")) "t1"]) := by
  obtain ⟨manifest, hbegun⟩ := begun_tracedRun
  exact ⟨manifest, hbegun, everyListed_iff hbegun⟩

def evaluatedRun : List DirectoryCall :=
  .opens :: registerEvaluationOutputs 1 "t1"
      { evaluation := "{}", replayRows := none, judgeTasks := [], rawResumes := none } ++
    [.on 0 (.write "runtime.term_surface_audit" (.json "{}")) "t2",
      .on 0 (.finalize "completed" none) "t3"]

/-- The evaluation is in its file, and after the tracer has closed no manifest lists it. -/
theorem not_everyListed_evaluatedRun : ¬EveryListed plainEnv tracedRun evaluatedRun := by
  intro h
  have hend := h evaluatedRun [] (by simp)
  have hregistered : ((evaluatedRun.foldl (Recorded.step plainEnv) tracedRun.recorded).registered
      "evaluation.evaluation").isSome = true := by decide
  obtain ⟨entry, hentry⟩ := Option.isSome_iff_exists.mp hregistered
  obtain ⟨disk, listed, hdisk, hlisted, -⟩ := hend "evaluation.evaluation" entry hentry
  have hgone : ((evaluatedRun.foldl (Recorded.step plainEnv) tracedRun.recorded).dir.onDisk.bind
      fun disk => disk.entryOf? "evaluation.evaluation") = none := by decide
  rw [hdisk, Option.bind_some, hlisted] at hgone
  cases hgone

end Artifacts

end SeekTalent

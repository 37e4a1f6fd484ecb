import Mathlib.Logic.Function.Basic
import SeekTalent.Base.Ends

/-!
# Restoring the database from a backup

The database is three files: the main one, and the `-wal` and `-shm` files that SQLite may
have beside it. A restore writes the backup to a temporary file, moves what there is of the
three aside, moves the temporary file to the main one's place, and records that in the audit
trail of the restored database. When something raises after the files are aside, they are put
back; when something raises while they are moved, the handler takes files away that have not
been moved yet.

Every operation on a file may be the one that fails. What SQLite and the file contents are is
not said: they are parameters, with what is relied on.
-/

namespace SeekTalent

open Stateful

/-! ## 1. Files -/

/-- The files of a SQLite database: `_sqlite_database_files`, in the source's order. -/
inductive SqliteFile where
  | main
  | wal
  | shm
  deriving DecidableEq

def sqliteDatabaseFiles : List SqliteFile := [.main, .wal, .shm]

theorem mem_sqliteDatabaseFiles (file : SqliteFile) : file ∈ sqliteDatabaseFiles := by
  cases file <;> simp [sqliteDatabaseFiles]

/-- The paths that a restore touches: a file of the target, its quarantine path
    `….restore-PID.old`, and `….restore-PID.tmp`. -/
inductive RestorePath where
  | target (file : SqliteFile)
  | quarantine (file : SqliteFile)
  | temp
  deriving DecidableEq

/-- What there is at each path, with contents in `α`. -/
abbrev Disk (α : Type) := RestorePath → Option α

/-- The operations of a restore, in the order of the source; one of them may fail. -/
inductive RestoreOp where
  | unlinkTempBefore
  | backup
  | chmodTemp
  | unlinkQuarantine (file : SqliteFile)
  | quarantine (file : SqliteFile)
  | replaceTarget
  | chmodTarget
  | recordAudit
  | unlinkForUndo (file : SqliteFile)
  | undoQuarantine (file : SqliteFile)
  | unlinkTempAfter
  | deleteQuarantined (file : SqliteFile)
  deriving DecidableEq

inductive RestoreError where
  | osError
  | maintenanceError (message : String)

def mainAlone {α : Type} (content : α) : SqliteFile → Option α
  | .main => some content
  | _ => none

/-- What a restore uses of SQLite, for contents `α` that hold data `δ`. -/
structure SqliteLibrary (α δ : Type) where
  /-- Neither `_integrity_check` nor `_validate_workbench_schema` raises. -/
  verifies : α → Bool
  /-- What a main file alone holds. -/
  data : α → δ
  withAuditRow : δ → δ
  /-- The file that `Connection.backup` writes of a database. -/
  copy : α → α
  /-- What `record_security_audit_event` makes of the files of a database; the connection is closed
      when it returns. -/
  record : (SqliteFile → Option α) → SqliteFile → Option α
  verifies_copy : ∀ content, verifies (copy content) = verifies content
  data_copy : ∀ content, data (copy content) = data content
  /-- The last connection to a database that is closed leaves its main file alone. -/
  record_alone : ∀ content, verifies content = true → ∃ recorded,
    record (mainAlone content) = mainAlone recorded ∧ data recorded = withAuditRow (data content)

/-- What a restore is given: SQLite, the backup, the operation that fails, and what a copy and an
    audit leave that fail. -/
structure RestoreSetting (α δ : Type) where
  sqlite : SqliteLibrary α δ
  backup : α
  fault : Option RestoreOp := none
  partialCopy : Option α := none
  partialAudit : SqliteFile → Option α := fun _ => none

namespace RestoreSetting

variable {α δ : Type} (w : RestoreSetting α δ)

/-! ## 2. The program -/

def operation (op : RestoreOp) (effect : Disk α → Disk α) (partly : Disk α → Disk α) :
    Run (Disk α) RestoreError PUnit :=
  attempt w.fault op .osError effect partly

/-- `path.unlink(missing_ok=True)` -/
def unlink (op : RestoreOp) (path : RestorePath) : Run (Disk α) RestoreError PUnit :=
  w.operation op (fun disk => Function.update disk path none) id

/-- `path.chmod(0o600)` -/
def chmod (op : RestoreOp) (path : RestorePath) : Run (Disk α) RestoreError PUnit := do
  let disk ← get
  if (disk path).isNone then throw .osError else w.operation op id id

/-- `source.replace(destination)` -/
def replace (op : RestoreOp) (source destination : RestorePath) :
    Run (Disk α) RestoreError PUnit := do
  let disk ← get
  if (disk source).isNone then throw .osError
  else
    w.operation op
      (fun disk => Function.update (Function.update disk destination (disk source)) source none) id

/-- `_integrity_check` and `_validate_workbench_schema` of the temporary file -/
def checkTemp : Run (Disk α) RestoreError PUnit := do
  let disk ← get
  if (disk .temp).any w.sqlite.verifies then pure ⟨⟩
  else throw (.maintenanceError "backup is not a workbench database")

def filesOf (disk : Disk α) (file : SqliteFile) : Option α := disk (.target file)

def withFiles (files : SqliteFile → Option α) (disk : Disk α) : Disk α
  | .target file => files file
  | path => disk path

/-- `_record_maintenance_audit` of the target -/
def recordAudit : Run (Disk α) RestoreError PUnit :=
  w.operation .recordAudit (fun disk => withFiles (w.sqlite.record (filesOf disk)) disk)
    (withFiles w.partialAudit)

/-- One file of the second loop of `_restore_quarantined_sqlite_files` -/
def undoQuarantine (file : SqliteFile) : Run (Disk α) RestoreError PUnit := do
  let disk ← get
  if (disk (.quarantine file)).isSome then
    w.replace (.undoQuarantine file) (.quarantine file) (.target file)
  else pure ⟨⟩

def restoreQuarantinedSqliteFiles (quarantined : List SqliteFile) :
    Run (Disk α) RestoreError PUnit := do
  sqliteDatabaseFiles.forM fun file => w.unlink (.unlinkForUndo file) (.target file)
  quarantined.forM w.undoQuarantine

/-- One file of `_quarantine_existing_sqlite_files`. It answers what has been moved by now. -/
def quarantineFile (quarantined : List SqliteFile) (file : SqliteFile) :
    Run (Disk α) RestoreError (List SqliteFile) := do
  let disk ← get
  if (disk (.target file)).isSome then do
    w.unlink (.unlinkQuarantine file) (.quarantine file)
    w.replace (.quarantine file) (.target file) (.quarantine file)
    return quarantined ++ [file]
  else return quarantined

/-- The loop of `_quarantine_existing_sqlite_files`, with its handler: whatever raises, what has
    been moved before is put back. -/
def quarantineFrom : List SqliteFile → List SqliteFile → Run (Disk α) RestoreError (List SqliteFile)
  | [], quarantined => return quarantined
  | file :: files, quarantined => do
    let quarantined ← tryCatch (w.quarantineFile quarantined file) fun error => do
      w.restoreQuarantinedSqliteFiles quarantined
      throw error
    quarantineFrom files quarantined

def quarantineExistingSqliteFiles : Run (Disk α) RestoreError (List SqliteFile) :=
  w.quarantineFrom sqliteDatabaseFiles []

def deleteQuarantinedSqliteFiles (quarantined : List SqliteFile) :
    Run (Disk α) RestoreError PUnit :=
  quarantined.forM fun file => w.unlink (.deleteQuarantined file) (.quarantine file)

def putInPlace : Run (Disk α) RestoreError PUnit := do
  w.replace .replaceTarget .temp (.target .main)
  w.chmod .chmodTarget (.target .main)
  w.recordAudit

/-- The inner `try` of `_restore_database_file` -/
def tryPutInPlace (quarantined : List SqliteFile) : Run (Disk α) RestoreError PUnit :=
  tryCatch w.putInPlace fun _ => do
    w.restoreQuarantinedSqliteFiles quarantined
    throw (.maintenanceError "restore failed; original database restored")

/-- The body of the outer `try` of `_restore_database_file`. It answers what is in quarantine. -/
def restoreBody : Run (Disk α) RestoreError (List SqliteFile) := do
  w.operation .backup (fun disk => Function.update disk .temp (some (w.sqlite.copy w.backup)))
    fun disk => Function.update disk .temp w.partialCopy
  w.chmod .chmodTemp .temp
  w.checkTemp
  let quarantined ← w.quarantineExistingSqliteFiles
  w.tryPutInPlace quarantined
  return quarantined

/-- `_restore_database_file`. The `finally` is written out for both ways the body ends. -/
def restoreDatabaseFile : Run (Disk α) RestoreError PUnit := do
  w.unlink .unlinkTempBefore .temp
  let quarantined ← tryCatch w.restoreBody fun error => do
    w.unlink .unlinkTempAfter .temp
    throw error
  w.unlink .unlinkTempAfter .temp
  w.deleteQuarantinedSqliteFiles quarantined

/-! ## 3. Operations -/

section Operations

variable {w} {P : Disk α → Prop} {Q : PUnit → Disk α → Prop} {E : RestoreError → Disk α → Prop}
variable {op : RestoreOp} {path source destination : RestorePath}

theorem ends_unlink
    (hok : w.fault ≠ some op → ∀ disk, P disk → Q ⟨⟩ (Function.update disk path none))
    (hfail : w.fault = some op → ∀ disk, P disk → E .osError disk) :
    Ends P (w.unlink op path) Q E :=
  Ends.attempt hok hfail

theorem ends_chmod (hpath : ∀ disk, P disk → (disk path).isSome)
    (hok : w.fault ≠ some op → ∀ disk, P disk → Q ⟨⟩ disk)
    (hfail : w.fault = some op → ∀ disk, P disk → E .osError disk) :
    Ends P (w.chmod op path) Q E := by
  apply Ends.bind Ends.get
  intro disk
  apply Ends.ite
  · intro hnone
    apply Ends.throw
    intro disk' h
    obtain ⟨rfl, h⟩ := h
    exact absurd (hpath disk h) (by simp [Option.isNone_iff_eq_none.mp hnone])
  · intro _
    apply Ends.attempt
    · intro hfault disk' h
      exact hok hfault disk' h.2
    · intro hfault disk' h
      exact hfail hfault disk' h.2

theorem ends_replace (hsource : ∀ disk, P disk → (disk source).isSome)
    (hok : w.fault ≠ some op → ∀ disk, P disk → Q ⟨⟩
      (Function.update (Function.update disk destination (disk source)) source none))
    (hfail : w.fault = some op → ∀ disk, P disk → E .osError disk) :
    Ends P (w.replace op source destination) Q E := by
  apply Ends.bind Ends.get
  intro disk
  apply Ends.ite
  · intro hnone
    apply Ends.throw
    intro disk' h
    obtain ⟨rfl, h⟩ := h
    exact absurd (hsource disk h) (by simp [Option.isNone_iff_eq_none.mp hnone])
  · intro _
    apply Ends.attempt
    · intro hfault disk' h
      obtain ⟨rfl, h⟩ := h
      exact hok hfault disk h
    · intro hfault disk' h
      exact hfail hfault disk' h.2

end Operations

end RestoreSetting

end SeekTalent

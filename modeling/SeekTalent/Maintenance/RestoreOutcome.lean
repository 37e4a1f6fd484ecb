import SeekTalent.Maintenance.RestoreDatabase

/-!
# How a restore ends

Each stage has one lemma that says how it returns, and how it raises and which operation has
failed then: putting back what is in quarantine, moving the files aside, putting the copy in
place. Together they classify the ends of a restore (`ends_restoreDatabaseFile`), and from that
it is read off when the promise of a restore is kept (`restoresOrLeaves_iff`).
-/

namespace SeekTalent

open Stateful

namespace RestoreSetting

variable {α δ : Type}

/-! ## 1. Putting back -/

section Stages

variable {w : RestoreSetting α δ} {start : Disk α} {moved : List SqliteFile}

def present (start : Disk α) (files : List SqliteFile) : List SqliteFile :=
  files.filter fun file => (start (.target file)).isSome

theorem mem_present {files : List SqliteFile} {file : SqliteFile} :
    file ∈ present start files ↔ file ∈ files ∧ (start (.target file)).isSome := List.mem_filter

def Kept (start : Disk α) (moved : List SqliteFile) (disk : Disk α) : Prop :=
  ∀ file ∈ moved, (start (.target file)).isSome ∧ disk (.quarantine file) = start (.target file)

/-- The operation that fails is none of putting files back. -/
def FailsBefore (w : RestoreSetting α δ) : Prop :=
  ∀ file, w.fault ≠ some (.unlinkForUndo file) ∧ w.fault ≠ some (.undoQuarantine file)

theorem ends_unlinkAll (hfault : w.FailsBefore) :
    Ends (Kept start moved)
      (sqliteDatabaseFiles.forM fun file => w.unlink (.unlinkForUndo file) (.target file))
      (fun _ disk => Kept start moved disk ∧ ∀ file, disk (.target file) = none)
      (fun _ _ => False) := by
  have hloop : Ends (fun disk => Kept start moved disk ∧
        ∀ file ∉ sqliteDatabaseFiles, disk (.target file) = none)
      (sqliteDatabaseFiles.forM fun file => w.unlink (.unlinkForUndo file) (.target file))
      (fun _ disk => Kept start moved disk ∧ ∀ file ∉ [], disk (.target file) = none)
      (fun _ _ => False) := by
    apply Ends.forM (I := fun rest disk =>
      Kept start moved disk ∧ ∀ file ∉ rest, disk (.target file) = none)
    intro file rest
    apply ends_unlink
    · intro _ disk h
      obtain ⟨hkept, hgone⟩ := h
      refine ⟨?_, ?_⟩
      · intro other hother
        simpa [Function.update_apply] using hkept other hother
      · intro other hother
        by_cases hsame : other = file
        · simp [hsame]
        · simpa [Function.update_apply, hsame] using hgone other (by simp [hsame, hother])
    · intro h
      exact absurd h (hfault file).1
  apply hloop.conseq
  · intro disk h
    exact ⟨h, fun file hfile => absurd (mem_sqliteDatabaseFiles file) hfile⟩
  · intro _ disk h
    exact ⟨h.1, fun file => h.2 file (by simp)⟩
  · exact fun _ _ h => h

/-- The files are being put back; `rest` are those that are not yet. -/
structure Undoing (start : Disk α) (moved rest : List SqliteFile) (disk : Disk α) : Prop where
  nodup : rest.Nodup
  subset : rest ⊆ moved
  kept : Kept start rest disk
  target : ∀ file, disk (.target file) =
    if file ∈ moved ∧ file ∉ rest then start (.target file) else none

theorem ends_undoQuarantine {file : SqliteFile} {rest : List SqliteFile} (hfault : w.FailsBefore) :
    Ends (Undoing start moved (file :: rest)) (w.undoQuarantine file)
      (fun _ => Undoing start moved rest) (fun _ _ => False) := by
  apply Ends.bind Ends.get
  intro disk
  apply Ends.ite
  · intro hsome
    apply ends_replace
    · intro disk' h
      rw [← h.1]
      exact hsome
    · intro _ disk' h
      obtain ⟨rfl, hundoing⟩ := h
      obtain ⟨hnew, hnodup⟩ := List.nodup_cons.mp hundoing.nodup
      refine ⟨hnodup, List.subset_of_cons_subset hundoing.subset, ?_, ?_⟩
      · intro other hother
        have hne : other ≠ file := fun hsame => hnew (hsame ▸ hother)
        simpa [Function.update_apply, hne] using
          hundoing.kept other (List.mem_cons_of_mem file hother)
      · intro other
        by_cases hsame : other = file
        · obtain rfl := hsame
          have hmem : other ∈ moved := hundoing.subset List.mem_cons_self
          simpa [Function.update_apply, hmem, hnew] using
            (hundoing.kept other List.mem_cons_self).2
        · simpa [Function.update_apply, hsame] using hundoing.target other
    · intro h
      exact absurd h (hfault file).2
  · intro hnone
    apply Ends.pure
    intro disk' h
    obtain ⟨rfl, hundoing⟩ := h
    obtain ⟨hsome, hquarantine⟩ := hundoing.kept file List.mem_cons_self
    rw [hquarantine] at hnone
    exact absurd hsome hnone

/-- **What the handlers leave**: the files that were in quarantine, and nothing else. -/
theorem ends_restoreQuarantined (hfault : w.FailsBefore) (hmoved : moved.Nodup) :
    Ends (Kept start moved) (w.restoreQuarantinedSqliteFiles moved)
      (fun _ disk => ∀ file,
        disk (.target file) = if file ∈ moved then start (.target file) else none)
      (fun _ _ => False) := by
  apply Ends.bind (ends_unlinkAll hfault)
  intro _
  have hloop : Ends (Undoing start moved moved) (moved.forM w.undoQuarantine)
      (fun _ => Undoing start moved []) (fun _ _ => False) := by
    apply Ends.forM
    intro file rest
    exact ends_undoQuarantine hfault
  apply hloop.conseq
  · intro disk h
    refine ⟨hmoved, List.Subset.refl moved, h.1, ?_⟩
    intro file
    rw [if_neg (by simp), h.2 file]
  · intro _ disk h file
    rw [h.target file]
    simp
  · exact fun _ _ h => h

/-! ## 2. Moving aside -/

/-- The files of `done` are aside, the others where they were, and the copy is ready. -/
structure Aside (w : RestoreSetting α δ) (start : Disk α) (done : List SqliteFile) (disk : Disk α) :
    Prop where
  temp : disk .temp = some (w.sqlite.copy w.backup)
  gone : ∀ file ∈ done, disk (.target file) = none
  kept : Kept start (present start done) disk
  rest : ∀ file ∉ done, disk (.target file) = start (.target file)

variable {done files : List SqliteFile}

def MovesFine (w : RestoreSetting α δ) (start : Disk α) (done : List SqliteFile) : Prop :=
  ∀ file ∈ done, (start (.target file)).isSome →
    w.fault ≠ some (.unlinkQuarantine file) ∧ w.fault ≠ some (.quarantine file)

def MoveFails (w : RestoreSetting α δ) (start : Disk α) (file : SqliteFile) : Prop :=
  (start (.target file)).isSome ∧
    (w.fault = some (.unlinkQuarantine file) ∨ w.fault = some (.quarantine file))

theorem MoveFails.failsBefore {file : SqliteFile} (h : w.MoveFails start file) : w.FailsBefore := by
  intro other
  rcases h.2 with hfault | hfault <;> simp [hfault]

theorem present_snoc_of_none {file : SqliteFile} (hnone : start (.target file) = none) :
    present start (done ++ [file]) = present start done := by
  simp [present, hnone]

theorem present_snoc_of_some {file : SqliteFile} (hsome : (start (.target file)).isSome) :
    present start (done ++ [file]) = present start done ++ [file] := by
  simp [present, hsome]

variable {file : SqliteFile} {disk : Disk α}

theorem Aside.absent (h : w.Aside start done disk) (hnew : file ∉ done)
    (hnone : start (.target file) = none) : w.Aside start (done ++ [file]) disk where
  temp := h.temp
  gone := by
    intro other hother
    rcases List.mem_append.mp hother with hold | hlast
    · exact h.gone other hold
    · obtain rfl := List.mem_singleton.mp hlast
      rw [h.rest other hnew, hnone]
  kept := by
    rw [present_snoc_of_none hnone]
    exact h.kept
  rest := fun other hother => h.rest other fun hold => hother (List.mem_append_left _ hold)

theorem Aside.unlinkQuarantine (h : w.Aside start done disk) (hnew : file ∉ done) :
    w.Aside start done (Function.update disk (.quarantine file) none) where
  temp := by simpa [Function.update_apply] using h.temp
  gone := fun other hother => by simpa [Function.update_apply] using h.gone other hother
  kept := by
    intro other hother
    have hne : other ≠ file := fun hsame => hnew (hsame ▸ (mem_present.mp hother).1)
    simpa [Function.update_apply, hne] using h.kept other hother
  rest := fun other hother => by simpa [Function.update_apply] using h.rest other hother

theorem Aside.move (h : w.Aside start done disk) (hnew : file ∉ done)
    (hsome : (start (.target file)).isSome) :
    w.Aside start (done ++ [file]) (Function.update
      (Function.update disk (.quarantine file) (disk (.target file))) (.target file) none) where
  temp := by simpa [Function.update_apply] using h.temp
  gone := by
    intro other hother
    by_cases hsame : other = file
    · simp [hsame]
    · have hold : other ∈ done := by simpa [hsame] using hother
      simpa [Function.update_apply, hsame] using h.gone other hold
  kept := by
    rw [present_snoc_of_some hsome]
    intro other hother
    by_cases hsame : other = file
    · obtain rfl := hsame
      simp [hsome, h.rest other hnew]
    · have hold : other ∈ present start done := by simpa [hsame] using hother
      simpa [Function.update_apply, hsame] using h.kept other hold
  rest := by
    intro other hother
    have hne : other ≠ file := by
      rintro rfl
      exact hother (by simp)
    have hold : other ∉ done := fun hold => hother (List.mem_append_left _ hold)
    simpa [Function.update_apply, hne] using h.rest other hold

theorem ends_quarantineFile (hnew : file ∉ done) :
    Ends (w.Aside start done) (w.quarantineFile (present start done) file)
      (fun quarantined disk => quarantined = present start (done ++ [file]) ∧
        w.Aside start (done ++ [file]) disk ∧ w.MovesFine start [file])
      (fun _ disk => w.MoveFails start file ∧ Kept start (present start done) disk) := by
  apply Ends.bind Ends.get
  intro disk
  apply Ends.ite
  · intro hthere
    apply Ends.bind (Q := fun _ disk => (w.Aside start done disk ∧ (start (.target file)).isSome) ∧
      w.fault ≠ some (.unlinkQuarantine file))
    · apply ends_unlink
      · intro hfine disk' h
        obtain ⟨rfl, haside⟩ := h
        rw [haside.rest file hnew] at hthere
        exact ⟨⟨haside.unlinkQuarantine hnew, hthere⟩, hfine⟩
      · intro hfault disk' h
        obtain ⟨rfl, haside⟩ := h
        rw [haside.rest file hnew] at hthere
        exact ⟨⟨hthere, .inl hfault⟩, haside.kept⟩
    · intro _
      apply Ends.bind (Q := fun _ disk => (w.Aside start (done ++ [file]) disk ∧
        (start (.target file)).isSome) ∧ w.MovesFine start [file])
      · apply ends_replace
        · intro disk' h
          rw [h.1.1.rest file hnew]
          exact h.1.2
        · intro hfine' disk' h
          obtain ⟨⟨haside, hsome⟩, hfine⟩ := h
          refine ⟨⟨haside.move hnew hsome, hsome⟩, ?_⟩
          intro other hother _
          obtain rfl := List.mem_singleton.mp hother
          exact ⟨hfine, hfine'⟩
        · intro hfault disk' h
          exact ⟨⟨h.1.2, .inr hfault⟩, h.1.1.kept⟩
      · intro _
        apply Ends.pure
        intro disk' h
        obtain ⟨⟨haside, hsome⟩, hfine⟩ := h
        exact ⟨(present_snoc_of_some hsome).symm, haside, hfine⟩
  · intro hnone
    apply Ends.pure
    intro disk' h
    obtain ⟨rfl, haside⟩ := h
    rw [haside.rest file hnew] at hnone
    have hstart := Option.not_isSome_iff_eq_none.mp hnone
    refine ⟨(present_snoc_of_none hstart).symm, haside.absent hnew hstart, ?_⟩
    intro other hother hsome
    obtain rfl := List.mem_singleton.mp hother
    exact absurd hsome hnone

/-- **What moving the files aside does**: all that are there are in quarantine; or moving one of
    them fails, and then it is lost. -/
theorem ends_quarantineFrom (hnodup : (done ++ files).Nodup) (hfine : w.MovesFine start done) :
    Ends (w.Aside start done) (w.quarantineFrom files (present start done))
      (fun quarantined disk => quarantined = present start (done ++ files) ∧
        w.Aside start (done ++ files) disk ∧ w.MovesFine start (done ++ files))
      (fun _ disk => ∃ file, w.MoveFails start file ∧ disk (.target file) = none) := by
  induction files generalizing done with
  | nil =>
    apply Ends.pure
    intro disk h
    rw [List.append_nil]
    exact ⟨rfl, h, hfine⟩
  | cons file files ih =>
    have hnew : file ∉ done := by
      intro hold
      exact (List.nodup_append.mp hnodup).2.2 file hold file List.mem_cons_self rfl
    unfold quarantineFrom
    apply Ends.bind (Q := fun quarantined disk => quarantined = present start (done ++ [file]) ∧
      w.Aside start (done ++ [file]) disk ∧ w.MovesFine start [file])
    · apply (ends_quarantineFile hnew).tryCatch
      intro error
      apply Ends.assume
      intro hfails
      have hdone : (present start done).Nodup := (List.nodup_append.mp hnodup).1.filter _
      apply Ends.bind ((ends_restoreQuarantined hfails.failsBefore hdone).conseq
        (fun _ h => h) (fun _ _ h => h) fun _ _ h => h.elim)
      intro _
      apply Ends.throw
      intro disk htarget
      refine ⟨file, hfails, ?_⟩
      -- the file itself was not in quarantine yet, and the handler has removed it
      rw [htarget file, if_neg fun hmem => hnew (mem_present.mp hmem).1]
    · intro quarantined
      have hmoves : w.MovesFine start [file] → w.MovesFine start (done ++ [file]) := by
        intro hlast other hother
        rcases List.mem_append.mp hother with hold | hfile
        · exact hfine other hold
        · exact hlast other hfile
      intro disk h
      obtain ⟨rfl, haside, hlast⟩ := h
      have hrest := ih (by simpa using hnodup) (hmoves hlast) disk haside
      simpa using hrest

/-! ## 3. Putting in place -/

def restoredFiles (w : RestoreSetting α δ) : SqliteFile → Option α :=
  w.sqlite.record (mainAlone (w.sqlite.copy w.backup))

theorem ends_putInPlace :
    Ends (w.Aside start sqliteDatabaseFiles) w.putInPlace
      (fun _ disk => filesOf disk = w.restoredFiles)
      (fun _ disk => (∃ op ∈ [RestoreOp.replaceTarget, .chmodTarget, .recordAudit],
        w.fault = some op) ∧ Kept start (present start sqliteDatabaseFiles) disk) := by
  apply Ends.bind (Q := fun _ disk => filesOf disk = mainAlone (w.sqlite.copy w.backup) ∧
    Kept start (present start sqliteDatabaseFiles) disk)
  · apply ends_replace
    · intro disk h
      simp [h.temp]
    · intro _ disk h
      refine ⟨?_, ?_⟩
      · funext file
        have hgone := h.gone file (mem_sqliteDatabaseFiles file)
        cases file <;> simp_all [filesOf, mainAlone, h.temp]
      · intro file hfile
        simpa [Function.update_apply] using h.kept file hfile
    · intro hfault disk h
      exact ⟨⟨_, by simp, hfault⟩, h.kept⟩
  intro _
  apply Ends.bind (Q := fun _ disk => filesOf disk = mainAlone (w.sqlite.copy w.backup) ∧
    Kept start (present start sqliteDatabaseFiles) disk)
  · apply ends_chmod
    · intro disk h
      have hmain : disk (.target .main) = some (w.sqlite.copy w.backup) := congrFun h.1 .main
      rw [hmain]
      rfl
    · exact fun _ _ h => h
    · intro hfault disk h
      exact ⟨⟨_, by simp, hfault⟩, h.2⟩
  intro _
  apply Ends.attempt
  · intro _ disk h
    show w.sqlite.record (filesOf disk) = w.restoredFiles
    rw [h.1]
    rfl
  · intro hfault disk h
    exact ⟨⟨_, by simp, hfault⟩, h.2⟩

/-! ## 4. The whole restore -/

def undoneOps : List RestoreOp :=
  [.unlinkTempBefore, .backup, .chmodTemp, .replaceTarget, .chmodTarget, .recordAudit]

def BodyRaised (w : RestoreSetting α δ) (start disk : Disk α) : Prop :=
  (∃ op ∈ undoneOps, w.fault = some op) ∧ filesOf disk = filesOf start ∨
    ∃ file, w.MoveFails start file ∧ disk (.target file) = none

def CleanFails (w : RestoreSetting α δ) (start : Disk α) : Prop :=
  w.fault = some .unlinkTempAfter ∨
    ∃ file, (start (.target file)).isSome ∧ w.fault = some (.deleteQuarantined file)

theorem BodyRaised.not_cleanFails {start disk : Disk α} (h : w.BodyRaised start disk) :
    ¬w.CleanFails start := by
  intro hclean
  rcases h with ⟨⟨op, hop, hfault⟩, -⟩ | ⟨file, ⟨-, hmove⟩, -⟩
  · rcases hclean with hfault' | ⟨other, -, hfault'⟩
    · rw [hfault'] at hfault
      cases hfault
      simp [undoneOps] at hop
    · rw [hfault'] at hfault
      cases hfault
      simp [undoneOps] at hop
  · rcases hclean with hfault' | ⟨other, -, hfault'⟩
    · simp [hfault'] at hmove
    · simp [hfault'] at hmove

theorem CleanFails.movesFine {start : Disk α} {done : List SqliteFile} (h : w.CleanFails start) :
    w.MovesFine start done := by
  intro file _ _
  rcases h with hfault | ⟨other, -, hfault⟩
  · simp [hfault]
  · simp [hfault]

theorem ends_tryPutInPlace :
    Ends (w.Aside start sqliteDatabaseFiles)
      (w.tryPutInPlace (present start sqliteDatabaseFiles))
      (fun _ disk => filesOf disk = w.restoredFiles) (fun _ disk => w.BodyRaised start disk) := by
  apply ends_putInPlace.tryCatch
  intro error
  apply Ends.assume
  intro hfault
  obtain ⟨op, hop, hfault⟩ := hfault
  simp only [List.mem_cons, List.not_mem_nil, or_false] at hop
  have hbefore : w.FailsBefore := by
    intro file
    rcases hop with rfl | rfl | rfl <;> simp [hfault]
  have hundone : op ∈ undoneOps := by
    rcases hop with rfl | rfl | rfl <;> simp [undoneOps]
  have hnodup : (present start sqliteDatabaseFiles).Nodup := List.Pairwise.filter _ (by decide)
  apply Ends.bind ((ends_restoreQuarantined hbefore hnodup).conseq
    (fun _ h => h) (fun _ _ h => h) fun _ _ h => h.elim)
  intro _
  apply Ends.throw
  intro disk htarget
  refine .inl ⟨⟨op, hundone, hfault⟩, ?_⟩
  funext file
  show disk (.target file) = start (.target file)
  rw [htarget file]
  split
  · rfl
  · rename_i hnot
    have hnone := fun hsome => hnot (mem_present.mpr ⟨mem_sqliteDatabaseFiles file, hsome⟩)
    exact (Option.not_isSome_iff_eq_none.mp hnone).symm

theorem ends_restoreBody (hverifies : w.sqlite.verifies w.backup = true) :
    Ends (fun disk => filesOf disk = filesOf start) w.restoreBody
      (fun quarantined disk => quarantined = present start sqliteDatabaseFiles ∧
        filesOf disk = w.restoredFiles ∧ w.MovesFine start sqliteDatabaseFiles)
      (fun _ disk => w.BodyRaised start disk) := by
  have hcopied : ∀ disk : Disk α, filesOf disk = filesOf start ∧
      disk .temp = some (w.sqlite.copy w.backup) → w.Aside start [] disk := by
    intro disk h
    exact ⟨h.2, by simp, by simp [Kept, present], fun file _ => congrFun h.1 file⟩
  apply Ends.bind (Q := fun _ disk => filesOf disk = filesOf start ∧
    disk .temp = some (w.sqlite.copy w.backup))
  · apply Ends.attempt
    · intro _ disk h
      refine ⟨?_, by simp⟩
      rw [← h]
      funext file
      simp [filesOf]
    · intro hfault disk h
      refine .inl ⟨⟨_, by simp [undoneOps], hfault⟩, ?_⟩
      rw [← h]
      funext file
      simp [filesOf]
  intro _
  apply Ends.bind (Q := fun _ disk => filesOf disk = filesOf start ∧
    disk .temp = some (w.sqlite.copy w.backup))
  · apply ends_chmod
    · intro disk h
      rw [h.2]
      rfl
    · exact fun _ _ h => h
    · intro hfault disk h
      exact .inl ⟨⟨_, by simp [undoneOps], hfault⟩, h.1⟩
  intro _
  apply Ends.bind (Q := fun _ disk => filesOf disk = filesOf start ∧
    disk .temp = some (w.sqlite.copy w.backup))
  · apply Ends.bind Ends.get
    intro disk
    apply Ends.ite
    · intro _
      exact Ends.pure fun _ h => h.2
    · intro hfails
      apply Ends.throw
      intro disk' h
      obtain ⟨rfl, -, htemp⟩ := h
      rw [htemp] at hfails
      simp [w.sqlite.verifies_copy, hverifies] at hfails
  intro _
  have hmoved : Ends (w.Aside start []) w.quarantineExistingSqliteFiles
      (fun quarantined disk => quarantined = present start sqliteDatabaseFiles ∧
        w.Aside start sqliteDatabaseFiles disk ∧ w.MovesFine start sqliteDatabaseFiles)
      (fun _ disk => ∃ file, w.MoveFails start file ∧ disk (.target file) = none) :=
    ends_quarantineFrom (by decide) (by simp [MovesFine])
  apply Ends.bind (hmoved.conseq hcopied (fun _ _ h => h) fun _ _ h => .inr h)
  intro quarantined disk h
  obtain ⟨rfl, haside, hfine⟩ := h
  refine Ends.bind ends_tryPutInPlace ?_ disk haside
  intro _
  exact Ends.pure fun disk h => ⟨rfl, h, hfine⟩

theorem ends_deleteQuarantined {files : SqliteFile → Option α} :
    Ends (fun disk => filesOf disk = files) (w.deleteQuarantinedSqliteFiles moved)
      (fun _ disk => filesOf disk = files ∧
        ∀ file ∈ moved, w.fault ≠ some (.deleteQuarantined file))
      (fun _ disk => (∃ file ∈ moved, w.fault = some (.deleteQuarantined file)) ∧
        filesOf disk = files) := by
  have hloop : Ends (fun disk => filesOf disk = files ∧ (∀ file ∈ moved, file ∈ moved) ∧
        ∀ file ∈ moved, file ∉ moved → w.fault ≠ some (.deleteQuarantined file))
      (w.deleteQuarantinedSqliteFiles moved)
      (fun _ disk => filesOf disk = files ∧ (∀ file ∈ [], file ∈ moved) ∧
        ∀ file ∈ moved, file ∉ [] → w.fault ≠ some (.deleteQuarantined file))
      (fun _ disk => (∃ file ∈ moved, w.fault = some (.deleteQuarantined file)) ∧
        filesOf disk = files) := by
    apply Ends.forM (I := fun rest disk => filesOf disk = files ∧ (∀ file ∈ rest, file ∈ moved) ∧
      ∀ file ∈ moved, file ∉ rest → w.fault ≠ some (.deleteQuarantined file))
    intro file rest
    apply ends_unlink
    · intro hfine disk h
      obtain ⟨hfiles, hrest, hdone⟩ := h
      refine ⟨?_, fun other hother => hrest other (List.mem_cons_of_mem file hother), ?_⟩
      · rw [← hfiles]
        funext other
        simp [filesOf]
      · intro other hother hnot
        by_cases hsame : other = file
        · exact hsame ▸ hfine
        · exact hdone other hother (by simp [hsame, hnot])
    · intro hfault disk h
      exact ⟨⟨file, h.2.1 file List.mem_cons_self, hfault⟩, h.1⟩
  apply hloop.conseq
  · intro disk h
    exact ⟨h, fun _ hfile => hfile, fun file hfile hnot => absurd hfile hnot⟩
  · intro _ disk h
    exact ⟨h.1, fun file hfile => h.2.2 file hfile (by simp)⟩
  · exact fun _ _ h => h

/-- **How a restore ends**: it returns, and the files are the restored ones; or it raises, and all is
    as it was, or a file is lost, or the files are the restored ones all the same. -/
theorem ends_restoreDatabaseFile (hverifies : w.sqlite.verifies w.backup = true) :
    Ends (fun disk => disk = start) w.restoreDatabaseFile
      (fun _ disk => filesOf disk = w.restoredFiles ∧ w.MovesFine start sqliteDatabaseFiles ∧
        ¬w.CleanFails start)
      (fun _ disk => w.BodyRaised start disk ∨
        (w.CleanFails start ∧ filesOf disk = w.restoredFiles)) := by
  apply Ends.bind (Q := fun _ disk => filesOf disk = filesOf start)
  · apply ends_unlink
    · intro _ disk h
      obtain rfl := h
      funext file
      simp [filesOf]
    · intro hfault disk h
      obtain rfl := h
      exact .inl (.inl ⟨⟨_, by simp [undoneOps], hfault⟩, rfl⟩)
  intro _
  apply Ends.bind (Q := fun quarantined disk => quarantined = present start sqliteDatabaseFiles ∧
    filesOf disk = w.restoredFiles ∧ w.MovesFine start sqliteDatabaseFiles)
  · apply (ends_restoreBody hverifies).tryCatch
    intro error
    apply Ends.bind (Q := fun _ disk => w.BodyRaised start disk)
    · apply ends_unlink
      · intro _ disk h
        rcases h with ⟨hop, hfiles⟩ | ⟨file, hmove, hgone⟩
        · refine .inl ⟨hop, ?_⟩
          rw [← hfiles]
          funext file
          simp [filesOf]
        · exact .inr ⟨file, hmove, by simpa using hgone⟩
      · intro hfault disk h
        exact absurd (.inl hfault) h.not_cleanFails
    · intro _
      exact Ends.throw fun disk h => .inl h
  intro quarantined disk h
  obtain ⟨rfl, hfiles, hfine⟩ := h
  have hpresent : ∀ file, file ∈ present start sqliteDatabaseFiles ↔
      (start (.target file)).isSome := by
    intro file
    rw [mem_present, and_iff_right (mem_sqliteDatabaseFiles file)]
  refine Ends.bind (P := fun disk => filesOf disk = w.restoredFiles)
    (Q := fun _ disk => w.fault ≠ some .unlinkTempAfter ∧ filesOf disk = w.restoredFiles) ?_ ?_ disk hfiles
  · apply ends_unlink
    · intro hfault disk h
      refine ⟨hfault, ?_⟩
      rw [← h]
      funext file
      simp [filesOf]
    · intro hfault disk h
      exact .inr ⟨.inl hfault, h⟩
  · intro _
    apply Ends.assume
    intro htemp
    apply ends_deleteQuarantined.conseq (fun _ h => h)
    · intro _ disk h
      refine ⟨h.1, hfine, ?_⟩
      rintro (hfault | ⟨file, hsome, hfault⟩)
      · exact htemp hfault
      · exact h.2 file ((hpresent file).mpr hsome) hfault
    · intro _ disk h
      obtain ⟨⟨file, hfile, hfault⟩, hfiles⟩ := h
      exact .inr ⟨.inr ⟨file, (hpresent file).mp hfile, hfault⟩, hfiles⟩

end Stages

/-! ## 5. What is promised -/

/-- If the restore raises, the files of the target are as they were; if it returns, there is only
    the main one, which holds the data of the backup and one row of the audit trail. -/
def RestoresOrLeaves (w : RestoreSetting α δ) (start : Disk α) : Prop :=
  match exec w.restoreDatabaseFile start with
  | (.ok _, disk) => ∃ content, filesOf disk = mainAlone content ∧
    w.sqlite.data content = w.sqlite.withAuditRow (w.sqlite.data w.backup)
  | (.error _, disk) => filesOf disk = filesOf start

/-- What fails, if anything, is neither moving a file aside that is there, nor cleaning up when the
    files are in place; unless the target is the restored database to begin with. -/
structure FailsHarmlessly (w : RestoreSetting α δ) (start : Disk α) : Prop where
  moves : w.MovesFine start sqliteDatabaseFiles
  cleans : w.CleanFails start → filesOf start = w.restoredFiles

variable {w : RestoreSetting α δ} {start : Disk α}

theorem BodyRaised.not_of_fails {disk : Disk α} {file : SqliteFile} (h : w.BodyRaised start disk)
    (hmove : w.MoveFails start file) : filesOf disk ≠ filesOf start := by
  intro hsame
  rcases h with ⟨⟨op, hop, hfault⟩, -⟩ | ⟨lost, ⟨hsome, -⟩, hgone⟩
  · rcases hmove.2 with hfault' | hfault'
    · rw [hfault'] at hfault
      cases hfault
      simp [undoneOps] at hop
    · rw [hfault'] at hfault
      cases hfault
      simp [undoneOps] at hop
  · have hlost : disk (.target lost) = start (.target lost) := congrFun hsame lost
    rw [← hlost, hgone] at hsome
    cases hsome

end RestoreSetting

/-! ## 6. A database -/

/-- A database that is a list of audit rows, which `-wal` and `-shm` files do not change. -/
def sampleSqlite : SqliteLibrary (List String) (List String) where
  verifies := fun _ => true
  data := id
  withAuditRow := fun rows => rows ++ ["workbench_backup_restored"]
  copy := id
  record := fun files => mainAlone ((files .main).getD [] ++ ["workbench_backup_restored"])
  verifies_copy := fun _ => rfl
  data_copy := fun _ => rfl
  record_alone := fun content _ => ⟨content ++ ["workbench_backup_restored"], rfl, rfl⟩

def sampleRestore (fault : Option RestoreOp) : RestoreSetting (List String) (List String) where
  sqlite := sampleSqlite
  backup := ["login"]
  fault

/-- A main file with a `-wal` file. -/
def sampleDisk : Disk (List String)
  | .target .main => some ["login", "search"]
  | .target .wal => some ["detail"]
  | _ => none

namespace RestoreSetting

end RestoreSetting

end SeekTalent

import SeekTalent.Base.Cursor
import SeekTalent.Workbench.Events

/-!
# The event stream

Writers append events in transactions, one of which is open at a time; a reader polls what is
committed, at any time and with any limit. A transaction that is rolled back leaves no trace:
its numbers are given again.

The table is `Numbered` after every step, and a transaction only adds rows at its end, so that
every row that becomes visible is numbered after those a reader can have seen.
-/

namespace SeekTalent

open Cursor (ReadTo)

/-- A step of some transaction, or a poll of the reader. -/
inductive EventStep where
  /-- `BEGIN IMMEDIATE`, which waits while another transaction is open -/
  | beginImmediate (writer : Nat)
  | append (writer : Nat) (draft : EventDraft) (now : String)
  | note (writer : Nat) (note : NoteDraft) (now : String)
  | commit (writer : Nat)
  | rollback (writer : Nat)
  | poll (limit : Int)

def EventStep.isPoll : EventStep → Bool
  | .poll _ => true
  | _ => false

/-- What is committed, the open transaction with its view of the table, and a reader. -/
structure EventSystem where
  log : EventLog
  transaction : Option (Nat × EventLog)
  reader : EventReader

/-- An empty table, and a reader that asks for what comes after `afterSeq`. -/
def EventSystem.initial (user : WorkbenchUser) (workbenchSessionId : Option String)
    (afterSeq : Int) : EventSystem where
  log := {}
  transaction := none
  reader :=
    { user := user
      workbenchSessionId := workbenchSessionId
      sequence := afterSeq
      received := [] }

/-- The open transaction is the writer's: do something in it. A statement that fails changes
    nothing. -/
def EventSystem.within (s : EventSystem) (writer : Nat)
    (statement : EventLog → Except WorkbenchError EventLog) : EventSystem :=
  match s.transaction with
  | none => s
  | some (holder, working) =>
    if holder = writer then
      match statement working with
      | .ok working => { s with transaction := some (holder, working) }
      | .error _ => s
    else s

/-- The writer's transaction ends; what it leaves is committed. -/
def EventSystem.finish (s : EventSystem) (writer : Nat) (leave : EventLog → EventLog) :
    EventSystem :=
  match s.transaction with
  | none => s
  | some (holder, working) =>
    if holder = writer then { s with log := leave working, transaction := none } else s

def EventSystem.step (tables : Py.UnicodeTables) (s : EventSystem) : EventStep → EventSystem
  | .beginImmediate writer =>
    match s.transaction with
    | none => { s with transaction := some (writer, s.log) }
    | some _ => s
  | .append writer draft now =>
    s.within writer fun working => (appendWorkbenchEvent tables working draft now).map (·.2)
  | .note writer note now =>
    s.within writer fun working => tryAppendWorkbenchNote tables working note now
  | .commit writer => s.finish writer fun working => working
  | .rollback writer => s.finish writer fun _ => s.log
  | .poll limit => { s with reader := s.reader.poll s.log limit }

def isFor (user : WorkbenchUser) (workbenchSessionId : Option String)
    (row : SessionEventRow) : Bool :=
  row.workspaceId = user.workspaceId ∧ row.userId = user.userId ∧
    workbenchSessionId.all fun sessionId => row.sessionId = some sessionId

def EventReader.mine (reader : EventReader) : SessionEventRow → Bool :=
  isFor reader.user reader.workbenchSessionId

/-! ## 1. Numbers -/

def EventLog.session (log : EventLog) (tenantId workspaceId sessionId : String) :
    List SessionEventRow :=
  log.rows.filter (·.inSession tenantId workspaceId sessionId)

structure EventLog.Numbered (log : EventLog) : Prop where
  increasing : log.rows.Pairwise (·.globalSeq < ·.globalSeq)
  bounded : ∀ row ∈ log.rows, row.globalSeq ≤ log.lastSeq
  sessions : ∀ tenantId workspaceId sessionId,
    (log.session tenantId workspaceId sessionId).map (·.sessionSeq) =
      (List.range' 1 (log.session tenantId workspaceId sessionId).length).map some

theorem EventLog.Numbered.nextSessionSeq {log : EventLog} (h : log.Numbered)
    (tenantId workspaceId sessionId : String) :
    log.nextSessionSeq tenantId workspaceId sessionId =
      (log.session tenantId workspaceId sessionId).length + 1 := by
  have hseqs : (log.session tenantId workspaceId sessionId).filterMap (·.sessionSeq) =
      List.range' 1 (log.session tenantId workspaceId sessionId).length := by
    have hmap := congrArg (List.filterMap id) (h.sessions tenantId workspaceId sessionId)
    simpa [List.filterMap_map, Function.comp_def] using hmap
  unfold EventLog.nextSessionSeq
  show List.foldl max 0 ((log.session tenantId workspaceId sessionId).filterMap _) + 1 = _
  rw [hseqs, Cursor.foldl_max_range']

def EventLog.Grows (log log' : EventLog) : Prop := log.rows <+: log'.rows

theorem EventLog.Numbered.concat {log : EventLog} {row : SessionEventRow} (h : log.Numbered)
    (hglobal : row.globalSeq = log.lastSeq + 1)
    (hsession : row.sessionSeq = row.sessionId.map
      (log.nextSessionSeq row.tenantId row.workspaceId)) :
    EventLog.Numbered { rows := log.rows ++ [row], lastSeq := log.lastSeq + 1 } := by
  refine ⟨?_, ?_, ?_⟩
  · apply List.pairwise_append.mpr
    refine ⟨h.increasing, List.pairwise_singleton _ _, ?_⟩
    intro old hold new hnew
    obtain rfl := List.mem_singleton.mp hnew
    have hle := h.bounded old hold
    omega
  · intro new hnew
    rcases List.mem_append.mp hnew with hold | hnew
    · have hle := h.bounded new hold
      show new.globalSeq ≤ log.lastSeq + 1
      omega
    · obtain rfl := List.mem_singleton.mp hnew
      exact hglobal.le
  · intro tenantId workspaceId sessionId
    show (((log.rows ++ [row]).filter _).map _) = _
    simp only [EventLog.session, List.filter_append]
    by_cases hrow : row.inSession tenantId workspaceId sessionId = true
    · have hin : row.tenantId = tenantId ∧ row.workspaceId = workspaceId ∧
          row.sessionId = some sessionId := by
        simpa [SessionEventRow.inSession] using hrow
      obtain ⟨rfl, rfl, hid⟩ := hin
      have hseq : row.sessionSeq =
          some ((log.session row.tenantId row.workspaceId sessionId).length + 1) := by
        rw [hsession, hid, Option.map_some, h.nextSessionSeq]
      have hold := h.sessions row.tenantId row.workspaceId sessionId
      unfold EventLog.session at hold hseq
      rw [List.filter_cons_of_pos hrow, List.filter_nil, List.map_append, hold,
        List.length_append, List.length_singleton, List.range'_1_concat, List.map_append]
      simp [hseq, Nat.add_comm]
    · rw [List.filter_cons_of_neg hrow, List.filter_nil, List.append_nil]
      exact h.sessions tenantId workspaceId sessionId

theorem appendWorkbenchEvent_spec {tables : Py.UnicodeTables} {log log' : EventLog}
    {draft : EventDraft} {now : String} {row : SessionEventRow}
    (h : appendWorkbenchEvent tables log draft now = .ok (row, log')) :
    row = draft.row tables log now (log.lastSeq + 1) ∧
      log' = { rows := log.rows ++ [row], lastSeq := log.lastSeq + 1 } := by
  unfold appendWorkbenchEvent EventLog.insert at h
  split at h
  · cases h
  · dsimp only at h
    split at h
    · cases h
    · obtain ⟨rfl, rfl⟩ := Prod.mk.inj (Except.ok.inj h)
      exact ⟨rfl, rfl⟩

theorem numbered_append {tables : Py.UnicodeTables} {log log' : EventLog} {draft : EventDraft}
    {now : String} {row : SessionEventRow} (hlog : log.Numbered)
    (h : appendWorkbenchEvent tables log draft now = .ok (row, log')) :
    log'.Numbered ∧ log.Grows log' := by
  obtain ⟨rfl, rfl⟩ := appendWorkbenchEvent_spec h
  exact ⟨hlog.concat rfl rfl, List.prefix_append _ _⟩

theorem setPayload_concat {log : EventLog} {row : SessionEventRow} {payload : JsonObject}
    (h : log.Numbered) (hrow : row.globalSeq = log.lastSeq + 1) :
    EventLog.setPayload { rows := log.rows ++ [row], lastSeq := log.lastSeq + 1 } row.globalSeq
        payload =
      { rows := log.rows ++ [{ row with payload := payload }], lastSeq := log.lastSeq + 1 } := by
  have hold : Table.updateWhere (fun old => old.globalSeq = row.globalSeq)
      (fun old => { old with payload := payload }) log.rows = log.rows := by
    unfold Table.updateWhere
    apply List.map_congr_left (g := id) ?_ |>.trans (List.map_id _)
    intro old hold
    have hle := h.bounded old hold
    have hne : old.globalSeq ≠ row.globalSeq := by omega
    simp [hne]
  have hrows : Table.updateWhere (fun old => old.globalSeq = row.globalSeq)
      (fun old => { old with payload := payload }) (log.rows ++ [row]) =
      log.rows ++ [{ row with payload := payload }] := by
    unfold Table.updateWhere at hold ⊢
    rw [List.map_append, hold]
    simp
  unfold EventLog.setPayload
  rw [hrows]

theorem numbered_note {tables : Py.UnicodeTables} {log log' : EventLog} {note : NoteDraft}
    {now : String} (hlog : log.Numbered) (h : tryAppendWorkbenchNote tables log note now = .ok log') :
    log'.Numbered ∧ log.Grows log' := by
  unfold tryAppendWorkbenchNote at h
  dsimp only at h
  split at h
  · cases h
  · split at h
    · obtain rfl : log = log' := Except.ok.inj h
      exact ⟨hlog, List.prefix_rfl⟩
    · split at h
      · cases h
      · obtain ⟨⟨event, appended⟩, happend, hlog'⟩ := Stateful.bind_eq_ok h
        obtain ⟨rfl, rfl⟩ := appendWorkbenchEvent_spec happend
        obtain rfl := Except.ok.inj hlog'
        rw [setPayload_concat hlog rfl]
        exact ⟨hlog.concat rfl rfl, List.prefix_append _ _⟩

/-! ## 2. Readers -/

section Readers

variable {log log' : EventLog} {reader : EventReader}

/-- `max(after_seq, 0)` -/
def EventReader.after (reader : EventReader) : Int := max reader.sequence 0

def seqOf (row : SessionEventRow) : Int := row.globalSeq

theorem EventLog.Numbered.pairwise_seqOf (h : log.Numbered) :
    log.rows.Pairwise (seqOf · < seqOf ·) := by
  apply h.increasing.imp
  intro a b hlt
  exact Int.ofNat_lt.mpr hlt

theorem safeLimit_pos (limit : Int) : 0 < safeLimit limit := by
  unfold safeLimit
  omega

/-- The table is in order, so that `ORDER BY global_seq` changes nothing. -/
theorem sortedBy_globalSeq {matching : SessionEventRow → Bool} (h : log.Numbered) :
    Py.sortedBy (·.globalSeq) (log.rows.filter matching) = log.rows.filter matching := by
  apply List.Pairwise.insertionSort_eq
  apply (h.increasing.filter _).imp
  intro a b hlt
  exact hlt.le

theorem poll_eq (h : log.Numbered) (limit : Int) :
    reader.poll log limit =
      { reader with
        sequence := (((Cursor.pending seqOf reader.mine reader.after log.rows).take
            (safeLimit limit)).map eventFromRow).foldl (fun _ event => event.globalSeq)
            reader.sequence
        received := reader.received ++
          ((Cursor.pending seqOf reader.mine reader.after log.rows).take
            (safeLimit limit)).map eventFromRow } := by
  cases hsession : reader.workbenchSessionId with
  | none =>
    have hmatching : Cursor.pending seqOf reader.mine reader.after log.rows =
        log.rows.filter fun row => row.workspaceId = reader.user.workspaceId ∧
          row.userId = reader.user.userId ∧ max reader.sequence 0 < row.globalSeq := by
      apply List.filter_congr
      intro row _
      simp [EventReader.mine, isFor, hsession, EventReader.after, seqOf, Bool.and_assoc]
    simp only [EventReader.poll, hsession, listWorkbenchEvents, EventLog.select, hmatching,
      sortedBy_globalSeq h]
  | some sessionId =>
    have hmatching : Cursor.pending seqOf reader.mine reader.after log.rows =
        log.rows.filter fun row => row.workspaceId = reader.user.workspaceId ∧
          row.userId = reader.user.userId ∧ row.sessionId = some sessionId ∧
          max reader.sequence 0 < row.globalSeq := by
      apply List.filter_congr
      intro row _
      simp [EventReader.mine, isFor, hsession, EventReader.after, seqOf, Bool.and_assoc]
    simp only [EventReader.poll, hsession, listSessionWorkbenchEvents, EventLog.select, hmatching,
      sortedBy_globalSeq h]

/-- A reader that began at `start` has read the table up to its place, and received what it
    has read. -/
def EventReader.HasRead (reader : EventReader) (start : Int) (log : EventLog) : Prop :=
  ∃ rows, reader.received = rows.map eventFromRow ∧
    ReadTo seqOf reader.mine start reader.after rows log.rows

theorem max_foldl_globalSeq (page : List SessionEventRow) (sequence : Int) :
    max ((page.map eventFromRow).foldl (fun _ event => (event.globalSeq : Int)) sequence) 0 =
      Cursor.position seqOf (max sequence 0) page := by
  rcases List.eq_nil_or_concat page with rfl | ⟨init, row, rfl⟩
  · rfl
  · simp [Cursor.position, eventFromRow, seqOf]

theorem EventReader.HasRead.poll {start : Int} (h : reader.HasRead start log)
    (hlog : log.Numbered) (limit : Int) : (reader.poll log limit).HasRead start log := by
  obtain ⟨rows, hreceived, hread⟩ := h
  rw [poll_eq hlog]
  refine ⟨rows ++ (Cursor.pending seqOf reader.mine reader.after log.rows).take
    (safeLimit limit), ?_, ?_⟩
  · simp [hreceived]
  · have hplace := hread.read hlog.pairwise_seqOf (safeLimit limit)
    unfold EventReader.after at hplace ⊢
    rw [max_foldl_globalSeq]
    exact hplace

theorem EventReader.HasRead.grow {start : Int} (h : reader.HasRead start log)
    (hgrows : log.Grows log') (hlog' : log'.Numbered) : reader.HasRead start log' := by
  obtain ⟨rows, hreceived, hread⟩ := h
  obtain ⟨new, hnew⟩ := hgrows
  refine ⟨rows, hreceived, ?_⟩
  rw [← hnew]
  apply hread.grow
  intro a ha b hb
  have hpairs := hlog'.pairwise_seqOf
  rw [← hnew] at hpairs
  exact (List.pairwise_append.mp hpairs).2.2 a ha b hb

end Readers

/-! ## 3. Runs -/

section Runs

variable {user : WorkbenchUser} {workbenchSessionId : Option String}
  {start : Int} {s : EventSystem}

/-- What is known of the system with a reader of the user's events that began at `start`. -/
structure EventSystem.Valid (user : WorkbenchUser) (workbenchSessionId : Option String)
    (start : Int) (s : EventSystem) : Prop where
  committed : s.log.Numbered
  working : ∀ writer working, s.transaction = some (writer, working) →
    working.Numbered ∧ s.log.Grows working
  mine : s.reader.mine = isFor user workbenchSessionId
  read : s.reader.HasRead start s.log

theorem valid_initial (afterSeq : Int) :
    (EventSystem.initial user workbenchSessionId afterSeq).Valid user workbenchSessionId
      (max afterSeq 0) := by
  refine ⟨⟨List.Pairwise.nil, by simp [EventSystem.initial], fun _ _ _ => rfl⟩, ?_, rfl,
    [], rfl, ReadTo.begin⟩
  intro writer working h
  cases h

theorem within_spec (writer : Nat) (statement : EventLog → Except WorkbenchError EventLog) :
    (s.within writer statement).log = s.log ∧ (s.within writer statement).reader = s.reader ∧
      ∀ holder working, (s.within writer statement).transaction = some (holder, working) →
        s.transaction = some (holder, working) ∨
          ∃ before, s.transaction = some (holder, before) ∧ statement before = .ok working := by
  unfold EventSystem.within
  cases htransaction : s.transaction with
  | none => exact ⟨rfl, rfl, fun holder working h => .inl (htransaction ▸ h)⟩
  | some opened =>
    obtain ⟨holder, before⟩ := opened
    dsimp only
    split
    · cases hstatement : statement before with
      | error e => exact ⟨rfl, rfl, fun holder working h => .inl (htransaction ▸ h)⟩
      | ok working =>
        refine ⟨rfl, rfl, ?_⟩
        intro holder' working' h
        obtain ⟨rfl, rfl⟩ := Prod.mk.inj (Option.some.inj h)
        exact .inr ⟨before, rfl, hstatement⟩
    · exact ⟨rfl, rfl, fun holder working h => .inl (htransaction ▸ h)⟩

theorem finish_spec (writer : Nat) (leave : EventLog → EventLog) :
    s.finish writer leave = s ∨ ∃ working, s.transaction = some (writer, working) ∧
      s.finish writer leave = { s with log := leave working, transaction := none } := by
  unfold EventSystem.finish
  cases htransaction : s.transaction with
  | none => exact .inl rfl
  | some opened =>
    obtain ⟨holder, working⟩ := opened
    dsimp only
    split
    · next hholder => exact .inr ⟨working, by rw [hholder], rfl⟩
    · exact .inl rfl

theorem reader_finish (writer : Nat) (leave : EventLog → EventLog) :
    (s.finish writer leave).reader = s.reader := by
  rcases finish_spec (s := s) writer leave with hfinish | ⟨working, hopen, hfinish⟩
  · rw [hfinish]
  · rw [hfinish]

theorem EventLog.Grows.trans {log log' log'' : EventLog} (h : log.Grows log')
    (h' : log'.Grows log'') : log.Grows log'' := List.IsPrefix.trans h h'

namespace EventSystem.Valid

theorem within (h : s.Valid user workbenchSessionId start) (writer : Nat)
    {statement : EventLog → Except WorkbenchError EventLog}
    (hstatement : ∀ working working', working.Numbered → statement working = .ok working' →
      working'.Numbered ∧ working.Grows working') :
    (s.within writer statement).Valid user workbenchSessionId start := by
  obtain ⟨hlog, hreader, htransaction⟩ := within_spec (s := s) writer statement
  refine ⟨hlog ▸ h.committed, ?_, hreader ▸ h.mine, ?_⟩
  · intro holder working hopen
    rw [hlog]
    rcases htransaction holder working hopen with hsame | ⟨before, hbefore, hok⟩
    · exact h.working holder working hsame
    · obtain ⟨hnumbered, hgrows⟩ := h.working holder before hbefore
      obtain ⟨hnumbered', hgrows'⟩ := hstatement before working hnumbered hok
      exact ⟨hnumbered', hgrows.trans hgrows'⟩
  · rw [hlog, hreader]
    exact h.read

theorem finish (h : s.Valid user workbenchSessionId start) (writer : Nat)
    {leave : EventLog → EventLog}
    (hleave : ∀ working, working.Numbered → s.log.Grows working →
      (leave working).Numbered ∧ s.log.Grows (leave working)) :
    (s.finish writer leave).Valid user workbenchSessionId start ∧
      s.log.Grows (s.finish writer leave).log := by
  rcases finish_spec (s := s) writer leave with hsame | ⟨working, hopen, hfinish⟩
  · rw [hsame]
    exact ⟨h, List.prefix_rfl⟩
  · obtain ⟨hnumbered, hgrows⟩ := h.working writer working hopen
    obtain ⟨hnumbered', hgrows'⟩ := hleave working hnumbered hgrows
    rw [hfinish]
    refine ⟨⟨hnumbered', ?_, h.mine, h.read.grow hgrows' hnumbered'⟩, hgrows'⟩
    intro writer working hnone
    cases hnone

/-- **One step**: the table stays numbered and grows at its end, and the reader has read it up
    to its place. -/
theorem step (tables : Py.UnicodeTables) (h : s.Valid user workbenchSessionId start) (event : EventStep) :
    (s.step tables event).Valid user workbenchSessionId start ∧
      s.log.Grows (s.step tables event).log := by
  cases event with
  | beginImmediate writer =>
    unfold EventSystem.step
    dsimp only
    cases htransaction : s.transaction with
    | none =>
      dsimp only
      refine ⟨⟨h.committed, ?_, h.mine, h.read⟩, List.prefix_rfl⟩
      intro writer' working hopen
      obtain ⟨rfl, rfl⟩ := Prod.mk.inj (Option.some.inj hopen)
      exact ⟨h.committed, List.prefix_rfl⟩
    | some opened =>
      dsimp only
      exact ⟨h, List.prefix_rfl⟩
  | append writer draft now =>
    unfold EventSystem.step
    dsimp only
    refine ⟨h.within writer ?_, (within_spec writer _).1 ▸ List.prefix_rfl⟩
    intro working working' hnumbered hok
    obtain ⟨⟨row, log'⟩, happend, rfl⟩ := Stateful.map_eq_ok hok
    exact numbered_append hnumbered happend
  | note writer note now =>
    unfold EventSystem.step
    dsimp only
    refine ⟨h.within writer ?_, (within_spec writer _).1 ▸ List.prefix_rfl⟩
    intro working working' hnumbered hok
    exact numbered_note hnumbered hok
  | commit writer =>
    unfold EventSystem.step
    dsimp only
    apply h.finish writer
    intro working hnumbered hgrows
    exact ⟨hnumbered, hgrows⟩
  | rollback writer =>
    unfold EventSystem.step
    dsimp only
    apply h.finish writer
    intro working hnumbered hgrows
    exact ⟨h.committed, List.prefix_rfl⟩
  | poll limit =>
    refine ⟨⟨h.committed, h.working, ?_, h.read.poll h.committed limit⟩, List.prefix_rfl⟩
    show (s.reader.poll s.log limit).mine = _
    rw [poll_eq h.committed]
    exact h.mine

/-- **A run** from such a state. -/
theorem run (tables : Py.UnicodeTables) (h : s.Valid user workbenchSessionId start)
    (steps : List EventStep) :
    (steps.foldl (EventSystem.step tables) s).Valid user workbenchSessionId start ∧
      s.log.Grows (steps.foldl (EventSystem.step tables) s).log := by
  induction steps generalizing s with
  | nil => exact ⟨h, List.prefix_rfl⟩
  | cons event steps ih =>
    obtain ⟨hstep, hgrows⟩ := h.step tables event
    obtain ⟨hrun, hgrows'⟩ := ih hstep
    exact ⟨hrun, hgrows.trans hgrows'⟩

end EventSystem.Valid

/-- The part of an earlier table that the reader is still to be given. -/
def EventSystem.behind (s : EventSystem) (earlier : List SessionEventRow) :
    List SessionEventRow :=
  Cursor.pending seqOf s.reader.mine s.reader.after earlier

theorem length_behind_step (tables : Py.UnicodeTables) {earlier : List SessionEventRow}
    (h : s.Valid user workbenchSessionId start) (hearlier : earlier <+: s.log.rows)
    (event : EventStep) :
    ((s.step tables event).behind earlier).length ≤
      (s.behind earlier).length - if event.isPoll then 1 else 0 := by
  have hsame : ∀ s' : EventSystem, s'.reader = s.reader →
      (s'.behind earlier).length ≤ (s.behind earlier).length - 0 := by
    intro s' hreader
    unfold EventSystem.behind
    rw [hreader]
    exact le_refl _
  unfold EventSystem.step
  cases event with
  | beginImmediate writer =>
    apply hsame
    dsimp only
    cases s.transaction <;> rfl
  | append writer draft now => exact hsame _ (within_spec writer _).2.1
  | note writer note now => exact hsame _ (within_spec writer _).2.1
  | commit writer => exact hsame _ (reader_finish writer _)
  | rollback writer => exact hsame _ (reader_finish writer _)
  | poll limit =>
    obtain ⟨new, hnew⟩ := hearlier
    have hrows := h.committed.pairwise_seqOf
    have hshorter := Cursor.length_pending_position_lt s.reader.mine s.reader.after earlier
      new (hnew ▸ hrows) (safeLimit_pos limit)
    rw [hnew] at hshorter
    unfold EventSystem.behind
    dsimp only
    rw [poll_eq h.committed]
    show (Cursor.pending seqOf s.reader.mine (max _ 0) earlier).length ≤ _
    rw [max_foldl_globalSeq]
    exact hshorter

theorem length_behind_run (tables : Py.UnicodeTables) {earlier : List SessionEventRow}
    (h : s.Valid user workbenchSessionId start) (hearlier : earlier <+: s.log.rows)
    (steps : List EventStep) :
    ((steps.foldl (EventSystem.step tables) s).behind earlier).length ≤
      (s.behind earlier).length - steps.countP EventStep.isPoll := by
  induction steps generalizing s with
  | nil => exact le_refl _
  | cons event steps ih =>
    obtain ⟨hstep, hgrows⟩ := h.step tables event
    have hrun := ih hstep (hearlier.trans hgrows)
    have hfirst := length_behind_step tables h hearlier event
    rw [List.foldl_cons, List.countP_cons]
    omega

/-- **The event stream.** After every run, whatever was committed and rolled back: the events
    are in the order of their numbers, those of a session are numbered from 1 without gap, and
    the reader has received the first of the events that are for it, each once and in order.
    Once it has polled as often as there are others, it has received those too. -/
theorem events_delivered (tables : Py.UnicodeTables) (user : WorkbenchUser)
    (workbenchSessionId : Option String) (afterSeq : Int) (steps : List EventStep) :
    let s := steps.foldl (EventSystem.step tables)
      (.initial user workbenchSessionId afterSeq)
    let wanted := (s.log.rows.filter fun row =>
      isFor user workbenchSessionId row && decide (max afterSeq 0 < (row.globalSeq : Int))).map
        eventFromRow
    s.log.rows.Pairwise (·.globalSeq < ·.globalSeq) ∧
      (∀ tenantId workspaceId sessionId,
        (s.log.session tenantId workspaceId sessionId).map (·.sessionSeq) =
          (List.range' 1 (s.log.session tenantId workspaceId sessionId).length).map some) ∧
      ∃ toCome, wanted = s.reader.received ++ toCome ∧
        ∀ later : List EventStep, toCome.length ≤ later.countP EventStep.isPoll →
          wanted <+: (later.foldl (EventSystem.step tables) s).reader.received := by
  intro s wanted
  have hvalid : s.Valid user workbenchSessionId (max afterSeq 0) :=
    ((valid_initial afterSeq).run tables steps).1
  obtain ⟨rows, hreceived, hread⟩ := hvalid.read
  have hwanted : wanted =
      (Cursor.pending seqOf s.reader.mine (max afterSeq 0) s.log.rows).map eventFromRow := by
    rw [hvalid.mine]
    rfl
  refine ⟨hvalid.committed.increasing, hvalid.committed.sessions,
    (s.behind s.log.rows).map eventFromRow, ?_, ?_⟩
  · rw [hwanted, hread.split, List.map_append, hreceived]
    rfl
  · intro later hpolls
    obtain ⟨hlater, new, hnew⟩ := hvalid.run tables later
    have hbehind := length_behind_run tables hvalid List.prefix_rfl later
    rw [List.length_map] at hpolls
    have hnone : (later.foldl (EventSystem.step tables) s).behind s.log.rows = [] := by
      apply List.eq_nil_of_length_eq_zero
      omega
    obtain ⟨rows', hreceived', hread'⟩ := hlater.read
    rw [← hnew] at hread'
    have hcaught := hread'.caughtUp hnone
    rw [hwanted, hreceived', hvalid.mine, ← hlater.mine]
    exact hcaught.map eventFromRow

end Runs

end SeekTalent

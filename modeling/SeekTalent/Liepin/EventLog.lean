import SeekTalent.Base.Cursor
import SeekTalent.Base.Json
import SeekTalent.Liepin.ConnectionStore

/-!
# The events of Liepin subjects

`LiepinStore` numbers the events of a subject, a connection or a run, from 1, whoever appends
them. A reader asks for the events of one actor after the last number it has seen, a page at a
time. The numbers of its actor have gaps, where others have appended, but they are in order, so
that what it is given is what its actor has appended, each event once (`liepinEvents_delivered`).

An append is one transaction. The payload is kept as the value that its text stands for.
-/

namespace SeekTalent

namespace LiepinEvents

open Cursor (ReadTo)

inductive SubjectType where
  | connection
  | run
  deriving DecidableEq

structure Subject where
  tenantId : String
  workspaceId : String
  subjectType : SubjectType
  subjectId : String
  deriving DecidableEq

structure LiepinEventRow extends Subject where
  actorId : String
  sequence : Nat
  eventName : String
  payload : JsonObject
  redactionState : String
  createdAt : String

/-- The arguments of `append_event`. -/
structure EventDraft extends Subject where
  actorId : String
  eventName : String
  payload : JsonObject
  redactionState : String := "domain"

/-! ## 1. Appending -/

section Payloads

variable (lib : ConnectionLibrary)

def unsafeKey (normalizedKey : String) : Bool :=
  (unsafePayloadKeys.map (normalizePayloadKey lib)).contains normalizedKey ||
    Py.contains normalizedKey "token" || Py.contains normalizedKey "cookie"

mutual

/-- `_has_unsafe_payload` -/
def hasUnsafeValue (parentKey : Option String) : Json → Bool
  | .object members => hasUnsafeMember members
  | .array items => hasUnsafeItem parentKey items
  | .string text =>
    !(parentKey = some "redactionstate" && lib.lower text == "raw_provider_payload") &&
      hasUnsafeText lib text
  | _ => false

def hasUnsafeMember : List (String × Json) → Bool
  | [] => false
  | (key, child) :: members =>
    unsafeKey lib (normalizePayloadKey lib key) ||
      hasUnsafeValue (some (normalizePayloadKey lib key)) child || hasUnsafeMember members

def hasUnsafeItem (parentKey : Option String) : List Json → Bool
  | [] => false
  | child :: items => hasUnsafeValue parentKey child || hasUnsafeItem parentKey items

end

end Payloads

def ofSubject (rows : List LiepinEventRow) (subject : Subject) : List LiepinEventRow :=
  rows.filter (·.toSubject = subject)

/-- `SELECT COALESCE(MAX(sequence), 0) + 1` -/
def nextSequence (rows : List LiepinEventRow) (subject : Subject) : Nat :=
  ((ofSubject rows subject).map (·.sequence)).foldl max 0 + 1

def appendEvent (lib : ConnectionLibrary) (rows : List LiepinEventRow) (draft : EventDraft)
    (now : String) : Except String (List LiepinEventRow × Nat) :=
  if hasUnsafeValue lib none (.object draft.payload) then .error "unsafe Liepin event payload"
  else
    let sequence := nextSequence rows draft.toSubject
    .ok (rows ++
      [{ toSubject := draft.toSubject
         actorId := draft.actorId
         sequence
         eventName := draft.eventName
         payload := draft.payload
         redactionState := draft.redactionState
         createdAt := now }], sequence)

/-! ## 2. Reading -/

def iterEventsAfter (rows : List LiepinEventRow) (subject : Subject) (actorId : String)
    (afterSequence : Int) (limit : Int) : List LiepinEventRow :=
  (Py.sortedBy (·.sequence) ((ofSubject rows subject).filter fun row =>
    row.actorId = actorId ∧ afterSequence < row.sequence)).take (max 1 (min limit 500)).toNat

/-- A reader of an actor's events, with the last number it has seen. -/
structure Reader where
  subject : Subject
  actorId : String
  afterSequence : Int
  received : List LiepinEventRow := []

def Reader.poll (reader : Reader) (rows : List LiepinEventRow) (limit : Int) : Reader :=
  let page := iterEventsAfter rows reader.subject reader.actorId reader.afterSequence limit
  { reader with
    afterSequence := page.foldl (fun _ row => row.sequence) reader.afterSequence
    received := reader.received ++ page }

/-- An append of anyone to any subject, or a call of the reader with some limit. -/
inductive Step where
  | append (draft : EventDraft) (now : String)
  | poll (limit : Int)

def Step.isPoll : Step → Bool
  | .poll _ => true
  | .append _ _ => false

structure System where
  rows : List LiepinEventRow := []
  reader : Reader

def System.step (lib : ConnectionLibrary) (s : System) : Step → System
  | .append draft now =>
    match appendEvent lib s.rows draft now with
    | .ok (rows, _) => { s with rows }
    | .error _ => s
  | .poll limit => { s with reader := s.reader.poll s.rows limit }

/-! ## 3. Numbers -/

section Rows

variable {lib : ConnectionLibrary} {rows rows' : List LiepinEventRow} {draft : EventDraft}
variable {now : String} {sequence : Nat} {subject : Subject} {reader : Reader}

/-- The events of every subject are numbered from 1 without gaps. -/
def Numbered (rows : List LiepinEventRow) : Prop :=
  ∀ subject, (ofSubject rows subject).map (·.sequence) =
    List.range' 1 (ofSubject rows subject).length

theorem Numbered.nextSequence (h : Numbered rows) (subject : Subject) :
    nextSequence rows subject = (ofSubject rows subject).length + 1 := by
  unfold LiepinEvents.nextSequence
  rw [h subject, Cursor.foldl_max_range']

theorem appendEvent_spec (h : appendEvent lib rows draft now = .ok (rows', sequence)) :
    sequence = nextSequence rows draft.toSubject ∧
      ∃ row : LiepinEventRow, row.toSubject = draft.toSubject ∧ row.sequence = sequence ∧
        rows' = rows ++ [row] := by
  unfold appendEvent at h
  split at h
  · cases h
  · obtain ⟨rfl, rfl⟩ := Prod.mk.inj (Except.ok.inj h)
    exact ⟨rfl, _, rfl, rfl, rfl⟩

theorem Numbered.append (hrows : Numbered rows)
    (h : appendEvent lib rows draft now = .ok (rows', sequence)) :
    Numbered rows' ∧ rows <+: rows' := by
  obtain ⟨rfl, row, hsubject, hsequence, rfl⟩ := appendEvent_spec h
  refine ⟨fun subject => ?_, List.prefix_append _ _⟩
  rw [hrows.nextSequence] at hsequence
  have hold := hrows subject
  unfold ofSubject at hold hsequence ⊢
  rw [List.filter_append]
  by_cases hmine : row.toSubject = subject
  · -- the row is the last one of its subject
    rw [← hsubject, hmine] at hsequence
    rw [List.filter_cons_of_pos (by simpa using hmine), List.filter_nil, List.map_append, hold,
      List.length_append, List.length_singleton, List.range'_1_concat, List.map_singleton,
      hsequence, Nat.add_comm]
  · rw [List.filter_cons_of_neg (by simpa using hmine), List.filter_nil, List.append_nil]
    exact hold

def seqOf (row : LiepinEventRow) : Int := row.sequence

theorem Numbered.pairwise (h : Numbered rows) (subject : Subject) :
    (ofSubject rows subject).Pairwise (seqOf · < seqOf ·) := by
  have hsequences := h subject ▸ @List.pairwise_lt_range' 1 (ofSubject rows subject).length 1 one_pos
  apply (List.pairwise_map.mp hsequences).imp
  intro a b hlt
  exact Int.ofNat_lt.mpr hlt

/-! ## 4. Readers -/

def Reader.mine (reader : Reader) (row : LiepinEventRow) : Bool := row.actorId = reader.actorId

def Reader.toCome (reader : Reader) (rows : List LiepinEventRow) : List LiepinEventRow :=
  Cursor.pending seqOf reader.mine reader.afterSequence (ofSubject rows reader.subject)

theorem poll_eq (h : Numbered rows) (reader : Reader) (limit : Int) :
    ∃ n, 0 < n ∧ reader.poll rows limit =
      { reader with
        afterSequence := Cursor.position seqOf reader.afterSequence ((reader.toCome rows).take n)
        received := reader.received ++ (reader.toCome rows).take n } := by
  have hpage : Py.sortedBy (·.sequence) ((ofSubject rows reader.subject).filter fun row =>
      row.actorId = reader.actorId ∧ reader.afterSequence < row.sequence) =
      reader.toCome rows := by
    have hfilter : (ofSubject rows reader.subject).filter (fun row =>
        row.actorId = reader.actorId ∧ reader.afterSequence < row.sequence) =
        reader.toCome rows := by
      apply List.filter_congr
      intro row _
      exact Bool.decide_and ..
    rw [hfilter]
    apply List.Pairwise.insertionSort_eq
    apply ((h.pairwise reader.subject).filter _).imp
    intro a b hlt
    exact Int.ofNat_le.mp hlt.le
  refine ⟨(max 1 (min limit 500)).toNat, by omega, ?_⟩
  unfold Reader.poll iterEventsAfter
  rw [hpage]
  rfl

/-- A reader that began at `start` has been given the events of its actor up to its place. -/
def Reader.HasRead (reader : Reader) (start : Int) (rows : List LiepinEventRow) : Prop :=
  ReadTo seqOf reader.mine start reader.afterSequence reader.received
    (ofSubject rows reader.subject)

theorem Reader.HasRead.poll {start : Int} (h : reader.HasRead start rows) (hrows : Numbered rows)
    (limit : Int) : (reader.poll rows limit).HasRead start rows := by
  obtain ⟨n, -, hpoll⟩ := poll_eq hrows reader limit
  rw [hpoll]
  exact ReadTo.read h (hrows.pairwise reader.subject) n

theorem Reader.HasRead.grow {start : Int} (h : reader.HasRead start rows)
    (hgrows : rows <+: rows') (hrows' : Numbered rows') : reader.HasRead start rows' := by
  obtain ⟨new, rfl⟩ := hgrows
  have hpairs := hrows'.pairwise reader.subject
  unfold Reader.HasRead
  unfold ofSubject at hpairs ⊢
  rw [List.filter_append] at hpairs ⊢
  apply ReadTo.grow h
  intro a ha b hb
  exact (List.pairwise_append.mp hpairs).2.2 a ha b hb

end Rows

/-! ## 5. Runs -/

section Runs

variable {s : System} {subject : Subject} {actorId : String} {start : Int}

/-- A table that is numbered, and a reader of the actor's events that began at `start`. -/
structure System.Valid (subject : Subject) (actorId : String) (start : Int) (s : System) :
    Prop where
  numbered : Numbered s.rows
  subject_eq : s.reader.subject = subject
  actorId_eq : s.reader.actorId = actorId
  read : s.reader.HasRead start s.rows

theorem valid_start : System.Valid subject actorId start
    { reader := { subject, actorId, afterSequence := start } } :=
  ⟨fun _ => rfl, rfl, rfl, ReadTo.begin⟩

/-- **One step**: the table only grows at its end, and stays numbered and read. -/
theorem System.Valid.step (lib : ConnectionLibrary) (h : s.Valid subject actorId start)
    (event : Step) :
    (s.step lib event).Valid subject actorId start ∧ s.rows <+: (s.step lib event).rows := by
  cases event with
  | append draft now =>
    unfold System.step
    dsimp only
    split
    · rename_i rows sequence hok
      obtain ⟨hnumbered, hgrows⟩ := h.numbered.append hok
      exact ⟨⟨hnumbered, h.subject_eq, h.actorId_eq, h.read.grow hgrows hnumbered⟩, hgrows⟩
    · exact ⟨h, List.prefix_rfl⟩
  | poll limit =>
    exact ⟨⟨h.numbered, h.subject_eq, h.actorId_eq, h.read.poll h.numbered limit⟩,
      List.prefix_rfl⟩

/-- **A run** from such a state. -/
theorem System.Valid.run (lib : ConnectionLibrary) (h : s.Valid subject actorId start)
    (steps : List Step) :
    (steps.foldl (System.step lib) s).Valid subject actorId start ∧
      s.rows <+: (steps.foldl (System.step lib) s).rows := by
  induction steps generalizing s with
  | nil => exact ⟨h, List.prefix_rfl⟩
  | cons event steps ih =>
    obtain ⟨hstep, hgrows⟩ := h.step lib event
    obtain ⟨hrun, hgrows'⟩ := ih hstep
    exact ⟨hrun, hgrows.trans hgrows'⟩

theorem length_toCome_step (lib : ConnectionLibrary) {earlier : List LiepinEventRow}
    (h : s.Valid subject actorId start) (hearlier : earlier <+: s.rows) (event : Step) :
    ((s.step lib event).reader.toCome earlier).length ≤
      (s.reader.toCome earlier).length - if event.isPoll then 1 else 0 := by
  cases event with
  | append draft now =>
    unfold System.step
    dsimp only
    split
    · exact le_refl _
    · exact le_refl _
  | poll limit =>
    obtain ⟨new, hnew⟩ := hearlier
    obtain ⟨n, hn, hpoll⟩ := poll_eq h.numbered s.reader limit
    have hsplit : ofSubject s.rows s.reader.subject =
        ofSubject earlier s.reader.subject ++ ofSubject new s.reader.subject := by
      rw [← hnew]
      exact List.filter_append ..
    have hpairs := hsplit ▸ h.numbered.pairwise s.reader.subject
    have hshorter := Cursor.length_pending_position_lt s.reader.mine s.reader.afterSequence _ _
      hpairs hn
    show ((s.reader.poll s.rows limit).toCome earlier).length ≤ _
    rw [hpoll]
    unfold Reader.toCome
    rw [hsplit]
    exact hshorter

theorem length_toCome_run (lib : ConnectionLibrary) {earlier : List LiepinEventRow}
    (h : s.Valid subject actorId start) (hearlier : earlier <+: s.rows) (steps : List Step) :
    ((steps.foldl (System.step lib) s).reader.toCome earlier).length ≤
      (s.reader.toCome earlier).length - steps.countP Step.isPoll := by
  induction steps generalizing s with
  | nil => exact le_refl _
  | cons event steps ih =>
    obtain ⟨hstep, hgrows⟩ := h.step lib event
    have hrun := ih hstep (hearlier.trans hgrows)
    have hfirst := length_toCome_step lib h hearlier event
    rw [List.foldl_cons, List.countP_cons]
    omega

/-- **The events of a subject.** After any appends and calls of the reader, in any order: the
    events of every subject are numbered from 1 without gaps or repeats, what is in the table
    stays as it is whatever comes later, and the reader has been given the first of its actor's
    events, each once and in order. Once it has called as often as there are others, it has
    been given those too. -/
theorem liepinEvents_delivered (lib : ConnectionLibrary) (subject : Subject) (actorId : String)
    (start : Int) (steps : List Step) :
    let s := steps.foldl (System.step lib)
      { reader := { subject, actorId, afterSequence := start } }
    let wanted := (ofSubject s.rows subject).filter fun row =>
      decide (row.actorId = actorId) && decide (start < (row.sequence : Int))
    (∀ other, (ofSubject s.rows other).map (·.sequence) =
      List.range' 1 (ofSubject s.rows other).length) ∧
      (∀ later : List Step, s.rows <+: (later.foldl (System.step lib) s).rows) ∧
      ∃ toCome, wanted = s.reader.received ++ toCome ∧
        ∀ later : List Step, toCome.length ≤ later.countP Step.isPoll →
          wanted <+: (later.foldl (System.step lib) s).reader.received := by
  intro s wanted
  have hvalid : s.Valid subject actorId start := (valid_start.run lib steps).1
  have hwanted : ∀ reader : Reader, reader.actorId = actorId →
      Cursor.pending seqOf reader.mine start (ofSubject s.rows subject) = wanted := by
    rintro reader rfl
    rfl
  refine ⟨hvalid.numbered, fun later => (hvalid.run lib later).2, s.reader.toCome s.rows, ?_, ?_⟩
  · have hsplit := hvalid.read.split
    rw [hvalid.subject_eq, hwanted s.reader hvalid.actorId_eq] at hsplit
    rw [hsplit]
    unfold Reader.toCome
    rw [hvalid.subject_eq]
  · intro later hpolls
    obtain ⟨hlater, new, hnew⟩ := hvalid.run lib later
    have hbehind := length_toCome_run lib hvalid List.prefix_rfl later
    have hnone : (later.foldl (System.step lib) s).reader.toCome s.rows = [] := by
      apply List.eq_nil_of_length_eq_zero
      omega
    have hread := hlater.read
    unfold Reader.HasRead at hread
    unfold Reader.toCome at hnone
    rw [← hnew, hlater.subject_eq, ofSubject, List.filter_append] at hread
    rw [hlater.subject_eq] at hnone
    have hcaught := hread.caughtUp hnone
    rw [← hwanted _ hlater.actorId_eq]
    exact hcaught

end Runs

end LiepinEvents

end SeekTalent

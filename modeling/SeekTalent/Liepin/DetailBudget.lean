import SeekTalent.Liepin.DetailSettle
import Mathlib.Data.Finset.Card
import Mathlib.Data.Finset.Dedup

/-!
# The daily budget over many calls

Calls for one account and day share the ledger and the worker. A call counts what the day
has consumed before it reserves and sends, and a started attempt is not counted until its
result is applied. So the budget bounds what is sent when no call counts while another one
is under way or an attempt that was sent is still open; an attempt that has consumed
nothing gives its place back.
-/

open Relation (ReflTransGen)

namespace SeekTalent

open LiepinStore

def sentAttemptIds (sent : List LiepinDetailOpenRequest) : List String :=
  sent.flatMap fun request => request.requests.map (·.attemptId)

namespace LiepinStore

/-- It is on record that the attempt has ended without consuming anything. -/
def GaveBack (store : LiepinStore) (attemptId : String) : Prop :=
  ((store.row attemptId).any fun row =>
    row.state ∈ [.failedBeforeConsumption, .blockedByRiskControl]) = true

instance (store : LiepinStore) (attemptId : String) : Decidable (store.GaveBack attemptId) :=
  inferInstanceAs (Decidable (_ = true))

/-- The different attempts sent that have not given their place back. -/
def spentAttempts (store : LiepinStore) (sent : List LiepinDetailOpenRequest) : Finset String :=
  (sentAttemptIds sent).toFinset.filter fun attemptId => ¬store.GaveBack attemptId

def NoneOpen (store : LiepinStore) (sent : List LiepinDetailOpenRequest) : Prop :=
  ∀ attemptId ∈ sentAttemptIds sent, ∃ row, store.row attemptId = some row ∧ row.state.Terminal

structure WithinBudget (key : BudgetKey) (dailyDetailBudget : Int) (store : LiepinStore)
    (sent : List LiepinDetailOpenRequest) : Prop where
  recorded : ∀ attemptId ∈ sentAttemptIds sent, ∃ row, store.row attemptId = some row ∧
    row.budgetKey = key
  bounded : ((store.spentAttempts sent).card : Int) ≤ max 0 dailyDetailBudget

variable {store store' : LiepinStore} {sent : List LiepinDetailOpenRequest}
variable {key : BudgetKey} {dailyDetailBudget : Int}

theorem GaveBack.extends {attemptId : String} (h : store.GaveBack attemptId)
    (hext : Extends store store') : store'.GaveBack attemptId := by
  unfold GaveBack at h
  obtain ⟨row, hrow, hstate⟩ := (Option.any_eq_true _ _).mp h
  have hterm : row.state.Terminal := by
    have hstate : row.state = .failedBeforeConsumption ∨ row.state = .blockedByRiskControl := by
      simpa using hstate
    rcases hstate with hstate | hstate <;> rw [hstate] <;> decide
  obtain ⟨row', hrow', -, -, hsame⟩ := hext attemptId row hrow
  unfold GaveBack
  rw [hrow', hsame hterm]
  exact hstate

theorem spentAttempts_extends (hext : Extends store store') :
    store'.spentAttempts sent ⊆ store.spentAttempts sent := by
  intro attemptId h
  obtain ⟨hsent, hspent⟩ := Finset.mem_filter.mp h
  exact Finset.mem_filter.mpr ⟨hsent, fun hback => hspent (hback.extends hext)⟩

theorem WithinBudget.extends (h : WithinBudget key dailyDetailBudget store sent)
    (hext : Extends store store') : WithinBudget key dailyDetailBudget store' sent := by
  constructor
  · intro attemptId hsent
    obtain ⟨row, hrow, hkey⟩ := h.recorded attemptId hsent
    obtain ⟨row', hrow', hkey', -⟩ := hext attemptId row hrow
    exact ⟨row', hrow', hkey'.trans hkey⟩
  · have hle : (store'.spentAttempts sent).card ≤ (store.spentAttempts sent).card :=
      Finset.card_le_card (spentAttempts_extends hext)
    exact (Int.ofNat_le.mpr hle).trans h.bounded

theorem spentAttempts_append (request : LiepinDetailOpenRequest) :
    (store.spentAttempts (sent ++ [request])).card ≤
      (store.spentAttempts sent).card + request.requests.length := by
  have hsplit : store.spentAttempts (sent ++ [request]) =
      store.spentAttempts sent ∪ store.spentAttempts [request] := by
    simp [spentAttempts, sentAttemptIds, Finset.filter_union]
  have hnew : (store.spentAttempts [request]).card ≤ request.requests.length := calc
    (store.spentAttempts [request]).card
      ≤ (sentAttemptIds [request]).toFinset.card := Finset.card_filter_le _ _
    _ ≤ (sentAttemptIds [request]).length := List.toFinset_card_le _
    _ = request.requests.length := by simp [sentAttemptIds]
  rw [hsplit]
  exact (Finset.card_union_le _ _).trans (Nat.add_le_add_left hnew _)

theorem consumption_of_terminal {row : LiepinDetailAttemptRow} (hrow : row ∈ store.attempts)
    (hterm : row.state.Terminal) (hspent : ¬store.GaveBack row.attemptId) :
    row.consumptionState ≠ .notConsumed := by
  have hlegal := store.legal row hrow
  have hlookup : store.row row.attemptId = some row := row_eq_some_iff.mpr ⟨hrow, rfl⟩
  unfold GaveBack at hspent
  rw [hlookup] at hspent
  intro hnot
  rw [hnot] at hlegal
  revert hterm hspent hlegal
  simp only [Option.any_some, List.mem_cons, List.not_mem_nil, or_false]
  cases row.state <;> decide

theorem spentAttempts_le_count (hopen : NoneOpen store sent)
    (h : WithinBudget key dailyDetailBudget store sent) :
    (store.spentAttempts sent).card ≤ store.countDetailBudgetConsumed key := by
  have hsub : store.spentAttempts sent ⊆
      ((store.attempts.filter (·.CountsAgainst key)).map (·.attemptId)).toFinset := by
    intro attemptId hspent
    obtain ⟨hsent, hspent⟩ := Finset.mem_filter.mp hspent
    rw [List.mem_toFinset] at hsent
    obtain ⟨row, hrow, hkey⟩ := h.recorded attemptId hsent
    obtain ⟨row', hrow', hterm⟩ := hopen attemptId hsent
    obtain rfl := Option.some.inj (hrow.symm.trans hrow')
    obtain ⟨hmem, rfl⟩ := row_eq_some_iff.mp hrow
    have hcounts : row.CountsAgainst key := ⟨hkey, consumption_of_terminal hmem hterm hspent⟩
    rw [List.mem_toFinset]
    exact List.mem_map_of_mem (List.mem_filter.mpr ⟨hmem, by simpa using hcounts⟩)
  calc (store.spentAttempts sent).card
    _ ≤ _ := Finset.card_le_card hsub
    _ ≤ ((store.attempts.filter (·.CountsAgainst key)).map (·.attemptId)).length :=
      List.toFinset_card_le _
    _ = store.countDetailBudgetConsumed key := by
      rw [List.length_map]
      rfl

end LiepinStore

namespace DetailOpenCall

variable {call : DetailOpenCall} {store store₁ : LiepinStore}
variable {sent : List LiepinDetailOpenRequest}

theorem Ready.withinBudget {prepared : Prepared}
    (hopen : NoneOpen store sent)
    (h : WithinBudget call.budgetKey call.dailyDetailBudget store sent)
    (hext : Extends store store₁)
    (hready : Ready call (store.countDetailBudgetConsumed call.budgetKey) prepared store₁) :
    WithinBudget call.budgetKey call.dailyDetailBudget store₁ (sent ++ [call.request prepared]) := by
  have h₁ := h.extends hext
  constructor
  · intro attemptId hid
    unfold sentAttemptIds at hid
    rw [List.flatMap_append, List.mem_append] at hid
    rcases hid with hid | hid
    · exact h₁.recorded attemptId hid
    · obtain ⟨item, hitem, rfl⟩ : ∃ item ∈ prepared.items, item.attemptId = attemptId := by
        simpa [request] using hid
      obtain ⟨attempt, hattempt, hsame, -⟩ := hready.ofItem item hitem
      obtain ⟨row, hrow, hkey, -⟩ := hready.started attempt hattempt
      exact ⟨row, hsame ▸ hrow, hkey⟩
  · have hcount := spentAttempts_le_count hopen h
    have hkept : (store₁.spentAttempts sent).card ≤ (store.spentAttempts sent).card :=
      Finset.card_le_card (spentAttempts_extends hext)
    have hadd : (store₁.spentAttempts (sent ++ [call.request prepared])).card ≤
        (store₁.spentAttempts sent).card + prepared.items.length :=
      spentAttempts_append (call.request prepared)
    have hitems := hready.items_le
    have hbounded := h.bounded
    -- either the count has left room for the items, or there are none
    omega

/-- **One call.** Begun when none is open, it stays within the budget all along. -/
theorem execute_withinBudget (hopen : NoneOpen store sent)
    (h : WithinBudget call.budgetKey call.dailyDetailBudget store sent) :
    Proc.Ensures (WithinBudget call.budgetKey call.dailyDetailBudget) (fun _ _ _ => True)
      call.execute store sent := by
  have hkeep : ∀ {store₁ sent₁ store₂ sent₂},
      WithinBudget call.budgetKey call.dailyDetailBudget store₁ sent₁ → sent₂ = sent₁ →
        Extends store₁ store₂ →
          WithinBudget call.budgetKey call.dailyDetailBudget store₂ sent₂ := by
    intro store₁ sent₁ store₂ sent₂ h₁ hsent hext
    exact hsent ▸ h₁.extends hext
  unfold execute
  refine Proc.Ensures.bind (Q := fun prepared store₁ sent₁ => Preparing store sent store₁ sent₁ ∧
    Ready call (store.countDetailBudgetConsumed call.budgetKey) prepared store₁) ?_ ?_
  · apply prepare_spec.imp
    · intro store₁ sent₁ hprep
      exact hkeep h hprep.1 hprep.2.1
    · intro prepared store₁ sent₁ hprep hready
      exact ⟨hprep, hready⟩
  · intro prepared store₁ sent₁ h₁ hprepared
    obtain ⟨⟨rfl, hext, -⟩, hready⟩ := hprepared
    split
    · exact ⟨h₁, trivial⟩
    · have hsend := hready.withinBudget hopen h hext
      refine ⟨h₁, hsend, fun answer => ?_⟩
      apply settle_spec.imp
      · intro store₂ sent₂ hsettling
        exact hkeep hsend hsettling.1 hsettling.2
      · intro _ _ _ _ _
        trivial

/-- **The daily budget.** Calls with one budget key and one budget take their steps in any
    order in which none begins while another is under way or an attempt that was sent is
    open. Then the attempts sent that have not given their place back are within the
    budget at every point, whatever the worker answers. -/
theorem spentAttempts_le_dailyDetailBudget {ι : Type} [DecidableEq ι]
    (calls : ι → DetailOpenCall) (key : BudgetKey) (dailyDetailBudget : Int)
    (hkey : ∀ i, (calls i).budgetKey = key)
    (hbudget : ∀ i, (calls i).dailyDetailBudget = dailyDetailBudget) (store : LiepinStore)
    {c : Proc.Config ι LiepinStore LiepinDetailOpenRequest WorkerAnswer String
      LiepinDetailOpenLoopResult}
    (hreach : ReflTransGen (Proc.SerialStep NoneOpen)
      (Proc.initial store fun i => (calls i).execute) c) :
    ((c.store.spentAttempts c.sent).card : Int) ≤ max 0 dailyDetailBudget := by
  have hcall : ∀ i store sent, WithinBudget key dailyDetailBudget store sent →
      NoneOpen store sent → Proc.Ensures (WithinBudget key dailyDetailBudget)
        (fun _ _ _ => True) (calls i).execute store sent := by
    intro i store sent h hopen
    rw [← hkey i, ← hbudget i] at h ⊢
    exact execute_withinBudget hopen h
  have hstart : WithinBudget key dailyDetailBudget store [] :=
    ⟨fun _ hid => absurd hid List.not_mem_nil, le_max_left 0 _⟩
  exact (Proc.serial_invariant hcall hstart hreach).bounded

end DetailOpenCall

def initialCall (candidateId attemptId : String) :
    Proc.Config Unit LiepinStore LiepinDetailOpenRequest WorkerAnswer String
      LiepinDetailOpenLoopResult :=
  Proc.initial {} fun _ => (oneCardCall candidateId attemptId).execute

/-- The bound for one call that sends its attempt and completes it. -/
theorem spentAttempts_le_dailyDetailBudget_one :
    ∃ c : Proc.Config Unit LiepinStore LiepinDetailOpenRequest WorkerAnswer String
        LiepinDetailOpenLoopResult,
      (sentAttemptIds c.sent).length = 1 ∧ ((c.store.spentAttempts c.sent).card : Int) ≤ max 0 1 := by
  have hidle : () ∉ (initialCall "c1" "detail_1").begun →
      (∀ j, ¬Proc.InProgress (initialCall "c1" "detail_1") j) ∧
        NoneOpen (initialCall "c1" "detail_1").store (initialCall "c1" "detail_1").sent :=
    fun _ => ⟨fun _ hbusy => absurd hbusy.1 (Set.notMem_empty _),
      fun _ hid => absurd hid List.not_mem_nil⟩
  obtain ⟨c, hreach, hstore, hsent⟩ :=
    Proc.serial_run (fun _ => oneResult "c1" "r1" .completed true true) hidle
  refine ⟨c, ?_, DetailOpenCall.spentAttempts_le_dailyDetailBudget
    (fun _ => oneCardCall "c1" "detail_1") _ 1 (fun _ => rfl) (fun _ => rfl) {} hreach⟩
  rw [hsent]
  decide

def twoCalls (actors : Bool → String) (i : Bool) : DetailOpenCall :=
  let call := if i then oneCardCall "c2" "detail_2" else oneCardCall "c1" "detail_1"
  { call with scope := { call.scope with actorId := actors i } }

def bothCalls (actors : Bool → String) :
    Proc.Config Bool LiepinStore LiepinDetailOpenRequest WorkerAnswer String
      LiepinDetailOpenLoopResult :=
  Proc.initial {} fun i => (twoCalls actors i).execute

/-- Steps of one call with an answer, enough to end it. -/
def stepsOf (i : Bool) (answer : WorkerAnswer) : List (Bool × WorkerAnswer) :=
  List.replicate 8 (i, answer)

/-- With a budget of one, two attempts are sent: when the first has consumed nothing, when
    the first call was cancelled, and when both calls count before either sends. They are
    also sent when two actors use the account one after the other. -/
theorem dailyDetailBudget_exceeded :
    (∀ moves ∈
      [stepsOf false (oneResult "c1" "r1" .failedBeforeConsumption false false) ++
          stepsOf true (oneResult "c2" "r2" .completed true true),
        stepsOf false .cancelled ++ stepsOf true (oneResult "c2" "r2" .completed true true),
        [(false, .cancelled), (true, .cancelled)] ++
          stepsOf false (oneResult "c1" "r1" .completed true true) ++
          stepsOf true (oneResult "c2" "r2" .completed true true)],
      Proc.Reachable (bothCalls fun _ => "actor")
          (Proc.advance moves (bothCalls fun _ => "actor")) ∧
        1 < (sentAttemptIds (Proc.advance moves (bothCalls fun _ => "actor")).sent).toFinset.card) ∧
    ∃ c, Proc.Reachable (bothCalls fun i => if i then "actor2" else "actor1") c ∧
      1 < (sentAttemptIds c.sent).toFinset.card := by
  constructor
  · intro moves hmoves
    refine ⟨Proc.reachable_advance _ _, ?_⟩
    revert moves
    decide
  · exact ⟨_, Proc.reachable_advance (stepsOf false (oneResult "c1" "r1" .completed true true) ++
      stepsOf true (oneResult "c2" "r2" .completed true true)) _, by decide⟩

end SeekTalent

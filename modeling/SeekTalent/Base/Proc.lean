import Mathlib.Data.Set.Insert
import Mathlib.Logic.Function.Basic
import Mathlib.Logic.Relation

/-!
# Programs that share a store and talk to a server

A coroutine that works on a shared store in atomic steps, sends requests to a server and
waits for the answers is a tree of steps, `Proc`. It can be run alone against a server
(`run`), or together with others in any interleaving of their steps (`Step`).

`Ensures P Q m s h` is the judgment about one program that has the store to itself: from the
store `s`, with `h` sent so far, `P` holds all along, whatever the server answers, and `Q`
where the program returns. It has a rule for every construct, and it covers two uses: a run
against a given server (`Ensures.run`), and every interleaving in which a program does not
begin before the ones that have begun are finished (`serial_invariant`).
-/

open Relation (ReflTransGen)

/-- A program over a store `σ` that sends `Req`, receives `Ans`, and returns `α` or raises
    an `ε`. -/
inductive Proc (σ Req Ans ε α : Type) where
  | ret (a : α)
  | raise (e : ε)
  /-- One atomic step: the store changes, and the rest sees what it was before. -/
  | act (f : σ → σ) (k : σ → Proc σ Req Ans ε α)
  | send (req : Req) (k : Proc σ Req Ans ε α)
  | recv (k : Ans → Proc σ Req Ans ε α)

namespace Proc

variable {σ Req Ans ε α β : Type}

def bind : Proc σ Req Ans ε α → (α → Proc σ Req Ans ε β) → Proc σ Req Ans ε β
  | ret a, g => g a
  | raise e, _ => raise e
  | act f k, g => act f fun s => (k s).bind g
  | send req k, g => send req (k.bind g)
  | recv k, g => recv fun ans => (k ans).bind g

instance : Monad (Proc σ Req Ans ε) where
  pure := ret
  bind := bind

/-- An operation on the store that leaves it alone when it raises. -/
def atomically (op : σ → Except ε (σ × α)) : Proc σ Req Ans ε α :=
  act
    (fun s => match op s with
      | .ok (s', _) => s'
      | .error _ => s)
    (fun s => match op s with
      | .ok (_, a) => ret a
      | .error e => raise e)

/-- `for item in items: body(item)` -/
def forEach (body : α → Proc σ Req Ans ε Unit) : List α → Proc σ Req Ans ε Unit
  | [] => ret ()
  | item :: items => body item >>= fun _ => forEach body items

/-! ## One program -/

/-- From `s`, with `h` sent so far, `P` holds all along, and `Q` where the program
    returns. -/
def Ensures (P : σ → List Req → Prop) (Q : α → σ → List Req → Prop) :
    Proc σ Req Ans ε α → σ → List Req → Prop
  | ret a, s, h => P s h ∧ Q a s h
  | raise _, s, h => P s h
  | act f k, s, h => P s h ∧ Ensures P Q (k s) (f s) h
  | send req k, s, h => P s h ∧ Ensures P Q k s (h ++ [req])
  | recv k, s, h => P s h ∧ ∀ ans, Ensures P Q (k ans) s h

namespace Ensures

variable {P : σ → List Req → Prop} {Q : α → σ → List Req → Prop}
variable {Q' : β → σ → List Req → Prop} {m : Proc σ Req Ans ε α} {s : σ} {h : List Req}

theorem invariant (hm : Ensures P Q m s h) : P s h := by
  cases m with
  | ret a => exact hm.1
  | raise e => exact hm
  | act f k => exact hm.1
  | send req k => exact hm.1
  | recv k => exact hm.1

theorem bind {g : α → Proc σ Req Ans ε β} (hm : Ensures P Q m s h)
    (hg : ∀ a s h, P s h → Q a s h → Ensures P Q' (g a) s h) :
    Ensures P Q' (m >>= g) s h := by
  induction m generalizing s h with
  | ret a => exact hg a s h hm.1 hm.2
  | raise e => exact hm
  | act f k ih => exact ⟨hm.1, ih s hm.2⟩
  | send req k ih => exact ⟨hm.1, ih hm.2⟩
  | recv k ih => exact ⟨hm.1, fun ans => ih ans (hm.2 ans)⟩

/-- The rule of consequence. -/
theorem imp {P₂ : σ → List Req → Prop} {Q₂ : α → σ → List Req → Prop} (hm : Ensures P Q m s h)
    (hp : ∀ s h, P s h → P₂ s h) (hq : ∀ a s h, P s h → Q a s h → Q₂ a s h) :
    Ensures P₂ Q₂ m s h := by
  induction m generalizing s h with
  | ret a => exact ⟨hp s h hm.1, hq a s h hm.1 hm.2⟩
  | raise e => exact hp s h hm
  | act f k ih => exact ⟨hp s h hm.1, ih s hm.2⟩
  | send req k ih => exact ⟨hp s h hm.1, ih hm.2⟩
  | recv k ih => exact ⟨hp s h hm.1, fun ans => ih ans (hm.2 ans)⟩

theorem atomically {op : σ → Except ε (σ × α)} (hP : P s h)
    (hop : ∀ s' a, op s = .ok (s', a) → P s' h ∧ Q a s' h) :
    Ensures P Q (atomically op : Proc σ Req Ans ε α) s h := by
  refine ⟨hP, ?_⟩
  dsimp only
  cases hs : op s with
  | ok r => exact hop r.1 r.2 hs
  | error e => exact hP

/-- The rule for loops: `I` holds of what is left to do. -/
theorem forEach {body : α → Proc σ Req Ans ε Unit} {I : List α → σ → List Req → Prop}
    {items : List α} (hP : P s h) (hI : I items s h)
    (hbody : ∀ item rest s h, P s h → I (item :: rest) s h →
      Ensures P (fun _ => I rest) (body item) s h) :
    Ensures P (fun _ => I []) (forEach body items) s h := by
  induction items generalizing s h with
  | nil => exact ⟨hP, hI⟩
  | cons item rest ih =>
    exact (hbody item rest s h hP hI).bind fun _ s' h' hP' hI' => ih hP' hI'

end Ensures

/-! ## Running alone -/

structure Outcome (σ Req ε α : Type) where
  store : σ
  sent : List Req
  result : Except ε α

/-- Run a program against a server whose answer may depend on all that was sent to it. -/
def run (worker : List Req → Ans) : Proc σ Req Ans ε α → σ → List Req → Outcome σ Req ε α
  | ret a, s, h => ⟨s, h, .ok a⟩
  | raise e, s, h => ⟨s, h, .error e⟩
  | act f k, s, h => run worker (k s) (f s) h
  | send req k, s, h => run worker k s (h ++ [req])
  | recv k, s, h => run worker (k (worker h)) s h

section Run

variable {worker : List Req → Ans} {m : Proc σ Req Ans ε α} {s : σ} {h : List Req}

@[simp] theorem run_pure (a : α) :
    run worker (pure a : Proc σ Req Ans ε α) s h = ⟨s, h, .ok a⟩ := rfl

@[simp] theorem run_raise (e : ε) :
    run worker (raise e : Proc σ Req Ans ε α) s h = ⟨s, h, .error e⟩ := rfl

theorem run_bind (g : α → Proc σ Req Ans ε β) :
    run worker (m >>= g) s h =
      match run worker m s h with
      | ⟨s', h', .ok a⟩ => run worker (g a) s' h'
      | ⟨s', h', .error e⟩ => ⟨s', h', .error e⟩ := by
  show run worker (m.bind g) s h = _
  induction m generalizing s h with
  | ret a => rfl
  | raise e => rfl
  | act f k ih => exact ih s
  | send req k ih => exact ih
  | recv k ih => exact ih (worker h)

theorem run_bind_pure (g : α → β) :
    (run worker (m >>= fun a => pure (g a)) s h).store = (run worker m s h).store ∧
      (run worker (m >>= fun a => pure (g a)) s h).sent = (run worker m s h).sent := by
  rw [run_bind]
  split
  · rename_i hrun
    rw [hrun]
    exact ⟨rfl, rfl⟩
  · rename_i hrun
    rw [hrun]
    exact ⟨rfl, rfl⟩

theorem run_atomically (op : σ → Except ε (σ × α)) :
    run worker (atomically op) s h =
      match op s with
      | .ok (s', a) => ⟨s', h, .ok a⟩
      | .error e => ⟨s, h, .error e⟩ := by
  unfold atomically run
  dsimp only
  cases op s with
  | ok r => rfl
  | error e => rfl

theorem Ensures.run (worker : List Req → Ans) {P : σ → List Req → Prop}
    {Q : α → σ → List Req → Prop} (hm : Ensures P Q m s h) : P (run worker m s h).store (run worker m s h).sent ∧
      ∀ a, (run worker m s h).result = .ok a →
        Q a (run worker m s h).store (run worker m s h).sent := by
  induction m generalizing s h with
  | ret a =>
    refine ⟨hm.1, fun b hb => ?_⟩
    obtain rfl := Except.ok.inj hb
    exact hm.2
  | raise e => exact ⟨hm, fun b hb => by cases hb⟩
  | act f k ih => exact ih s hm.2
  | send req k ih => exact ih hm.2
  | recv k ih => exact ih (worker h) (hm.2 (worker h))

end Run

/-! ## Running together -/

variable {ι : Type} [DecidableEq ι]

/-- Where a pool of programs is: the store, all requests sent so far, what is left of every
    program, and which programs have begun. -/
structure Config (ι σ Req Ans ε α : Type) where
  store : σ
  sent : List Req
  procs : ι → Proc σ Req Ans ε α
  begun : Set ι

def initial (store : σ) (prog : ι → Proc σ Req Ans ε α) : Config ι σ Req Ans ε α :=
  ⟨store, [], prog, ∅⟩

/-- The program `i` takes one step. -/
inductive Step (i : ι) : Config ι σ Req Ans ε α → Config ι σ Req Ans ε α → Prop
  | act {c : Config ι σ Req Ans ε α} {f k} (hi : c.procs i = act f k) :
    Step i c ⟨f c.store, c.sent, Function.update c.procs i (k c.store), insert i c.begun⟩
  | send {c : Config ι σ Req Ans ε α} {req k} (hi : c.procs i = send req k) :
    Step i c ⟨c.store, c.sent ++ [req], Function.update c.procs i k, insert i c.begun⟩
  | recv {c : Config ι σ Req Ans ε α} {k} (ans : Ans) (hi : c.procs i = recv k) :
    Step i c ⟨c.store, c.sent, Function.update c.procs i (k ans), insert i c.begun⟩

def Finished : Proc σ Req Ans ε α → Prop
  | ret _ => True
  | raise _ => True
  | _ => False

/-- The program has begun and is not finished. -/
def InProgress (c : Config ι σ Req Ans ε α) (i : ι) : Prop :=
  i ∈ c.begun ∧ ¬Finished (c.procs i)

def Reachable (c c' : Config ι σ Req Ans ε α) : Prop :=
  ReflTransGen (fun c c' => ∃ i, Step i c c') c c'

/-- Let programs take steps in this order; an answer is used where one is waited for. -/
def advance : List (ι × Ans) → Config ι σ Req Ans ε α → Config ι σ Req Ans ε α
  | [], c => c
  | (i, ans) :: rest, c =>
    match c.procs i with
    | ret _ => advance rest c
    | raise _ => advance rest c
    | act f k =>
      advance rest
        ⟨f c.store, c.sent, Function.update c.procs i (k c.store), insert i c.begun⟩
    | send req k =>
      advance rest ⟨c.store, c.sent ++ [req], Function.update c.procs i k, insert i c.begun⟩
    | recv k =>
      advance rest ⟨c.store, c.sent, Function.update c.procs i (k ans), insert i c.begun⟩

theorem reachable_advance (moves : List (ι × Ans)) (c : Config ι σ Req Ans ε α) :
    Reachable c (advance moves c) := by
  induction moves generalizing c with
  | nil => exact ReflTransGen.refl
  | cons move rest ih =>
    obtain ⟨i, ans⟩ := move
    unfold advance
    split
    · exact ih c
    · exact ih c
    · rename_i hi
      exact ReflTransGen.head ⟨i, .act hi⟩ (ih _)
    · rename_i hi
      exact ReflTransGen.head ⟨i, .send hi⟩ (ih _)
    · rename_i hi
      exact ReflTransGen.head ⟨i, .recv ans hi⟩ (ih _)

/-- A step that is not the first one of its program, or that is taken while no program is in
    progress and `Start` holds. -/
def SerialStep (Start : σ → List Req → Prop) (c c' : Config ι σ Req Ans ε α) : Prop :=
  ∃ i, Step i c c' ∧ (i ∉ c.begun → (∀ j, ¬InProgress c j) ∧ Start c.store c.sent)

section Serial

variable {P : σ → List Req → Prop} {Q : α → σ → List Req → Prop}
variable {Start : σ → List Req → Prop} {c c' : Config ι σ Req Ans ε α} {i : ι}

theorem Ensures.step (hm : Ensures P Q (c.procs i) c.store c.sent) (hstep : Step i c c') :
    Ensures P Q (c'.procs i) c'.store c'.sent := by
  cases hstep with
  | act hi =>
    rw [hi] at hm
    simpa using hm.2
  | send hi =>
    rw [hi] at hm
    simpa using hm.2
  | recv ans hi =>
    rw [hi] at hm
    simpa using hm.2 ans

theorem Step.procs_of_ne (hstep : Step i c c') {j : ι} (hj : j ≠ i) :
    c'.procs j = c.procs j := by
  cases hstep <;> simp [hj]

theorem Step.begun_eq (hstep : Step i c c') : c'.begun = insert i c.begun := by
  cases hstep <;> rfl

theorem Step.not_finished (hstep : Step i c c') : ¬Finished (c.procs i) := by
  cases hstep with
  | act hi => simp [hi, Finished]
  | send hi => simp [hi, Finished]
  | recv ans hi => simp [hi, Finished]

/-- A program that may go on, or begin, reaches alone what `run` leaves. -/
theorem serial_run (worker : List Req → Ans)
    (hmay : i ∉ c.begun → (∀ j, ¬InProgress c j) ∧ Start c.store c.sent) :
    ∃ c', ReflTransGen (SerialStep Start) c c' ∧
      c'.store = (run worker (c.procs i) c.store c.sent).store ∧
      c'.sent = (run worker (c.procs i) c.store c.sent).sent := by
  generalize hm : c.procs i = m
  induction m generalizing c with
  | ret a => exact ⟨c, .refl, rfl, rfl⟩
  | raise e => exact ⟨c, .refl, rfl, rfl⟩
  | act f k ih =>
    obtain ⟨c', hsteps, hleaves⟩ := ih c.store
      (c := ⟨f c.store, c.sent, Function.update c.procs i (k c.store), insert i c.begun⟩)
      (fun hnot => absurd (Set.mem_insert i _) hnot) (Function.update_self ..)
    exact ⟨c', .head ⟨i, .act hm, hmay⟩ hsteps, hleaves⟩
  | send req k ih =>
    obtain ⟨c', hsteps, hleaves⟩ := ih
      (c := ⟨c.store, c.sent ++ [req], Function.update c.procs i k, insert i c.begun⟩)
      (fun hnot => absurd (Set.mem_insert i _) hnot) (Function.update_self ..)
    exact ⟨c', .head ⟨i, .send hm, hmay⟩ hsteps, hleaves⟩
  | recv k ih =>
    obtain ⟨c', hsteps, hleaves⟩ := ih (worker c.sent)
      (c := ⟨c.store, c.sent, Function.update c.procs i (k (worker c.sent)), insert i c.begun⟩)
      (fun hnot => absurd (Set.mem_insert i _) hnot) (Function.update_self ..)
    exact ⟨c', .head ⟨i, .recv _ hm, hmay⟩ hsteps, hleaves⟩

/-- **Programs that do not overlap.** If every program ensures `P` from where it may start,
    then `P` holds in every configuration that such an interleaving reaches. -/
theorem serial_invariant {prog : ι → Proc σ Req Ans ε α} {s₀ : σ}
    (hprog : ∀ i s h, P s h → Start s h → Ensures P Q (prog i) s h) (h₀ : P s₀ [])
    (hreach : ReflTransGen (SerialStep Start) (initial s₀ prog) c) : P c.store c.sent := by
  -- the programs that have not begun are intact, and of those in progress there is at most
  -- one, which ensures the invariant
  have hinv : P c.store c.sent ∧ (∀ i, i ∉ c.begun → c.procs i = prog i) ∧
      ∀ i, InProgress c i → Ensures P Q (c.procs i) c.store c.sent ∧
        ∀ j, InProgress c j → j = i := by
    induction hreach with
    | refl => exact ⟨h₀, fun _ _ => rfl, fun i hi => absurd hi.1 (Set.notMem_empty i)⟩
    | @tail c c' _ hstep ih =>
      obtain ⟨hP, hintact, hbusy⟩ := ih
      obtain ⟨i, hstep, hstart⟩ := hstep
      have hother : ∀ j, j ≠ i → (InProgress c' j ↔ InProgress c j) := by
        intro j hj
        simp [InProgress, hstep.procs_of_ne hj, hstep.begun_eq, hj]
      have hens : Ensures P Q (c.procs i) c.store c.sent ∧
          ∀ j, InProgress c j → j = i := by
        by_cases hi : i ∈ c.begun
        · exact hbusy i ⟨hi, hstep.not_finished⟩
        · obtain ⟨hidle, hs⟩ := hstart hi
          exact ⟨hintact i hi ▸ hprog i _ _ hP hs, fun j hj => absurd hj (hidle j)⟩
      have hens' := hens.1.step hstep
      refine ⟨hens'.invariant, fun j hj => ?_, fun j hj => ?_⟩
      · rw [hstep.begun_eq, Set.mem_insert_iff, not_or] at hj
        rw [hstep.procs_of_ne hj.1]
        exact hintact j hj.2
      · have hji : ∀ j, InProgress c' j → j = i := by
          intro j hj
          by_contra hne
          exact hne (hens.2 j ((hother j hne).mp hj))
        obtain rfl := hji j hj
        exact ⟨hens', hji⟩
  exact hinv.1

end Serial

end Proc

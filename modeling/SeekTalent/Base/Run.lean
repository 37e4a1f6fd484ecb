import Mathlib.Logic.Relation
import Mathlib.Control.Basic
import Mathlib.Data.List.Induction

/-!
# Programs with a state and exceptions

A Python coroutine that mutates objects and may raise is a state transformer whose
answer is a value or an exception: `Run σ ε α`. An exception does *not* undo the state
— what was mutated before the `raise` stays mutated — which is why the state is the
inner layer and the exception the outer one.

A loop nest is verified by naming its elementary steps once, as a relation `R`, and
walking through the program once with the judgment `Follows R P m Q`: from a state with
`P`, the program `m` moves only along steps of `R`, whether it returns or raises, and
where it returns `Q` holds. Every property of a whole run is then an induction over the
steps (`Follows.preserves`) that never mentions the loops; the assertions `P` and `Q`
are only there to justify the guards of the steps. `RaisesOnly P m E` bounds the exceptions
of a program; a loop with fuel ends when the one it throws at zero is not among them.
-/

namespace Stateful

open Relation (ReflTransGen)

/-- A program over a state `σ` that answers an `α` or raises an `ε`. -/
abbrev Run (σ ε : Type) := ExceptT ε (StateM σ)

variable {σ ε α β : Type}

/-- Run a program: how it ends, and the state it leaves. -/
def exec (m : Run σ ε α) (s : σ) : Except ε α × σ := m.run.run s

@[simp] theorem exec_pure (a : α) (s : σ) : exec (pure a : Run σ ε α) s = (.ok a, s) := rfl

@[simp] theorem exec_throw (e : ε) (s : σ) :
    exec (throw e : Run σ ε α) s = (.error e, s) := rfl

@[simp] theorem exec_get (s : σ) : exec (get : Run σ ε σ) s = (.ok s, s) := rfl

@[simp] theorem exec_modify (f : σ → σ) (s : σ) :
    exec (modify f : Run σ ε PUnit) s = (.ok ⟨⟩, f s) := rfl

theorem exec_bind (m : Run σ ε α) (f : α → Run σ ε β) (s : σ) :
    exec (m >>= f) s =
      match exec m s with
      | (.ok a, s') => exec (f a) s'
      | (.error e, s') => (.error e, s') := by
  simp only [exec, ExceptT.run_bind, StateT.run_bind]
  cases h : (ExceptT.run m).run s with
  | mk r s' => cases r <;> rfl

theorem bind_eq_ok {x : Except ε α} {f : α → Except ε β} {b : β} (h : x >>= f = .ok b) :
    ∃ a, x = .ok a ∧ f a = .ok b := by
  cases x with
  | error e => cases h
  | ok a => exact ⟨a, rfl, h⟩

theorem bind_eq_ok_iff {x : Except ε α} {f : α → Except ε β} {b : β} :
    x >>= f = .ok b ↔ ∃ a, x = .ok a ∧ f a = .ok b := by
  constructor
  · exact bind_eq_ok
  · rintro ⟨a, rfl, hf⟩
    exact hf

theorem map_eq_ok {x : Except ε α} {f : α → β} {b : β} (h : x.map f = .ok b) :
    ∃ a, x = .ok a ∧ f a = b := by
  cases x with
  | error e => cases h
  | ok a => exact ⟨a, rfl, Except.ok.inj h⟩

/-! ## Runs of calls -/

/-- What every call keeps, when it is allowed, a run keeps whose calls are all allowed. -/
theorem foldl_induction {γ : Type} {step : σ → γ → σ} {P : σ → Prop} {calls : List γ} {s : σ}
    (allowed : σ → γ → Prop) (hstep : ∀ s call, allowed s call → P s → P (step s call))
    (hstart : P s)
    (hallowed : ∀ first call third, calls = first ++ call :: third →
      allowed (first.foldl step s) call) :
    P (calls.foldl step s) := by
  induction calls generalizing s with
  | nil => exact hstart
  | cons call calls ih =>
    have hfirst : P (step s call) := hstep s call (hallowed [] call calls rfl) hstart
    apply ih hfirst
    intro first call' third h
    exact hallowed (call :: first) call' third (by rw [h]; rfl)

section Along

variable {γ : Type} {step : σ → γ → σ} {s : σ} {P : σ → γ → Prop} {call : γ} {calls : List γ}

/-- Every call of the run meets `P` in the state it is made in. -/
def Along (step : σ → γ → σ) (s : σ) (P : σ → γ → Prop) (calls : List γ) : Prop :=
  ∀ first call third, calls = first ++ call :: third → P (first.foldl step s) call

theorem along_nil : Along step s P [] := by
  intro first call third hcalls
  cases first <;> cases hcalls

theorem along_cons (hcall : P s call) (hcalls : Along step (step s call) P calls) :
    Along step s P (call :: calls) := by
  intro first call' third hsplit
  cases first with
  | nil =>
    obtain ⟨rfl, -⟩ := List.cons.inj hsplit
    exact hcall
  | cons call₀ first =>
    obtain ⟨rfl, hrest⟩ := List.cons.inj hsplit
    exact hcalls first call' third hrest

theorem Along.snoc (hcalls : Along step s P calls) (hcall : P (calls.foldl step s) call) :
    Along step s P (calls ++ [call]) := by
  intro first next rest hsplit
  rcases List.eq_nil_or_concat rest with rfl | ⟨rest, last, rfl⟩
  · obtain ⟨rfl, hlast⟩ := List.append_inj' hsplit rfl
    cases hlast
    exact hcall
  · have hsplit : calls ++ [call] = (first ++ next :: rest) ++ [last] := by simpa using hsplit
    obtain ⟨rfl, -⟩ := List.append_inj' hsplit rfl
    exact hcalls first next rest rfl

theorem Along.append {calls' : List γ} (h : Along step s P (calls ++ calls')) :
    Along step s P calls ∧ Along step (calls.foldl step s) P calls' := by
  constructor
  · intro before call after hcalls
    apply h before call (after ++ calls')
    rw [hcalls, List.append_assoc, List.cons_append]
  · intro before call after hcalls
    rw [← List.foldl_append]
    apply h (calls ++ before) call after
    rw [hcalls, List.append_assoc]

theorem Along.join {calls' : List γ} (h : Along step s P calls)
    (h' : Along step (calls.foldl step s) P calls') : Along step s P (calls ++ calls') := by
  induction calls' using List.reverseRecOn with
  | nil =>
    rw [List.append_nil]
    exact h
  | append_singleton calls' call ih =>
    rw [← List.append_assoc]
    apply (ih h'.append.1).snoc
    rw [List.foldl_append]
    exact h' calls' call [] rfl

/-- A run in which `P` holds after every part has allowed calls only. -/
theorem along_of_everywhere {Inv Holds : σ → Prop}
    (hInv : ∀ s call, Inv s → Holds s → P s call → Inv (step s call))
    (hstep : ∀ s call, Inv s → Holds s → Holds (step s call) → P s call) (hs : Inv s)
    (h : ∀ first third, calls = first ++ third → Holds (first.foldl step s)) :
    Inv (calls.foldl step s) ∧ Along step s P calls := by
  induction calls using List.reverseRecOn with
  | nil => exact ⟨hs, along_nil⟩
  | append_singleton calls call ih =>
    obtain ⟨hinv, halong⟩ := ih fun first third hcalls =>
      h first (third ++ [call]) (by rw [hcalls, List.append_assoc])
    have hbefore := h calls [call] rfl
    have hafter := h (calls ++ [call]) [] (List.append_nil _).symm
    rw [List.foldl_append] at hafter ⊢
    have hcall := hstep _ call hinv hbefore hafter
    exact ⟨hInv _ call hinv hbefore hcall, halong.snoc hcall⟩

/-- A run of allowed calls ends where `P` holds. -/
theorem holds_of_along {Inv Holds : σ → Prop}
    (hInv : ∀ s call, Inv s → Holds s → P s call → Inv (step s call))
    (hstep : ∀ s call, Inv s → Holds s → P s call → Holds (step s call)) (hs : Inv s)
    (hstart : Holds s) (h : Along step s P calls) :
    Inv (calls.foldl step s) ∧ Holds (calls.foldl step s) := by
  induction calls using List.reverseRecOn with
  | nil => exact ⟨hs, hstart⟩
  | append_singleton calls call ih =>
    obtain ⟨hinv, hbefore⟩ := ih h.append.1
    have hcall := h calls call [] rfl
    rw [List.foldl_append]
    exact ⟨hInv _ call hinv hbefore hcall, hstep _ call hinv hbefore hcall⟩

/-- **What holds everywhere along a run.** Where a call keeps `P` exactly when it is allowed, `P`
holds after every part of the run exactly when every call of it is allowed. The invariant may fail
once `P` does. -/
theorem everywhere_iff_along {Inv Holds : σ → Prop}
    (hInv : ∀ s call, Inv s → Holds s → P s call → Inv (step s call))
    (hstep : ∀ s call, Inv s → Holds s → (Holds (step s call) ↔ P s call)) (hs : Inv s)
    (hstart : Holds s) :
    (∀ first third, calls = first ++ third → Holds (first.foldl step s)) ↔ Along step s P calls := by
  constructor
  · intro h
    exact (along_of_everywhere hInv (fun s call hinv h => (hstep s call hinv h).mp) hs h).2
  · intro h first third hcalls
    rw [hcalls] at h
    exact (holds_of_along hInv (fun s call hinv h => (hstep s call hinv h).mpr) hs hstart
      h.append.1).2

end Along

/-! ## What a run has seen

`Since P Q` looks back: some call met `P`, and every call after it met `Q`. By `since_snoc` the
next call alone decides whether it still holds.
-/

section Since

variable {γ : Type} {step : σ → γ → σ} {s : σ} {P Q P' Q' : σ → γ → Prop} {calls : List γ}

/-- Some call of the run met `P`, and every call after it met `Q`; both are about a call and
    the state it is made in. -/
def Since (step : σ → γ → σ) (s : σ) (P Q : σ → γ → Prop) (calls : List γ) : Prop :=
  ∃ before call after, calls = before ++ call :: after ∧ P (before.foldl step s) call ∧
    ∀ first next rest, after = first ++ next :: rest →
      Q ((before ++ call :: first).foldl step s) next

theorem not_since_nil : ¬Since step s P Q [] := by
  intro h
  obtain ⟨before, call, after, hcalls, -⟩ := h
  cases before <;> cases hcalls

/-- **One more call**: it meets `P`, or it meets `Q` and what was seen before goes on. -/
theorem since_snoc {call : γ} : Since step s P Q (calls ++ [call]) ↔
    P (calls.foldl step s) call ∨ Since step s P Q calls ∧ Q (calls.foldl step s) call := by
  constructor
  · intro h
    obtain ⟨before, seen, after, hcalls, hP, hQ⟩ := h
    rcases List.eq_nil_or_concat after with rfl | ⟨after, last, rfl⟩
    · obtain ⟨rfl, hlast⟩ := List.append_inj' hcalls rfl
      cases hlast
      exact .inl hP
    · have hcalls : calls ++ [call] = (before ++ seen :: after) ++ [last] := by simpa using hcalls
      obtain ⟨rfl, hlast⟩ := List.append_inj' hcalls rfl
      cases hlast
      refine .inr ⟨⟨before, seen, after, rfl, hP, ?_⟩, hQ after call [] (by simp)⟩
      intro first next rest hafter
      exact hQ first next (rest ++ [call]) (by simp [hafter])
  · intro h
    rcases h with hP | ⟨⟨before, seen, after, rfl, hP, hQ⟩, hlast⟩
    · refine ⟨calls, call, [], rfl, hP, ?_⟩
      intro first next rest hnil
      cases first <;> cases hnil
    · refine ⟨before, seen, after ++ [call], by simp, hP, ?_⟩
      intro first next rest hafter
      rcases List.eq_nil_or_concat rest with rfl | ⟨rest, last, rfl⟩
      · obtain ⟨rfl, hnext⟩ := List.append_inj' hafter rfl
        cases hnext
        exact hlast
      · have hafter : after ++ [call] = (first ++ next :: rest) ++ [last] := by simpa using hafter
        obtain ⟨rfl, -⟩ := List.append_inj' hafter rfl
        exact hQ first next rest rfl

/-- **What holds after a run**, where each call makes it so or keeps it, is what the run has seen. -/
theorem holds_iff_since {Holds : σ → Prop} (hstart : ¬Holds s)
    (hstep : ∀ s call, Holds (step s call) ↔ P s call ∨ Holds s ∧ Q s call) :
    Holds (calls.foldl step s) ↔ Since step s P Q calls := by
  induction calls using List.reverseRecOn with
  | nil => exact iff_of_false hstart not_since_nil
  | append_singleton calls call ih =>
    rw [List.foldl_append, since_snoc, ← ih]
    exact hstep _ call

/-- Two things that end each other are not both so. -/
theorem not_since_and_since (hPP' : ∀ s call, P s call → ¬P' s call)
    (hPQ' : ∀ s call, P s call → ¬Q' s call) (hP'Q : ∀ s call, P' s call → ¬Q s call)
    (h : Since step s P Q calls) : ¬Since step s P' Q' calls := by
  induction calls using List.reverseRecOn with
  | nil => exact absurd h not_since_nil
  | append_singleton calls call ih =>
    rw [since_snoc] at h ⊢
    intro h'
    rcases h with hP | ⟨h, hQ⟩
    · rcases h' with hP' | ⟨-, hQ'⟩
      · exact hPP' _ _ hP hP'
      · exact hPQ' _ _ hP hQ'
    · rcases h' with hP' | ⟨h', -⟩
      · exact hP'Q _ _ hP' hQ
      · exact ih h h'

end Since

/-! ## Following a step relation -/

/-- From every state with `P`, the program moves only along `R`, however it ends, and
    `Q` holds of what it returns and of the state it returns in. -/
def Follows (R : σ → σ → Prop) (P : σ → Prop) (m : Run σ ε α) (Q : α → σ → Prop) : Prop :=
  ∀ s, P s → ReflTransGen R s (exec m s).2 ∧
    ∀ a, (exec m s).1 = .ok a → Q a (exec m s).2

namespace Follows

variable {R R' : σ → σ → Prop} {P P' : σ → Prop} {Q Q' : α → σ → Prop} {m : Run σ ε α}

theorem pure {a : α} (h : ∀ s, P s → Q a s) :
    Follows R P (Pure.pure a : Run σ ε α) Q := by
  intro s hs
  refine ⟨.refl, ?_⟩
  intro b hb
  simp only [exec_pure, Except.ok.injEq] at hb
  subst hb
  exact h s hs

theorem throw (e : ε) : Follows R P (MonadExcept.throw e : Run σ ε α) Q := by
  intro s _
  refine ⟨.refl, ?_⟩
  intro a ha
  simp [exec, MonadExcept.throw, throwThe, MonadExceptOf.throw, ExceptT.run] at ha
  cases ha

theorem get : Follows R P (MonadState.get : Run σ ε σ) (fun a s => a = s ∧ P s) := by
  intro s hs
  refine ⟨.refl, ?_⟩
  intro a ha
  cases ha
  exact ⟨rfl, hs⟩

theorem modify {f : σ → σ} {Q : PUnit → σ → Prop} (hstep : ∀ s, P s → R s (f s))
    (hq : ∀ s, P s → Q ⟨⟩ (f s)) : Follows R P (modify f : Run σ ε PUnit) Q := by
  intro s hs
  refine ⟨.single (hstep s hs), ?_⟩
  intro _ _
  exact hq s hs

theorem bind {f : α → Run σ ε β} {Q' : β → σ → Prop} (hm : Follows R P m Q)
    (hf : ∀ a, Follows R (Q a) (f a) Q') : Follows R P (m >>= f) Q' := by
  intro s hs
  obtain ⟨hrun, hret⟩ := hm s hs
  rw [exec_bind]
  cases hr : exec m s with
  | mk r s' =>
    rw [hr] at hrun hret
    cases r with
    | ok a =>
      obtain ⟨hrun', hret'⟩ := hf a s' (hret a rfl)
      exact ⟨hrun.trans hrun', hret'⟩
    | error e => exact ⟨hrun, fun _ hb => by cases hb⟩

theorem ite {c : Prop} [Decidable c] {n : Run σ ε α} (hm : c → Follows R P m Q)
    (hn : ¬c → Follows R P n Q) : Follows R P (if c then m else n) Q := by
  by_cases hc : c
  · rw [if_pos hc]; exact hm hc
  · rw [if_neg hc]; exact hn hc

theorem conseq (h : Follows R P m Q) (hp : ∀ s, P' s → P s) (hq : ∀ a s, Q a s → Q' a s) :
    Follows R P' m Q' := fun s hs =>
  ⟨(h s (hp s hs)).1, fun a ha => hq a _ ((h s (hp s hs)).2 a ha)⟩

theorem pre {S : σ → Prop} (h : Follows R P m Q) (hp : ∀ s, S s → P s) : Follows R S m Q :=
  h.conseq hp fun _ _ hq => hq

theorem ghost (h : ∀ a, P a → Follows R (fun s => a = s) m Q) : Follows R P m Q :=
  fun s hs => h s hs s rfl

theorem remember {a : σ} (h : Follows R (fun s => a = s) m Q) :
    Follows R (fun s => a = s) m (fun b s => Q b s ∧ exec m a = (.ok b, s)) := by
  rintro s rfl
  refine ⟨(h a rfl).1, ?_⟩
  intro b hb
  exact ⟨(h a rfl).2 b hb, Prod.ext hb rfl⟩

theorem and {P₂ : σ → Prop} {Q₂ : α → σ → Prop} (h : Follows R P m Q)
    (h₂ : Follows R' P₂ m Q₂) : Follows R (fun s => P s ∧ P₂ s) m (fun a s => Q a s ∧ Q₂ a s) := by
  intro s hs
  refine ⟨(h s hs.1).1, ?_⟩
  intro a ha
  exact ⟨(h s hs.1).2 a ha, (h₂ s hs.2).2 a ha⟩

theorem mono (h : Follows R P m Q) (hR : ∀ s s', R s s' → R' s s') : Follows R' P m Q := by
  intro s hs
  exact ⟨ReflTransGen.mono hR _ _ (h s hs).1, (h s hs).2⟩

theorem preserves (h : Follows R P m Q) {I : σ → Prop}
    (hstep : ∀ s s', R s s' → I s → I s') {s : σ} (hp : P s) (hi : I s) :
    I (exec m s).2 := by
  have hrun := (h s hp).1
  generalize (exec m s).2 = t at hrun ⊢
  induction hrun with
  | refl => exact hi
  | tail _ hst ih => exact hstep _ _ hst ih

theorem frame (h : Follows R P m Q) {I : σ → Prop} (hstep : ∀ s s', R s s' → I s → I s') :
    Follows R (fun s => P s ∧ I s) m (fun a s => Q a s ∧ I s) := by
  intro s hs
  obtain ⟨hrun, hret⟩ := h s hs.1
  exact ⟨hrun, fun a ha => ⟨hret a ha, h.preserves hstep hs.1 hs.2⟩⟩

end Follows

/-! ## What a program may raise -/

/-- From every state with `P`, the program raises nothing but exceptions with `E`. -/
def RaisesOnly (P : σ → Prop) (m : Run σ ε α) (E : ε → Prop) : Prop :=
  ∀ s, P s → ∀ e, (exec m s).1 = .error e → E e

namespace RaisesOnly

variable {R : σ → σ → Prop} {P P' : σ → Prop} {Q : α → σ → Prop} {m : Run σ ε α} {E : ε → Prop}

theorem pure {a : α} : RaisesOnly P (Pure.pure a : Run σ ε α) E := by
  intro s _ e he
  cases he

theorem throw {e : ε} (he : E e) : RaisesOnly P (MonadExcept.throw e : Run σ ε α) E := by
  intro s _ e' he'
  cases he'
  exact he

theorem get : RaisesOnly P (MonadState.get : Run σ ε σ) E := by
  intro s _ e he
  cases he

theorem modify {f : σ → σ} : RaisesOnly P (modify f : Run σ ε PUnit) E := by
  intro s _ e he
  cases he

theorem bind {f : α → Run σ ε β} (hm : RaisesOnly P m E) (hret : Follows R P m Q)
    (hf : ∀ a, RaisesOnly (Q a) (f a) E) : RaisesOnly P (m >>= f) E := by
  intro s hs e he
  rw [exec_bind] at he
  have hm := hm s hs
  have hret := (hret s hs).2
  cases hr : exec m s with
  | mk r s' =>
    rw [hr] at he hm hret
    cases r with
    | ok a => exact hf a s' (hret a rfl) e he
    | error e' =>
      cases he
      exact hm e rfl

/-- Where the rest raises only `E` from every state. -/
theorem andThen {f : α → Run σ ε β} (hm : RaisesOnly P m E)
    (hf : ∀ a, RaisesOnly (fun _ => True) (f a) E) : RaisesOnly P (m >>= f) E := by
  intro s hs e he
  rw [exec_bind] at he
  have hm := hm s hs
  cases hr : exec m s with
  | mk r s' =>
    rw [hr] at he hm
    cases r with
    | ok a => exact hf a s' trivial e he
    | error e' =>
      cases he
      exact hm e rfl

theorem ite {c : Prop} [Decidable c] {n : Run σ ε α} (hm : c → RaisesOnly P m E)
    (hn : ¬c → RaisesOnly P n E) : RaisesOnly P (if c then m else n) E := by
  by_cases hc : c
  · rw [if_pos hc]; exact hm hc
  · rw [if_neg hc]; exact hn hc

theorem getThen {f : σ → Run σ ε α} (h : ∀ a, P a → RaisesOnly (fun s => a = s) (f a) E) :
    RaisesOnly P (MonadState.get >>= f) E := by
  intro s hs e he
  rw [exec_bind] at he
  exact h s hs s rfl e he

theorem conseq (h : RaisesOnly P m E) (hp : ∀ s, P' s → P s) : RaisesOnly P' m E :=
  fun s hs => h s (hp s hs)

end RaisesOnly

end Stateful

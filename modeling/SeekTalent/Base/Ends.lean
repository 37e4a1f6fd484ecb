import SeekTalent.Base.Run

/-!
# How programs end

`Ends P m Q E` is the judgment for programs that clean up after an exception: from a state with
`P` the program returns with `Q`, or raises with `E`. It has a rule for each construct, handlers
among them.

`attempt` is an operation that may be the one that fails. Which one fails is a label, so that a
proof can say of every way the program ends which operation has failed, if any.
-/

namespace Stateful

variable {σ ε α β ι : Type}

theorem exec_tryCatch (m : Run σ ε α) (h : ε → Run σ ε α) (s : σ) :
    exec (tryCatch m h) s =
      match exec m s with
      | (.ok a, s') => (.ok a, s')
      | (.error e, s') => exec (h e) s' := by
  unfold exec
  rw [ExceptT.run_tryCatch, StateT.run_bind]
  cases hm : (ExceptT.run m).run s with
  | mk r s' => cases r <;> rfl

/-- From every state with `P`, the program returns with `Q` or raises with `E`. -/
def Ends (P : σ → Prop) (m : Run σ ε α) (Q : α → σ → Prop) (E : ε → σ → Prop) : Prop :=
  ∀ s, P s → match exec m s with
    | (.ok a, s') => Q a s'
    | (.error e, s') => E e s'

/-- An operation that fails if it is the one that does: `partly` is what it leaves then. -/
def attempt [DecidableEq ι] (fault : Option ι) (label : ι) (e : ε) (effect partly : σ → σ) :
    Run σ ε PUnit :=
  if fault = some label then do
    modify partly
    throw e
  else modify effect

namespace Ends

variable {P P' : σ → Prop} {Q Q' : α → σ → Prop} {E E' : ε → σ → Prop} {m : Run σ ε α}

theorem pure {a : α} (h : ∀ s, P s → Q a s) : Ends P (Pure.pure a : Run σ ε α) Q E := h

theorem throw {e : ε} (h : ∀ s, P s → E e s) : Ends P (MonadExcept.throw e : Run σ ε α) Q E := h

theorem get : Ends P (MonadState.get : Run σ ε σ) (fun a s => a = s ∧ P s) E := fun _ h => ⟨rfl, h⟩

theorem modify {f : σ → σ} {Q : PUnit → σ → Prop} (h : ∀ s, P s → Q ⟨⟩ (f s)) :
    Ends P (modify f : Run σ ε PUnit) Q E := h

theorem bind {f : α → Run σ ε β} {Q' : β → σ → Prop} (hm : Ends P m Q E)
    (hf : ∀ a, Ends (Q a) (f a) Q' E) : Ends P (m >>= f) Q' E := by
  intro s hs
  have hend := hm s hs
  rw [exec_bind]
  cases hr : exec m s with
  | mk r s' =>
    rw [hr] at hend
    cases r with
    | ok a => exact hf a s' hend
    | error e => exact hend

theorem tryCatch {h : ε → Run σ ε α} (hm : Ends P m Q E') (hh : ∀ e, Ends (E' e) (h e) Q E) :
    Ends P (tryCatch m h) Q E := by
  intro s hs
  have hend := hm s hs
  rw [exec_tryCatch]
  cases hr : exec m s with
  | mk r s' =>
    rw [hr] at hend
    cases r with
    | ok a => exact hend
    | error e => exact hh e s' hend

theorem conseq (hm : Ends P' m Q' E') (hp : ∀ s, P s → P' s) (hq : ∀ a s, Q' a s → Q a s)
    (he : ∀ e s, E' e s → E e s) : Ends P m Q E := by
  intro s hs
  have hend := hm s (hp s hs)
  cases hr : exec m s with
  | mk r s' =>
    rw [hr] at hend
    cases r with
    | ok a => exact hq a s' hend
    | error e => exact he e s' hend

theorem assume {p : Prop} (h : p → Ends P m Q E) : Ends (fun s => p ∧ P s) m Q E := by
  intro s hs
  exact h hs.1 s hs.2

theorem ite {c : Prop} [Decidable c] {n : Run σ ε α} (hm : c → Ends P m Q E)
    (hn : ¬c → Ends P n Q E) : Ends P (if c then m else n) Q E := by
  split
  · rename_i h
    exact hm h
  · rename_i h
    exact hn h

theorem attempt [DecidableEq ι] {fault : Option ι} {label : ι} {e : ε} {effect partly : σ → σ}
    {Q : PUnit → σ → Prop} (hok : fault ≠ some label → ∀ s, P s → Q ⟨⟩ (effect s))
    (hfail : fault = some label → ∀ s, P s → E e (partly s)) :
    Ends P (attempt fault label e effect partly) Q E := by
  unfold Stateful.attempt
  split
  · rename_i hfault
    exact hfail hfault
  · rename_i hfault
    exact hok hfault

/-- **The rule for loops**: `I` holds of what is left to do. -/
theorem forM {body : β → Run σ ε PUnit} {I : List β → σ → Prop} {items : List β}
    (hbody : ∀ item rest, Ends (I (item :: rest)) (body item) (fun _ => I rest) E) :
    Ends (I items) (items.forM body) (fun _ => I []) E := by
  induction items with
  | nil => exact pure fun _ h => h
  | cons item rest ih => exact bind (hbody item rest) fun _ => ih

end Ends

end Stateful

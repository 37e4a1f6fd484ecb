import Mathlib.Logic.Function.Basic

/-!
# One map and its copies

A map is kept in one place, and each holder has a copy of its own from when it has opened the map.
A holder enters what it has into its copy and writes the whole copy to the place. `current` is what
the place would hold if there were no copies: under each key, what anyone has entered there last.

A call leaves all that is current in the place exactly when the copy it writes lacks nothing of the
rest (`sound_step_iff`).
-/

namespace SharedCopy

variable {ι κ π : Type}

structure State (ι κ π : Type) where
  shared : κ → Option π
  copy : ι → Option (κ → Option π)
  current : κ → Option π

inductive Call (ι κ π : Type)
  | idle
  | opens (holder : ι)
  | enters (holder : ι) (key : κ) (entry : π)
  | saves (holder : ι)

/-- Everything that is current is in the place. -/
def State.Sound (s : State ι κ π) : Prop :=
  ∀ key entry, s.current key = some entry → s.shared key = some entry

/-- No key that anyone knows is unknown to all. -/
structure State.Known (s : State ι κ π) : Prop where
  shared : ∀ key entry, s.shared key = some entry → s.current key ≠ none
  copy : ∀ holder copy, s.copy holder = some copy →
    ∀ key entry, copy key = some entry → s.current key ≠ none

variable [DecidableEq ι] [DecidableEq κ]

def step (s : State ι κ π) : Call ι κ π → State ι κ π
  | .idle => s
  | .opens holder => { s with copy := Function.update s.copy holder (some s.shared) }
  | .enters holder key entry =>
    match s.copy holder with
    | none => s
    | some copy =>
      let copy := Function.update copy key (some entry)
      { shared := copy
        copy := Function.update s.copy holder (some copy)
        current := Function.update s.current key (some entry) }
  | .saves holder =>
    match s.copy holder with
    | none => s
    | some copy => { s with shared := copy }

/-- The holder that writes its copy has all that is in the place, but for the key it enters. -/
def UpToDate (s : State ι κ π) : Call ι κ π → Prop
  | .idle => True
  | .opens _ => True
  | .enters holder key _ => ∀ copy, s.copy holder = some copy →
    ∀ other entry, other ≠ key → s.shared other = some entry → copy other = some entry
  | .saves holder => ∀ copy, s.copy holder = some copy →
    ∀ key entry, s.shared key = some entry → copy key = some entry

variable {s : State ι κ π} {call : Call ι κ π} {holder : ι} {key other : κ}
variable {copy : κ → Option π} {entry : π}

theorem step_enters_none (h : s.copy holder = none) : step s (.enters holder key entry) = s := by
  unfold step
  simp only [h]

theorem step_saves_none (h : s.copy holder = none) : step s (.saves holder) = s := by
  unfold step
  simp only [h]

theorem step_enters (h : s.copy holder = some copy) :
    step s (.enters holder key entry) =
      { shared := Function.update copy key (some entry)
        copy := Function.update s.copy holder (some (Function.update copy key (some entry)))
        current := Function.update s.current key (some entry) } := by
  unfold step
  simp only [h]

theorem step_saves (h : s.copy holder = some copy) :
    step s (.saves holder) = { s with shared := copy } := by
  unfold step
  simp only [h]

omit [DecidableEq ι] in
theorem update_ne_none {m : κ → Option π} (h : m other ≠ none) :
    Function.update m key (some entry) other ≠ none := by
  rw [Function.update_apply]
  split
  · simp
  · exact h

omit [DecidableEq ι] in
/-- What a holder knows after it has entered something is known. -/
theorem known_of_update {m current : κ → Option π} {found : π}
    (h : ∀ key entry, m key = some entry → current key ≠ none)
    (hfound : Function.update m key (some entry) other = some found) :
    Function.update current key (some entry) other ≠ none := by
  rw [Function.update_apply] at hfound ⊢
  split at hfound
  · rename_i hkey
    rw [if_pos hkey]
    simp
  · rename_i hkey
    rw [if_neg hkey]
    exact h other found hfound

theorem known_step (h : s.Known) : (step s call).Known := by
  cases call with
  | idle => exact h
  | opens holder =>
    refine ⟨h.shared, ?_⟩
    intro other copy hcopy key entry hentry
    simp only [step, Function.update_apply] at hcopy
    split at hcopy
    · obtain rfl := Option.some.inj hcopy
      exact h.shared key entry hentry
    · exact h.copy other copy hcopy key entry hentry
  | enters holder key entry =>
    cases hholder : s.copy holder with
    | none =>
      rw [step_enters_none hholder]
      exact h
    | some copy =>
      rw [step_enters hholder]
      have hknown := h.copy holder copy hholder
      constructor
      · intro other found hfound
        exact known_of_update hknown hfound
      · intro other copy' hcopy key' found hfound
        simp only [Function.update_apply] at hcopy
        split at hcopy
        · obtain rfl := Option.some.inj hcopy
          exact known_of_update hknown hfound
        · exact update_ne_none (h.copy other copy' hcopy key' found hfound)
  | saves holder =>
    cases hholder : s.copy holder with
    | none =>
      rw [step_saves_none hholder]
      exact h
    | some copy =>
      rw [step_saves hholder]
      exact ⟨h.copy holder copy hholder, h.copy⟩

omit [DecidableEq ι] [DecidableEq κ] in
theorem current_of_shared (hknown : s.Known) (h : s.Sound) (hentry : s.shared key = some entry) :
    s.current key = some entry := by
  obtain ⟨found, hfound⟩ := Option.ne_none_iff_exists'.mp (hknown.shared key entry hentry)
  have hsame := h key found hfound
  rw [hfound, ← hsame]
  exact hentry

/-- **One call** keeps the place sound exactly when its holder is up to date. -/
theorem sound_step_iff (hknown : s.Known) (h : s.Sound) : (step s call).Sound ↔ UpToDate s call := by
  cases call with
  | idle => exact ⟨fun _ => trivial, fun _ => h⟩
  | opens holder => exact ⟨fun _ => trivial, fun _ => h⟩
  | enters holder key entry =>
    cases hholder : s.copy holder with
    | none =>
      rw [step_enters_none hholder]
      refine ⟨?_, fun _ => h⟩
      intro _ copy hcopy
      rw [hholder] at hcopy
      cases hcopy
    | some copy =>
      rw [step_enters hholder]
      constructor
      · intro hafter copy' hcopy other found hne hfound
        obtain rfl := Option.some.inj (hholder.symm.trans hcopy)
        have hcurrent : Function.update s.current key (some entry) other = some found := by
          rw [Function.update_of_ne hne]
          exact current_of_shared hknown h hfound
        have hshared := hafter other found hcurrent
        simp only [Function.update_of_ne hne] at hshared
        exact hshared
      · intro hupToDate other found hfound
        simp only [Function.update_apply] at hfound ⊢
        split
        · rename_i hkey
          rw [if_pos hkey] at hfound
          exact hfound
        · rename_i hkey
          rw [if_neg hkey] at hfound
          exact hupToDate copy hholder other found hkey (h other found hfound)
  | saves holder =>
    cases hholder : s.copy holder with
    | none =>
      rw [step_saves_none hholder]
      refine ⟨?_, fun _ => h⟩
      intro _ copy hcopy
      rw [hholder] at hcopy
      cases hcopy
    | some copy =>
      rw [step_saves hholder]
      constructor
      · intro hafter copy' hcopy key entry hentry
        obtain rfl := Option.some.inj (hholder.symm.trans hcopy)
        have hcurrent := current_of_shared hknown h hentry
        exact hafter key entry hcurrent
      · intro hupToDate key entry hentry
        exact hupToDate copy hholder key entry (h key entry hentry)

end SharedCopy

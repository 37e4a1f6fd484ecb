import SeekTalent.Base.Run

/-!
# Loops over calls that may fail

`xs.mapM f` succeeds if and only if every call does, and its results are those of the calls, one by
one.
-/

namespace Loops

open Stateful (bind_eq_ok)

section Pairs

variable {α β : Type} {R : α → β → Prop} {xs : List α} {ys : List β} {x : α} {y : β}

theorem exists_right (h : List.Forall₂ R xs ys) (hx : x ∈ xs) : ∃ y ∈ ys, R x y := by
  induction h with
  | nil => cases hx
  | cons hy _ ih =>
    rcases List.mem_cons.mp hx with rfl | hx
    · exact ⟨_, List.mem_cons_self, hy⟩
    · obtain ⟨y, hmem, hy⟩ := ih hx
      exact ⟨y, List.mem_cons_of_mem _ hmem, hy⟩

theorem exists_left (h : List.Forall₂ R xs ys) (hy : y ∈ ys) : ∃ x ∈ xs, R x y := by
  induction h with
  | nil => cases hy
  | cons hx _ ih =>
    rcases List.mem_cons.mp hy with rfl | hy
    · exact ⟨_, List.mem_cons_self, hx⟩
    · obtain ⟨x, hmem, hx⟩ := ih hy
      exact ⟨x, List.mem_cons_of_mem _ hmem, hx⟩

end Pairs

section Option

variable {α β : Type} {f : α → Option β} {R : α → β → Prop} {xs : List α} {ys : List β}

theorem forall₂_of_some (h : xs.mapM f = some ys) :
    List.Forall₂ (fun x y => f x = some y) xs ys := by
  induction xs generalizing ys with
  | nil =>
    obtain rfl := Option.some.inj h
    exact .nil
  | cons x xs ih =>
    simp only [List.mapM_cons, Option.bind_eq_bind, Option.bind_eq_some_iff, Option.pure_def,
      Option.some.injEq] at h
    obtain ⟨y, hy, ys, hys, rfl⟩ := h
    exact .cons hy (ih hys)

theorem exists_some (h : ∀ x ∈ xs, ∃ y, f x = some y ∧ R x y) :
    ∃ ys, xs.mapM f = some ys ∧ List.Forall₂ R xs ys := by
  induction xs with
  | nil => exact ⟨[], rfl, .nil⟩
  | cons x xs ih =>
    rw [List.forall_mem_cons] at h
    obtain ⟨y, hy, hxy⟩ := h.1
    obtain ⟨ys, hys, hall⟩ := ih h.2
    exact ⟨y :: ys, by simp [hy, hys], .cons hxy hall⟩

end Option

section Except

variable {α β ε : Type} {f : α → Except ε β} {g : α → β} {xs : List α} {ys : List β}

theorem forall₂_of_ok (h : xs.mapM f = .ok ys) : List.Forall₂ (fun x y => f x = .ok y) xs ys := by
  induction xs generalizing ys with
  | nil =>
    obtain rfl := Except.ok.inj h
    exact .nil
  | cons x xs ih =>
    rw [List.mapM_cons] at h
    obtain ⟨y, hy, h⟩ := bind_eq_ok h
    obtain ⟨rest, hrest, h⟩ := bind_eq_ok h
    obtain rfl := Except.ok.inj h
    exact .cons hy (ih hrest)

theorem mapM_ok (h : ∀ x ∈ xs, f x = .ok (g x)) : xs.mapM f = .ok (xs.map g) := by
  induction xs with
  | nil => rfl
  | cons x xs ih =>
    rw [List.forall_mem_cons] at h
    rw [List.mapM_cons, h.1, ih h.2]
    rfl

theorem exists_ok_iff : (∃ ys, xs.mapM f = .ok ys) ↔ ∀ x ∈ xs, ∃ y, f x = .ok y := by
  constructor
  · intro h x hx
    obtain ⟨ys, hys⟩ := h
    obtain ⟨y, -, hy⟩ := exists_right (forall₂_of_ok hys) hx
    exact ⟨y, hy⟩
  · intro h
    induction xs with
    | nil => exact ⟨[], rfl⟩
    | cons x xs ih =>
      rw [List.forall_mem_cons] at h
      obtain ⟨y, hy⟩ := h.1
      obtain ⟨ys, hys⟩ := ih h.2
      refine ⟨y :: ys, ?_⟩
      rw [List.mapM_cons, hy, hys]
      rfl

end Except

end Loops

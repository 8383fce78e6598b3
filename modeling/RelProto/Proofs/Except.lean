import Mathlib.Data.List.Basic
import Mathlib.Tactic.Lemma

/-! When computations that may fail succeed: one after the other, and for all elements of a list. -/
namespace RelProto

lemma bind_eq_ok_iff {ε α β : Type} {x : Except ε α} {next : α → Except ε β} {b : β} :
    x >>= next = .ok b ↔ ∃ a, x = .ok a ∧ next a = .ok b := by
  cases x with
  | error fault => simp [bind, Except.bind]
  | ok a => simp [bind, Except.bind]

lemma mapError_eq_error_iff {ε ε' α : Type} {f : ε → ε'} {x : Except ε α} {fault : ε'} :
    x.mapError f = .error fault ↔ ∃ cause, x = .error cause ∧ f cause = fault := by
  cases x <;> simp [Except.mapError]

lemma andThen_eq_ok_iff {ε β : Type} {x : Except ε Unit} {next : Unit → Except ε β} {b : β} :
    x >>= next = .ok b ↔ x = .ok () ∧ next () = .ok b := by
  rw [bind_eq_ok_iff]
  exact ⟨fun ⟨(), h⟩ => h, fun h => ⟨(), h⟩⟩

lemma forM_eq_ok_iff {ε α : Type} {check : α → Except ε Unit} {as : List α} :
    as.forM check = .ok () ↔ ∀ a ∈ as, check a = .ok () := by
  induction as with
  | nil => simp [List.forM, pure, Except.pure]
  | cons a as ih =>
    rw [List.forM, andThen_eq_ok_iff, List.forall_mem_cons, ih]

/-- A traversal succeeds if it does for each element, and then with the results for them. -/
theorem mapM_eq_ok_iff {ε α β : Type} {f : α → Except ε β} {accepts : α → Prop} {g : α → β}
    {as : List α} (h : ∀ a ∈ as, ∀ b, f a = .ok b ↔ accepts a ∧ b = g a) {bs : List β} :
    as.mapM f = .ok bs ↔ (∀ a ∈ as, accepts a) ∧ bs = as.map g := by
  induction as generalizing bs with
  | nil => simp [pure, Except.pure, eq_comm]
  | cons a as ih =>
    rw [List.forall_mem_cons] at h
    rw [List.mapM_cons, bind_eq_ok_iff, List.forall_mem_cons]
    simp only [h.1, bind_eq_ok_iff, ih h.2, pure, Except.pure, Except.ok.injEq, List.map_cons]
    constructor
    · rintro ⟨_, ⟨ha, rfl⟩, _, ⟨has, rfl⟩, rfl⟩
      exact ⟨⟨ha, has⟩, rfl⟩
    · rintro ⟨⟨ha, has⟩, rfl⟩
      exact ⟨_, ⟨ha, rfl⟩, _, ⟨has, rfl⟩, rfl⟩

end RelProto

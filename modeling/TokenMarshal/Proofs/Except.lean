/-
  TokenMarshal.Proofs.Except — steps of which any may fail.

  A chain of steps has a result just when every step has one, so a result of the whole is
  taken apart into those of its steps (`bind_eq_ok_iff`, `mapM_eq_ok_iff`,
  `foldlM_concat_eq_ok_iff`).
-/
import Mathlib.Data.List.Forall2

namespace TokenMarshal.Except

variable {ε α β : Type}

theorem bind_eq_ok_iff {x : Except ε α} {f : α → Except ε β} {b : β} :
    x >>= f = .ok b ↔ ∃ a, x = .ok a ∧ f a = .ok b := by
  cases x with
  | error e => exact ⟨fun h => (by cases h), fun ⟨_, h, _⟩ => (by cases h)⟩
  | ok a => exact ⟨fun h => ⟨a, rfl, h⟩, fun ⟨_, h, hf⟩ => (by cases h; exact hf)⟩

theorem map_eq_ok_iff {x : Except ε α} {f : α → β} {b : β} :
    x.map f = .ok b ↔ ∃ a, x = .ok a ∧ f a = b := by
  cases x with
  | error e => exact ⟨fun h => (by cases h), fun ⟨_, h, _⟩ => (by cases h)⟩
  | ok a =>
    exact ⟨fun h => (by cases h; exact ⟨a, rfl, rfl⟩),
      fun ⟨_, h, hf⟩ => (by cases h; rw [← hf]; rfl)⟩

theorem mapM_eq_ok_iff {f : α → Except ε β} {l : List α} {r : List β} :
    l.mapM f = .ok r ↔ List.Forall₂ (fun a b => f a = .ok b) l r := by
  induction l generalizing r with
  | nil =>
    rw [List.mapM_nil]
    constructor
    · intro h; cases h; exact .nil
    · intro h; cases h; rfl
  | cons a l ih =>
    rw [List.mapM_cons, bind_eq_ok_iff]
    constructor
    · rintro ⟨b, hb, h⟩
      obtain ⟨bs, hbs, h⟩ := bind_eq_ok_iff.mp h
      cases h
      exact .cons hb (ih.mp hbs)
    · intro h
      cases h with
      | cons hb hbs => exact ⟨_, hb, bind_eq_ok_iff.mpr ⟨_, ih.mpr hbs, rfl⟩⟩

/-- A last step after the others. -/
theorem foldlM_concat_eq_ok_iff {f : β → α → Except ε β} {l : List α} {a : α} {b r : β} :
    (l ++ [a]).foldlM f b = .ok r ↔ ∃ m, l.foldlM f b = .ok m ∧ f m a = .ok r := by
  rw [List.foldlM_append, bind_eq_ok_iff]
  simp only [List.foldlM_cons, List.foldlM_nil, bind_pure]

end TokenMarshal.Except

/-
  TokenMarshal.Proofs.Text.Numeral — which texts are numerals, and of what.

  A numeral is one or more digits, with a plus sign in front or without one (`Writes`). The
  reader goes through them from the left and gives up as soon as the number passes the
  bound; since a number only grows by the digits behind it, it reads just the numerals of
  numbers below the bound (`read_eq_ok_iff`).
-/
import Mathlib.Data.Nat.Digits.Defs
import TokenMarshal.Proofs.Text.Blank
import TokenMarshal.Text.Numeral

namespace TokenMarshal.Text.Numeral

/-- The text is digits of `base`, the highest first, of the number `n`. -/
def IsDigits (base : Nat) (s : List Char) (n : Nat) : Prop :=
  s ≠ [] ∧ ∃ ds : List Nat, s.map (digitValue? base) = ds.map some ∧ n = Nat.ofDigits base ds.reverse

/-- The text is a numeral of `n` in `base`: its digits, after a plus sign or without one. -/
def Writes (base : Nat) (s : List Char) (n : Nat) : Prop :=
  IsDigits base s n ∨ ∃ digits, s = '+' :: digits ∧ IsDigits base digits n

theorem digitValue?_plus (base : Nat) : digitValue? base '+' = none := rfl

theorem IsDigits.not_plus {base n : Nat} {s : List Char} (h : IsDigits base ('+' :: s) n) : False := by
  obtain ⟨-, ds, digits, -⟩ := h
  cases ds with
  | nil => cases digits
  | cons d ds =>
    rw [List.map_cons, List.map_cons, digitValue?_plus] at digits
    cases digits

/-- Reading appends the digits to the number that has been read before. -/
theorem readDigits_eq_ok_iff {base bound acc n : Nat} (hb : 0 < base) (ha : acc < bound)
    {s : List Char} :
    readDigits base bound acc s = .ok n ↔
      (∃ ds : List Nat, s.map (digitValue? base) = ds.map some ∧
        n = acc * base ^ ds.length + Nat.ofDigits base ds.reverse) ∧ n < bound := by
  induction s generalizing acc with
  | nil =>
    constructor
    · intro h
      cases h
      exact ⟨⟨[], rfl, by simp⟩, ha⟩
    · rintro ⟨⟨ds, digits, rfl⟩, -⟩
      cases ds with
      | nil => simp [readDigits]
      | cons d ds => cases digits
  | cons c s ih =>
    have grows (d : Nat) (ds : List Nat) :
        acc * base ^ (d :: ds).length + Nat.ofDigits base (d :: ds).reverse =
          (acc * base + d) * base ^ ds.length + Nat.ofDigits base ds.reverse := by
      rw [List.reverse_cons, Nat.ofDigits_append, List.length_reverse, Nat.ofDigits_singleton,
        List.length_cons]
      ring
    rw [readDigits]
    cases hc : digitValue? base c with
    | none =>
      refine ⟨fun h => (by cases h), ?_⟩
      rintro ⟨⟨ds, digits, -⟩, -⟩
      cases ds with
      | nil => cases digits
      | cons d ds => rw [List.map_cons, hc] at digits; cases digits
    | some d =>
      simp only
      constructor
      · intro h
        split at h
        next small =>
          obtain ⟨⟨ds, digits, value⟩, hn⟩ := (ih small).mp h
          exact ⟨⟨d :: ds, by rw [List.map_cons, List.map_cons, hc, digits], by rw [grows, value]⟩, hn⟩
        · cases h
      · rintro ⟨⟨ds, digits, value⟩, hn⟩
        cases ds with
        | nil => cases digits
        | cons d' ds =>
          rw [List.map_cons, List.map_cons, hc] at digits
          obtain ⟨first, others⟩ := List.cons.inj digits
          cases first
          rw [grows] at value
          -- The digits to come do not make the number smaller than it is so far.
          have small : acc * base + d < bound :=
            calc acc * base + d ≤ (acc * base + d) * base ^ ds.length :=
                  Nat.le_mul_of_pos_right _ (Nat.pow_pos hb)
              _ ≤ n := by rw [value]; exact Nat.le_add_right _ _
              _ < bound := hn
          rw [if_pos small]
          exact (ih small).mpr ⟨⟨ds, others, value⟩, hn⟩

theorem readDigits_zero_eq_ok_iff {base bound n : Nat} (hb : 0 < base) (ha : 0 < bound)
    {s : List Char} (hs : s ≠ []) :
    readDigits base bound 0 s = .ok n ↔ IsDigits base s n ∧ n < bound := by
  simp only [readDigits_eq_ok_iff hb ha, IsDigits, Nat.zero_mul, Nat.zero_add, hs, ne_eq,
    not_false_eq_true, true_and]

theorem read_eq_ok_iff {base bound n : Nat} (hb : 0 < base) (ha : 0 < bound) {s : List Char} :
    read base bound s = .ok n ↔ Writes base s n ∧ n < bound := by
  have sign (digits : List Char) :
      Writes base ('+' :: digits) n ↔ IsDigits base digits n := by
    constructor
    · rintro (h | ⟨_, h, hd⟩)
      · exact h.not_plus.elim
      · cases h; exact hd
    · exact fun h => .inr ⟨digits, rfl, h⟩
  unfold read
  split
  · refine ⟨fun h => (by cases h), ?_⟩
    rintro ⟨⟨h, -⟩ | ⟨_, h, -⟩, -⟩
    · exact absurd rfl h
    · cases h
  · refine ⟨fun h => (by cases h), ?_⟩
    rintro ⟨h, -⟩
    exact (((sign []).mp h).1 rfl).elim
  next digits some_digits =>
    rw [sign, readDigits_zero_eq_ok_iff hb ha some_digits]
  next empty unsigned signed =>
    have bare : Writes base s n ↔ IsDigits base s n := by
      refine ⟨?_, .inl⟩
      rintro (h | ⟨digits, h, -⟩)
      · exact h
      · exact (signed digits h).elim
    rw [bare, readDigits_zero_eq_ok_iff hb ha empty]

/-! ## The characters of a numeral -/

theorem IsDigits.isSome {base n : Nat} {s : List Char} (h : IsDigits base s n) :
    ∀ c ∈ s, (digitValue? base c).isSome := by
  obtain ⟨-, ds, digits, -⟩ := h
  intro c hc
  have : digitValue? base c ∈ ds.map some := digits ▸ List.mem_map_of_mem hc
  obtain ⟨d, -, hd⟩ := List.mem_map.mp this
  rw [← hd]
  rfl

theorem Writes.sign_or_digit {base n : Nat} {s : List Char} (h : Writes base s n) :
    ∀ c ∈ s, c = '+' ∨ (digitValue? base c).isSome := by
  rcases h with h | ⟨digits, rfl, h⟩
  · exact fun c hc => .inr (h.isSome c hc)
  · exact List.forall_mem_cons.mpr ⟨.inl rfl, fun c hc => .inr (h.isSome c hc)⟩

theorem isBlank_of_digit {base : Nat} {c : Char} (h : (digitValue? base c).isSome) :
    isBlank c = false := by
  unfold digitValue? at h
  by_cases decimal : 48 ≤ c.toNat ∧ c.toNat ≤ 57
  · simp [isBlank]; omega
  by_cases lower : 97 ≤ c.toNat ∧ c.toNat ≤ 122
  · simp [isBlank]; omega
  by_cases upper : 65 ≤ c.toNat ∧ c.toNat ≤ 90
  · simp [isBlank]; omega
  · simp [decimal, lower, upper] at h

theorem Writes.not_blank {base n : Nat} {s : List Char} (h : Writes base s n) :
    ∀ c ∈ s, isBlank c = false := by
  intro c hc
  rcases h.sign_or_digit c hc with rfl | hd
  · rfl
  · exact isBlank_of_digit hd

theorem Writes.isTight {base n : Nat} {s : List Char} (h : Writes base s n) : IsTight s :=
  ⟨fun c hc => h.not_blank c (List.mem_of_mem_head? hc),
    fun c hc => h.not_blank c (List.mem_of_getLast? hc)⟩

end TokenMarshal.Text.Numeral

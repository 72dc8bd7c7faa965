/-
  TokenMarshal.Proofs.Der — numbers and lengths as octets, the highest first.

  Without a leading zero the octets of a number below `256 ^ n` are `n` at most
  (`length_lt_of_ofBigEndian_lt`). An integer is written in the fewest octets that leave the
  highest bit clear (`IsInteger`), and so `integerContent` writes it
  (`isInteger_integerContent`), with at most one octet more than the number has
  (`IsInteger.length_magnitude_le`). A length below 256 takes one octet or two (`length_of_lt_128`,
  `length_of_lt_256`). An element is read only as it is written (`eq_element_of_read?`).
-/
import Mathlib.Algebra.Ring.Nat
import Mathlib.Data.List.Induction
import Mathlib.Tactic.Ring
import TokenMarshal.Der

namespace TokenMarshal.Der

open Text.Numeral

/-! ## Octets of a number -/

theorem ofBigEndian_concat (b : List UInt8) (a : UInt8) :
    ofBigEndian (b ++ [a]) = ofBigEndian b * 256 + a.toNat := by
  rw [ofBigEndian, List.foldl_append]
  rfl

theorem ofBigEndian_cons (a : UInt8) (b : List UInt8) :
    ofBigEndian (a :: b) = a.toNat * 256 ^ b.length + ofBigEndian b := by
  induction b using List.reverseRecOn with
  | nil => simp [ofBigEndian]
  | append_singleton b c ih =>
    rw [← List.cons_append, ofBigEndian_concat, ih, ofBigEndian_concat, List.length_append,
      List.length_singleton]
    ring

theorem ofBigEndian_zero_cons (b : List UInt8) : ofBigEndian (0 :: b) = ofBigEndian b := by
  rw [ofBigEndian_cons, UInt8.toNat_zero, Nat.zero_mul, Nat.zero_add]

theorem ofBigEndian_zeros_append (n : Nat) (b : List UInt8) :
    ofBigEndian (List.replicate n 0 ++ b) = ofBigEndian b := by
  induction n with
  | zero => rfl
  | succ n ih => rw [List.replicate_succ, List.cons_append, ofBigEndian_zero_cons, ih]

theorem ofBigEndian_lt (b : List UInt8) : ofBigEndian b < 256 ^ b.length := by
  induction b with
  | nil => simp [ofBigEndian]
  | cons a b ih =>
    have octet := a.toNat_lt
    have scaled : (a.toNat + 1) * 256 ^ b.length ≤ 256 * 256 ^ b.length :=
      Nat.mul_le_mul_right _ octet
    rw [ofBigEndian_cons, List.length_cons, Nat.pow_succ]
    rw [Nat.add_mul] at scaled
    omega

/-- Octets of one length are told apart by their number. -/
theorem eq_of_ofBigEndian_eq {a b : List UInt8} (length : a.length = b.length)
    (same : ofBigEndian a = ofBigEndian b) : a = b := by
  induction a generalizing b with
  | nil => exact (List.length_eq_zero_iff.mp length.symm).symm
  | cons x a ih =>
    cases b with
    | nil => simp at length
    | cons y b =>
      have rest_length : a.length = b.length := by simpa using length
      rw [ofBigEndian_cons, ofBigEndian_cons, rest_length] at same
      have a_lt := ofBigEndian_lt a
      have b_lt := ofBigEndian_lt b
      rw [rest_length] at a_lt
      have positive : 0 < 256 ^ b.length := Nat.pow_pos (by decide)
      have first := congrArg (· / 256 ^ b.length) same
      simp only [Nat.mul_comm _ (256 ^ b.length), Nat.mul_add_div positive,
        Nat.div_eq_of_lt a_lt, Nat.div_eq_of_lt b_lt, Nat.add_zero] at first
      obtain rfl := UInt8.toNat_inj.mp first
      rw [ih rest_length (by omega)]

theorem length_lt_of_ofBigEndian_lt {a : UInt8} {b : List UInt8} {n : Nat} (leading : a ≠ 0)
    (small : ofBigEndian (a :: b) < 256 ^ n) : b.length < n := by
  have positive : 1 ≤ a.toNat := by
    rcases Nat.eq_zero_or_pos a.toNat with zero | positive
    · exact absurd (UInt8.toNat_inj.mp zero) leading
    · exact positive
  have least : 256 ^ b.length ≤ ofBigEndian (a :: b) := by
    rw [ofBigEndian_cons]
    exact (Nat.le_mul_of_pos_left _ positive).trans (Nat.le_add_right _ _)
  exact (Nat.pow_lt_pow_iff_right (by decide)).mp (least.trans_lt small)

/-! ## Digits in base 256 -/

theorem ofBigEndian_digits {width : Nat} (narrow : width ≤ 1) (n : Nat) :
    ofBigEndian ((digits 256 width n).map UInt8.ofNat) = n := by
  induction n using Nat.strongRecOn generalizing width with
  | ind n ih =>
    rw [digits]
    split
    next single =>
      have small : n < 256 := by omega
      have none_before : width - 1 = 0 := by omega
      rw [none_before]
      simp [ofBigEndian, UInt8.toNat_ofNat_of_lt' small]
    next several =>
      have last : (UInt8.ofNat (n % 256)).toNat = n % 256 :=
        UInt8.toNat_ofNat_of_lt' (Nat.mod_lt n (by decide))
      rw [List.map_append, List.map_singleton, ofBigEndian_concat,
        ih (n / 256) (by omega) (by omega), last]
      omega

/-- The first digit is not zero, unless it is the only one. -/
theorem digits_eq_cons {width : Nat} (narrow : width ≤ 1) (n : Nat) :
    ∃ first rest, digits 256 width n = first :: rest ∧ first < 256 ∧ (first = 0 → n = 0 ∧ rest = []) := by
  induction n using Nat.strongRecOn generalizing width with
  | ind n ih =>
    rw [digits]
    split
    next single =>
      have none_before : width - 1 = 0 := by omega
      rw [none_before]
      exact ⟨n, [], rfl, by omega, fun zero => ⟨zero, rfl⟩⟩
    next several =>
      have narrower : width - 1 ≤ 1 := by omega
      obtain ⟨first, rest, eq, small, zero⟩ := ih (n / 256) (by omega) narrower
      exact ⟨first, rest ++ [n % 256], by rw [eq]; rfl, small, fun h => by
        have := (zero h).1
        omega⟩

/-! ## Integers -/

/-- The content of a positive integer or zero: octets of the number, the first of them below 0x80
to tell its sign, and no zero octet in front of another but to do so. -/
structure IsInteger (content : List UInt8) (n : Nat) : Prop where
  value : ofBigEndian content = n
  unsigned : ∃ first ∈ content.head?, first < 0x80
  shortest : ∀ second rest, content = 0 :: second :: rest → 0x80 ≤ second

def integerContent (n : Nat) : List UInt8 :=
  let octets := (digits 256 1 n).map UInt8.ofNat
  if octets.head?.any (0x80 ≤ ·) then 0 :: octets else octets

def integer (n : Nat) : List UInt8 := element integerTag (integerContent n)

theorem isInteger_integerContent (n : Nat) : IsInteger (integerContent n) n := by
  obtain ⟨first, rest, eq, small, zero⟩ := digits_eq_cons (Nat.le_refl 1) n
  have value := ofBigEndian_digits (Nat.le_refl 1) n
  rw [integerContent]
  simp only [eq, List.map_cons] at value ⊢
  split
  next high =>
    refine ⟨by rw [ofBigEndian_zero_cons, value], ⟨0, rfl, by decide⟩, ?_⟩
    rintro second others ⟨⟩
    simpa using high
  next low =>
    refine ⟨value, ⟨_, rfl, by simpa using low⟩, ?_⟩
    intro second others split
    obtain ⟨leading, others_eq⟩ := List.cons.inj split
    have first_zero : first = 0 := by
      have := congrArg UInt8.toNat leading
      rwa [UInt8.toNat_ofNat_of_lt' small] at this
    rw [(zero first_zero).2] at others_eq
    cases others_eq

/-- The content of an integer without the octet that tells its sign. -/
def magnitude (content : List UInt8) : List UInt8 :=
  if content.head? = some 0 then content.drop 1 else content

theorem ofBigEndian_magnitude (content : List UInt8) :
    ofBigEndian (magnitude content) = ofBigEndian content := by
  unfold magnitude
  split
  next zero =>
    cases content with
    | nil => cases zero
    | cons first rest =>
      obtain rfl : first = 0 := Option.some.inj zero
      exact (ofBigEndian_zero_cons rest).symm
  · rfl

theorem length_le_magnitude (content : List UInt8) :
    content.length ≤ (magnitude content).length + 1 := by
  unfold magnitude
  split
  · rw [List.length_drop]; omega
  · omega

/-- Only the octet for the sign may be a leading zero, so the others are as few as the number
allows. -/
theorem IsInteger.length_magnitude_le {content : List UInt8} {n r : Nat}
    (h : IsInteger content r) (small : r < 256 ^ n) : (magnitude content).length ≤ n := by
  obtain ⟨value, ⟨first, head, -⟩, shortest⟩ := h
  match content, head with
  | first :: rest, rfl =>
    unfold magnitude
    split
    next zero =>
      obtain rfl : first = 0 := Option.some.inj zero
      rw [ofBigEndian_zero_cons] at value
      match rest with
      | [] => exact Nat.zero_le n
      | second :: rest =>
        have leading : second ≠ 0 := fun zero => by
          have high := shortest second rest rfl
          rw [zero] at high
          exact absurd high (by decide)
        exact length_lt_of_ofBigEndian_lt leading (value ▸ small)
    next leading =>
      exact length_lt_of_ofBigEndian_lt (fun zero => leading (congrArg some zero)) (value ▸ small)

/-! ## Lengths -/

theorem ofNat_lt_0x80 {n : Nat} (small : n < 128) : UInt8.ofNat n < 0x80 := by
  rw [UInt8.lt_iff_toNat_lt, UInt8.toNat_ofNat_of_lt' (small.trans (by decide))]
  exact small

theorem length_of_lt_128 {n : Nat} (small : n < 128) : length n = [UInt8.ofNat n] := if_pos small

theorem length_of_lt_256 {n : Nat} (long : 128 ≤ n) (small : n < 256) :
    length n = [0x81, UInt8.ofNat n] := by
  rw [length, if_neg (by omega), digits, if_pos (.inl small)]
  rfl

theorem length_pos (n : Nat) : 0 < (length n).length := by
  unfold length
  split <;> simp

theorem readLength?_length {n : Nat} (small : n < 256) (rest : List UInt8) :
    readLength? (length n ++ rest) = some (n, rest) := by
  have octet : (UInt8.ofNat n).toNat = n := UInt8.toNat_ofNat_of_lt' small
  by_cases short : n < 128
  · rw [length_of_lt_128 short]
    simp only [List.singleton_append, readLength?, if_pos (ofNat_lt_0x80 short), octet]
  · rw [length_of_lt_256 (by omega) small]
    simp [readLength?, ofBigEndian, octet, length_of_lt_256 (by omega) small]

theorem read?_element (tag : UInt8) {content : List UInt8} (small : content.length < 256) :
    read? (element tag content) = some (tag, content) := by
  rw [element, List.cons_append, read?, readLength?_length small]
  exact if_pos rfl

/-- The reader takes a length only as the writer writes it. -/
theorem eq_length_append_of_readLength? {b rest : List UInt8} {n : Nat}
    (read : readLength? b = some (n, rest)) : b = length n ++ rest := by
  unfold readLength? at read
  split at read
  · cases read
  next a r =>
    split at read
    next short =>
      cases read
      have small : a.toNat < 128 := short
      rw [length_of_lt_128 small, UInt8.ofNat_toNat, List.singleton_append]
    next long =>
      simp only at read
      split at read
      next minimal =>
        cases read
        rw [minimal.2, List.cons_append, List.take_append_drop]
      · cases read

/-- What is read as one element is written so, with nothing left over. -/
theorem eq_element_of_read? {b content : List UInt8} {tag : UInt8}
    (read : read? b = some (tag, content)) : b = element tag content := by
  unfold read? at read
  split at read
  · cases read
  next tag' r =>
    split at read
    next n content' read_length =>
      split at read
      next whole =>
        cases read
        rw [element, whole, List.cons_append, ← eq_length_append_of_readLength? read_length]
      · cases read
    · cases read

@[simp] theorem length_element (tag : UInt8) (content : List UInt8) :
    (element tag content).length = 1 + (length content.length).length + content.length := by
  simp [element, Nat.add_comm, Nat.add_left_comm]

theorem length_integer_le {n r : Nat} (small : r < 256 ^ n) (short : n < 127) :
    (integer r).length ≤ n + 3 := by
  have octets := (isInteger_integerContent r).length_magnitude_le small
  have sign := length_le_magnitude (integerContent r)
  rw [integer, length_element, length_of_lt_128 (by omega), List.length_singleton]
  omega

end TokenMarshal.Der

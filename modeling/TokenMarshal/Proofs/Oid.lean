/-
  TokenMarshal.Proofs.Oid — identifiers are written as they were read.

  A number is written in base 128, the highest digit first, and all octets but the last have
  the high bit set. So the octets that the reader has behind it inside a number are the
  digits of what it has so far (`begun`), and each octet more is one more digit
  (`begun_append`, `number_append`). Numbers that have been read are therefore written back
  to the same octets (`flatMap_number_of_numbers?`), and so is the identifier that they make
  (`content_of_ofContent?`): no two contents stand for one identifier.
-/
import TokenMarshal.Oid

namespace TokenMarshal.Oid

open Text.Numeral

/-! ## Digits in base 128 -/

theorem digits_append {n d : Nat} (positive : 0 < n) (digit : d < 128) :
    digits 128 1 (n * 128 + d) = digits 128 1 n ++ [d] := by
  have high : (n * 128 + d) / 128 = n := by omega
  have low : (n * 128 + d) % 128 = d := by omega
  -- A width of zero asks for no more digits than a width of one does.
  have narrow : digits 128 0 n = digits 128 1 n := by rw [digits, digits.eq_1 128 1 n]
  rw [digits, if_neg (by omega), high, low, Nat.sub_self, narrow]

theorem digits_of_lt {d : Nat} (digit : d < 128) : digits 128 1 d = [d] := by
  rw [digits, if_pos (.inl digit)]
  rfl

/-- The octets of a number that goes on. -/
def begun (n : Nat) : List UInt8 := (digits 128 1 n).map fun d => UInt8.ofNat (0x80 + d)

theorem continued_concat (ds : List Nat) (d : Nat) :
    continued (ds ++ [d]) = (ds.map fun d => UInt8.ofNat (0x80 + d)) ++ [UInt8.ofNat d] := by
  induction ds with
  | nil => rfl
  | cons first ds ih =>
    obtain ⟨next, more, rest⟩ := List.exists_cons_of_ne_nil (List.concat_ne_nil d ds)
    rw [List.cons_append, rest, continued, ← rest, ih, List.map_cons, List.cons_append]
    exact fun empty => by cases empty

theorem number_of_lt {d : Nat} (digit : d < 128) : number d = [UInt8.ofNat d] := by
  rw [number, digits_of_lt digit]
  rfl

theorem number_append {n d : Nat} (positive : 0 < n) (digit : d < 128) :
    number (n * 128 + d) = begun n ++ [UInt8.ofNat d] := by
  rw [number, digits_append positive digit, continued_concat, begun]

theorem begun_of_lt {d : Nat} (digit : d < 128) : begun d = [UInt8.ofNat (0x80 + d)] := by
  rw [begun, digits_of_lt digit]
  rfl

theorem begun_append {n d : Nat} (positive : 0 < n) (digit : d < 128) :
    begun (n * 128 + d) = begun n ++ [UInt8.ofNat (0x80 + d)] := by
  rw [begun, digits_append positive digit, List.map_append, begun]
  rfl

/-! ## Reading -/

theorem ofNat_low {b : UInt8} (last : b < 0x80) : UInt8.ofNat (b.toNat % 128) = b := by
  have small : b.toNat < 128 := last
  rw [Nat.mod_eq_of_lt small, UInt8.ofNat_toNat]

theorem ofNat_high {b : UInt8} (more : ¬ b < 0x80) : UInt8.ofNat (0x80 + b.toNat % 128) = b := by
  have large : ¬ b.toNat < 128 := more
  have octet := b.toNat_lt
  have same : 0x80 + b.toNat % 128 = b.toNat := by omega
  rw [same, UInt8.ofNat_toNat]

/-- One octet more is one more digit: the last, or one of a number that goes on. -/
theorem digit_of_octet (start : Option Nat) (positive : ∀ n ∈ start, 0 < n) (b : UInt8)
    (leading : ¬ (start = none ∧ b = 0x80)) :
    (b < 0x80 → number (start.getD 0 * 128 + b.toNat % 128) = start.elim [] begun ++ [b]) ∧
    (¬ b < 0x80 → 0 < start.getD 0 * 128 + b.toNat % 128 ∧
      begun (start.getD 0 * 128 + b.toNat % 128) = start.elim [] begun ++ [b]) := by
  have digit : b.toNat % 128 < 128 := Nat.mod_lt _ (by decide)
  cases start with
  | none =>
    simp only [Option.getD_none, Nat.zero_mul, Nat.zero_add, Option.elim_none, List.nil_append]
    refine ⟨fun last => by rw [number_of_lt digit, ofNat_low last], fun more => ⟨?_, ?_⟩⟩
    · have large : ¬ b.toNat < 128 := more
      have octet := b.toNat_lt
      have other : b.toNat ≠ 128 := fun same => leading ⟨rfl, UInt8.toNat_inj.mp same⟩
      omega
    · rw [begun_of_lt digit, ofNat_high more]
  | some n =>
    have positive := positive n rfl
    simp only [Option.getD_some, Option.elim_some]
    refine ⟨fun last => by rw [number_append positive digit, ofNat_low last], fun more => ⟨by omega, ?_⟩⟩
    rw [begun_append positive digit, ofNat_high more]

/-- Numbers that have been read are written to the octets they were read from, those of a number
that was begun before them first. -/
theorem flatMap_number_of_numbers? {start : Option Nat} {c : List UInt8} {l : List Nat}
    (read : numbers? start c = some l) (positive : ∀ n ∈ start, 0 < n) :
    l.flatMap number = start.elim [] begun ++ c := by
  induction c generalizing start l with
  | nil =>
    cases start with
    | none => cases read; rfl
    | some n => cases read
  | cons b c ih =>
    rw [numbers?] at read
    split at read
    · cases read
    next leading =>
      obtain ⟨last, more⟩ := digit_of_octet start positive b leading
      split at read
      · cases read
      split at read
      next low =>
        obtain ⟨rest, read_rest, rfl⟩ := Option.map_eq_some_iff.mp read
        rw [List.flatMap_cons, last low, ih read_rest (by simp)]
        simp
      next high =>
        obtain ⟨still_positive, digits⟩ := more high
        rw [ih read (by simpa using still_positive), Option.elim_some, digits]
        simp

/-! ## Identifiers -/

theorem content_of_first {n a b : Nat} (whole : 40 * a + b = n) (r : List Nat) :
    content ⟨a :: b :: r⟩ = (n :: r).flatMap number := by
  subst whole
  rfl

theorem content_ofNumbers (n : Nat) (r : List Nat) :
    (ofNumbers (n :: r)).content = (n :: r).flatMap number := by
  rw [ofNumbers]
  split
  · exact content_of_first (by omega) r
  split
  · exact content_of_first (by omega) r
  · exact content_of_first (by omega) r

/-- An identifier that has been read has the content it was read from. -/
theorem content_of_ofContent? {c : List UInt8} {o : Oid} (read : ofContent? c = some o) :
    o.content = c := by
  unfold ofContent? at read
  split at read
  next within =>
    obtain ⟨l, numbers, rfl⟩ := Option.map_eq_some_iff.mp read
    have written := flatMap_number_of_numbers? numbers (by simp)
    cases l with
    | nil =>
      obtain rfl : c = [] := written.symm
      exact absurd within.1 (by decide)
    | cons n r => exact (content_ofNumbers n r).trans written
  · cases read

end TokenMarshal.Oid

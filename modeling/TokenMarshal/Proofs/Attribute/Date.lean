/-
  TokenMarshal.Proofs.Attribute.Date — dates and their digits.

  A date is read back from its octets when each of its fields keeps to its digits
  (`ofBytes?_toBytes`). A field that does not makes the octets more than eight, and so many
  are never read as a date (`ofBytes?_toBytes_of_overlong`). The other way round, octets that
  are read as a date are the digits of that date (`toBytes_of_ofBytes?`).
-/
import TokenMarshal.Attribute.Date

namespace TokenMarshal

namespace Text.Numeral

/-! ## Decimal digits -/

theorem digits_add_two (width n : Nat) :
    digits 10 (width + 2) n = digits 10 (width + 1) (n / 10) ++ [n % 10] := by
  by_cases h : n < 10
  · have high : n / 10 = 0 := by omega
    have low : n % 10 = n := by omega
    rw [digits, if_pos (Or.inl h), high, low, digits, if_pos (Or.inl (by decide))]
    simp only [Nat.add_one_sub_one]
    rw [List.replicate_succ']
  · rw [digits, if_neg (by omega)]
    rfl

theorem digits_one {n : Nat} (h : n < 10) : digits 10 1 n = [n] := by
  rw [digits, if_pos (Or.inl h)]
  rfl

theorem digits_pos (base width n : Nat) : 0 < (digits base width n).length := by
  rw [digits]
  split <;> simp

theorem digits_one_length {n : Nat} (h : 10 ≤ n) : 1 < (digits 10 1 n).length := by
  have := digits_pos 10 0 (n / 10)
  rw [digits, if_neg (by omega), List.length_append, List.length_singleton]
  simp only [Nat.sub_self]
  omega

end Text.Numeral

namespace Date

open Text.Numeral

/-- Four digits hold the year, two the month and two the day. -/
def HasEightDigits (d : Date) : Prop := d.year ≤ 9999 ∧ d.month ≤ 99 ∧ d.day ≤ 99

instance (d : Date) : Decidable d.HasEightDigits := inferInstanceAs (Decidable (_ ∧ _))

theorem hasEightDigits_iff (d : Date) :
    d.HasEightDigits ↔ d.year.toNat < 10000 ∧ d.month.toNat < 100 ∧ d.day.toNat < 100 := by
  simp only [HasEightDigits, UInt16.le_iff_toNat_le, UInt8.le_iff_toNat_le, UInt16.reduceToNat,
    UInt8.reduceToNat]
  omega

theorem digit?_octet {n : Nat} (h : n < 10) : digit? (octet n) = some n := by
  have value : (octet n).toNat = 48 + n := UInt8.toNat_ofNat_of_lt' (show 48 + n < 256 by omega)
  have within : 48 ≤ octet n ∧ octet n ≤ 57 := by
    simp only [UInt8.le_iff_toNat_le, value, UInt8.reduceToNat]
    omega
  rw [digit?, if_pos within, UInt8.toNat_sub_of_le _ _ within.1, value]
  simp

theorem digit?_eq_some {a : UInt8} {n : Nat} (h : digit? a = some n) : n < 10 ∧ octet n = a := by
  unfold digit? at h
  split at h
  next within =>
    cases h
    rw [UInt8.le_iff_toNat_le, UInt8.le_iff_toNat_le] at within
    have value : (a - 48).toNat = a.toNat - 48 :=
      UInt8.toNat_sub_of_le _ _ (UInt8.le_iff_toNat_le.mpr within.1)
    have low : 48 ≤ a.toNat := within.1
    have high : a.toNat ≤ 57 := within.2
    have whole : 48 + (a - 48).toNat = a.toNat := by omega
    refine ⟨by omega, ?_⟩
    rw [octet, whole, UInt8.ofNat_toNat]
  · cases h

/-- The fields digit by digit; a field that is too great only shows in its first digits. -/
theorem toBytes_eq (d : Date) :
    d.toBytes =
      ((digits 10 1 (d.year.toNat / 1000) ++
          [d.year.toNat / 100 % 10, d.year.toNat / 10 % 10, d.year.toNat % 10]) ++
        (digits 10 1 (d.month.toNat / 10) ++ [d.month.toNat % 10]) ++
        (digits 10 1 (d.day.toNat / 10) ++ [d.day.toNat % 10])).map octet := by
  have year : digits 10 4 d.year.toNat = digits 10 1 (d.year.toNat / 1000) ++
      [d.year.toNat / 100 % 10, d.year.toNat / 10 % 10, d.year.toNat % 10] := by
    rw [digits_add_two, digits_add_two, digits_add_two]
    simp only [Nat.div_div_eq_div_mul, Nat.reduceMul, List.append_assoc, List.cons_append,
      List.nil_append]
  rw [toBytes, year, digits_add_two, digits_add_two]

theorem ofBytes?_toBytes {d : Date} (h : d.HasEightDigits) : ofBytes? d.toBytes = some d := by
  rw [hasEightDigits_iff] at h
  obtain ⟨hy, hm, hd⟩ := h
  have year : d.year.toNat / 1000 * 1000 + d.year.toNat / 100 % 10 * 100 +
      d.year.toNat / 10 % 10 * 10 + d.year.toNat % 10 = d.year.toNat := by omega
  have month : d.month.toNat / 10 * 10 + d.month.toNat % 10 = d.month.toNat := by omega
  have day : d.day.toNat / 10 * 10 + d.day.toNat % 10 = d.day.toNat := by omega
  rw [toBytes_eq, digits_one (by omega), digits_one (by omega), digits_one (by omega)]
  simp only [List.cons_append, List.nil_append, List.map_cons, List.map_nil,
    ofBytes?]
  simp only [digit?_octet (Nat.mod_lt _ (by decide)),
    digit?_octet (show d.year.toNat / 1000 < 10 by omega),
    digit?_octet (show d.month.toNat / 10 < 10 by omega),
    digit?_octet (show d.day.toNat / 10 < 10 by omega), Option.bind_eq_bind, Option.bind_some,
    year, month, day, UInt16.ofNat_toNat, UInt8.ofNat_toNat]
  rfl

theorem toBytes_length {d : Date} (h : ¬ d.HasEightDigits) : 8 < d.toBytes.length := by
  rw [hasEightDigits_iff] at h
  have y := digits_pos 10 1 (d.year.toNat / 1000)
  have m := digits_pos 10 1 (d.month.toNat / 10)
  have d' := digits_pos 10 1 (d.day.toNat / 10)
  simp only [toBytes_eq, List.length_map, List.length_append, List.length_cons, List.length_nil]
  by_cases hy : d.year.toNat < 10000
  · by_cases hm : d.month.toNat < 100
    · have := digits_one_length (n := d.day.toNat / 10) (by omega)
      omega
    · have := digits_one_length (n := d.month.toNat / 10) (by omega)
      omega
  · have := digits_one_length (n := d.year.toNat / 1000) (by omega)
    omega

theorem ofBytes?_toBytes_of_overlong {d : Date} (h : ¬ d.HasEightDigits) :
    ofBytes? d.toBytes = none := by
  have long := toBytes_length h
  generalize d.toBytes = b at long
  unfold ofBytes?
  split
  · simp at long
  · rfl

/-- Octets that are read as a date are those of the date. -/
theorem toBytes_of_ofBytes? {b : List UInt8} {d : Date} (h : ofBytes? b = some d) : d.toBytes = b := by
  unfold ofBytes? at h
  split at h
  next a b c d e f g h' =>
    simp only [Option.bind_eq_bind, Option.bind_eq_some_iff] at h
    obtain ⟨y₃, ha, y₂, hb, y₁, hc, y₀, hd, m₁, he, m₀, hf, d₁, hg, d₀, hh, whole⟩ := h
    cases whole
    obtain ⟨y₃_lt, rfl⟩ := digit?_eq_some ha
    obtain ⟨y₂_lt, rfl⟩ := digit?_eq_some hb
    obtain ⟨y₁_lt, rfl⟩ := digit?_eq_some hc
    obtain ⟨y₀_lt, rfl⟩ := digit?_eq_some hd
    obtain ⟨m₁_lt, rfl⟩ := digit?_eq_some he
    obtain ⟨m₀_lt, rfl⟩ := digit?_eq_some hf
    obtain ⟨d₁_lt, rfl⟩ := digit?_eq_some hg
    obtain ⟨d₀_lt, rfl⟩ := digit?_eq_some hh
    have year : (UInt16.ofNat (y₃ * 1000 + y₂ * 100 + y₁ * 10 + y₀)).toNat =
        y₃ * 1000 + y₂ * 100 + y₁ * 10 + y₀ := UInt16.toNat_ofNat_of_lt' (show _ < 65536 by omega)
    have month : (UInt8.ofNat (m₁ * 10 + m₀)).toNat = m₁ * 10 + m₀ :=
      UInt8.toNat_ofNat_of_lt' (show _ < 256 by omega)
    have day : (UInt8.ofNat (d₁ * 10 + d₀)).toNat = d₁ * 10 + d₀ :=
      UInt8.toNat_ofNat_of_lt' (show _ < 256 by omega)
    have thousands : (y₃ * 1000 + y₂ * 100 + y₁ * 10 + y₀) / 1000 = y₃ := by omega
    have hundreds : (y₃ * 1000 + y₂ * 100 + y₁ * 10 + y₀) / 100 % 10 = y₂ := by omega
    have tens : (y₃ * 1000 + y₂ * 100 + y₁ * 10 + y₀) / 10 % 10 = y₁ := by omega
    have ones : (y₃ * 1000 + y₂ * 100 + y₁ * 10 + y₀) % 10 = y₀ := by omega
    have two {i j : Nat} (hj : j < 10) : (i * 10 + j) / 10 = i ∧ (i * 10 + j) % 10 = j := by omega
    simp only [toBytes_eq, year, month, day, thousands, hundreds, tens, ones, (two m₀_lt).1,
      (two m₀_lt).2, (two d₀_lt).1, (two d₀_lt).2, digits_one y₃_lt, digits_one m₁_lt,
      digits_one d₁_lt, List.cons_append, List.nil_append, List.map_cons, List.map_nil]
  · cases h

end Date

end TokenMarshal

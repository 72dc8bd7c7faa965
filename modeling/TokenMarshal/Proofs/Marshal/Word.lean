/-
  TokenMarshal.Proofs.Marshal.Word — numbers and their octets determine each other.

  A number below `256 ^ width` is read back from its `width` octets, and octets are those of
  the number they are read as (`ofLittleEndian_littleEndian`, `littleEndian_ofLittleEndian`).
  So a block starts with a number exactly when it starts with the eight octets of that number
  (`take?_eq_some_iff`), and a list of numbers and its octets determine each other too
  (`listOfBytes?_flatMap_toBytes`, `flatMap_toBytes_of_listOfBytes?`).
-/
import Mathlib.Algebra.Ring.Nat
import TokenMarshal.Marshal.Word

namespace TokenMarshal.Marshal

/-! ## Digits -/

@[simp] theorem littleEndian_length (width n : Nat) : (littleEndian width n).length = width := by
  induction width generalizing n with
  | zero => rfl
  | succ width ih => simp only [littleEndian, List.length_cons, ih]

theorem ofLittleEndian_littleEndian {width n : Nat} (h : n < 256 ^ width) :
    ofLittleEndian (littleEndian width n) = n := by
  induction width generalizing n with
  | zero => simp only [Nat.pow_zero] at h; simp only [littleEndian, ofLittleEndian]; omega
  | succ width ih =>
    have hd : n / 256 < 256 ^ width := by rw [Nat.pow_succ] at h; omega
    have ha : (UInt8.ofNat (n % 256)).toNat = n % 256 := UInt8.toNat_ofNat_of_lt' (Nat.mod_lt n (by decide))
    simp only [littleEndian, ofLittleEndian, ih hd, ha]
    omega

theorem ofLittleEndian_lt (b : List UInt8) : ofLittleEndian b < 256 ^ b.length := by
  induction b with
  | nil => simp [ofLittleEndian]
  | cons a r ih =>
    have ha := a.toNat_lt
    simp only [ofLittleEndian, List.length_cons, Nat.pow_succ]
    omega

theorem littleEndian_ofLittleEndian (b : List UInt8) :
    littleEndian b.length (ofLittleEndian b) = b := by
  induction b with
  | nil => rfl
  | cons a r ih =>
    have ha := a.toNat_lt
    have low : (a.toNat + 256 * ofLittleEndian r) % 256 = a.toNat := by omega
    have high : (a.toNat + 256 * ofLittleEndian r) / 256 = ofLittleEndian r := by omega
    simp only [List.length_cons, ofLittleEndian, littleEndian, low, high, ih, UInt8.ofNat_toNat]

namespace Word

/-! ## One number -/

@[simp] theorem toBytes_length (n : UInt64) : (toBytes n).length = 8 := littleEndian_length ..

theorem ofNat_ofLittleEndian_toBytes (n : UInt64) :
    UInt64.ofNat (ofLittleEndian (toBytes n)) = n := by
  rw [toBytes, ofLittleEndian_littleEndian n.toNat_lt, UInt64.ofNat_toNat]

theorem toBytes_ofNat_ofLittleEndian {b : List UInt8} (h : b.length = 8) :
    toBytes (UInt64.ofNat (ofLittleEndian b)) = b := by
  have hlt := ofLittleEndian_lt b
  rw [h] at hlt
  rw [toBytes, UInt64.toNat_ofNat_of_lt' hlt, ← h]
  exact littleEndian_ofLittleEndian b

@[simp] theorem ofBytes?_toBytes (n : UInt64) : ofBytes? (toBytes n) = some n := by
  rw [ofBytes?, if_pos (by simp), ofNat_ofLittleEndian_toBytes]

theorem length_of_ofBytes? {b : List UInt8} {n : UInt64} (h : ofBytes? b = some n) :
    1 ≤ b.length ∧ b.length ≤ 8 := by
  unfold ofBytes? at h
  split at h
  next within => exact within
  · cases h

/-- The number that a string starts with, for any string of eight octets before the rest. -/
theorem take?_append {b : List UInt8} (h : b.length = 8) (r : List UInt8) :
    take? (b ++ r) = some (UInt64.ofNat (ofLittleEndian b), r) := by
  match b, h with
  | [_, _, _, _, _, _, _, _], _ => rfl

@[simp] theorem take?_toBytes (n : UInt64) (r : List UInt8) :
    take? (toBytes n ++ r) = some (n, r) := by
  rw [take?_append (toBytes_length n), ofNat_ofLittleEndian_toBytes]

theorem take?_eq_some_iff {b r : List UInt8} {n : UInt64} :
    take? b = some (n, r) ↔ b = toBytes n ++ r := by
  constructor
  · intro h
    have hl := take?_length h
    have h8 : (b.take 8).length = 8 := by rw [List.length_take]; omega
    rw [← List.take_append_drop 8 b, take?_append h8] at h
    cases h
    rw [toBytes_ofNat_ofLittleEndian h8, List.take_append_drop]
  · rintro rfl
    exact take?_toBytes n r

/-! ## Lists of numbers -/

theorem listOfBytes?_append {b : List UInt8} (h : b.length = 8) (r : List UInt8) :
    listOfBytes? (b ++ r) = (listOfBytes? r).map (UInt64.ofNat (ofLittleEndian b) :: ·) := by
  match b, h with
  | [_, _, _, _, _, _, _, _], _ => rfl

@[simp] theorem listOfBytes?_flatMap_toBytes (l : List UInt64) :
    listOfBytes? (l.flatMap toBytes) = some l := by
  induction l with
  | nil => rfl
  | cons n l ih =>
    rw [List.flatMap_cons, listOfBytes?_append (toBytes_length n), ih,
      ofNat_ofLittleEndian_toBytes]
    rfl

theorem flatMap_toBytes_of_listOfBytes? {b : List UInt8} {l : List UInt64}
    (h : listOfBytes? b = some l) : l.flatMap toBytes = b := by
  fun_induction listOfBytes? b generalizing l with
  | case1 => cases h; rfl
  | case2 a b c d e f g h r ih =>
    obtain ⟨rest, hr, rfl⟩ := Option.map_eq_some_iff.mp h
    rw [List.flatMap_cons, ih hr, toBytes_ofNat_ofLittleEndian rfl]
    rfl
  | case3 => cases h

end Word

end TokenMarshal.Marshal

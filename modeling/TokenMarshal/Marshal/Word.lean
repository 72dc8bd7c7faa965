/-
  TokenMarshal.Marshal.Word — numbers as octets, the lowest first.

  The token interface is that of a 64-bit little-endian machine: a number is eight octets.
  A shorter octet string still has a value, that of its missing high octets being zero.
-/

namespace TokenMarshal.Marshal

/-- The lowest `width` octets of a number. -/
def littleEndian : Nat → Nat → List UInt8
  | 0, _ => []
  | width + 1, n => UInt8.ofNat (n % 256) :: littleEndian width (n / 256)

def ofLittleEndian : List UInt8 → Nat
  | [] => 0
  | a :: r => a.toNat + 256 * ofLittleEndian r

namespace Word

def toBytes (n : UInt64) : List UInt8 := littleEndian 8 n.toNat

/-- One to eight octets as a number. -/
def ofBytes? (b : List UInt8) : Option UInt64 :=
  if 1 ≤ b.length ∧ b.length ≤ 8 then some (UInt64.ofNat (ofLittleEndian b)) else none

/-- The number that an octet string starts with, and the rest. -/
def take? : List UInt8 → Option (UInt64 × List UInt8)
  | a :: b :: c :: d :: e :: f :: g :: h :: r =>
    some (UInt64.ofNat (ofLittleEndian [a, b, c, d, e, f, g, h]), r)
  | _ => none

/-- An octet string cut into numbers, if it comes out even. -/
def listOfBytes? : List UInt8 → Option (List UInt64)
  | [] => some []
  | a :: b :: c :: d :: e :: f :: g :: h :: r =>
    (listOfBytes? r).map (UInt64.ofNat (ofLittleEndian [a, b, c, d, e, f, g, h]) :: ·)
  | _ => none

theorem take?_length {b r : List UInt8} {n : UInt64} (h : take? b = some (n, r)) :
    b.length = r.length + 8 := by
  unfold take? at h
  split at h
  · cases h; simp
  · cases h

end Word

end TokenMarshal.Marshal

/-
  TokenMarshal.Repair.Signature — signatures of two numbers.

  A signature is to be its two numbers one after the other, each as many octets as the order
  of the curve. Some tokens give a DER sequence of two integers instead, not always with the
  shortest lengths; so a length is read in the short form or as one octet after 0x81,
  whatever it is. Octets after the sequence are not looked at.
-/
import TokenMarshal.Curve.Params
import TokenMarshal.Repair.Outcome
import TokenMarshal.Vendor.Name

namespace TokenMarshal

/-- The schemes whose signatures are repaired. -/
inductive Scheme where
  | ecdsa
  | sm2
  deriving DecidableEq, Repr

namespace Scheme

/-- ECDSA is a run of ten mechanisms, bare and with each hash; SM2 has generic codes. -/
def ofMechanism? (m : UInt64) : Option Scheme :=
  if 0x1041 ≤ m ∧ m ≤ 0x104A then some .ecdsa
  else if m = Vendor.Name.sm2 ∨ m = Vendor.Name.sm2Sm3 then some .sm2
  else none

def sm2OrderLength : Nat := 32

/-- The length of each number, from the parameters of the key if they are known. -/
def orderLength? (scheme : Scheme) (params : Option (List UInt8)) : Option Nat :=
  match params.bind Curve.size?, scheme with
  | some size, _ => some size.order
  | none, .sm2 => some sm2OrderLength
  | none, .ecdsa => none

end Scheme

namespace Repair

def readLength? : List UInt8 → Option (Nat × List UInt8)
  | [] => none
  | a :: r =>
    if a < 0x80 then some (a.toNat, r)
    else if a = 0x81 then
      match r with
      | [] => none
      | b :: r => some (b.toNat, r)
    else none

/-- The content of the element of a tag at the front, and what follows it. -/
def readElement? (tag : UInt8) : List UInt8 → Option (List UInt8 × List UInt8)
  | [] => none
  | t :: r =>
    if t ≠ tag then none
    else match readLength? r with
      | none => none
      | some (n, r) => if n ≤ r.length then some (r.take n, r.drop n) else none

/-- The contents of the two integers of a signature. -/
def readNumbers? (sig : List UInt8) : Option (List UInt8 × List UInt8) :=
  match readElement? Der.sequenceTag sig with
  | none => none
  | some (inner, _) =>
    match readElement? Der.integerTag inner with
    | none => none
    | some (r, rest) =>
      match readElement? Der.integerTag rest with
      | some (s, []) => some (r, s)
      | _ => none

/-- An integer's content without its sign octet, filled with zeros to `n` octets. -/
def fixedLength? (n : Nat) (content : List UInt8) : Option (List UInt8) :=
  let number := if content.head? = some 0 then content.drop 1 else content
  if number.length ≤ n then some (List.replicate (n - number.length) 0 ++ number) else none

def signature (orderLength : Nat) (sig : List UInt8) : Repair :=
  if sig.length = 2 * orderLength ∨ sig.head? ≠ some Der.sequenceTag then .unchanged
  else match readNumbers? sig with
    | none => .undecided
    | some (r, s) =>
      match fixedLength? orderLength r, fixedLength? orderLength s with
      | some r, some s => .fixed (r ++ s)
      | _, _ => .undecided

end Repair

end TokenMarshal

/-
  TokenMarshal.Oid — object identifiers.

  An identifier is a list of arcs. Its content octets write the first two arcs as one number
  and each later one by itself, in base 128, seven bits an octet, every octet but the last
  of a number with its high bit set. The reader refuses a number with a leading zero digit,
  one that is cut short and one of 2^128 or more, and a content that is empty or longer
  than 63 octets.

  Identifiers too are read and written as the package `asn1` documents, within its bounds. The law
  that is stated of them in Proofs.Oid is that an identifier which is read has the content it was
  read from (`content_of_ofContent?`).
-/
import TokenMarshal.Der

namespace TokenMarshal

structure Oid where
  arcs : List Nat
  deriving DecidableEq, Repr

namespace Oid

open Text.Numeral

def maxLength : Nat := 63

def maxNumber : Nat := Nat.pow 2 128

/-- Digits in base 128 as octets, the last one alone without the high bit. -/
def continued : List Nat → List UInt8
  | [] => []
  | [d] => [UInt8.ofNat d]
  | d :: r => UInt8.ofNat (0x80 + d) :: continued r

def number (n : Nat) : List UInt8 := continued (digits 128 1 n)

def content (o : Oid) : List UInt8 :=
  match o.arcs with
  | a :: b :: r => ((40 * a + b) :: r).flatMap number
  | _ => []

def der (o : Oid) : List UInt8 := Der.element Der.oidTag o.content

/-- The numbers of a content; `begun` holds the bits of one that is not complete. -/
def numbers? : Option Nat → List UInt8 → Option (List Nat)
  | none, [] => some []
  | some _, [] => none
  | begun, b :: r =>
    let n := begun.getD 0 * 128 + b.toNat % 128
    if begun = none ∧ b = 0x80 then none
    else if maxNumber ≤ n then none
    else if b < 0x80 then (numbers? none r).map (n :: ·)
    else numbers? (some n) r

def ofNumbers : List Nat → Oid
  | [] => ⟨[]⟩
  | n :: r =>
    if n < 40 then ⟨0 :: n :: r⟩
    else if n < 80 then ⟨1 :: (n - 40) :: r⟩
    else ⟨2 :: (n - 80) :: r⟩

def ofContent? (c : List UInt8) : Option Oid :=
  if 1 ≤ c.length ∧ c.length ≤ maxLength then (numbers? none c).map ofNumbers else none

def dotted (o : Oid) : String := String.intercalate "." (o.arcs.map decimal)

end Oid

end TokenMarshal

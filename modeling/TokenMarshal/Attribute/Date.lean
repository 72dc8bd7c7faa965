/-
  TokenMarshal.Attribute.Date — calendar dates as a token writes them.

  A date is eight decimal digits: four for the year, two for the month, two for the day. No
  check is made that the day exists. The fields are wider than the digits, so a date with a
  year above 9999 or a month or day above 99 has a longer form that is no date any more.
-/
import TokenMarshal.Text.Numeral

namespace TokenMarshal

structure Date where
  year : UInt16
  month : UInt8
  day : UInt8
  deriving DecidableEq, Repr

namespace Date

open Text.Numeral

def octet (d : Nat) : UInt8 := UInt8.ofNat (48 + d)

def digit? (a : UInt8) : Option Nat := if 48 ≤ a ∧ a ≤ 57 then some (a - 48).toNat else none

def ofBytes? : List UInt8 → Option Date
  | [a, b, c, d, e, f, g, h] => do
    let year := (← digit? a) * 1000 + (← digit? b) * 100 + (← digit? c) * 10 + (← digit? d)
    let month := (← digit? e) * 10 + (← digit? f)
    let day := (← digit? g) * 10 + (← digit? h)
    pure ⟨UInt16.ofNat year, UInt8.ofNat month, UInt8.ofNat day⟩
  | _ => none

def toBytes (d : Date) : List UInt8 :=
  (digits 10 4 d.year.toNat ++ digits 10 2 d.month.toNat ++ digits 10 2 d.day.toNat).map octet

def display (d : Date) : String :=
  let part (width n : Nat) := String.ofList ((digits 10 width n).map digitChar)
  part 4 d.year.toNat ++ "-" ++ part 2 d.month.toNat ++ "-" ++ part 2 d.day.toNat

end Date

end TokenMarshal

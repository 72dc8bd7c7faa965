/-
  TokenMarshal.Text.Numeral — unsigned numerals, read and written.

  Reading takes an optional plus sign and at least one digit and stops at the first fault
  from the left: a character that is no digit, or a digit that takes the number past the
  bound (of the two at one place, the former). Writing gives the digits of a number,
  filled with zeros on the left up to a width.
-/

namespace TokenMarshal.Text.Numeral

inductive Fault where
  | empty
  | invalidDigit
  | tooLarge
  deriving DecidableEq, Repr

def Fault.message : Fault → String
  | .empty => "cannot parse integer from empty string"
  | .invalidDigit => "invalid digit found in string"
  | .tooLarge => "number too large to fit in target type"

def digitValue? (base : Nat) (c : Char) : Option Nat :=
  let n := c.toNat
  let value? :=
    if 48 ≤ n ∧ n ≤ 57 then some (n - 48)
    else if 97 ≤ n ∧ n ≤ 122 then some (n - 87)
    else if 65 ≤ n ∧ n ≤ 90 then some (n - 55)
    else none
  value?.filter (· < base)

/-- Appends the digits of a text to `acc`, staying below `bound`. -/
def readDigits (base bound : Nat) : Nat → List Char → Except Fault Nat
  | acc, [] => .ok acc
  | acc, c :: r =>
    match digitValue? base c with
    | none => .error .invalidDigit
    | some d =>
      if acc * base + d < bound then readDigits base bound (acc * base + d) r
      else .error .tooLarge

/-- The number below `bound` that a text writes in `base`. -/
def read (base bound : Nat) : List Char → Except Fault Nat
  | [] => .error .empty
  | ['+'] => .error .invalidDigit
  | '+' :: r => readDigits base bound 0 r
  | s => readDigits base bound 0 s

/-- The digits of `n`, the highest first, at least `width` of them. -/
def digits (base width n : Nat) : List Nat :=
  if n < base ∨ base < 2 then List.replicate (width - 1) 0 ++ [n]
  else digits base (width - 1) (n / base) ++ [n % base]
termination_by n
decreasing_by exact Nat.div_lt_self (by omega) (by omega)

def digitChar (d : Nat) : Char := Char.ofNat (if d < 10 then 48 + d else 87 + d)

def upperDigitChar (d : Nat) : Char := Char.ofNat (if d < 10 then 48 + d else 55 + d)

def decimal (n : Nat) : String := String.ofList ((digits 10 1 n).map digitChar)

def hex (width n : Nat) : String := String.ofList ((digits 16 width n).map digitChar)

def upperHex (width n : Nat) : String := String.ofList ((digits 16 width n).map upperDigitChar)

/-- Octets as two hexadecimal digits each. -/
def octets (b : List UInt8) : String :=
  String.ofList (b.flatMap fun a => (digits 16 2 a.toNat).map digitChar)

end TokenMarshal.Text.Numeral

/-
  TokenMarshal.Toml.Scalar — numbers, dates and the other bare words of TOML.

  A bare value is a word of letters, digits and a few marks, read as a whole. Underscores
  stand between digits only. Integers have 64 bits with sign; those of another base have no
  sign. A float that is too large for double precision is refused when it is positive. Dates
  must exist; a second may be the sixtieth of its minute.
-/
import TokenMarshal.Text.Numeral
import TokenMarshal.Toml.Tree

namespace TokenMarshal.Toml

open Text

/-! ## Digits -/

/-- Digits of a base, a single underscore allowed between two. -/
def digits? (base : Nat) : List Char → Option (List Nat)
  | [] => none
  | [c] => (Numeral.digitValue? base c).map fun d => [d]
  | c :: '_' :: r => do pure ((← Numeral.digitValue? base c) :: (← digits? base r))
  | c :: r => do pure ((← Numeral.digitValue? base c) :: (← digits? base r))

def ofDigits (base : Nat) (ds : List Nat) : Nat := ds.foldl (fun n d => n * base + d) 0

/-- Decimal digits without a leading zero. -/
def plainDigits? (s : List Char) : Option (List Nat) :=
  match s with
  | ['0'] => some [0]
  | '0' :: _ => none
  | s => digits? 10 s

/-- A sign, true for minus, and what follows. -/
def sign : List Char → Bool × List Char
  | '+' :: r => (false, r)
  | '-' :: r => (true, r)
  | r => (false, r)

/-! ## Integers -/

def maxInteger : Nat := Nat.pow 2 63

def based? (base : Nat) (s : List Char) : Option Int := do
  let n := ofDigits base (← digits? base s)
  if n < maxInteger then some n else none

def integer? (s : List Char) : Option Int :=
  match s with
  | '0' :: 'x' :: r => based? 16 r
  | '0' :: 'o' :: r => based? 8 r
  | '0' :: 'b' :: r => based? 2 r
  | s => do
    let (negative, r) := sign s
    let n := ofDigits 10 (← plainDigits? r)
    if negative then (if n ≤ maxInteger then some (-(n : Int)) else none)
    else (if n < maxInteger then some n else none)

/-! ## Floats -/

/-- `m` times ten to the `e` rounds to infinity in double precision. -/
def overflows (m : Nat) (e : Int) : Bool :=
  let places : Int := (Numeral.digits 10 1 m).length + e
  let limit := Nat.pow 2 1024 - Nat.pow 2 970
  if m = 0 ∨ places < 300 then false
  else if 320 < places then true
  else if 0 ≤ e then limit ≤ m * Nat.pow 10 e.toNat
  else limit * Nat.pow 10 (-e).toNat ≤ m

/-- Splits at the first character that `p` holds of; the right side is none without it. -/
def splitAt (p : Char → Bool) (s : List Char) : List Char × Option (List Char) :=
  match s.dropWhile (!p ·) with
  | [] => (s, none)
  | _ :: r => (s.takeWhile (!p ·), some r)

def exponent? (s : List Char) : Option Int := do
  let (negative, r) := sign s
  let n := ofDigits 10 (← digits? 10 r)
  some (if negative then -(n : Int) else n)

def isFloat (s : List Char) : Bool :=
  let (negative, r) := sign s
  if r = ['i', 'n', 'f'] ∨ r = ['n', 'a', 'n'] then true
  else
    let (mantissa, exponent) := splitAt (fun c => c == 'e' || c == 'E') r
    let (whole, fraction) := splitAt (· == '.') mantissa
    let parts := do
      let whole ← plainDigits? whole
      let fraction ← match fraction with
        | some f => digits? 10 f
        | none => some []
      let e ← match exponent with
        | some e => exponent? e
        | none => some 0
      some (ofDigits 10 (whole ++ fraction), e - fraction.length)
    match parts with
    | some (m, e) => (fraction.isSome || exponent.isSome) && (negative || !overflows m e)
    | none => false

/-! ## Dates and times -/

/-- So many decimal digits, and what follows. -/
def fixed? : Nat → Nat → List Char → Option (Nat × List Char)
  | 0, n, r => some (n, r)
  | k + 1, n, c :: r => do fixed? k (n * 10 + (← Numeral.digitValue? 10 c)) r
  | _ + 1, _, [] => none

def char? (c : Char) : List Char → Option (List Char)
  | d :: r => if d = c then some r else none
  | [] => none

def isLeap (year : Nat) : Bool := year % 4 == 0 && (year % 100 != 0 || year % 400 == 0)

def daysOf (year month : Nat) : Nat :=
  if month = 2 then (if isLeap year then 29 else 28)
  else if month = 4 ∨ month = 6 ∨ month = 9 ∨ month = 11 then 30 else 31

/-- A date at the front, and what follows it. -/
def date? (s : List Char) : Option (List Char) := do
  let (year, r) ← fixed? 4 0 s
  let (month, r) ← fixed? 2 0 (← char? '-' r)
  let (day, r) ← fixed? 2 0 (← char? '-' r)
  if 1 ≤ month ∧ month ≤ 12 ∧ 1 ≤ day ∧ day ≤ daysOf year month then some r else none

/-- Hour and minute at the front. -/
def clock? (s : List Char) : Option (List Char) := do
  let (hour, r) ← fixed? 2 0 s
  let (minute, r) ← fixed? 2 0 (← char? ':' r)
  if hour ≤ 23 ∧ minute ≤ 59 then some r else none

/-- A time at the front, with seconds and perhaps a fraction of one. -/
def time? (s : List Char) : Option (List Char) := do
  let (second, r) ← fixed? 2 0 (← char? ':' (← clock? s))
  if 60 < second then none
  else match r with
    | '.' :: d :: r => if d.isDigit then some (r.dropWhile Char.isDigit) else none
    | '.' :: [] => none
    | r => some r

/-- What may follow the time of a date: nothing, or how far it is from universal time. -/
def isOffset : List Char → Bool
  | [] => true
  | ['Z'] => true
  | ['z'] => true
  | '+' :: r => clock? r == some []
  | '-' :: r => clock? r == some []
  | _ => false

/-- A whole word that is a date alone. -/
def isDate (s : List Char) : Bool := date? s == some []

/-- A whole word that is a time with or without an offset. -/
def isZonedTime (s : List Char) : Bool :=
  match time? s with
  | some r => isOffset r
  | none => false

/-- A date, a date and a time with a letter between them, or a time. -/
def isMoment (s : List Char) : Bool :=
  match date? s with
  | some [] => true
  | some ('T' :: r) => isZonedTime r
  | some ('t' :: r) => isZonedTime r
  | some _ => false
  | none => time? s == some []

/-! ## Words -/

def isWordChar (c : Char) : Bool :=
  c.isAlphanum || c == '+' || c == '-' || c == '.' || c == ':' || c == '_'

/-- The value that a bare word stands for. -/
def word? (s : List Char) : Option Tree :=
  if s = "true".toList then some (.boolean true)
  else if s = "false".toList then some (.boolean false)
  else if isMoment s then some .moment
  else if isFloat s then some .float
  else (integer? s).map .integer

end TokenMarshal.Toml

/-
  TokenMarshal.Text.Utf8 — UTF-8 as a relation between characters and octets.

  `encode` writes each character in its one form. The reader is a machine that takes one
  octet at a time (`step`): between characters, or owing some tails of which the next must
  lie between two bounds. An octet that cannot continue a character ends it as a fault and
  is read again from the start, so a fault is as long as what was begun and one octet where
  nothing can begin. `decode?` takes the texts without faults; `decodeLossy` puts U+FFFD
  in the place of each fault.
-/

namespace TokenMarshal.Text.Utf8

def encodeChar (c : Char) : List UInt8 :=
  let n := c.toNat
  let tail (k : Nat) : UInt8 := UInt8.ofNat (0x80 + k % 64)
  if n < 0x80 then [UInt8.ofNat n]
  else if n < 0x800 then [UInt8.ofNat (0xC0 + n / 64), tail n]
  else if n < 0x10000 then [UInt8.ofNat (0xE0 + n / 4096), tail (n / 64), tail n]
  else [UInt8.ofNat (0xF0 + n / 262144), tail (n / 4096), tail (n / 64), tail n]

def encode (s : List Char) : List UInt8 := s.flatMap encodeChar

inductive State where
  | between
  /-- `more + 1` tails are owed after the bits `acc`; the next one lies in `low..high`. -/
  | owing (more acc : Nat) (low high : UInt8)
  deriving DecidableEq, Repr

/-- One octet between characters. -/
def start (a : UInt8) : List (Option Char) × State :=
  let bits (k : UInt8) : Nat := (a - k).toNat
  if a < 0x80 then ([some (Char.ofNat a.toNat)], .between)
  else if a < 0xC2 then ([none], .between)
  else if a < 0xE0 then ([], .owing 0 (bits 0xC0) 0x80 0xBF)
  else if a = 0xE0 then ([], .owing 1 (bits 0xE0) 0xA0 0xBF)
  else if a = 0xED then ([], .owing 1 (bits 0xE0) 0x80 0x9F)
  else if a < 0xF0 then ([], .owing 1 (bits 0xE0) 0x80 0xBF)
  else if a = 0xF0 then ([], .owing 2 (bits 0xF0) 0x90 0xBF)
  else if a < 0xF4 then ([], .owing 2 (bits 0xF0) 0x80 0xBF)
  else if a = 0xF4 then ([], .owing 2 (bits 0xF0) 0x80 0x8F)
  else ([none], .between)

def step : State → UInt8 → List (Option Char) × State
  | .between, a => start a
  | .owing more acc low high, b =>
    if low ≤ b ∧ b ≤ high then
      let acc := acc * 64 + (b - 0x80).toNat
      match more with
      | 0 => ([some (Char.ofNat acc)], .between)
      | more + 1 => ([], .owing more acc 0x80 0xBF)
    else (none :: (start b).1, (start b).2)

/-- The characters (and `none` for each fault) of the octets read from state `q`. -/
def run : State → List UInt8 → List (Option Char)
  | .between, [] => []
  | .owing .., [] => [none]
  | q, b :: r => (step q b).1 ++ run (step q b).2 r

def pieces (b : List UInt8) : List (Option Char) := run .between b

def decode? (b : List UInt8) : Option (List Char) := (pieces b).mapM id

def replacement : Char := Char.ofNat 0xFFFD

def decodeLossy (b : List UInt8) : List Char := (pieces b).map fun p => p.getD replacement

end TokenMarshal.Text.Utf8

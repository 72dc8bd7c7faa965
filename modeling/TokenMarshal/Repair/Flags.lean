/-
  TokenMarshal.Repair.Flags — whether a kind of output needs repair at all.

  An adaptive module learns this from the first outcome of a kind that decides: `fixed` sets
  the flag of that kind to needed, `unchanged` to not needed, and it stays. A kind that is
  not needed passes without its repair being run. A module that is not adaptive runs every
  repair and keeps all flags unknown.
-/
import TokenMarshal.Repair.Outcome

namespace TokenMarshal.Repair

inductive Target where
  | point
  | ecdsa
  | sm2
  deriving DecidableEq, Repr

inductive Flag where
  | unknown
  | needed
  | notNeeded
  deriving DecidableEq, Repr

structure Flags where
  point : Flag := .unknown
  ecdsa : Flag := .unknown
  sm2 : Flag := .unknown
  deriving DecidableEq, Repr

namespace Flags

def initial : Flags := {}

def get (f : Flags) : Target → Flag
  | .point => f.point
  | .ecdsa => f.ecdsa
  | .sm2 => f.sm2

def set (f : Flags) (k : Target) (v : Flag) : Flags :=
  match k with
  | .point => { f with point := v }
  | .ecdsa => { f with ecdsa := v }
  | .sm2 => { f with sm2 := v }

/-- What an outcome says about its kind. -/
def observed? : Repair → Option Flag
  | .fixed _ => some .needed
  | .unchanged => some .notNeeded
  | .undecided => none

/-- A flag after an outcome: the first that decides sets it. -/
def learn (flag : Flag) (outcome : Repair) : Flag :=
  if flag = .unknown then (observed? outcome).getD .unknown else flag

/-- The repair of this kind is to be run. -/
def runs (adaptive : Bool) (f : Flags) (k : Target) : Bool := !(adaptive && f.get k == .notNeeded)

/-- Repairs an output of kind `k`: the octets to hand on, and the flags after it. -/
def apply (adaptive : Bool) (f : Flags) (k : Target) (repair : List UInt8 → Repair)
    (input : List UInt8) : List UInt8 × Flags :=
  if runs adaptive f k then
    let outcome := repair input
    (outcome.apply input, if adaptive then f.set k (learn (f.get k) outcome) else f)
  else (input, f)

end Flags

end TokenMarshal.Repair

/-
  TokenMarshal.Repair.Outcome — what a repair makes of its input.

  `unchanged`: the input is well formed. `fixed`: it was not, and this is what it stands for.
  `undecided`: it cannot be told apart (an unknown curve, an unreadable or oversized value);
  it passes as it is and says nothing about the token.
-/

namespace TokenMarshal

inductive Repair where
  | unchanged
  | fixed (b : List UInt8)
  | undecided
  deriving DecidableEq, Repr

/-- What a repair with this outcome hands on. -/
def Repair.apply (input : List UInt8) : Repair → List UInt8
  | .fixed b => b
  | .unchanged => input
  | .undecided => input

end TokenMarshal

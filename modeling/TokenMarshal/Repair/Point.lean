/-
  TokenMarshal.Repair.Point — points of a curve as octet strings.

  A point is to be the DER octet string around its encoding. Some tokens give the encoding
  bare, and some leave out even its form octet. The lengths of the curve tell these apart:
  two coordinates, a form octet and two coordinates, or a compressed form octet and one.
-/
import TokenMarshal.Curve.Params
import TokenMarshal.Repair.Outcome

namespace TokenMarshal.Repair

def wrapped (point : List UInt8) : List UInt8 := Der.element Der.octetStringTag point

/-- The repair of a point on a Weierstrass curve with coordinates of `n` octets. -/
def weierstrassPoint (n : Nat) (point : List UInt8) : Repair :=
  if point.length = 2 * n then .fixed (wrapped (0x04 :: point))
  else match point.head? with
    | some form =>
      if form = 0x04 ∧ point.length = 1 + 2 * n then .fixed (wrapped point)
      else if (form = 0x02 ∨ form = 0x03) ∧ point.length = 1 + n then .fixed (wrapped point)
      else .unchanged
    | none => .unchanged

def point (params point : List UInt8) : Repair :=
  match Curve.fixedLength? params with
  | some n => if point.length = n then .fixed (wrapped point) else .unchanged
  | none =>
    match Curve.size? params with
    | none => .undecided
    | some size => weierstrassPoint size.field point

end TokenMarshal.Repair

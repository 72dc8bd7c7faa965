/-
  TokenMarshal.Curve.Table — the curves whose sizes are known.

  A Weierstrass curve has a field, in which coordinates lie, and an order, below which the
  parts of a signature lie; the sizes are given in bits and used in octets.
-/
import TokenMarshal.Oid

namespace TokenMarshal.Curve

structure Entry where
  oid : Oid
  fieldBits : Nat
  orderBits : Nat
  deriving DecidableEq, Repr

/-- The octets that a number of so many bits takes. -/
def octets (bits : Nat) : Nat := (bits + 7) / 8

def table : List Entry := [
  ⟨⟨[1, 3, 132, 0, 6]⟩, 112, 112⟩,
  ⟨⟨[1, 3, 132, 0, 7]⟩, 112, 110⟩,
  ⟨⟨[1, 3, 132, 0, 28]⟩, 128, 128⟩,
  ⟨⟨[1, 3, 132, 0, 29]⟩, 128, 126⟩,
  ⟨⟨[1, 3, 132, 0, 9]⟩, 160, 161⟩,
  ⟨⟨[1, 3, 132, 0, 8]⟩, 160, 161⟩,
  ⟨⟨[1, 3, 132, 0, 30]⟩, 160, 161⟩,
  ⟨⟨[1, 3, 132, 0, 31]⟩, 192, 192⟩,
  ⟨⟨[1, 3, 132, 0, 32]⟩, 224, 225⟩,
  ⟨⟨[1, 3, 132, 0, 33]⟩, 224, 224⟩,
  ⟨⟨[1, 3, 132, 0, 10]⟩, 256, 256⟩,
  ⟨⟨[1, 3, 132, 0, 34]⟩, 384, 384⟩,
  ⟨⟨[1, 3, 132, 0, 35]⟩, 521, 521⟩,
  ⟨⟨[1, 2, 840, 10045, 3, 1, 1]⟩, 192, 192⟩,
  ⟨⟨[1, 2, 840, 10045, 3, 1, 2]⟩, 192, 192⟩,
  ⟨⟨[1, 2, 840, 10045, 3, 1, 3]⟩, 192, 192⟩,
  ⟨⟨[1, 2, 840, 10045, 3, 1, 4]⟩, 239, 239⟩,
  ⟨⟨[1, 2, 840, 10045, 3, 1, 5]⟩, 239, 239⟩,
  ⟨⟨[1, 2, 840, 10045, 3, 1, 6]⟩, 239, 239⟩,
  ⟨⟨[1, 2, 840, 10045, 3, 1, 7]⟩, 256, 256⟩,
  ⟨⟨[1, 3, 36, 3, 3, 2, 8, 1, 1, 1]⟩, 160, 160⟩,
  ⟨⟨[1, 3, 36, 3, 3, 2, 8, 1, 1, 2]⟩, 160, 160⟩,
  ⟨⟨[1, 3, 36, 3, 3, 2, 8, 1, 1, 3]⟩, 192, 192⟩,
  ⟨⟨[1, 3, 36, 3, 3, 2, 8, 1, 1, 4]⟩, 192, 192⟩,
  ⟨⟨[1, 3, 36, 3, 3, 2, 8, 1, 1, 5]⟩, 224, 224⟩,
  ⟨⟨[1, 3, 36, 3, 3, 2, 8, 1, 1, 6]⟩, 224, 224⟩,
  ⟨⟨[1, 3, 36, 3, 3, 2, 8, 1, 1, 7]⟩, 256, 256⟩,
  ⟨⟨[1, 3, 36, 3, 3, 2, 8, 1, 1, 8]⟩, 256, 256⟩,
  ⟨⟨[1, 3, 36, 3, 3, 2, 8, 1, 1, 9]⟩, 320, 320⟩,
  ⟨⟨[1, 3, 36, 3, 3, 2, 8, 1, 1, 10]⟩, 320, 320⟩,
  ⟨⟨[1, 3, 36, 3, 3, 2, 8, 1, 1, 11]⟩, 384, 384⟩,
  ⟨⟨[1, 3, 36, 3, 3, 2, 8, 1, 1, 12]⟩, 384, 384⟩,
  ⟨⟨[1, 3, 36, 3, 3, 2, 8, 1, 1, 13]⟩, 512, 512⟩,
  ⟨⟨[1, 3, 36, 3, 3, 2, 8, 1, 1, 14]⟩, 512, 512⟩,
  ⟨⟨[1, 2, 250, 1, 223, 101, 256, 1]⟩, 256, 256⟩,
  ⟨⟨[1, 2, 156, 10197, 1, 301]⟩, 256, 256⟩,
  ⟨⟨[1, 3, 132, 0, 1]⟩, 163, 163⟩,
  ⟨⟨[1, 3, 132, 0, 15]⟩, 163, 163⟩,
  ⟨⟨[1, 3, 132, 0, 26]⟩, 233, 232⟩,
  ⟨⟨[1, 3, 132, 0, 27]⟩, 233, 233⟩,
  ⟨⟨[1, 3, 132, 0, 16]⟩, 283, 281⟩,
  ⟨⟨[1, 3, 132, 0, 17]⟩, 283, 282⟩,
  ⟨⟨[1, 3, 132, 0, 36]⟩, 409, 407⟩,
  ⟨⟨[1, 3, 132, 0, 37]⟩, 409, 409⟩,
  ⟨⟨[1, 3, 132, 0, 38]⟩, 571, 570⟩,
  ⟨⟨[1, 3, 132, 0, 39]⟩, 571, 570⟩]

end TokenMarshal.Curve

/-
  TokenMarshal.Text.Encoding — the two ways a token may write its character strings.

  A token speaks UTF-8, or one octet a character (Latin-1, U+0000 to U+00FF). In Latin-1 a
  character that has no octet is written as a question mark, and every octet string reads
  back; in UTF-8 every character has a form, and what is not UTF-8 reads as U+FFFD.
-/
import TokenMarshal.Text.Utf8

namespace TokenMarshal.Text

inductive Encoding where
  | utf8
  | latin1
  deriving DecidableEq, Repr

namespace Encoding

def latin1Octet (c : Char) : UInt8 := if c.toNat < 256 then UInt8.ofNat c.toNat else 63

def encode : Encoding → String → List UInt8
  | .utf8, s => Utf8.encode s.toList
  | .latin1, s => s.toList.map latin1Octet

def decode : Encoding → List UInt8 → String
  | .utf8, b => String.ofList (Utf8.decodeLossy b)
  | .latin1, b => String.ofList (b.map fun a => Char.ofNat a.toNat)

end Encoding

end TokenMarshal.Text

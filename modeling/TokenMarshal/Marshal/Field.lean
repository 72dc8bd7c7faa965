/-
  TokenMarshal.Marshal.Field — one raw attribute, as it passes to and from a token.

  A field holds octets, or none and then a length. A request has no octets and length zero;
  a token that knows the attribute and cannot give its value answers with the length that
  means "unavailable". With octets the length is theirs.
-/
import TokenMarshal.Attribute.Code

namespace TokenMarshal.Marshal

/-- The length that stands for a value which cannot be given. -/
def unavailable : UInt64 := 0xFFFFFFFFFFFFFFFF

inductive Content where
  | payload (b : List UInt8)
  | missing (len : UInt64)
  deriving DecidableEq, Repr

structure Field where
  code : AttributeCode
  content : Content
  deriving DecidableEq, Repr

namespace Field

def request (code : AttributeCode) : Field := ⟨code, .missing 0⟩

def withoutValue (code : AttributeCode) : Field := ⟨code, .missing unavailable⟩

def holding (code : AttributeCode) (b : List UInt8) : Field := ⟨code, .payload b⟩

def payload? (f : Field) : Option (List UInt8) :=
  match f.content with
  | .payload b => some b
  | .missing _ => none

def len (f : Field) : UInt64 :=
  match f.content with
  | .payload b => UInt64.ofNat b.length
  | .missing n => n

end Field

end TokenMarshal.Marshal

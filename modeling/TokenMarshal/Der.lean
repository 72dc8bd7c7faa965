/-
  TokenMarshal.Der — the distinguished encoding of single elements.

  An element is a tag, the length of its content and the content. A length below 128 is one
  octet; a longer one is a count of octets and then those octets, as few as will do. The
  reader takes a whole octet string as one element: it refuses a length that is not written
  as the writer writes it (`readLength?` compares), and octets left over.

  The layer has this reader and writer from a package, `asn1`, and what stands here is the strict
  encoding that the package documents, with its bound on lengths. Two laws are stated of it in
  Proofs.Der: what is written is read (`read?_element`), and what is read is as it would be
  written (`eq_element_of_read?`). For the elements of signatures the layer has a reader of its
  own, which takes more.
-/
import TokenMarshal.Text.Numeral

namespace TokenMarshal.Der

def integerTag : UInt8 := 0x02
def octetStringTag : UInt8 := 0x04
def oidTag : UInt8 := 0x06
def printableTag : UInt8 := 0x13
def sequenceTag : UInt8 := 0x30

def length (n : Nat) : List UInt8 :=
  if n < 128 then [UInt8.ofNat n]
  else
    let octets := (Text.Numeral.digits 256 1 n).map UInt8.ofNat
    UInt8.ofNat (0x80 + octets.length) :: octets

def element (tag : UInt8) (content : List UInt8) : List UInt8 :=
  tag :: length content.length ++ content

def ofBigEndian (b : List UInt8) : Nat := b.foldl (fun n a => n * 256 + a.toNat) 0

/-- Reads a length of at most four octets after the count. -/
def readLength? : List UInt8 → Option (Nat × List UInt8)
  | [] => none
  | a :: r =>
    if a < 0x80 then some (a.toNat, r)
    else
      let count := (a - 0x80).toNat
      let n := ofBigEndian (r.take count)
      if count ≤ 4 ∧ length n = a :: r.take count then some (n, r.drop count) else none

/-- The tag and content of an octet string that is one element. -/
def read? : List UInt8 → Option (UInt8 × List UInt8)
  | [] => none
  | tag :: r =>
    match readLength? r with
    | some (n, content) => if content.length = n then some (tag, content) else none
    | none => none

end TokenMarshal.Der

/-
  TokenMarshal.Curve.Params — what the domain parameters of a key say about its curve.

  Parameters are one DER element: the identifier of a curve, or a curve name as a printable
  string. A few names stand for identifiers. A Weierstrass curve is found in the table by
  the parameters as they are, or by the identifier that a name stands for (`size?`); an
  Edwards or Montgomery curve has points of one fixed length (`fixedLength?`).
-/
import TokenMarshal.Curve.Table

namespace TokenMarshal.Curve

def secp256r1 : Oid := ⟨[1, 2, 840, 10045, 3, 1, 7]⟩
def secp256k1 : Oid := ⟨[1, 3, 132, 0, 10]⟩
def secp384r1 : Oid := ⟨[1, 3, 132, 0, 34]⟩
def secp521r1 : Oid := ⟨[1, 3, 132, 0, 35]⟩
def sm2p256v1 : Oid := ⟨[1, 2, 156, 10197, 1, 301]⟩
def x25519 : Oid := ⟨[1, 3, 101, 110]⟩
def x448 : Oid := ⟨[1, 3, 101, 111]⟩
def ed25519 : Oid := ⟨[1, 3, 101, 112]⟩
def ed448 : Oid := ⟨[1, 3, 101, 113]⟩

def names : List (String × Oid) := [
  ("prime256v1", secp256r1), ("secp256r1", secp256r1), ("secp256k1", secp256k1),
  ("secp384r1", secp384r1), ("secp521r1", secp521r1), ("sm2p256v1", sm2p256v1),
  ("edwards25519", ed25519), ("edwards448", ed448), ("curve25519", x25519), ("curve448", x448)]

def nameOctets (name : String) : List UInt8 := name.toList.map fun c => UInt8.ofNat c.toNat

def ofName? (name : List UInt8) : Option Oid :=
  (names.find? fun (s, _) => nameOctets s == name).map (·.2)

/-- The curve that parameters refer to, directly or by name. -/
def oid? (params : List UInt8) : Option Oid :=
  match Der.read? params with
  | none => none
  | some (tag, content) =>
    if tag = Der.oidTag then Oid.ofContent? content
    else if tag = Der.printableTag then ofName? content
    else none

structure Size where
  field : Nat
  order : Nat
  deriving DecidableEq, Repr

def Entry.size (e : Entry) : Size := ⟨octets e.fieldBits, octets e.orderBits⟩

/-- The size of the curve whose encoded identifier is `key`. -/
def lookup? (key : List UInt8) : Option Size := (table.find? (·.oid.der == key)).map Entry.size

def size? (params : List UInt8) : Option Size :=
  match lookup? params with
  | some s => some s
  | none =>
    match oid? params with
    | none => none
    | some o => if o.der = params then none else lookup? o.der

def fixedLengthOf? (o : Oid) : Option Nat :=
  if o = ed25519 then some (octets 256)
  else if o = ed448 then some (octets 456)
  else if o = x25519 then some (octets 256)
  else if o = x448 then some (octets 448)
  else none

def fixedLength? (params : List UInt8) : Option Nat := (oid? params).bind fixedLengthOf?

end TokenMarshal.Curve

/-
  TokenMarshal.Vendor.Translate — vendor codes inside attributes.

  Three attributes hold codes: the key type, the mechanism a key was made with, and the list
  of mechanisms a key may be used with. Translating goes through templates to any depth and
  changes these only, and only where they hold a value of their kind.
-/
import TokenMarshal.Attribute.Template
import TokenMarshal.Vendor.CodeMap

namespace TokenMarshal

open Vendor

mutual

def Value.translate (t : Table) (dir : Direction) (code : AttributeCode) : Value → Value
  | .number n =>
    if code = AttributeCode.keyType then .number (t.translate dir .keyType n)
    else if code = AttributeCode.keyGenMechanism then .number (t.translate dir .mechanism n)
    else .number n
  | .mechanisms l =>
    if code = AttributeCode.allowedMechanisms then .mechanisms (l.map (t.translate dir .mechanism))
    else .mechanisms l
  | .template inner => .template (Template.translate t dir inner)
  | .absent => .absent
  | .bool b => .bool b
  | .bytes b => .bytes b
  | .text s => .text s
  | .date d => .date d

def Attribute.translate (t : Table) (dir : Direction) : Attribute → Attribute
  | ⟨code, v, present, sensitive⟩ => ⟨code, Value.translate t dir code v, present, sensitive⟩

def Template.translate (t : Table) (dir : Direction) : Template → Template
  | ⟨l⟩ => .ofList (Attribute.translateAll t dir l)

def Attribute.translateAll (t : Table) (dir : Direction) : List Attribute → List Attribute
  | [] => []
  | a :: l => Attribute.translate t dir a :: Attribute.translateAll t dir l

end

end TokenMarshal

/-
  TokenMarshal.Attribute.Value — typed attributes and templates of them.

  A value is one of a closed set of kinds, one of which is a template: a list of attributes,
  so values nest. An attribute is a code with a value and two flags that say what a token
  told about it when it was read. Two attributes are alike (`sameAs`) when their codes and
  values are; the flags are no part of it at any depth.
-/
import TokenMarshal.Attribute.Code
import TokenMarshal.Attribute.Date
import TokenMarshal.Fault

namespace TokenMarshal

mutual

inductive Value where
  /-- Not set by the caller, or not told by the token. -/
  | absent
  | bool (b : Bool)
  | number (n : UInt64)
  | bytes (b : List UInt8)
  | text (s : String)
  | date (d : Date)
  | mechanisms (l : List UInt64)
  | template (t : Template)

structure Attribute where
  code : AttributeCode
  value : Value
  /-- The token knows the attribute on the object. -/
  present : Bool := false
  /-- The token has the attribute and will not tell its value. -/
  sensitive : Bool := false

structure Template where
  attributes : List Attribute

end

instance : Inhabited Value := ⟨.absent⟩
instance : Inhabited Attribute := ⟨{ code := 0, value := .absent }⟩
instance : Inhabited Template := ⟨⟨[]⟩⟩

mutual

def Value.sameAs : Value → Value → Bool
  | .absent, .absent => true
  | .bool a, .bool b => a == b
  | .number a, .number b => a == b
  | .bytes a, .bytes b => a == b
  | .text a, .text b => a == b
  | .date a, .date b => a == b
  | .mechanisms a, .mechanisms b => a == b
  | .template a, .template b => Template.sameAs a b
  | _, _ => false

def Attribute.sameAs : Attribute → Attribute → Bool
  | ⟨c, v, _, _⟩, ⟨d, w, _, _⟩ => c == d && Value.sameAs v w

def Template.sameAs : Template → Template → Bool
  | ⟨l⟩, ⟨m⟩ => Attribute.allSame l m

def Attribute.allSame : List Attribute → List Attribute → Bool
  | [], [] => true
  | a :: l, b :: m => Attribute.sameAs a b && Attribute.allSame l m
  | _, _ => false

end

namespace Value

def isAbsent : Value → Bool
  | absent => true
  | _ => false

def bool? : Value → Option Bool
  | bool b => some b
  | _ => none

def number? : Value → Option UInt64
  | number n => some n
  | _ => none

def bytes? : Value → Option (List UInt8)
  | bytes b => some b
  | _ => none

def text? : Value → Option String
  | text s => some s
  | _ => none

def date? : Value → Option Date
  | date d => some d
  | _ => none

def mechanisms? : Value → Option (List UInt64)
  | mechanisms l => some l
  | _ => none

def template? : Value → Option Template
  | template t => some t
  | _ => none

end Value

namespace Attribute

/-- An attribute as a caller sets it: nothing has been read. -/
def of (code : AttributeCode) (value : Value) : Attribute := { code, value }

def absent (code : AttributeCode) : Attribute := of code .absent

def name (a : Attribute) : String := a.code.name

def hasValue (a : Attribute) : Bool := !a.value.isAbsent

def bytes? (a : Attribute) : Option (List UInt8) := a.value.bytes?

/-- The value as the kind that `pick` takes: an attribute of another kind is of an invalid
type, one with no value is not found. -/
def get {α : Type} (pick : Value → Option α) (a : Attribute) : Except Fault α :=
  match pick a.value with
  | some v => .ok v
  | none =>
    if a.value.isAbsent then .error (.attributeNotFound a.name)
    else .error (.returned ReturnCode.attributeTypeInvalid)

end Attribute

/-- A reading of several attributes of which at least one failed hard. -/
structure PartialFailure where
  fault : Fault
  attributes : List Attribute

def PartialFailure.message (p : PartialFailure) : String :=
  "partial attribute read failure (" ++ Text.Numeral.decimal p.attributes.length ++
    " attributes): " ++ p.fault.message

end TokenMarshal

/-
  TokenMarshal.Attribute.Template — templates as ordered sets of attributes.

  Each code stands in a template at most once. Setting an attribute takes the former one of
  its code out and puts the new one last, so the order is that of the last setting of each
  code; changing an attribute in place moves nothing. `ofList` sets the members of any list
  one by one, which keeps the last of each code.
-/
import TokenMarshal.Attribute.Value

namespace TokenMarshal.Template

def empty : Template := ⟨[]⟩

def set (t : Template) (a : Attribute) : Template :=
  ⟨t.attributes.filter (·.code != a.code) ++ [a]⟩

def ofList (l : List Attribute) : Template := l.foldl set empty

def get? (t : Template) (code : AttributeCode) : Option Attribute :=
  t.attributes.find? (·.code == code)

def contains (t : Template) (code : AttributeCode) : Bool := (t.get? code).isSome

def codes (t : Template) : List AttributeCode := t.attributes.map (·.code)

def size (t : Template) : Nat := t.attributes.length

def isEmpty (t : Template) : Bool := t.attributes.isEmpty

/-- Takes out the first attribute of a code. -/
def remove (t : Template) (code : AttributeCode) : Template :=
  ⟨t.attributes.eraseP (·.code == code)⟩

def updateFirst (code : AttributeCode) (f : Attribute → Attribute) : List Attribute → List Attribute
  | [] => []
  | a :: l => if a.code == code then f a :: l else a :: updateFirst code f l

/-- Changes the attribute of a code where it stands. -/
def update (t : Template) (code : AttributeCode) (f : Attribute → Attribute) : Template :=
  ⟨updateFirst code f t.attributes⟩

def setValue (t : Template) (code : AttributeCode) (v : Value) : Template :=
  t.update code fun a => { a with value := v }

def clearValue (t : Template) (code : AttributeCode) : Template := t.setValue code .absent

def setPresent (t : Template) (code : AttributeCode) (present : Bool) : Template :=
  t.update code fun a => { a with present }

def setSensitive (t : Template) (code : AttributeCode) (sensitive : Bool) : Template :=
  t.update code fun a => { a with sensitive }

def setFlags (t : Template) (code : AttributeCode) (present sensitive : Bool) : Template :=
  (t.setPresent code present).setSensitive code sensitive

end TokenMarshal.Template

/-
  TokenMarshal.Library.Slot — attributes as a token library takes them.

  The library's calls pass an array of slots: a code, a buffer and a length. A buffer is
  null, octets with room for more after them, or for an attribute that holds a template an
  array of slots in turn, whose length is counted in octets of memory. `ofFields?` gives the
  slots that stand for fields to be written: first all blocks in template fields are read,
  then the arrays of their entries are laid out, and in the end the fields, which take these
  arrays one after another.
-/
import TokenMarshal.Fault
import TokenMarshal.Marshal.Block

namespace TokenMarshal.Library

open Marshal

mutual

inductive Buffer where
  | null
  /-- Octets that have been written, and how many more there is room for; these are zero. -/
  | bytes (b : List UInt8) (room : Nat)
  | slots (l : List Slot)

structure Slot where
  code : AttributeCode
  buffer : Buffer
  len : UInt64

end

instance : Inhabited Slot := ⟨⟨0, .null, 0⟩⟩

/-- The memory that one slot takes. -/
def slotSize : Nat := 24

namespace Slot

def empty (code : AttributeCode) : Slot := ⟨code, .null, 0⟩

def ofField (f : Field) : Slot :=
  match f.content with
  | .payload b => ⟨f.code, .bytes b 0, UInt64.ofNat b.length⟩
  | .missing len => ⟨f.code, .null, len⟩

def ofSlots (code : AttributeCode) (l : List Slot) : Slot :=
  ⟨code, .slots l, UInt64.ofNat (l.length * slotSize)⟩

/-- The block of a template, in a field that has one. -/
def block? (f : Field) : Option (List UInt8) :=
  match f.code.kind, f.content with
  | .template, .payload block => some block
  | _, _ => none

def entries? (block : List UInt8) : Except Fault (List Field) :=
  match Block.decode? block with
  | some inner => .ok inner
  | none => .error (.returned ReturnCode.templateInconsistent)

/-- The entries of every block among the fields, in the order of the fields. -/
def members? (fields : List Field) : Except Fault (List (List Field)) :=
  (fields.filterMap block?).mapM entries?

/-- Lays the fields out, of which each that has a block takes the next of the arrays. -/
def layOut? : List Field → List (List Slot) → Except Fault (List Slot)
  | [], _ => .ok []
  | f :: fields, arrays =>
    match block? f, arrays with
    | none, arrays => (layOut? fields arrays).map (ofField f :: ·)
    | some _, array :: arrays => (layOut? fields arrays).map (ofSlots f.code array :: ·)
    | some _, [] => .error (.returned ReturnCode.generalError)

def ofFields? (fields : List Field) : Except Fault (List Slot) := do
  let members ← members? fields
  layOut? fields (members.map fun inner => inner.map ofField)

end Slot

end TokenMarshal.Library

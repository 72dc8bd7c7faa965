/-
  TokenMarshal.Library.Read — reading attributes through a library's buffers.

  A read takes two calls, or three when a template is among the attributes. The first passes
  null buffers and learns the lengths; the second passes a buffer for every attribute that
  has a length, an array of slots for a template; the third passes buffers for the slots of
  these arrays. A return code that leaves the slots meaningless ends the read at once, and
  the fields stay as they were; only after the last call are they filled, all of them.
-/
import TokenMarshal.Library.Basic

namespace TokenMarshal.Library

open Marshal

variable {σ : Type}

/-- The slots hold data after a call that returned this. -/
def usable (rv : ReturnCode) : Bool :=
  rv == ReturnCode.ok || rv == ReturnCode.attributeTypeInvalid ||
    rv == ReturnCode.attributeSensitive

namespace Slot

def isArray (s : Slot) : Bool :=
  match s.buffer with
  | .slots _ => true
  | _ => false

/-- A buffer for a slot of which the length is known. -/
def allocate (s : Slot) : Slot :=
  if s.len = unavailable then s
  else if s.code.kind = .template then
    { s with buffer := .slots (List.replicate (s.len.toNat / slotSize) (.empty 0)) }
  else { s with buffer := .bytes [] s.len.toNat }

/-- A buffer for a slot inside an array. -/
def allocateInner (s : Slot) : Slot :=
  if s.len = unavailable then s else { s with buffer := .bytes [] s.len.toNat }

/-- Buffers for the slots of an array. -/
def allocateArray (s : Slot) : Slot :=
  match s.buffer with
  | .slots l => { s with buffer := .slots (l.map allocateInner) }
  | _ => s

/-- The octets in the buffer, as many as the length says. -/
def octets (s : Slot) : List UInt8 :=
  match s.buffer with
  | .bytes b room => b.take s.len.toNat ++ List.replicate (min room (s.len.toNat - b.length)) 0
  | _ => []

/-- An entry of an array as a field. -/
def entry (s : Slot) : Field :=
  if s.len = unavailable then .withoutValue s.code else .holding s.code s.octets

/-- What a slot says about the attribute of code `code` that was asked for. -/
def field (code : AttributeCode) (s : Slot) : Field :=
  if s.len = unavailable then .withoutValue code
  else match s.buffer with
    | .null => .withoutValue code
    | .bytes _ _ => .holding code s.octets
    | .slots l => .holding code (Block.encode (l.map entry))

end Slot

/-- The call that gets values, made again for the arrays when there are any. -/
def fill (call : List Slot → σ → (ReturnCode × List Slot) × σ) (sized : List Slot) (st : σ) :
    (ReturnCode × List Slot) × σ :=
  let ((rv, slots), st) := call (sized.map Slot.allocate) st
  if usable rv && slots.any (·.isArray) then call (slots.map Slot.allocateArray) st
  else ((rv, slots), st)

def readWith (call : List Slot → σ → (ReturnCode × List Slot) × σ) (fields : List Field) (st : σ) :
    (ReturnCode × List Field) × σ :=
  let ((rv, sized), st) := call (fields.map fun f => .empty f.code) st
  if !usable rv then ((rv, fields), st)
  else
    let ((rv, slots), st) := fill call sized st
    if !usable rv then ((rv, fields), st)
    else ((rv, List.zipWith (fun f s => Slot.field f.code s) fields slots), st)

def read (lib : Library σ) (session : SessionHandle) (object : ObjectHandle)
    (fields : List Field) (st : σ) : (ReturnCode × List Field) × σ :=
  match lib.attributes? with
  | none => ((ReturnCode.functionNotSupported, fields), st)
  | some f => readWith (f session object) fields st

end TokenMarshal.Library

/-
  TokenMarshal.Library.Basic — the calls of a token library.

  A library gives a list of functions, any of which may be lacking, over a state of its own.
  A function that hands something back in the caller's memory is modelled as giving the
  memory after the call; the mechanism list takes null or a buffer with room for so many,
  and gives what it wrote there and a count. `logged` is the same library with every call written down.
-/
import TokenMarshal.Device.Basic
import TokenMarshal.Library.Slot

namespace TokenMarshal

open Library

/-- What a library tells of itself: two fixed fields of octets, filled up with blanks. -/
structure Library.Info where
  manufacturer : List UInt8
  description : List UInt8
  version : Vendor.Version
  cryptoki : Vendor.Version

structure Library (σ : Type) where
  /-- The return code, and whether there is a list at all. -/
  functionList : σ → (ReturnCode × Bool) × σ
  start? : Option (UInt64 → σ → ReturnCode × σ)
  stop? : Option (σ → ReturnCode × σ)
  info? : Option (σ → (ReturnCode × Library.Info) × σ)
  attributes? : Option (SessionHandle → ObjectHandle → List Slot → σ →
    (ReturnCode × List Slot) × σ)
  create? : Option (SessionHandle → List Slot → σ → (ReturnCode × ObjectHandle) × σ)
  mechanisms? : Option (SlotId → Option UInt64 → σ →
    (ReturnCode × List Mechanism × UInt64) × σ)

namespace Library

variable {σ : Type}

/-! ## Calls written down -/

inductive Call where
  | functionList
  | start (flags : UInt64)
  | stop
  | info
  | attributes (session : SessionHandle) (object : ObjectHandle) (codes : List AttributeCode)
  | create (session : SessionHandle) (slots : List Slot)
  | mechanisms (slot : SlotId) (sizing : Bool)

/-- A slot and its buffer, with the slots of an inner array in brackets. -/
def slotText (inner : List Slot → String) (s : Slot) : String :=
  let code := Device.listText [s.code]
  match s.buffer with
  | .null => code ++ "=null:" ++ Device.listText [s.len]
  | .bytes b _ => code ++ "=" ++ Text.Numeral.octets b
  | .slots l => code ++ "=[" ++ inner l ++ "]"

def slotsText (l : List Slot) : String :=
  String.intercalate "," (l.map (slotText fun l =>
    String.intercalate "," (l.map (slotText fun _ => ""))))

def Call.text : Call → String
  | .functionList => "C_GetFunctionList"
  | .start flags => "C_Initialize flags=" ++ Device.listText [flags]
  | .stop => "C_Finalize"
  | .info => "C_GetInfo"
  | .attributes session object codes =>
    "C_GetAttributeValue s=" ++ Device.listText [session] ++ " o=" ++ Device.listText [object] ++
      " " ++ Device.listText codes
  | .create session slots =>
    "C_CreateObject s=" ++ Device.listText [session] ++ " " ++ slotsText slots
  | .mechanisms slot sizing =>
    "C_GetMechanismList slot=" ++ Device.listText [slot] ++ (if sizing then " size" else " read")

/-- Runs a call and writes it down. -/
def note {α : Type} (c : Call) (f : σ → α × σ) : σ × List Call → α × (σ × List Call)
  | (st, log) =>
    let (r, st) := f st
    (r, st, log ++ [c])

def logged (lib : Library σ) : Library (σ × List Call) where
  functionList := note .functionList lib.functionList
  start? := lib.start?.map fun f flags => note (.start flags) (f flags)
  stop? := lib.stop?.map fun f => note .stop f
  info? := lib.info?.map fun f => note .info f
  attributes? := lib.attributes?.map fun f session object slots =>
    note (.attributes session object (slots.map (·.code))) (f session object slots)
  create? := lib.create?.map fun f session slots => note (.create session slots) (f session slots)
  mechanisms? := lib.mechanisms?.map fun f slot room =>
    note (.mechanisms slot room.isNone) (f slot room)

end Library

end TokenMarshal

/-
  TokenMarshal.Device.Basic — what this library needs from a token.

  A device is a set of calls over a state of its own. A read passes a list of fields and
  gets it back filled, with one return code for all of them; creating objects and listing
  mechanisms are optional. `logged` is the same device with every call written down in the
  order in which it was made; it answers as before.
-/
import TokenMarshal.Fault
import TokenMarshal.Marshal.Field
import TokenMarshal.Vendor.Identity

namespace TokenMarshal

open Marshal

abbrev SessionHandle := UInt64
abbrev ObjectHandle := UInt64
abbrev SlotId := UInt64
abbrev Mechanism := UInt64

structure ModuleInfo where
  manufacturer : String
  description : String
  version : Vendor.Version
  /-- The version of the token interface. -/
  cryptoki : Vendor.Version
  deriving DecidableEq, Repr

structure Device (σ : Type) where
  info : σ → Except Fault ModuleInfo × σ
  read : SessionHandle → ObjectHandle → List Field → σ → (ReturnCode × List Field) × σ
  create? : Option (SessionHandle → List Field → σ → Except Fault ObjectHandle × σ)
  mechanisms? : Option (SlotId → σ → Except Fault (List Mechanism) × σ)

namespace Device

variable {σ : Type}

def unsupported {α : Type} : Except Fault α := .error (.returned ReturnCode.functionNotSupported)

def create (d : Device σ) (session : SessionHandle) (fields : List Field) (st : σ) :
    Except Fault ObjectHandle × σ :=
  match d.create? with
  | some f => f session fields st
  | none => (unsupported, st)

def mechanisms (d : Device σ) (slot : SlotId) (st : σ) : Except Fault (List Mechanism) × σ :=
  match d.mechanisms? with
  | some f => f slot st
  | none => (unsupported, st)

/-! ## Calls written down -/

inductive Call where
  | read (session : SessionHandle) (object : ObjectHandle) (codes : List AttributeCode)
  | create (session : SessionHandle) (codes : List AttributeCode)
  | mechanisms (slot : SlotId)
  deriving DecidableEq, Repr

/-- Numbers with commas between them. -/
def listText (l : List UInt64) : String :=
  String.intercalate "," (l.map fun n => Text.Numeral.decimal n.toNat)

def Call.text : Call → String
  | .read session object codes =>
    "read s=" ++ listText [session] ++ " o=" ++ listText [object] ++ " " ++ listText codes
  | .create session codes => "create s=" ++ listText [session] ++ " " ++ listText codes
  | .mechanisms slot => "mechanisms slot=" ++ listText [slot]

def logged (d : Device σ) : Device (σ × List Call) where
  info := fun (st, log) =>
    let (r, st) := d.info st
    (r, st, log)
  read := fun session object fields (st, log) =>
    let (r, st) := d.read session object fields st
    (r, st, log ++ [.read session object (fields.map (·.code))])
  create? := d.create?.map fun f session fields (st, log) =>
    let (r, st) := f session fields st
    (r, st, log ++ [.create session (fields.map (·.code))])
  mechanisms? := d.mechanisms?.map fun f slot (st, log) =>
    let (r, st) := f slot st
    (r, st, log ++ [.mechanisms slot])

end Device

end TokenMarshal

/-
  TokenMarshal.Simulated.Token — a token held in memory.

  Its objects give a fixed reply for each attribute: octets, no octets and a length, or a
  failure; what is not listed fails as an unknown type. A call answers with the first
  failure among its fields, or for several fields with a code set beforehand.

  A plain module, and tokens with keys whose point is bare or makes no sense, stand at the
  end; with them the general results about modules and sessions are tried.
-/
import TokenMarshal.Curve.Table
import TokenMarshal.Module

namespace TokenMarshal.Simulated

open Marshal

inductive Reply where
  | value (b : List UInt8)
  | without (len : UInt64)
  | fail (rv : ReturnCode)
  deriving DecidableEq, Repr

structure Token where
  info : Except Fault ModuleInfo
  objects : List (ObjectHandle × List (AttributeCode × Reply))
  /-- What a call for several fields returns, whatever they are. -/
  batch : Option ReturnCode := none
  create : Except Fault ObjectHandle := .error (.returned ReturnCode.templateIncomplete)
  mechanisms : Except Fault (List Mechanism) := .error (.returned ReturnCode.slotIdInvalid)

namespace Token

def reply (replies : List (AttributeCode × Reply)) (code : AttributeCode) : Reply :=
  ((replies.find? (·.1 == code)).map (·.2)).getD (.fail ReturnCode.attributeTypeInvalid)

def fill (f : Field) : Reply → ReturnCode × Field
  | .value b => (ReturnCode.ok, .holding f.code b)
  | .without len => (ReturnCode.ok, ⟨f.code, .missing len⟩)
  | .fail rv => (rv, .withoutValue f.code)

def firstFailure (l : List ReturnCode) : ReturnCode :=
  (l.find? (· != ReturnCode.ok)).getD ReturnCode.ok

def read (t : Token) (object : ObjectHandle) (fields : List Field) : ReturnCode × List Field :=
  match t.objects.find? (·.1 == object) with
  | none => (ReturnCode.objectHandleInvalid, fields)
  | some (_, replies) =>
    let filled := fields.map fun f => fill f (reply replies f.code)
    let status := firstFailure (filled.map (·.1))
    (if 1 < fields.length then t.batch.getD status else status, filled.map (·.2))

/-- Changes the reply of an object for a code. -/
def set (t : Token) (object : ObjectHandle) (code : AttributeCode) (r : Reply) : Token :=
  let replies := ((t.objects.find? (·.1 == object)).map (·.2)).getD []
  { t with objects := (object, (code, r) :: replies) :: t.objects.filter (·.1 != object) }

/-- The token as a device; a minimal one can only be read. -/
def device (minimal : Bool) : Device Token where
  info := fun t => (t.info, t)
  read := fun _ object fields t => (t.read object fields, t)
  create? := if minimal then none else some fun _ _ t => (t.create, t)
  mechanisms? := if minimal then none else some fun _ t => (t.mechanisms, t)

end Token

/-! ## A module, and tokens to put behind it -/

def plainInfo : ModuleInfo := ⟨"maker", "token", ⟨1, 0⟩, ⟨3, 0⟩⟩

/-- A module without vendor codes, which repairs whatever it can. -/
def plainModule : Module where
  path := "libtoken.so"
  info := plainInfo
  table? := none
  adaptive := false
  cacheSize := 8
  encoding := .utf8

/-- A point on a curve of 256 bits as a token gives it that does not wrap points. -/
def barePoint : List UInt8 := 0x04 :: List.replicate 64 1

def bareKey : List (AttributeCode × Reply) :=
  [(AttributeCode.ecParams, .value Curve.secp256r1.der), (AttributeCode.ecPoint, .value barePoint)]

/-- A key of which neither the parameters nor the point make sense, with a sensitive value. -/
def strangeKey : List (AttributeCode × Reply) :=
  [(AttributeCode.ecParams, .value [0x0c]), (0x11, .fail ReturnCode.attributeSensitive),
    (AttributeCode.ecPoint, .value [2])]

/-- The numbers one and two as a sequence of integers. -/
def derSignature : List UInt8 := [0x30, 6, 2, 1, 1, 2, 1, 2]

/-- A token that has these objects and can do nothing else. -/
def Token.ofObjects (objects : List (ObjectHandle × List (AttributeCode × Reply))) : Token where
  info := .ok plainInfo
  objects := objects

def twoKeys : Token := .ofObjects [(31, bareKey), (32, strangeKey)]

end TokenMarshal.Simulated

/-
  TokenMarshal.Device.Fetch — reading attributes of an object.

  Several attributes are asked for in one call. Tokens do not agree on what such a call
  answers when one of the attributes fails, so unless it went well every attribute is asked
  for again by itself, and the return code of each single read is taken as a statement about
  that attribute: unknown, sensitive, not given (three codes that some tokens use for it),
  or else a hard failure. All attributes are read in any case; the first hard failure is
  reported with all of them.
-/
import TokenMarshal.Device.Basic
import TokenMarshal.Marshal.Codec

namespace TokenMarshal.Device

open Marshal Text

variable {σ : Type}

/-- An attribute as it was read, and the hard failure of its read if there was one. -/
abbrev Reading := Attribute × Option Fault

/-- Codes that tokens answer with for an attribute they do not have. -/
def tolerated (rv : ReturnCode) : Bool :=
  rv == ReturnCode.argumentsBad || rv == ReturnCode.functionFailed ||
    rv == ReturnCode.functionRejected

/-- What a single read that did not go well says about its attribute. -/
def classify (code : AttributeCode) (rv : ReturnCode) : Reading :=
  if rv = ReturnCode.attributeTypeInvalid then (.absent code, none)
  else if rv = ReturnCode.attributeSensitive then (⟨code, .absent, true, true⟩, none)
  else if tolerated rv then (.absent code, none)
  else (.absent code,
    some (.explained rv ("reading " ++ code.name ++ " failed with CK_RV " ++ rv.hex)))

def readOne (d : Device σ) (e : Encoding) (session : SessionHandle) (object : ObjectHandle)
    (code : AttributeCode) (st : σ) : Reading × σ :=
  let ((rv, fields), st) := d.read session object [.request code] st
  if rv = ReturnCode.ok then (((fields.headD (.request code)).decode e, none), st)
  else (classify code rv, st)

def readEach (d : Device σ) (e : Encoding) (session : SessionHandle) (object : ObjectHandle) :
    List AttributeCode → σ → List Reading × σ
  | [], st => ([], st)
  | code :: codes, st =>
    let (a, st) := readOne d e session object code st
    let (rest, st) := readEach d e session object codes st
    (a :: rest, st)

/-- All readings as one result. -/
def gather (l : List Reading) : Except PartialFailure (List Attribute) :=
  match l.findSome? (·.2) with
  | none => .ok (l.map (·.1))
  | some fault => .error ⟨fault, l.map (·.1)⟩

def fetchOne (d : Device σ) (e : Encoding) (session : SessionHandle) (object : ObjectHandle)
    (code : AttributeCode) (st : σ) : Except Fault Attribute × σ :=
  let ((a, fault), st) := readOne d e session object code st
  match fault with
  | none => (.ok a, st)
  | some fault => (.error fault, st)

/-- The attributes read one at a time. -/
def fetchEach (d : Device σ) (e : Encoding) (session : SessionHandle) (object : ObjectHandle)
    (codes : List AttributeCode) (st : σ) : Except PartialFailure (List Attribute) × σ :=
  let (l, st) := readEach d e session object codes st
  (gather l, st)

def fetchAll (d : Device σ) (e : Encoding) (session : SessionHandle) (object : ObjectHandle)
    (codes : List AttributeCode) (st : σ) : Except PartialFailure (List Attribute) × σ :=
  if 1 < codes.length then
    let ((rv, fields), st) := d.read session object (codes.map .request) st
    if rv = ReturnCode.ok then (.ok (fields.map (·.decode e)), st)
    else fetchEach d e session object codes st
  else fetchEach d e session object codes st

end TokenMarshal.Device

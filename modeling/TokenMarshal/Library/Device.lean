/-
  TokenMarshal.Library.Device — a token library as a device.

  Loading asks for the list of functions and initializes the library, with locking left to
  the system; one that somebody else has initialized is used and not finalized. A function
  that is lacking is not supported. The mechanism list takes a sizing call and then a
  reading one with a buffer of that size.
-/
import TokenMarshal.Config.Files
import TokenMarshal.Library.Read
import TokenMarshal.Module
import TokenMarshal.Vendor.File

namespace TokenMarshal

open Marshal Text

namespace Library

variable {σ : Type}

def osLocking : UInt64 := 2

/-- Loads the library at `path`; the answer is whether to finalize it in the end. -/
def load (lib : Library σ) (path : String) (st : σ) : Except Fault Bool × σ :=
  let ((rv, given), st) := lib.functionList st
  if rv ≠ ReturnCode.ok then
    (.error (.explained rv ("Failed to load pkcs11 function list: " ++ Numeral.decimal rv.toNat)), st)
  else if !given then
    (.error (.explained ReturnCode.generalError (path ++ ": empty function list")), st)
  else match lib.start? with
    | none =>
      (.error (.explained ReturnCode.generalError
        "Broken pkcs11 module, no C_Initialize function"), st)
    | some f =>
      let (rv, st) := f osLocking st
      if rv = ReturnCode.ok then (.ok true, st)
      else if rv = ReturnCode.alreadyInitialized then (.ok false, st)
      else
        (.error (.explained rv
          ("Pkcs11 module initialization failed: " ++ Numeral.decimal rv.toNat)), st)

def unload (lib : Library σ) (own : Bool) (st : σ) : σ :=
  match own, lib.stop? with
  | true, some f => (f st).2
  | _, _ => st

/-- A fixed field without the blanks and zeros that fill it up. -/
def fixedText (b : List UInt8) : String :=
  String.ofList (Utf8.decodeLossy (b.reverse.dropWhile fun a => a == 0x20 || a == 0).reverse)

def moduleInfo (i : Info) : ModuleInfo where
  manufacturer := fixedText i.manufacturer
  description := fixedText i.description
  version := i.version
  cryptoki := i.cryptoki

def info (lib : Library σ) (st : σ) : Except Fault ModuleInfo × σ :=
  match lib.info? with
  | none => (Device.unsupported, st)
  | some f =>
    let ((rv, i), st) := f st
    if rv = ReturnCode.ok then (.ok (moduleInfo i), st) else (.error (.returned rv), st)

def create (lib : Library σ) (session : SessionHandle) (fields : List Field) (st : σ) :
    Except Fault ObjectHandle × σ :=
  match lib.create? with
  | none => (Device.unsupported, st)
  | some f =>
    match Slot.ofFields? fields with
    | .error fault => (.error fault, st)
    | .ok slots =>
      let ((rv, handle), st) := f session slots st
      if rv = ReturnCode.ok then (.ok handle, st) else (.error (.returned rv), st)

/-- The front of a buffer with room for `room` codes: `count` of them, zero after those that
have been written. -/
def listed (room : UInt64) (written : List Mechanism) (count : UInt64) : List Mechanism :=
  let n := min room.toNat count.toNat
  (written ++ List.replicate (n - written.length) 0).take n

def mechanisms (lib : Library σ) (slot : SlotId) (st : σ) : Except Fault (List Mechanism) × σ :=
  match lib.mechanisms? with
  | none => (Device.unsupported, st)
  | some f =>
    let ((rv, _, count), st) := f slot none st
    if rv ≠ ReturnCode.ok then (.error (.returned rv), st)
    else
      let ((rv, written, given), st) := f slot (some count) st
      if rv ≠ ReturnCode.ok then (.error (.returned rv), st)
      else (.ok (listed count written given), st)

def device (lib : Library σ) : Device σ where
  info := lib.info
  read := lib.read
  create? := some lib.create
  mechanisms? := some lib.mechanisms

/-- Loads the library at `path` and sets up its module, with the vendor code file that the
settings name. A library that is loaded in vain is unloaded. -/
def openModule (lib : Library σ) (files : Files) (path : String) (config : Config)
    (ambient : Encoding) (st : σ) : Except Fault (Module × Bool) × σ :=
  match lib.load path st with
  | (.error fault, st) => (.error fault, st)
  | (.ok own, st) =>
    match Vendor.Rules.ofConfig files config with
    | .error fault => (.error fault, lib.unload own st)
    | .ok rules =>
      match Module.setUp lib.device path config rules ambient st with
      | (.ok m, st) => (.ok (m, own), st)
      | (.error fault, st) => (.error fault, lib.unload own st)

end Library

end TokenMarshal

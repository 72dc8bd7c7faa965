/-
  TokenMarshal.Module — a token library as this layer sees it.

  A module is set up once from its device: its identity selects a table of vendor codes
  among the rules, and the settings fix the rest. What changes afterwards, the repair flags,
  is passed in and out. Attributes read are translated to generic codes, fields written to
  the vendor's; points and signatures are repaired as the flags say.
-/
import TokenMarshal.Config.Basic
import TokenMarshal.Device.Fetch
import TokenMarshal.Repair.Flags
import TokenMarshal.Repair.Point
import TokenMarshal.Repair.Signature
import TokenMarshal.Vendor.Rules
import TokenMarshal.Vendor.Translate

namespace TokenMarshal

open Marshal Repair Text Vendor

structure Module where
  path : String
  info : ModuleInfo
  table? : Option Table
  adaptive : Bool
  cacheSize : Nat
  /-- How texts are written and read. -/
  encoding : Encoding

namespace Module

variable {σ : Type}

def identity (path : String) (info : ModuleInfo) : Identity where
  path := path
  manufacturer := info.manufacturer
  description := info.description
  version := info.version

/-- Sets up the module behind a device. The settings can turn Latin-1 on; they leave the
encoding in force, `ambient`, alone otherwise. -/
def setUp (d : Device σ) (path : String) (config : Config) (rules : Option Rules)
    (ambient : Encoding) (st : σ) : Except Fault Module × σ :=
  match d.info st with
  | (.error fault, st) => (.error fault, st)
  | (.ok info, st) => (.ok {
      path, info
      table? := rules.bind (·.select (identity path info))
      adaptive := config.adaptive
      cacheSize := config.cacheSize
      encoding := if config.legacyText then .latin1 else ambient }, st)

/-! ## Vendor codes -/

def translate (m : Module) (dir : Direction) (space : Space) (code : UInt64) : UInt64 :=
  match m.table? with
  | some t => t.translate dir space code
  | none => code

def mechanismToVendor (m : Module) (code : Mechanism) : Mechanism :=
  m.translate .toVendor .mechanism code

def mechanismsToGeneric (m : Module) (codes : List Mechanism) : List Mechanism :=
  codes.map (m.translate .toGeneric .mechanism)

def mechanismList (m : Module) (d : Device σ) (slot : SlotId) (st : σ) :
    Except Fault (List Mechanism) × σ :=
  match d.mechanisms slot st with
  | (.ok codes, st) => (.ok (m.mechanismsToGeneric codes), st)
  | (.error fault, st) => (.error fault, st)

def attributesToGeneric (m : Module) (l : List Attribute) : List Attribute :=
  match m.table? with
  | some t => Attribute.translateAll t .toGeneric l
  | none => l

/-- The fields to write for a template. -/
def writeFields (m : Module) (t : Template) : List Field :=
  match m.table? with
  | some table => (Template.translate table .toVendor t).encode m.encoding
  | none => t.encode m.encoding

/-! ## Repairs -/

def normalizePoint (m : Module) (flags : Flags) (point params : List UInt8) :
    List UInt8 × Flags :=
  flags.apply m.adaptive .point (Repair.point params) point

def target : Scheme → Target
  | .ecdsa => .ecdsa
  | .sm2 => .sm2

/-- A signature stays as it is when the length of its numbers is not known. -/
def normalizeSignature (m : Module) (flags : Flags) (sig : List UInt8)
    (params : Option (List UInt8)) (scheme : Scheme) : List UInt8 × Flags :=
  match scheme.orderLength? params with
  | none => (sig, flags)
  | some n => flags.apply m.adaptive (target scheme) (Repair.signature n) sig

end Module

end TokenMarshal

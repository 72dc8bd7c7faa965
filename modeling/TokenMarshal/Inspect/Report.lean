/-
  TokenMarshal.Inspect.Report — checking a vendor code file.

  The check reads the file and shows the mappings that it selects, for a library that is
  loaded or for an identity given in words. What goes wrong ends the check with a text of
  its own; what was shown before that stays.
-/
import TokenMarshal.Library.Device

namespace TokenMarshal.Inspect

open Text Vendor

structure Options where
  file : String
  module : Option String := none
  slot : Option SlotId := none
  path : Option String := none
  manufacturer : Option String := none
  description : Option String := none
  libVersion : Option String := none

structure Report where
  lines : List String := []
  /-- Why the check failed, if it did. -/
  failure : Option String := none

def text (lines : List String) : String := String.join (lines.map (· ++ "\n"))

def Report.output (r : Report) : String := text r.lines

def Report.errors (r : Report) : String := text r.failure.toList

def Report.exitCode (r : Report) : Nat := if r.failure.isSome then 1 else 0

/-! ## Parts of a report -/

def padded (width : Nat) (s : String) : String :=
  s ++ String.ofList (List.replicate (width - s.length) ' ')

def hex (code : UInt64) : String := "0x" ++ Numeral.hex 8 code.toNat

def entryLines (label : String) (space : Space) (m : CodeMap) : List String :=
  m.entries.map fun (generic, vendor) =>
    "  " ++ padded 10 label ++ " " ++ padded 32 ((Name.ofCode? space generic).getD "?") ++ " -> " ++
      hex vendor

def tableLines (t : Table) : List String :=
  "Selected mappings:" ::
    (entryLines "key type" .keyType t.keyTypes ++ entryLines "mechanism" .mechanism t.mechanisms)

def decimal (n : UInt8) : String := Numeral.decimal n.toNat

def moduleLine (i : ModuleInfo) : String :=
  "Module: " ++ i.manufacturer ++ " (" ++ i.description ++ ") version " ++ decimal i.version.major ++
    "." ++ decimal i.version.minor

def mechanismLine (code : Mechanism) : String :=
  "  " ++ hex code ++
    (match Name.ofCode? .mechanism code with
    | some name => " " ++ name
    | none => "")

/-- Two numbers with a dot between them, or one for the first. -/
def version? (s : String) : Except String Version :=
  let (major, minor) := (cut? (· == '.') s.toList).getD (s.toList, ['0'])
  let number (what : String) (part : List Char) : Except String UInt8 :=
    match Numeral.read 10 256 (trim part) with
    | .ok n => .ok (UInt8.ofNat n)
    | .error fault =>
      .error ("invalid " ++ what ++ " version '" ++ String.ofList part ++ "': " ++ fault.message)
  do
    let a ← number "major" major
    let b ← number "minor" minor
    pure ⟨a, b⟩

/-! ## The check -/

variable {σ : Type}

/-- The part of the check that needs a loaded module. -/
def moduleReport (d : Device σ) (m : Module) (slot : Option SlotId) (st : σ) : Report × σ :=
  let lines := moduleLine m.info ::
    (match m.table? with
    | some t => tableLines t
    | none => ["No vendor code block matches this module"])
  match slot with
  | none => (⟨lines, none⟩, st)
  | some slot =>
    match m.mechanismList d slot st with
    | (.error fault, st) => (⟨lines, some ("failed to list mechanisms: " ++ fault.message)⟩, st)
    | (.ok codes, st) =>
      (⟨lines ++ ("Mechanisms of slot " ++ Numeral.decimal slot.toNat ++ ":") ::
        codes.map mechanismLine, none⟩, st)

/-- Loads the library, reports on it and lets it go again. -/
def libraryReport (lib : Library σ) (files : Files) (o : Options) (path : String) (st : σ) :
    Report × σ :=
  match lib.openModule files path { vendorFile := some o.file } .utf8 st with
  | (.error fault, st) => (⟨[], some ("failed to load " ++ path ++ ": " ++ fault.message)⟩, st)
  | (.ok (m, own), st) =>
    let (r, st) := moduleReport lib.device m o.slot st
    (r, lib.unload own st)

def identityReport (rules : Rules) (o : Options) : Report :=
  match (match o.libVersion with
    | some s => version? s
    | none => .ok ⟨0, 0⟩) with
  | .error text => ⟨[], some text⟩
  | .ok version =>
    match rules.select ⟨o.path.getD "", o.manufacturer.getD "", o.description.getD "", version⟩ with
    | some t => ⟨tableLines t, none⟩
    | none => ⟨["No vendor code block matches"], none⟩

/-- The whole check; `module` reports on the library at a path. -/
def report (files : Files) (module : Options → String → Report) (o : Options) : Report :=
  match Rules.ofFile files o.file with
  | .error fault => ⟨[], some (o.file ++ ": " ++ fault.message)⟩
  | .ok rules =>
    let first := o.file ++ ": " ++ Numeral.decimal rules.length ++ " vendor code blocks"
    let r :=
      match o.module with
      | some path => module o path
      | none => identityReport rules o
    { r with lines := first :: r.lines }

end TokenMarshal.Inspect

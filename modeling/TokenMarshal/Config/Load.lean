/-
  TokenMarshal.Config.Load — settings from a TOML document, and where it is found.

  A section may be a table, or an array of its fields in order; fields that are missing keep
  their defaults, and what is not known is passed over. The document is the one that the
  environment names, else the first place that the environment gives; that there is no file
  at that place means the defaults. The environment may also name the vendor code file.
  Variables that are not UTF-8 count as not set. Where the environment gives no place, it is
  the system's, of which the directory is fixed when the layer is built.
-/
import TokenMarshal.Config.Basic
import TokenMarshal.Config.Files
import TokenMarshal.Toml.Document

namespace TokenMarshal.Config

open Text

inductive Fault where
  /-- The text is no TOML, or a field has the wrong type. -/
  | malformed
  | emptyCache
  | unreadable (fault : FileFault)
  deriving DecidableEq, Repr

def Fault.toFault : Fault → TokenMarshal.Fault
  | malformed => .config "malformed document"
  | emptyCache => .config "fixups.ec_params_cache_size must be at least 1"
  | unreadable fault => .outside fault.message

/-! ## The document -/

/-- The values of the fields of a section, none for those not given. A date is a table that
has none of them. -/
def section? (names : List String) : Option Toml.Tree → Option (List (Option Toml.Tree))
  | none => some (names.map fun _ => none)
  | some .moment => some (names.map fun _ => none)
  | some (.table _ es) => some (names.map (Toml.Entries.get? es))
  | some (.array l) => some ((List.range names.length).map (l[·]?))
  | some (.tables l) => some ((List.range names.length).map fun i => l[i]?.map (.table .header))
  | some _ => none

/-- A field as the type that `pick` takes, with a default. -/
def field? {α : Type} (pick : Toml.Tree → Option α) (default : α) : Option Toml.Tree → Option α
  | none => some default
  | some t => pick t

def text? : Toml.Tree → Option (Option String)
  | .text s => some (some s)
  | _ => none

def boolean? : Toml.Tree → Option Bool
  | .boolean b => some b
  | _ => none

def count? : Toml.Tree → Option Nat
  | .integer n => if 0 ≤ n then some n.toNat else none
  | _ => none

def ofEntries? (es : Toml.Entries) : Option Config := do
  let vendor ← section? ["file"] (es.get? "vendor")
  let attributes ← section? ["legacy_text_encoding"] (es.get? "attributes")
  let fixups ← section? ["adaptive", "ec_params_cache_size"] (es.get? "fixups")
  some {
    vendorFile := ← field? text? none (vendor.headD none)
    legacyText := ← field? boolean? false (attributes.headD none)
    adaptive := ← field? boolean? true (fixups.headD none)
    cacheSize := ← field? count? 100 (fixups.getD 1 none) }

def ofToml (text : String) : Except Fault Config :=
  match (Toml.parse? text).bind ofEntries? with
  | none => .error .malformed
  | some c => if c.cacheSize = 0 then .error .emptyCache else .ok c

/-! ## The place -/

/-- The variables that matter, as octets. -/
structure Environment where
  conf : Option (List UInt8) := none
  xdgConfigHome : Option (List UInt8) := none
  home : Option (List UInt8) := none
  vendorCode : Option (List UInt8) := none

def setText? (v : Option (List UInt8)) : Option String :=
  (v.bind Utf8.decode?).map String.ofList

def fileName : String := "ckbridge/ckbridge.conf"

/-- The directory of the system in a build that names no other. -/
def systemDirectory : String := "/usr/local/etc"

/-- The place to look at when the environment does not name the document. -/
def defaultPlace (env : Environment) (system : String := systemDirectory) : String :=
  match setText? env.xdgConfigHome with
  | some dir => dir ++ "/" ++ fileName
  | none =>
    match setText? env.home with
    | some dir => dir ++ "/.config/" ++ fileName
    | none => system ++ "/" ++ fileName

def find? (env : Environment) (files : Files) (system : String := systemDirectory) :
    Option String :=
  match setText? env.conf with
  | some path => some path
  | none =>
    let place := defaultPlace env system
    if files.isFile place then some place else none

def ofFile (files : Files) (path : String) : Except Fault Config :=
  match files.readText path with
  | .ok text => ofToml text
  | .error fault => .error (.unreadable fault)

def load (env : Environment) (files : Files) (system : String := systemDirectory) :
    Except Fault Config :=
  let config :=
    match find? env files system with
    | some path => ofFile files path
    | none => .ok {}
  config.map fun c =>
    match setText? env.vendorCode with
    | some path => { c with vendorFile := some path }
    | none => c

end TokenMarshal.Config

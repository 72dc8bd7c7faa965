/-
  TokenMarshal.Inspect.Arguments — the command line of the vendor code check.

  An option has a long name, and some have a letter too; its value follows an equals sign
  or is the next argument. Every option is given once at most. The file is required; the
  slot is for a library that is loaded, and the words of an identity are for none.
-/
import TokenMarshal.Inspect.Report

namespace TokenMarshal.Inspect

open Text

inductive Key where
  | file
  | module
  | slot
  | path
  | manufacturer
  | description
  | libVersion
  deriving DecidableEq, Repr

namespace Key

def all : List Key := [file, module, slot, path, manufacturer, description, libVersion]

def name : Key → String
  | file => "file"
  | module => "pkcs11-module"
  | slot => "slot"
  | path => "path"
  | manufacturer => "manufacturer"
  | description => "description"
  | libVersion => "lib-version"

def letter? : Key → Option Char
  | file => some 'f'
  | module => some 'm'
  | slot => some 's'
  | _ => none

def ofName? (name : List Char) : Option Key := all.find? (·.name.toList == name)

def ofLetter? (c : Char) : Option Key := all.find? (·.letter? == some c)

end Key

inductive ArgumentFault where
  | unknown (argument : String)
  | noValue (key : Key)
  | repeated (key : Key)
  | missing (key : Key)
  | together (key other : Key)
  | badValue (key : Key) (fault : Numeral.Fault)
  deriving DecidableEq, Repr

def ArgumentFault.message : ArgumentFault → String
  | unknown argument => "unexpected argument '" ++ argument ++ "'"
  | noValue key => "a value is required for --" ++ key.name
  | repeated key => "--" ++ key.name ++ " is given more than once"
  | missing key => "--" ++ key.name ++ " is required"
  | together key other => "--" ++ key.name ++ " cannot be used with --" ++ other.name
  | badValue key fault => "invalid value for --" ++ key.name ++ ": " ++ fault.message

namespace Arguments

/-- The option that an argument is, and its value if that is in the same argument. -/
def option? (argument : List Char) : Option (Key × Option String) :=
  match argument with
  | '-' :: '-' :: r =>
    match cut? (· == '=') r with
    | some (name, value) => (Key.ofName? name).map fun key => (key, some (String.ofList value))
    | none => (Key.ofName? r).map fun key => (key, none)
  | '-' :: c :: [] => (Key.ofLetter? c).map fun key => (key, none)
  | '-' :: c :: '=' :: value => (Key.ofLetter? c).map fun key => (key, some (String.ofList value))
  | '-' :: c :: value => (Key.ofLetter? c).map fun key => (key, some (String.ofList value))
  | _ => none

/-- The options in order with their values; an option may be waiting for its own. -/
def pairs : Option Key → List String → Except ArgumentFault (List (Key × String))
  | none, [] => .ok []
  | some key, [] => .error (.noValue key)
  | some key, value :: rest => (pairs none rest).map ((key, value) :: ·)
  | none, argument :: rest =>
    match option? argument.toList with
    | none => .error (.unknown argument)
    | some (key, some value) => (pairs none rest).map ((key, value) :: ·)
    | some (key, none) => pairs (some key) rest

abbrev Given := List (Key × String)

def value? (given : Given) (key : Key) : Option String :=
  (given.find? (·.1 == key)).map (·.2)

def has (given : Given) (key : Key) : Bool := (value? given key).isSome

/-- The options that describe a module in words. -/
def words : List Key := [.path, .manufacturer, .description, .libVersion]

/-- What is wrong with a set of options, taken in this order. -/
def check (given : Given) : Except ArgumentFault Unit :=
  match Key.all.find? (fun key => 1 < (given.filter (·.1 == key)).length) with
  | some key => .error (.repeated key)
  | none =>
    match words.find? (has given) with
    | some key => if has given .module then .error (.together key .module) else file
    | none => if has given .slot && !has given .module then .error (.missing .module) else file
where
  file : Except ArgumentFault Unit :=
    if has given .file then .ok () else .error (.missing .file)

def slot? (given : Given) : Except ArgumentFault (Option SlotId) :=
  match value? given .slot with
  | none => .ok none
  | some s =>
    match Numeral.read 10 UInt64.size s.toList with
    | .ok n => .ok (some (UInt64.ofNat n))
    | .error fault => .error (.badValue .slot fault)

def read (arguments : List String) : Except ArgumentFault Options := do
  let given ← pairs none arguments
  check given
  let slot ← slot? given
  pure {
    file := (value? given .file).getD ""
    module := value? given .module
    slot
    path := value? given .path
    manufacturer := value? given .manufacturer
    description := value? given .description
    libVersion := value? given .libVersion }

end Arguments

def usage : String := text [
  "Checks a vendor code file and shows the mappings it selects for a module",
  "",
  "  -f, --file FILE           the vendor code file to check",
  "  -m, --pkcs11-module PATH  match against the identity of this library",
  "  -s, --slot SLOT           also list the mechanisms of this slot",
  "      --path PATH           match against an identity given in words",
  "      --manufacturer NAME",
  "      --description TEXT",
  "      --lib-version VERSION",
  "  -h, --help                show this text"]

end TokenMarshal.Inspect

/-
  TokenMarshal.Vendor.Rule — one block of a vendor code file.

  A rule names the modules it is for by up to four selectors and gives their values for the
  generic codes. A selector that is empty does not restrict; the others must all accept. The
  path, manufacturer and description selectors are lists of lower-case tokens, of which one
  must occur in the lower-cased text; the version selector is a list of ranges, ends
  included. `set` takes one line of a block, `check` looks for what a block must have, and
  `table` is what a module goes by if the rule is its own.
-/
import TokenMarshal.Fault
import TokenMarshal.Text.Case
import TokenMarshal.Vendor.CodeMap
import TokenMarshal.Vendor.Identity

namespace TokenMarshal.Vendor

open Text

/-! ## What can be wrong with a line -/

inductive LineFault where
  | nestedBlock
  | unexpectedEnd
  | outsideBlock
  | missingValue
  | noSelector
  | version (text : String)
  | majorVersion (text : String)
  | minorVersion (text : String)
  | code (text : String)
  | unknownName (name : String)
  | nameTwice (name : String)
  | valueTaken (value : UInt64) (name owner : String)
  deriving DecidableEq, Repr

def LineFault.message : LineFault → String
  | nestedBlock => "nested vendor code block"
  | unexpectedEnd => "unexpected block end"
  | outsideBlock => "line outside of a block"
  | missingValue => "missing value"
  | noSelector =>
    inBlock "vendor code block has no module.path, module.mid or module.description selector"
  | version text => inBlock ("invalid version '" ++ text ++ "'")
  | majorVersion text => inBlock ("invalid major version in '" ++ text ++ "'")
  | minorVersion text => inBlock ("invalid minor version in '" ++ text ++ "'")
  | code text => inBlock ("invalid code '" ++ text ++ "'")
  | unknownName name => inBlock ("unknown vendor code name '" ++ name ++ "'")
  | nameTwice name => inBlock ("vendor code name '" ++ name ++ "' is defined twice")
  | valueTaken value name owner =>
    inBlock ("vendor value 0x" ++ Numeral.upperHex 1 value.toNat ++ " of '" ++ name ++
      "' is already used by " ++ owner)
where
  /-- A fault of a block's content is told as a configuration fault of its own. -/
  inBlock (text : String) : String := (Fault.config text).message

/-! ## Values of lines -/

structure VersionRange where
  low : Version
  high : Version
  deriving DecidableEq, Repr

def VersionRange.contains (r : VersionRange) (v : Version) : Bool :=
  r.low.rank ≤ v.rank && v.rank ≤ r.high.rank

def readOctet? (s : List Char) : Option UInt8 :=
  match Numeral.read 10 256 (trim s) with
  | .ok n => some (UInt8.ofNat n)
  | .error _ => none

/-- Two numbers with a dot between them. -/
def readVersion (s : List Char) : Except LineFault Version :=
  match cut? (· == '.') s with
  | none => .error (.version (String.ofList s))
  | some (major, minor) =>
    match readOctet? major with
    | none => .error (.majorVersion (String.ofList s))
    | some a =>
      match readOctet? minor with
      | none => .error (.minorVersion (String.ofList s))
      | some b => .ok ⟨a, b⟩

/-- A version, or two with a hyphen between them. -/
def readRange (s : List Char) : Except LineFault VersionRange :=
  match cut? (· == '-') s with
  | none => (readVersion s).map fun v => ⟨v, v⟩
  | some (low, high) => do
    let low ← readVersion low
    let high ← readVersion high
    pure ⟨low, high⟩

def codeBound : Nat := UInt64.size

/-- A decimal number, or a hexadecimal one after `0x` or `0X`. -/
def readCode (s : List Char) : Except LineFault UInt64 :=
  let number :=
    match s with
    | '0' :: 'X' :: r => Numeral.read 16 codeBound r
    | '0' :: 'x' :: r => Numeral.read 16 codeBound r
    | s => Numeral.read 10 codeBound s
  match number with
  | .ok n => .ok (UInt64.ofNat n)
  | .error _ => .error (.code (String.ofList s))

/-- The tokens of a list with colons, trimmed; blank ones do not count. -/
def tokens (s : List Char) : List (List Char) :=
  ((split (· == ':') s).map trim).filter (· != [])

/-- Tokens to look for: in lower case. -/
def selector (s : List Char) : List (List Char) :=
  ((split (· == ':') s).map fun m => lower (trim m)).filter (· != [])

def readRanges (s : List Char) : Except LineFault (List VersionRange) :=
  (tokens s).mapM readRange

/-! ## Rules -/

structure Rule where
  paths : List (List Char) := []
  manufacturers : List (List Char) := []
  descriptions : List (List Char) := []
  versions : List VersionRange := []
  mechanisms : List (UInt64 × UInt64) := []
  keyTypes : List (UInt64 × UInt64) := []
  deriving DecidableEq, Repr

namespace Rule

def blank : Rule := {}

/-- The generic codes of a space with the vendor's values for them. -/
def pairs (r : Rule) : Space → List (UInt64 × UInt64)
  | .mechanism => r.mechanisms
  | .keyType => r.keyTypes

def setPairs (r : Rule) (pairs : List (UInt64 × UInt64)) : Space → Rule
  | .mechanism => { r with mechanisms := pairs }
  | .keyType => { r with keyTypes := pairs }

/-- Adds a generic code with the vendor's value for it: each may stand in a block once. -/
def addCode (r : Rule) (name : Name) (value : UInt64) : Except LineFault Rule :=
  let pairs := r.pairs name.space
  if pairs.any (·.1 == name.code) then .error (.nameTwice name.name)
  else match CodeMap.owner? pairs value with
    | some owner =>
      .error (.valueTaken value name.name ((Name.ofCode? name.space owner).getD "another name"))
    | none => .ok (r.setPairs (pairs ++ [(name.code, value)]) name.space)

/-- Takes a line of the block: a selector replaces the former one, a code joins the others.
The value of a code is read before its name is. -/
def set (r : Rule) (key value : List Char) : Except LineFault Rule :=
  match String.ofList key with
  | "module.path" => .ok { r with paths := selector value }
  | "module.mid" => .ok { r with manufacturers := selector value }
  | "module.description" => .ok { r with descriptions := selector value }
  | "module.version" => (readRanges value).map fun versions => { r with versions }
  | name => do
    let code ← readCode value
    match Name.find? name with
    | some n => r.addCode n code
    | none => .error (.unknownName name)

/-- A block must have a selector that is not a version. -/
def check (r : Rule) : Except LineFault Rule :=
  if r.paths.isEmpty && r.manufacturers.isEmpty && r.descriptions.isEmpty then .error .noSelector
  else .ok r

/-- The maps that the pairs of the block make. -/
def table (r : Rule) : Table := ⟨.ofPairs r.mechanisms, .ofPairs r.keyTypes⟩

/-- One of the tokens occurs in the text. -/
def meets (tokens : List (List Char)) (text : List Char) : Bool :=
  tokens.isEmpty || tokens.any fun t => contains t (lower text)

def accepts (r : Rule) (id : Identity) : Bool :=
  meets r.paths (fileName id.path.toList) &&
  meets r.manufacturers id.manufacturer.toList &&
  meets r.descriptions id.description.toList &&
  (r.versions.isEmpty || r.versions.any (·.contains id.version))

end Rule

end TokenMarshal.Vendor

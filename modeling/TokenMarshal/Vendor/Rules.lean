/-
  TokenMarshal.Vendor.Rules — vendor code files: blocks of rules, read line by line.

  Lines are trimmed; blank lines and those that start with a number sign count but say
  nothing. A block starts and ends with its two marks; each line in between is a key, white
  space and a value. The reader keeps the rules of the closed blocks and the open block
  (`Reading`), takes one line after another (`step`), and stops at the first that is wrong,
  of which it gives the number. A module takes the first rule that accepts it.
-/
import TokenMarshal.Vendor.Rule

namespace TokenMarshal.Vendor

open Text

inductive Line where
  | blank
  | blockStart
  | blockEnd
  /-- A word with no value. -/
  | bare
  | entry (key value : List Char)
  deriving DecidableEq, Repr

def blockStartMark : String := "<vendorcode>"

def blockEndMark : String := "</vendorcode>"

def Line.ofTrimmed (s : List Char) : Line :=
  if s = [] ∨ s.head? = some '#' then .blank
  else if s = blockStartMark.toList then .blockStart
  else if s = blockEndMark.toList then .blockEnd
  else match cut? isBlank s with
    | none => .bare
    | some (key, value) => .entry key (trim value)

def Line.ofText (s : List Char) : Line := .ofTrimmed (trim s)

inductive RulesFault where
  | atLine (n : Nat) (fault : LineFault)
  | unterminated
  deriving DecidableEq, Repr

def RulesFault.message : RulesFault → String
  | atLine n fault => "line " ++ Numeral.decimal n ++ ": " ++ fault.message
  | unterminated => "unterminated vendor code block"

def RulesFault.toFault (f : RulesFault) : Fault := .config f.message

structure Reading where
  closed : List Rule := []
  current : Option Rule := none

namespace Reading

def start : Reading := {}

def step (r : Reading) : Line → Except LineFault Reading
  | .blank => .ok r
  | .blockStart =>
    match r.current with
    | some _ => .error .nestedBlock
    | none => .ok { r with current := some .blank }
  | .blockEnd =>
    match r.current with
    | some rule => rule.check.map fun rule => ⟨r.closed ++ [rule], none⟩
    | none => .error .unexpectedEnd
  | .bare =>
    match r.current with
    | some _ => .error .missingValue
    | none => .error .outsideBlock
  | .entry key value =>
    match r.current with
    | some rule => (rule.set key value).map fun rule => { r with current := some rule }
    | none => .error .outsideBlock

/-- Takes lines of which the first has number `n`. -/
def run (n : Nat) (r : Reading) : List (List Char) → Except RulesFault Reading
  | [] => .ok r
  | line :: rest =>
    match r.step (.ofText line) with
    | .ok r => run (n + 1) r rest
    | .error fault => .error (.atLine n fault)

def finish (r : Reading) : Except RulesFault (List Rule) :=
  match r.current with
  | some _ => .error .unterminated
  | none => .ok r.closed

end Reading

abbrev Rules := List Rule

namespace Rules

def lines (s : List Char) : List (List Char) := split (· == '\n') s

def parse (text : String) : Except RulesFault Rules :=
  match Reading.run 1 .start (lines text.toList) with
  | .ok r => r.finish
  | .error fault => .error fault

/-- The table of the first rule that accepts a module. -/
def select (rules : Rules) (id : Identity) : Option Table :=
  (rules.find? (·.accepts id)).map (·.table)

end Rules

end TokenMarshal.Vendor

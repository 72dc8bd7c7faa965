/-
  TokenMarshal.Toml.Document — reading a TOML document.

  A document is lines: blank, a comment, a header, or a key with its value. Arrays and
  inline tables nest less than eighty deep, and a dotted key has less than eighty parts.
  A value is followed by nothing but white space and a comment on its line. The language is
  TOML; the bounds are those of the package `toml`, which reads documents for the layer.
-/
import TokenMarshal.Toml.Quoted
import TokenMarshal.Toml.Scalar

namespace TokenMarshal.Toml

def maxDepth : Nat := 80

def skipSpace (s : List Char) : List Char := s.dropWhile isSpace

/-- What follows a comment, its end of line included in that. -/
def skipComment : List Char → List Char
  | '#' :: r => r.dropWhile isPlain
  | r => r

/-- The end of a line: white space, perhaps a comment, and an end of line or of the text. -/
def lineEnd? (s : List Char) : Option (List Char) :=
  match skipComment (skipSpace s) with
  | [] => some []
  | r => newline? r

/-- White space, comments and ends of line between the elements of an array. -/
def skipLines : Nat → List Char → List Char
  | 0, s => s
  | fuel + 1, s =>
    let s := skipSpace s
    match newline? (skipComment s) with
    | some r => skipLines fuel r
    | none => s

/-! ## Keys -/

def isBareKeyChar (c : Char) : Bool := c.isAlphanum || c == '-' || c == '_'

def keyPart? (s : List Char) : Option (String × List Char) :=
  match shortText? s with
  | some (k, r) => some (String.ofList k, r)
  | none =>
    let k := s.takeWhile isBareKeyChar
    if k.isEmpty then none else some (String.ofList k, s.dropWhile isBareKeyChar)

def keyParts? : Nat → List Char → Option (List String × List Char)
  | 0, _ => none
  | fuel + 1, s => do
    let (k, r) ← keyPart? (skipSpace s)
    match skipSpace r with
    | '.' :: r =>
      let (ks, r) ← keyParts? fuel r
      some (k :: ks, r)
    | r => some ([k], r)

/-- A key: the parts before the last, the last one, and what follows. -/
def key? (s : List Char) : Option (List String × String × List Char) := do
  let (ks, r) ← keyParts? (s.length + 1) s
  if maxDepth ≤ ks.length then none
  else some (ks.dropLast, ← ks.getLast?, r)

/-! ## Values -/

abbrev Reader := List Char → Option (Tree × List Char)

/-- The elements of an array up to its bracket, given how to read one. -/
def elements (item : Reader) : Nat → List Char → Option (List Tree × List Char)
  | 0, _ => none
  | fuel + 1, s =>
    match skipLines s.length s with
    | ']' :: r => some ([], r)
    | s => do
      let (v, r) ← item s
      match skipLines r.length r with
      | ']' :: r => some ([v], r)
      | ',' :: r =>
        let (vs, r) ← elements item fuel r
        some (v :: vs, r)
      | _ => none

/-- The pairs of an inline table up to its brace. -/
def pairs (item : Reader) : Nat → Table → List Char → Option (Table × List Char)
  | 0, _, _ => none
  | fuel + 1, t, s => do
    let (path, k, r) ← key? s
    let (v, r) ← item (skipSpace (← char? '=' r))
    let t ← setKey path k v t
    match skipSpace r with
    | '\x7d' :: r => some (t, r)
    | ',' :: r => pairs item fuel t r
    | _ => none

def inlineTable (item : Reader) (s : List Char) : Option (Tree × List Char) :=
  match skipSpace s with
  | '\x7d' :: r => some (.table .inline [], r)
  | s => (pairs item (s.length + 1) ⟨.header, []⟩ s).map fun (t, r) => (.table .inline t.entries, r)

/-- A bare word; after a date, a time may follow a space. -/
def bare (s : List Char) : Option (Tree × List Char) :=
  let w := s.takeWhile isWordChar
  let r := s.dropWhile isWordChar
  let time :=
    match r with
    | ' ' :: c :: r => if isDate w && c.isDigit then some (c :: r) else none
    | _ => none
  match time with
  | some s =>
    if isZonedTime (s.takeWhile isWordChar) then some (.moment, s.dropWhile isWordChar) else none
  | none => (word? w).map fun v => (v, r)

/-- A value that nests less than `depth` deep. -/
def value : Nat → Reader
  | 0, _ => none
  | depth + 1, s =>
    match s with
    | '[' :: r =>
      if depth = 0 then none
      else (elements (value depth) (r.length + 1) r).map fun (l, r) => (.array l, r)
    | '\x7b' :: r => if depth = 0 then none else inlineTable (value depth) r
    | s =>
      match text? s with
      | some (t, r) => some (.text (String.ofList t), r)
      | none => bare s

/-! ## Lines -/

structure Document where
  root : Table := ⟨.header, []⟩
  /-- The path of the table under the last header. -/
  here : List String := []

/-- A line that is not blank, and the end of it. -/
def statement? (d : Document) (s : List Char) : Option (Document × List Char) :=
  match s with
  | '[' :: '[' :: r => do
    let (path, k, r) ← key? r
    let r ← lineEnd? (← char? ']' (← char? ']' r))
    some (⟨← openNext path k d.root, path ++ [k]⟩, r)
  | '[' :: r => do
    let (path, k, r) ← key? r
    let r ← lineEnd? (← char? ']' r)
    some (⟨← openTable path k d.root, path ++ [k]⟩, r)
  | s => do
    let (path, k, r) ← key? s
    let (v, r) ← value maxDepth (skipSpace (← char? '=' r))
    let r ← lineEnd? r
    some ({ d with root := ← within false (setKey path k v) d.here d.root }, r)

def statements : Nat → Document → List Char → Option Document
  | 0, d, s => if s.isEmpty then some d else none
  | fuel + 1, d, s =>
    match skipSpace s with
    | [] => some d
    | s =>
      match lineEnd? s with
      | some r => statements fuel d r
      | none => do
        let (d, r) ← statement? d s
        statements fuel d r

def byteOrderMark : Char := Char.ofNat 0xFEFF

/-- The top table of a document. -/
def parse? (text : String) : Option Entries :=
  let s :=
    match text.toList with
    | c :: r => if c = byteOrderMark then r else c :: r
    | [] => []
  (statements (s.length + 1) {} s).map (·.root.entries)

end TokenMarshal.Toml

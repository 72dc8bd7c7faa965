/-
  TokenMarshal.Toml.Quoted — the four quoted texts of TOML.

  A text stands between quotation marks, with escapes, or between apostrophes, as it is;
  tripled marks let it go over several lines, of which the first end of line, if nothing
  comes before it, does not count. A backslash at the end of a line takes out all white
  space up to the next character. Ends of line are read as line feeds. Other control
  characters than the tabulator do not occur.
-/
import TokenMarshal.Text.Numeral

namespace TokenMarshal.Toml

open Text

/-- A character that may stand in a text or comment as it is. -/
def isPlain (c : Char) : Bool := c == '\t' || (0x20 ≤ c.toNat && c.toNat != 0x7F)

def isSpace (c : Char) : Bool := c == ' ' || c == '\t'

/-- What follows an end of line at the front. -/
def newline? : List Char → Option (List Char)
  | '\n' :: r => some r
  | '\r' :: '\n' :: r => some r
  | _ => none

/-- The character of a number written with exactly `k` hexadecimal digits. -/
def scalar? : Nat → Nat → List Char → Option (Char × List Char)
  | 0, n, r => if h : n.isValidChar then some (Char.ofNatAux n h, r) else none
  | k + 1, n, c :: r =>
    match Numeral.digitValue? 16 c with
    | some d => scalar? k (n * 16 + d) r
    | none => none
  | _ + 1, _, [] => none

/-- The character of an escape, after its backslash. -/
def escape? : List Char → Option (Char × List Char)
  | 'b' :: r => some (Char.ofNat 8, r)
  | 't' :: r => some ('\t', r)
  | 'n' :: r => some ('\n', r)
  | 'f' :: r => some (Char.ofNat 12, r)
  | 'r' :: r => some ('\r', r)
  | '"' :: r => some ('"', r)
  | '\\' :: r => some ('\\', r)
  | 'u' :: r => scalar? 4 0 r
  | 'U' :: r => scalar? 8 0 r
  | _ => none

/-- White space and ends of line at the front are left out. -/
def skipBlank : List Char → List Char
  | ' ' :: r => skipBlank r
  | '\t' :: r => skipBlank r
  | '\n' :: r => skipBlank r
  | '\r' :: '\n' :: r => skipBlank r
  | r => r

/-- What follows a backslash at the end of a line, with the next character's place. -/
def continuation? (r : List Char) : Option (List Char) :=
  (newline? (r.dropWhile isSpace)).map skipBlank

/-- The marks at the front, at most five: how many, and what follows. -/
def marks (mark : Char) (s : List Char) : Nat × List Char :=
  let n := min 5 (s.takeWhile (· == mark)).length
  (n, s.drop n)

/-- Reads the body of a text up to its closing mark or marks. `fuel` bounds the number of
pieces, of which each takes a character at least. -/
def body (mark : Char) (escapes many : Bool) : Nat → List Char → Option (List Char × List Char)
  | 0, _ => none
  | _ + 1, [] => none
  | fuel + 1, c :: r =>
    let more (s rest : List Char) : Option (List Char × List Char) :=
      (body mark escapes many fuel rest).map fun (t, rest) => (s ++ t, rest)
    if c = mark then
      if many then
        let (n, rest) := marks mark (c :: r)
        if n < 3 then more (List.replicate n mark) rest
        else some (List.replicate (n - 3) mark, rest)
      else some ([], r)
    else if escapes && c == '\\' then
      match (if many then continuation? r else none) with
      | some rest => more [] rest
      | none =>
        match escape? r with
        | some (d, rest) => more [d] rest
        | none => none
    else if isPlain c then more [c] r
    else if many then
      match newline? (c :: r) with
      | some rest => more ['\n'] rest
      | none => none
    else none

/-- A text at the front, on one line or several. -/
def text? (s : List Char) : Option (List Char × List Char) :=
  let long (mark : Char) (escapes : Bool) (r : List Char) :=
    body mark escapes true (r.length + 1) ((newline? r).getD r)
  match s with
  | '"' :: '"' :: '"' :: r => long '"' true r
  | '\'' :: '\'' :: '\'' :: r => long '\'' false r
  | '"' :: r => body '"' true false (r.length + 1) r
  | '\'' :: r => body '\'' false false (r.length + 1) r
  | _ => none

/-- A text on one line, as a key may be. -/
def shortText? (s : List Char) : Option (List Char × List Char) :=
  match s with
  | '"' :: r => body '"' true false (r.length + 1) r
  | '\'' :: r => body '\'' false false (r.length + 1) r
  | _ => none

end TokenMarshal.Toml

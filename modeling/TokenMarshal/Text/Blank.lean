/-
  TokenMarshal.Text.Blank — white space, and cutting a text at a place.

  White space is the Unicode property of that name: 25 characters, beyond ASCII too.
  Cutting a text at the first place keeps both sides and drops the place itself; `split`
  cuts at every place, so it gives one more piece than there are places.
-/

namespace TokenMarshal.Text

def isBlank (c : Char) : Bool :=
  let n := c.toNat
  (9 ≤ n && n ≤ 13) || n == 0x20 || n == 0x85 || n == 0xA0 || n == 0x1680 ||
  (0x2000 ≤ n && n ≤ 0x200A) || n == 0x2028 || n == 0x2029 || n == 0x202F || n == 0x205F ||
  n == 0x3000

def trimStart (s : List Char) : List Char := s.dropWhile isBlank

def trimEnd (s : List Char) : List Char := (s.reverse.dropWhile isBlank).reverse

def trim (s : List Char) : List Char := trimEnd (trimStart s)

/-- The text before and after the first character that `p` holds of. -/
def cut? (p : Char → Bool) : List Char → Option (List Char × List Char)
  | [] => none
  | c :: r => if p c then some ([], r) else (cut? p r).map fun (a, b) => (c :: a, b)

def split (p : Char → Bool) : List Char → List (List Char)
  | [] => [[]]
  | c :: r =>
    if p c then [] :: split p r
    else match split p r with
      | [] => [[c]]
      | w :: ws => (c :: w) :: ws

/-- `w` occurs in the text as a contiguous stretch. -/
def contains (w : List Char) : List Char → Bool
  | [] => w.isEmpty
  | c :: r => w.isPrefixOf (c :: r) || contains w r

end TokenMarshal.Text

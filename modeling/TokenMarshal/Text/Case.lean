/-
  TokenMarshal.Text.Case — the lower case of a text.

  Every character goes to its lower case on its own, with two exceptions: U+0130 becomes
  two characters, and a capital sigma becomes the final form where it ends a word, that is
  where a cased letter stands before it and none after it, looking past the characters
  that case ignores. So the lower case of a stretch may depend on what surrounds it.
-/
import TokenMarshal.Text.CaseTables

namespace TokenMarshal.Text

def inRanges (ranges : List (Nat × Nat)) (c : Char) : Bool :=
  ranges.any fun (low, high) => low ≤ c.toNat && c.toNat ≤ high

def isCased (c : Char) : Bool := inRanges casedRanges c

def isCaseIgnorable (c : Char) : Bool := inRanges caseIgnorableRanges c

def inRun (n : Nat) : Nat × Nat × Nat × Int → Bool
  | (first, last, stride, _) => first ≤ n && n ≤ last && (n - first) % stride == 0

/-- The lower case of a character by itself. -/
def lowerChar (c : Char) : List Char :=
  if c.toNat == 0x130 then [Char.ofNat 0x69, Char.ofNat 0x307]
  else match lowerRuns.find? (inRun c.toNat) with
    | some (_, _, _, shift) => [Char.ofNat (c.toNat + shift).toNat]
    | none => [c]

def capitalSigma : Char := Char.ofNat 0x3A3

def smallSigma : Char := Char.ofNat 0x3C3

def finalSigma : Char := Char.ofNat 0x3C2

/-- The first character that case does not ignore is a cased one. -/
def meetsCased (s : List Char) : Bool :=
  match s.dropWhile isCaseIgnorable with
  | c :: _ => isCased c
  | [] => false

/-- Lower-cases `s`; `before` is the text in front of it, the nearest character first. -/
def lowerAfter (before : List Char) : List Char → List Char
  | [] => []
  | c :: r =>
    let low :=
      if c = capitalSigma then
        [if meetsCased before && !meetsCased r then finalSigma else smallSigma]
      else lowerChar c
    low ++ lowerAfter (c :: before) r

def lower (s : List Char) : List Char := lowerAfter [] s

end TokenMarshal.Text

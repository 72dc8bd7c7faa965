/-
  TokenMarshal.Simulated.FileTree — a file system held in memory.

  A tree is a list of files and directories with their paths; the directories above an entry
  are there without being listed. A path is walked part by part: empty parts and single dots
  stay, two dots go up, and any other part needs a directory to be looked up in. So a part
  after the name of a file is refused even when it is empty, as in a trailing slash. A path
  as a whole and each name that is looked up have a greatest length, counted in octets.
-/
import TokenMarshal.Config.Files
import TokenMarshal.Text.Blank
import TokenMarshal.Text.Utf8

namespace TokenMarshal.Simulated

inductive Node where
  | directory
  | file (b : List UInt8)
  deriving DecidableEq, Repr

structure FileTree where
  entries : List (List (List Char) × Node)

namespace FileTree

def parts (path : String) : List (List Char) := Text.split (· == '/') path.toList

/-- The parts of a path that are names. -/
def names (path : String) : List (List Char) := (parts path).filter (· != [])

def node? (t : FileTree) (at_ : List (List Char)) : Option Node :=
  if at_.isEmpty then some .directory
  else match t.entries.find? (·.1 == at_) with
    | some (_, n) => some n
    | none => if t.entries.any fun e => at_.isPrefixOf e.1 then some .directory else none

/-- The octets of the longest name. -/
def maxName : Nat := 255

/-- The octets of the longest path. -/
def maxPath : Nat := 4095

def octets (s : List Char) : Nat := (Text.Utf8.encode s).length

def walk (t : FileTree) (at_ : List (List Char)) (n : Node) :
    List (List Char) → Except FileFault Node
  | [] => .ok n
  | part :: rest =>
    match n with
    | .file _ => .error .notDirectory
    | .directory =>
      if part = [] ∨ part = ['.'] then walk t at_ n rest
      else if maxName < octets part then .error .nameTooLong
      else
        let next := if part = ['.', '.'] then at_.dropLast else at_ ++ [part]
        match t.node? next with
        | some n => walk t next n rest
        | none => .error .notFound

def find (t : FileTree) (path : String) : Except FileFault Node :=
  if path = "" then .error .notFound
  else if maxPath < octets path.toList then .error .nameTooLong
  else t.walk [] .directory (parts path)

def files (t : FileTree) : Files where
  isFile path :=
    match t.find path with
    | .ok (.file _) => true
    | _ => false
  read path :=
    match t.find path with
    | .ok (.file b) => .ok b
    | .ok .directory => .error .isDirectory
    | .error fault => .error fault

end FileTree

end TokenMarshal.Simulated

/-
  TokenMarshal.Config.Files — what is asked of a file system.

  Files are read whole, as octets or as UTF-8 text. The faults are told in the words of the
  system.
-/
import TokenMarshal.Text.Utf8

namespace TokenMarshal

inductive FileFault where
  | notFound
  | notDirectory
  | isDirectory
  /-- The path, or a name in it, is longer than the system takes. -/
  | nameTooLong
  /-- The octets are not UTF-8. -/
  | notText
  /-- Any other fault, in the system's words. -/
  | other (text : String)
  deriving DecidableEq, Repr

def FileFault.message : FileFault → String
  | notFound => "No such file or directory (os error 2)"
  | notDirectory => "Not a directory (os error 20)"
  | isDirectory => "Is a directory (os error 21)"
  | nameTooLong => "File name too long (os error 36)"
  | notText => "stream did not contain valid UTF-8"
  | other text => text

structure Files where
  isFile : String → Bool
  read : String → Except FileFault (List UInt8)

def Files.readText (files : Files) (path : String) : Except FileFault String :=
  match files.read path with
  | .error fault => .error fault
  | .ok b =>
    match Text.Utf8.decode? b with
    | some s => .ok (String.ofList s)
    | none => .error .notText

end TokenMarshal

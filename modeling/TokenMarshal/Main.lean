/-
  TokenMarshal.Main — the vendor code check as a program.

  The file is read before the check, which then works on what was read. No library is
  loaded into this process: a check that asks for one says so.
-/
import TokenMarshal.Inspect.Arguments

namespace TokenMarshal

/-- Reads a file, with the fault in the words of this library. -/
def readFile (path : String) : IO (Except FileFault (List UInt8)) := do
  match ← (IO.FS.readBinFile path).toBaseIO with
  | .ok b => return .ok b.toList
  | .error (.noFileOrDirectory ..) => return .error .notFound
  | .error (.inappropriateType none ..) => return .error .isDirectory
  | .error (.inappropriateType (some _) ..) => return .error .notDirectory
  | .error (.invalidArgument _ _ "name too long") => return .error .nameTooLong
  | .error (.permissionDenied ..) => return .error (.other "Permission denied (os error 13)")
  | .error e => return .error (.other (toString e))

/-- A file system that holds one file. -/
def singleFile (path : String) (content : Except FileFault (List UInt8)) : Files where
  isFile p := p == path && content.toOption.isSome
  read p := if p = path then content else .error .notFound

/-- The report where no library can be loaded. -/
def notLoaded (_ : Inspect.Options) (path : String) : Inspect.Report :=
  ⟨[], some ("failed to load " ++ path ++ ": libraries cannot be loaded here")⟩

end TokenMarshal

open TokenMarshal

def main (arguments : List String) : IO UInt32 := do
  if arguments.contains "-h" || arguments.contains "--help" then
    IO.print Inspect.usage
    return 0
  match Inspect.Arguments.read arguments with
  | .error fault =>
    IO.eprintln ("error: " ++ fault.message)
    return 2
  | .ok options =>
    let content ← readFile options.file
    let r := Inspect.report (singleFile options.file content) notLoaded options
    IO.print r.output
    IO.eprint r.errors
    return UInt32.ofNat r.exitCode

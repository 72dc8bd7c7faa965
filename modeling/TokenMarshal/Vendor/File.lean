/-
  TokenMarshal.Vendor.File — vendor code files on disk.
-/
import TokenMarshal.Config.Basic
import TokenMarshal.Config.Files
import TokenMarshal.Vendor.Rules

namespace TokenMarshal.Vendor.Rules

def ofFile (files : Files) (path : String) : Except Fault Rules :=
  match files.readText path with
  | .error fault =>
    .error (.config ("failed to read vendor code file " ++ path ++ ": " ++ fault.message))
  | .ok text =>
    match parse text with
    | .ok rules => .ok rules
    | .error fault => .error fault.toFault

/-- The rules that the settings name, if they name any. -/
def ofConfig (files : Files) (config : Config) : Except Fault (Option Rules) :=
  match config.vendorFile with
  | none => .ok none
  | some path => (ofFile files path).map some

end TokenMarshal.Vendor.Rules

/-
  TokenMarshal.Config.Basic — the settings of the marshaling layer.
-/
import TokenMarshal.Fault

namespace TokenMarshal

structure Config where
  /-- The vendor code file, if there is one. -/
  vendorFile : Option String := none
  /-- Tokens speak Latin-1 and not UTF-8. -/
  legacyText : Bool := false
  /-- The first outcome of a repair decides for the life of the module. -/
  adaptive : Bool := true
  /-- How many keys a session keeps the curve parameters of. -/
  cacheSize : Nat := 100
  deriving DecidableEq, Repr

end TokenMarshal

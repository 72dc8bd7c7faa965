/-
  TokenMarshal.Vendor.Identity — what a module says it is, and where it lies.

  Rules look at the file name of a module and not at its directory. The file name is the
  last part of the path, after empty parts and single dots at the end are left out; where
  that is two dots, or nothing is left, the whole path stands in.
-/
import TokenMarshal.Text.Blank

namespace TokenMarshal.Vendor

structure Version where
  major : UInt8
  minor : UInt8
  deriving DecidableEq, Repr

/-- Versions in order: the major number counts first. -/
def Version.rank (v : Version) : Nat := v.major.toNat * 256 + v.minor.toNat

structure Identity where
  path : String := ""
  manufacturer : String := ""
  description : String := ""
  version : Version := ⟨0, 0⟩
  deriving DecidableEq, Repr

def fileName? (path : List Char) : Option (List Char) :=
  let parts := Text.split (· == '/') path
  match parts.reverse.dropWhile fun p => p == [] || p == ['.'] with
  | [] => none
  | last :: _ => if last = ['.', '.'] then none else some last

def fileName (path : List Char) : List Char := (fileName? path).getD path

end TokenMarshal.Vendor

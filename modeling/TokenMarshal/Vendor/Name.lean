/-
  TokenMarshal.Vendor.Name — the generic codes of algorithms that have no standard ones.

  Callers name such an algorithm by a generic code; each vendor gives it a value of its own.
  Mechanisms and key types are two code spaces, so the same number may stand in both. No
  name and no code of a space occurs twice in `all`.
-/

namespace TokenMarshal.Vendor

inductive Space where
  | mechanism
  | keyType
  deriving DecidableEq, Repr

structure Name where
  name : String
  space : Space
  code : UInt64
  deriving DecidableEq, Repr

namespace Name

def offset : UInt64 := 0xFFFFF000

def all : List Name := [
  ⟨"CKK_VENDOR_SM2", .keyType, offset + 1⟩,
  ⟨"CKK_VENDOR_SM4", .keyType, offset + 2⟩,
  ⟨"CKM_VENDOR_SM2_KEY_PAIR_GEN", .mechanism, offset + 1⟩,
  ⟨"CKM_VENDOR_SM2", .mechanism, offset + 2⟩,
  ⟨"CKM_VENDOR_SM2_SM3", .mechanism, offset + 3⟩,
  ⟨"CKM_VENDOR_SM2_ENCRYPT", .mechanism, offset + 4⟩,
  ⟨"CKM_VENDOR_SM3", .mechanism, offset + 5⟩,
  ⟨"CKM_VENDOR_SM4_KEY_GEN", .mechanism, offset + 6⟩,
  ⟨"CKM_VENDOR_SM4_ECB", .mechanism, offset + 7⟩,
  ⟨"CKM_VENDOR_SM4_CBC", .mechanism, offset + 8⟩,
  ⟨"CKM_VENDOR_SM4_MAC_GENERAL", .mechanism, offset + 9⟩,
  ⟨"CKM_VENDOR_SM4_MAC", .mechanism, offset + 10⟩,
  ⟨"CKM_VENDOR_ISO2_SM4_MAC_GENERAL", .mechanism, offset + 11⟩,
  ⟨"CKM_VENDOR_ISO2_SM4_MAC", .mechanism, offset + 12⟩,
  ⟨"CKM_VENDOR_SM4_ECB_ENCRYPT_DATA", .mechanism, offset + 13⟩]

def sm2 : UInt64 := offset + 2
def sm2Sm3 : UInt64 := offset + 3

def find? (name : String) : Option Name := all.find? (·.name == name)

def ofCode? (space : Space) (code : UInt64) : Option String :=
  (all.find? fun n => n.space == space && n.code == code).map (·.name)

end Name

end TokenMarshal.Vendor

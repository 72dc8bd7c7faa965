/-
  TokenMarshal.Attribute.Code — attribute codes, their names and the kind of value each holds.

  A token names an attribute by a 64-bit code. `known` lists the codes this library knows, in
  ascending order; a code that is not listed holds octets and is shown as a hexadecimal number.
-/
import TokenMarshal.Text.Numeral

namespace TokenMarshal

/-- The kind of value that an attribute code stands for. -/
inductive Kind where
  | boolean
  | number
  | text
  | bytes
  | numberList
  | date
  | template
  deriving DecidableEq, Repr

abbrev AttributeCode := UInt64

namespace AttributeCode

structure Entry where
  code : AttributeCode
  name : String
  kind : Kind
  deriving DecidableEq, Repr

def keyType : AttributeCode := 0x100
def keyGenMechanism : AttributeCode := 0x166
def ecParams : AttributeCode := 0x180
def ecPoint : AttributeCode := 0x181
def allowedMechanisms : AttributeCode := 0x40000600

def known : List Entry := [
  ⟨0x0, "CKA_CLASS", .number⟩,
  ⟨0x1, "CKA_TOKEN", .boolean⟩,
  ⟨0x2, "CKA_PRIVATE", .boolean⟩,
  ⟨0x3, "CKA_LABEL", .text⟩,
  ⟨0x4, "CKA_UNIQUE_ID", .text⟩,
  ⟨0x10, "CKA_APPLICATION", .text⟩,
  ⟨0x11, "CKA_VALUE", .bytes⟩,
  ⟨0x12, "CKA_OBJECT_ID", .bytes⟩,
  ⟨0x80, "CKA_CERTIFICATE_TYPE", .number⟩,
  ⟨0x81, "CKA_ISSUER", .bytes⟩,
  ⟨0x82, "CKA_SERIAL_NUMBER", .bytes⟩,
  ⟨0x83, "CKA_AC_ISSUER", .bytes⟩,
  ⟨0x84, "CKA_OWNER", .bytes⟩,
  ⟨0x85, "CKA_ATTR_TYPES", .bytes⟩,
  ⟨0x86, "CKA_TRUSTED", .boolean⟩,
  ⟨0x87, "CKA_CERTIFICATE_CATEGORY", .number⟩,
  ⟨0x88, "CKA_JAVA_MIDP_SECURITY_DOMAIN", .number⟩,
  ⟨0x89, "CKA_URL", .text⟩,
  ⟨0x8A, "CKA_HASH_OF_SUBJECT_PUBLIC_KEY", .bytes⟩,
  ⟨0x8B, "CKA_HASH_OF_ISSUER_PUBLIC_KEY", .bytes⟩,
  ⟨0x8C, "CKA_NAME_HASH_ALGORITHM", .number⟩,
  ⟨0x90, "CKA_CHECK_VALUE", .bytes⟩,
  ⟨0x100, "CKA_KEY_TYPE", .number⟩,
  ⟨0x101, "CKA_SUBJECT", .bytes⟩,
  ⟨0x102, "CKA_ID", .bytes⟩,
  ⟨0x103, "CKA_SENSITIVE", .boolean⟩,
  ⟨0x104, "CKA_ENCRYPT", .boolean⟩,
  ⟨0x105, "CKA_DECRYPT", .boolean⟩,
  ⟨0x106, "CKA_WRAP", .boolean⟩,
  ⟨0x107, "CKA_UNWRAP", .boolean⟩,
  ⟨0x108, "CKA_SIGN", .boolean⟩,
  ⟨0x109, "CKA_SIGN_RECOVER", .boolean⟩,
  ⟨0x10A, "CKA_VERIFY", .boolean⟩,
  ⟨0x10B, "CKA_VERIFY_RECOVER", .boolean⟩,
  ⟨0x10C, "CKA_DERIVE", .boolean⟩,
  ⟨0x110, "CKA_START_DATE", .date⟩,
  ⟨0x111, "CKA_END_DATE", .date⟩,
  ⟨0x120, "CKA_MODULUS", .bytes⟩,
  ⟨0x121, "CKA_MODULUS_BITS", .number⟩,
  ⟨0x122, "CKA_PUBLIC_EXPONENT", .bytes⟩,
  ⟨0x123, "CKA_PRIVATE_EXPONENT", .bytes⟩,
  ⟨0x124, "CKA_PRIME_1", .bytes⟩,
  ⟨0x125, "CKA_PRIME_2", .bytes⟩,
  ⟨0x126, "CKA_EXPONENT_1", .bytes⟩,
  ⟨0x127, "CKA_EXPONENT_2", .bytes⟩,
  ⟨0x128, "CKA_COEFFICIENT", .bytes⟩,
  ⟨0x129, "CKA_PUBLIC_KEY_INFO", .bytes⟩,
  ⟨0x130, "CKA_PRIME", .bytes⟩,
  ⟨0x131, "CKA_SUBPRIME", .bytes⟩,
  ⟨0x132, "CKA_BASE", .bytes⟩,
  ⟨0x133, "CKA_PRIME_BITS", .number⟩,
  ⟨0x134, "CKA_SUBPRIME_BITS", .number⟩,
  ⟨0x160, "CKA_VALUE_BITS", .number⟩,
  ⟨0x161, "CKA_VALUE_LEN", .number⟩,
  ⟨0x162, "CKA_EXTRACTABLE", .boolean⟩,
  ⟨0x163, "CKA_LOCAL", .boolean⟩,
  ⟨0x164, "CKA_NEVER_EXTRACTABLE", .boolean⟩,
  ⟨0x165, "CKA_ALWAYS_SENSITIVE", .boolean⟩,
  ⟨0x166, "CKA_KEY_GEN_MECHANISM", .number⟩,
  ⟨0x170, "CKA_MODIFIABLE", .boolean⟩,
  ⟨0x171, "CKA_COPYABLE", .boolean⟩,
  ⟨0x172, "CKA_DESTROYABLE", .boolean⟩,
  ⟨0x180, "CKA_EC_PARAMS", .bytes⟩,
  ⟨0x181, "CKA_EC_POINT", .bytes⟩,
  ⟨0x202, "CKA_ALWAYS_AUTHENTICATE", .boolean⟩,
  ⟨0x210, "CKA_WRAP_WITH_TRUSTED", .boolean⟩,
  ⟨0x220, "CKA_OTP_FORMAT", .number⟩,
  ⟨0x221, "CKA_OTP_LENGTH", .number⟩,
  ⟨0x222, "CKA_OTP_TIME_INTERVAL", .number⟩,
  ⟨0x223, "CKA_OTP_USER_FRIENDLY_MODE", .boolean⟩,
  ⟨0x224, "CKA_OTP_CHALLENGE_REQUIREMENT", .number⟩,
  ⟨0x225, "CKA_OTP_TIME_REQUIREMENT", .number⟩,
  ⟨0x226, "CKA_OTP_COUNTER_REQUIREMENT", .number⟩,
  ⟨0x227, "CKA_OTP_PIN_REQUIREMENT", .number⟩,
  ⟨0x22A, "CKA_OTP_USER_IDENTIFIER", .text⟩,
  ⟨0x22B, "CKA_OTP_SERVICE_IDENTIFIER", .text⟩,
  ⟨0x22C, "CKA_OTP_SERVICE_LOGO", .bytes⟩,
  ⟨0x22D, "CKA_OTP_SERVICE_LOGO_TYPE", .text⟩,
  ⟨0x22E, "CKA_OTP_COUNTER", .bytes⟩,
  ⟨0x22F, "CKA_OTP_TIME", .text⟩,
  ⟨0x250, "CKA_GOSTR3410_PARAMS", .bytes⟩,
  ⟨0x251, "CKA_GOSTR3411_PARAMS", .bytes⟩,
  ⟨0x252, "CKA_GOST28147_PARAMS", .bytes⟩,
  ⟨0x300, "CKA_HW_FEATURE_TYPE", .number⟩,
  ⟨0x301, "CKA_RESET_ON_INIT", .boolean⟩,
  ⟨0x302, "CKA_HAS_RESET", .boolean⟩,
  ⟨0x400, "CKA_PIXEL_X", .number⟩,
  ⟨0x401, "CKA_PIXEL_Y", .number⟩,
  ⟨0x402, "CKA_RESOLUTION", .number⟩,
  ⟨0x403, "CKA_CHAR_ROWS", .number⟩,
  ⟨0x404, "CKA_CHAR_COLUMNS", .number⟩,
  ⟨0x405, "CKA_COLOR", .boolean⟩,
  ⟨0x406, "CKA_BITS_PER_PIXEL", .number⟩,
  ⟨0x480, "CKA_CHAR_SETS", .text⟩,
  ⟨0x481, "CKA_ENCODING_METHODS", .text⟩,
  ⟨0x482, "CKA_MIME_TYPES", .text⟩,
  ⟨0x500, "CKA_MECHANISM_TYPE", .number⟩,
  ⟨0x501, "CKA_REQUIRED_CMS_ATTRIBUTES", .bytes⟩,
  ⟨0x502, "CKA_DEFAULT_CMS_ATTRIBUTES", .bytes⟩,
  ⟨0x503, "CKA_SUPPORTED_CMS_ATTRIBUTES", .bytes⟩,
  ⟨0x601, "CKA_PROFILE_ID", .number⟩,
  ⟨0x40000211, "CKA_WRAP_TEMPLATE", .template⟩,
  ⟨0x40000212, "CKA_UNWRAP_TEMPLATE", .template⟩,
  ⟨0x40000213, "CKA_DERIVE_TEMPLATE", .template⟩,
  ⟨0x40000600, "CKA_ALLOWED_MECHANISMS", .numberList⟩]

def entry? (code : AttributeCode) : Option Entry := known.find? (·.code == code)

/-- The code that a name stands for, with its kind. -/
def named? (name : String) : Option Entry := known.find? (·.name == name)

def kind (code : AttributeCode) : Kind :=
  match entry? code with
  | some e => e.kind
  | none => .bytes

def name (code : AttributeCode) : String :=
  match entry? code with
  | some e => e.name
  | none => "0x" ++ Text.Numeral.upperHex 8 code.toNat

end AttributeCode

end TokenMarshal

/-
  TokenMarshal.Fault — what can go wrong, and how it is told.

  Every fault carries a return code of the token interface, so that a caller who speaks
  only that interface can pass it on. A code the token returned is shown by its name when
  it has one here, else as a hexadecimal number; a fault of any other origin answers with
  the general error.
-/
import TokenMarshal.Text.Numeral

namespace TokenMarshal

abbrev ReturnCode := UInt64

namespace ReturnCode

def ok : ReturnCode := 0
def slotIdInvalid : ReturnCode := 3
def generalError : ReturnCode := 5
def functionFailed : ReturnCode := 6
def argumentsBad : ReturnCode := 7
def attributeSensitive : ReturnCode := 17
def attributeTypeInvalid : ReturnCode := 18
def functionNotSupported : ReturnCode := 84
def objectHandleInvalid : ReturnCode := 130
def templateIncomplete : ReturnCode := 208
def templateInconsistent : ReturnCode := 209
def bufferTooSmall : ReturnCode := 336
def alreadyInitialized : ReturnCode := 401
def functionRejected : ReturnCode := 512

/-- Eight lower-case hexadecimal digits, more where the code needs them. -/
def hex (rv : ReturnCode) : String := "0x" ++ Text.Numeral.hex 8 rv.toNat

def message (rv : ReturnCode) : String :=
  if rv = generalError then "CKR_GENERAL_ERROR"
  else if rv = attributeTypeInvalid then "CKR_ATTRIBUTE_TYPE_INVALID"
  else if rv = attributeSensitive then "CKR_ATTRIBUTE_SENSITIVE"
  else "CK_RV " ++ rv.hex

end ReturnCode

inductive Fault where
  /-- The token returned a code. -/
  | returned (rv : ReturnCode)
  /-- The token returned a code because of something with a text of its own. -/
  | returnedFrom (rv : ReturnCode) (origin : String)
  /-- A code together with all there is to say about it. -/
  | explained (rv : ReturnCode) (text : String)
  | attributeNotFound (name : String)
  | config (text : String)
  /-- A fault from outside the token interface, known by its text. -/
  | outside (origin : String)
  deriving DecidableEq, Repr

namespace Fault

def message : Fault → String
  | returned rv => rv.message
  | returnedFrom rv origin => origin ++ " (CK_RV " ++ rv.hex ++ ")"
  | explained _ text => text
  | attributeNotFound name => "attribute not found: " ++ name
  | config text => "configuration error: " ++ text
  | outside origin => origin

def code : Fault → ReturnCode
  | returned rv => rv
  | returnedFrom rv _ => rv
  | explained rv _ => rv
  | attributeNotFound _ => ReturnCode.generalError
  | config _ => ReturnCode.generalError
  | outside _ => ReturnCode.generalError

/-- The text of what the fault arose from, when that is something else. -/
def source? : Fault → Option String
  | returnedFrom _ origin => some origin
  | outside origin => some origin
  | _ => none

/-- A numeral that cannot be read is a fault from outside. -/
def ofNumeral (fault : Text.Numeral.Fault) : Fault := .outside fault.message

def isNotFound : Fault → Bool
  | attributeNotFound _ => true
  | _ => false

def isConfig : Fault → Bool
  | config _ => true
  | _ => false

end Fault

end TokenMarshal

/-
  TokenMarshal.Simulated.Library — a token library held in memory.

  A script says what every call returns and what is replied for each attribute of each
  object. Besides values and failures there are the replies of libraries that do not keep
  to the rules: a length that is not that of the value, a value that is gone at the second
  call, an array with room to spare. Return codes can be set for single reading calls.
-/
import TokenMarshal.Library.Basic
import TokenMarshal.Marshal.Word
import TokenMarshal.Simulated.Token

namespace TokenMarshal.Simulated

open Marshal Library

inductive LibraryReply where
  | value (b : List UInt8)
  | fail (rv : ReturnCode)
  /-- Another length is told than that of the value. -/
  | misstated (size : UInt64) (b : List UInt8)
  /-- The length is told, but not the value. -/
  | vanishing (b : List UInt8)
  /-- An array of attributes, some without value, and spare octets after it. -/
  | array (entries : List (AttributeCode × Option (List UInt8))) (spare : Nat)
  deriving DecidableEq, Repr

/-- The functions that a library may lack. -/
inductive Function where
  | start
  | stop
  | info
  | attributes
  | create
  | mechanisms
  deriving DecidableEq, Repr

structure Script where
  functionList : ReturnCode := 0
  nullList : Bool := false
  start : ReturnCode := 0
  stop : ReturnCode := 0
  infoCode : ReturnCode := 0
  info : Library.Info := ⟨[], [], ⟨0, 0⟩, ⟨3, 0⟩⟩
  objects : List (ObjectHandle × List (AttributeCode × LibraryReply)) := []
  /-- What the reading calls to come return instead of their own codes. -/
  readCodes : List (Option ReturnCode) := []
  createCode : ReturnCode := 0
  handle : ObjectHandle := 1
  mechanisms : List Mechanism := []
  /-- The count that the sizing call gives, when it is not that of the list. -/
  declared : Option UInt64 := none
  sizeCode : ReturnCode := 0
  listCode : ReturnCode := 0

namespace Script

/-- A fixed field of 32 octets filled up with blanks. -/
def padded (b : List UInt8) : List UInt8 := (b ++ List.replicate 32 0x20).take 32

/-! ## Slots as memory -/

/-- Slots in memory: code, address and length, eight octets each. -/
def memory (l : List Slot) : List UInt8 :=
  l.flatMap fun s => Word.toBytes s.code ++ List.replicate 8 0 ++ Word.toBytes s.len

/-- Memory as slots that point nowhere. -/
def ofMemory : List UInt8 → List Slot
  | a₀ :: a₁ :: a₂ :: a₃ :: a₄ :: a₅ :: a₆ :: a₇ :: _ :: _ :: _ :: _ :: _ :: _ :: _ :: _ ::
      b₀ :: b₁ :: b₂ :: b₃ :: b₄ :: b₅ :: b₆ :: b₇ :: r =>
    ⟨UInt64.ofNat (ofLittleEndian [a₀, a₁, a₂, a₃, a₄, a₅, a₆, a₇]), .null,
      UInt64.ofNat (ofLittleEndian [b₀, b₁, b₂, b₃, b₄, b₅, b₆, b₇])⟩ :: ofMemory r
  | _ => []

/-- The number in memory after octets have been written over its front. -/
def writeWord (b : List UInt8) (n : UInt64) : UInt64 :=
  UInt64.ofNat (ofLittleEndian (b ++ (Word.toBytes n).drop b.length))

/-- Writes octets over the front of a slot. An address that is written over points nowhere. -/
def writeSlot (b : List UInt8) (s : Slot) : Slot where
  code := writeWord (b.take 8) s.code
  buffer := if b.length ≤ 8 then s.buffer else .null
  len := writeWord ((b.drop 16).take 8) s.len

def writeSlots : List UInt8 → List Slot → List Slot
  | _, [] => []
  | b, s :: l => writeSlot (b.take slotSize) s :: writeSlots (b.drop slotSize) l

/-- Writes octets to the front of a buffer. -/
def write (b : List UInt8) : Buffer → Buffer
  | .null => .null
  | .bytes old room => .bytes (b ++ old.drop b.length) (room - (b.length - old.length))
  | .slots old => .slots (writeSlots b old)

/-! ## Replies -/

def size (b : List UInt8) : UInt64 := UInt64.ofNat b.length

def giveValue (b : List UInt8) (s : Slot) : ReturnCode × Slot :=
  match s.buffer with
  | .null => (ReturnCode.ok, { s with len := size b })
  | buffer =>
    if s.len < size b then (ReturnCode.bufferTooSmall, { s with len := unavailable })
    else (ReturnCode.ok, { s with buffer := write b buffer, len := size b })

def giveEntry (e : AttributeCode × Option (List UInt8)) (s : Slot) : ReturnCode × Slot :=
  let s := { s with code := e.1 }
  match e.2 with
  | some b => giveValue b s
  | none => (ReturnCode.ok, { s with len := unavailable })

/-- Fills an array of slots from its front. -/
def giveEntries : List (AttributeCode × Option (List UInt8)) → List Slot → ReturnCode × List Slot
  | e :: entries, s :: slots =>
    let (rv, s) := giveEntry e s
    let (rest, slots) := giveEntries entries slots
    (if rv = ReturnCode.ok then rest else rv, s :: slots)
  | _, slots => (ReturnCode.ok, slots)

def giveArray (entries : List (AttributeCode × Option (List UInt8))) (spare : Nat) (s : Slot) :
    ReturnCode × Slot :=
  match s.buffer with
  | .null =>
    (ReturnCode.ok, { s with len := UInt64.ofNat (slotSize * entries.length + spare) })
  | .slots l =>
    let (rv, l) := giveEntries entries l
    (rv, { s with buffer := .slots l })
  | .bytes old room =>
    let (rv, l) := giveEntries entries (ofMemory (old ++ List.replicate room 0))
    (rv, { s with buffer := write (memory (l.take entries.length)) s.buffer })

def give (s : Slot) : LibraryReply → ReturnCode × Slot
  | .value b => giveValue b s
  | .fail rv => (rv, { s with len := unavailable })
  | .misstated size b =>
    match s.buffer with
    | .null => (ReturnCode.ok, { s with len := size })
    | _ => giveValue b s
  | .vanishing b =>
    match s.buffer with
    | .null => giveValue b s
    | _ => (ReturnCode.ok, { s with len := unavailable })
  | .array entries spare => giveArray entries spare s

def reply (replies : List (AttributeCode × LibraryReply)) (code : AttributeCode) : LibraryReply :=
  ((replies.find? (·.1 == code)).map (·.2)).getD (.fail ReturnCode.attributeTypeInvalid)

def attributes (t : Script) (object : ObjectHandle) (slots : List Slot) : ReturnCode × List Slot :=
  match t.objects.find? (·.1 == object) with
  | none => (ReturnCode.objectHandleInvalid, slots)
  | some (_, replies) =>
    let given := slots.map fun s => give s (reply replies s.code)
    (Token.firstFailure (given.map (·.1)), given.map (·.2))

def readAttributes (object : ObjectHandle) (slots : List Slot) (t : Script) :
    (ReturnCode × List Slot) × Script :=
  let (rv, slots) := t.attributes object slots
  (((t.readCodes.head?.getD none).getD rv, slots), { t with readCodes := t.readCodes.drop 1 })

def listMechanisms (room : Option UInt64) (t : Script) :
    ReturnCode × List Mechanism × UInt64 :=
  let length := UInt64.ofNat t.mechanisms.length
  match room with
  | none => (t.sizeCode, [], t.declared.getD length)
  | some room =>
    if t.listCode ≠ ReturnCode.ok then (t.listCode, [], room)
    else if room < length then (ReturnCode.bufferTooSmall, [], room)
    else (ReturnCode.ok, t.mechanisms, length)

/-- The library that acts by its script and lacks some functions. -/
def library (lacks : List Function) : Library Script :=
  let given {α : Type} (f : Function) (a : α) : Option α := if lacks.contains f then none else some a
  { functionList := fun t => ((t.functionList, !t.nullList), t)
    start? := given .start fun _ t => (t.start, t)
    stop? := given .stop fun t => (t.stop, t)
    info? := given .info fun t => ((t.infoCode, t.info), t)
    attributes? := given .attributes fun _ object slots t => readAttributes object slots t
    create? := given .create fun _ _ t => ((t.createCode, t.handle), t)
    mechanisms? := given .mechanisms fun _ room t => (listMechanisms room t, t) }

end Script

end TokenMarshal.Simulated

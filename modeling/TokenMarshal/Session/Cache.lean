/-
  TokenMarshal.Session.Cache — the curve parameters of the keys used last.

  The entries stand in the order of use, the latest first. Looking an entry up and putting
  one in are uses. A new key that finds the cache full takes the place of the last entry.

  The layer has its cache from a package, `lru`, and what stands here is the behaviour that the
  package documents. The laws that results about sessions rest on are stated of it: entries are
  what was put in, and never more than there is room for (Proofs.Session.Coherence); a use moves
  its key to the front, and a full cache loses its last key to a new one (Proofs.Session.Recency).
-/
import TokenMarshal.Device.Basic

namespace TokenMarshal

structure Cache where
  capacity : Nat
  entries : List (ObjectHandle × List UInt8)
  deriving DecidableEq, Repr

namespace Cache

def new (capacity : Nat) : Except Fault Cache :=
  if capacity = 0 then .error (.config "the EC parameters cache needs a capacity")
  else .ok ⟨capacity, []⟩

def find? (c : Cache) (object : ObjectHandle) : Option (List UInt8) :=
  (c.entries.find? (·.1 == object)).map (·.2)

def without (c : Cache) (object : ObjectHandle) : List (ObjectHandle × List UInt8) :=
  c.entries.filter (·.1 != object)

/-- The entry of a key, which is thereby used. -/
def get (c : Cache) (object : ObjectHandle) : Option (List UInt8) × Cache :=
  match c.find? object with
  | some params => (some params, { c with entries := (object, params) :: c.without object })
  | none => (none, c)

def put (c : Cache) (object : ObjectHandle) (params : List UInt8) : Cache :=
  { c with entries := ((object, params) :: c.without object).take c.capacity }

def clear (c : Cache) : Cache := { c with entries := [] }

def size (c : Cache) : Nat := c.entries.length

def isEmpty (c : Cache) : Bool := c.entries.isEmpty

end Cache

end TokenMarshal

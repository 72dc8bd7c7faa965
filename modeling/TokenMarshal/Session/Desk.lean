/-
  TokenMarshal.Session.Desk — the sessions of one module side by side.

  All sessions share the device, the module and its repair flags; each has a handle and a
  cache. A request names the session it is for, or is one to the module itself. `run` takes
  requests one after another.
-/
import TokenMarshal.Session.Basic

namespace TokenMarshal

open Marshal

variable {σ : Type}

structure OpenSession where
  handle : SessionHandle
  cache : Cache

structure Desk (σ : Type) where
  module : Module
  device : σ
  flags : Repair.Flags
  sessions : List OpenSession

/-- What a session can be asked. -/
inductive Session.Request where
  | fetchAll (object : ObjectHandle) (codes : List AttributeCode)
  | fetchOne (object : ObjectHandle) (code : AttributeCode)
  | ecParams (object : ObjectHandle)
  /-- The cache alone. -/
  | cached (object : ObjectHandle)
  | fixSignature (key : ObjectHandle) (mechanism : Mechanism) (sig : List UInt8)
  | createObject (t : Template)
  | close

inductive Session.Answer where
  | attributes (r : Except PartialFailure (List Attribute))
  | attribute (r : Except Fault Attribute)
  | params (r : Option (List UInt8))
  | signature (b : List UInt8)
  | handle (r : Except Fault ObjectHandle)
  | closed

namespace Session

def answer (d : Device σ) (m : Module) (handle : SessionHandle) (s : State σ) :
    Request → Answer × State σ
  | .fetchAll object codes => (fetchAll d m handle object codes s).map .attributes id
  | .fetchOne object code => (fetchOne d m handle object code s).map .attribute id
  | .ecParams object => (ecParams d m handle object s).map .params id
  | .cached object =>
    let (r, cache) := s.cache.get object
    (.params r, { s with cache })
  | .fixSignature key mechanism sig => (fixSignature d m handle key mechanism sig s).map .signature id
  | .createObject t => (createObject d m handle t s).map .handle id
  | .close => (.closed, close s)

end Session

namespace Desk

def start (m : Module) (device : σ) : Desk σ := ⟨m, device, .initial, []⟩

/-- Opens a further session. -/
def openSession (k : Desk σ) (handle : SessionHandle) : Except Fault Unit × Desk σ :=
  match Cache.new k.module.cacheSize with
  | .ok cache => (.ok (), { k with sessions := k.sessions ++ [⟨handle, cache⟩] })
  | .error fault => (.error fault, k)

/-- Lets session `i` answer; nothing happens where there is none. -/
def ask (d : Device σ) (k : Desk σ) (i : Nat) (r : Session.Request) :
    Option Session.Answer × Desk σ :=
  match k.sessions[i]? with
  | none => (none, k)
  | some o =>
    let (a, s) := Session.answer d k.module o.handle ⟨k.device, k.flags, o.cache⟩ r
    (some a, { k with
      device := s.device
      flags := s.flags
      sessions := k.sessions.set i { o with cache := s.cache } })

def run (d : Device σ) (k : Desk σ) : List (Nat × Session.Request) →
    List (Option Session.Answer) × Desk σ
  | [] => ([], k)
  | (i, r) :: rest =>
    let (a, k) := ask d k i r
    let (answers, k) := run d k rest
    (a :: answers, k)

end Desk

end TokenMarshal

/-
  TokenMarshal.Session.Basic — reading and writing through one session.

  A session works on the device, the repair flags of the module and a cache of its own
  (`State`). What it reads is translated to generic codes; parameters among it are cached;
  and the first point with octets is repaired, with the parameters read alongside, else the
  cached ones, else with those of a read of their own. A signature is repaired likewise.
-/
import TokenMarshal.Module
import TokenMarshal.Session.Cache

namespace TokenMarshal.Session

open Marshal

variable {σ : Type}

structure State (σ : Type) where
  device : σ
  flags : Repair.Flags
  cache : Cache

/-- The curve parameters of a key, from the cache or else from the token. -/
def ecParams (d : Device σ) (m : Module) (session : SessionHandle) (object : ObjectHandle)
    (s : State σ) : Option (List UInt8) × State σ :=
  match s.cache.get object with
  | (some params, cache) => (some params, { s with cache })
  | (none, _) =>
    let (r, device) := d.fetchOne m.encoding session object AttributeCode.ecParams s.device
    match r with
    | .error _ => (none, { s with device })
    | .ok a =>
      match a.bytes? with
      | none => (none, { s with device })
      | some params => (some params, { s with device, cache := s.cache.put object params })

/-- The parameters in the first attribute that is for them, if it has octets. -/
def readParams? (l : List Attribute) : Option (List UInt8) :=
  (l.find? (·.code == AttributeCode.ecParams)).bind (·.bytes?)

/-- The octets of a point. -/
def pointBytes? (a : Attribute) : Option (List UInt8) :=
  if a.code = AttributeCode.ecPoint then a.bytes? else none

/-- Puts octets into the first point that has some. -/
def replacePoint (fixed : List UInt8) : List Attribute → List Attribute
  | [] => []
  | a :: l =>
    if (pointBytes? a).isSome then { a with value := .bytes fixed } :: l
    else a :: replacePoint fixed l

/-- Repairs the first point that has octets, given the parameters read alongside. -/
def repairPoint (d : Device σ) (m : Module) (session : SessionHandle) (object : ObjectHandle)
    (read : Option (List UInt8)) (l : List Attribute) (s : State σ) : List Attribute × State σ :=
  match l.findSome? pointBytes? with
  | none => (l, s)
  | some point =>
    let (params, s) :=
      match read with
      | some params => (some params, s)
      | none => ecParams d m session object s
    match params with
    | none => (l, s)
    | some params =>
      let (fixed, flags) := m.normalizePoint s.flags point params
      (replacePoint fixed l, { s with flags })

/-- What is done with attributes read from a token. -/
def process (d : Device σ) (m : Module) (session : SessionHandle) (object : ObjectHandle)
    (l : List Attribute) (s : State σ) : List Attribute × State σ :=
  let l := m.attributesToGeneric l
  let read := readParams? l
  let s :=
    match read with
    | some params => { s with cache := s.cache.put object params }
    | none => s
  repairPoint d m session object read l s

def fetchAll (d : Device σ) (m : Module) (session : SessionHandle) (object : ObjectHandle)
    (codes : List AttributeCode) (s : State σ) :
    Except PartialFailure (List Attribute) × State σ :=
  let (r, device) := d.fetchAll m.encoding session object codes s.device
  let s := { s with device }
  match r with
  | .ok l =>
    let (l, s) := process d m session object l s
    (.ok l, s)
  | .error p =>
    let (l, s) := process d m session object p.attributes s
    (.error { p with attributes := l }, s)

def fetchOne (d : Device σ) (m : Module) (session : SessionHandle) (object : ObjectHandle)
    (code : AttributeCode) (s : State σ) : Except Fault Attribute × State σ :=
  let (r, device) := d.fetchOne m.encoding session object code s.device
  let s := { s with device }
  match r with
  | .error fault => (.error fault, s)
  | .ok a =>
    let (l, s) := process d m session object [a] s
    (.ok (l.headD a), s)

/-- Repairs a signature made with a key and a generic mechanism. -/
def fixSignature (d : Device σ) (m : Module) (session : SessionHandle) (key : ObjectHandle)
    (mechanism : Mechanism) (sig : List UInt8) (s : State σ) : List UInt8 × State σ :=
  match Scheme.ofMechanism? mechanism with
  | none => (sig, s)
  | some scheme =>
    let (params, s) := ecParams d m session key s
    let (sig, flags) := m.normalizeSignature s.flags sig params scheme
    (sig, { s with flags })

def createObject (d : Device σ) (m : Module) (session : SessionHandle) (t : Template)
    (s : State σ) : Except Fault ObjectHandle × State σ :=
  let (r, device) := d.create session (m.writeFields t) s.device
  (r, { s with device })

def close (s : State σ) : State σ := { s with cache := s.cache.clear }

end TokenMarshal.Session

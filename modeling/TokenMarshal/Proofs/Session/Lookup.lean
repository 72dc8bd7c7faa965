/-
  TokenMarshal.Proofs.Session.Lookup — how a session comes by the parameters of a key.

  A request looks for the parameters of one key at most (`lookup`). They are given among the
  attributes that were read, or stand in the cache, or the session reads them itself. A request
  is no more than the calls that it is for, this look-up after them, and a change of the flags
  (`answer_eq_afterLookup`); only closing is something else. So the look-up tells what becomes
  of the cache (`cache_answer`) and which call is made besides (`calls_answer`).
-/
import TokenMarshal.Proofs.Device.Matching
import TokenMarshal.Proofs.Session.Process
import TokenMarshal.Session.Desk

namespace TokenMarshal.Session

open Marshal Device

variable {σ τ : Type}

/-- Where the parameters of a key come from. -/
inductive Lookup where
  /-- They are among the attributes that were read. -/
  | given (params : List UInt8)
  | cached (params : List UInt8)
  /-- The session reads them itself, and there may be none. -/
  | read (params : Option (List UInt8))
  deriving DecidableEq, Repr

namespace Lookup

def params? : Lookup → Option (List UInt8)
  | given params => some params
  | cached params => some params
  | read params => params

/-- What the look-up of a key does to the cache. -/
def cache (object : ObjectHandle) (c : Cache) : Lookup → Cache
  | given params => c.put object params
  | cached _ => (c.get object).2
  | read none => c
  | read (some params) => c.put object params

/-- A session after a look-up. -/
def after (d : Device σ) (m : Module) (session : SessionHandle) (object : ObjectHandle)
    (s : State σ) (w : Lookup) : State σ :=
  { s with
    device :=
      match w with
      | read _ => (d.fetchOne m.encoding session object AttributeCode.ecParams s.device).2
      | _ => s.device
    cache := w.cache object s.cache }

/-- The calls that a look-up takes. -/
def calls (session : SessionHandle) (object : ObjectHandle) : Lookup → List Call
  | read _ => [.read session object [AttributeCode.ecParams]]
  | _ => []

/-- A look-up goes by what the cache holds. -/
def Fits (object : ObjectHandle) (c : Cache) : Lookup → Prop
  | given _ => True
  | cached params => c.find? object = some params
  | read _ => c.find? object = none

variable {object : ObjectHandle} {c : Cache} {w : Lookup}

theorem capacity_cache (w : Lookup) : (w.cache object c).capacity = c.capacity := by
  cases w with
  | given params => rfl
  | cached params =>
    show (c.get object).2.capacity = c.capacity
    unfold Cache.get
    split <;> rfl
  | read params => cases params <;> rfl

theorem cache_of_unknown (unknown : w.params? = none) : w.cache object c = c := by
  cases w with
  | given params => cases unknown
  | cached params => cases unknown
  | read params => cases unknown; rfl

theorem calls_after (d : Device σ) (m : Module) (session : SessionHandle) (object : ObjectHandle)
    (s : State (σ × List Call)) (w : Lookup) :
    (w.after d.logged m session object s).device.2 = s.device.2 ++ w.calls session object := by
  cases w with
  | given params => exact (List.append_nil _).symm
  | cached params => exact (List.append_nil _).symm
  | read params =>
    unfold after
    rw [fetchOne_snd]
    rfl

end Lookup

/-- The cache comes first. -/
def ownLookup (d : Device σ) (m : Module) (session : SessionHandle) (object : ObjectHandle)
    (s : State σ) : Lookup :=
  match s.cache.find? object with
  | some params => .cached params
  | none => .read (directParams? d m.encoding session object s.device)

/-- Attributes that were read need parameters if a point is among them. -/
def lookupFor (d : Device σ) (m : Module) (session : SessionHandle) (object : ObjectHandle)
    (l : List Attribute) (s : State σ) : Option Lookup :=
  match readParams? l with
  | some params => some (.given params)
  | none => (l.findSome? pointBytes?).map fun _ => ownLookup d m session object s

/-- The device after the calls that a request is for. -/
def asked (d : Device σ) (m : Module) (session : SessionHandle) : Request → σ → σ
  | .fetchAll object codes, st => (d.fetchAll m.encoding session object codes st).2
  | .fetchOne object code, st => (d.fetchOne m.encoding session object code st).2
  | .createObject t, st => (d.create session (m.writeFields t) st).2
  | _, st => st

/-- The key that a request looks up the parameters of, and where it has them from. -/
def lookup (d : Device σ) (m : Module) (session : SessionHandle) (s : State σ) (r : Request) :
    Option (ObjectHandle × Lookup) :=
  let s' := { s with device := asked d m session r s.device }
  match r with
  | .fetchAll object codes =>
    (lookupFor d m session object
      (attributesOf (d.fetchAll m.encoding session object codes s.device).1) s').map (object, ·)
  | .fetchOne object code =>
    (d.fetchOne m.encoding session object code s.device).1.toOption.bind fun a =>
      (lookupFor d m session object [a] s').map (object, ·)
  | .ecParams object => some (object, ownLookup d m session object s')
  | .cached object => (s.cache.find? object).map (object, .cached ·)
  | .fixSignature key mechanism _ =>
    (Scheme.ofMechanism? mechanism).map fun _ => (key, ownLookup d m session key s')
  | .createObject _ => none
  | .close => none

/-- A session after the calls that a request is for and the look-up. -/
def afterLookup (d : Device σ) (m : Module) (session : SessionHandle) (s : State σ)
    (r : Request) : State σ :=
  let s' := { s with device := asked d m session r s.device }
  (lookup d m session s r).elim s' fun (object, w) => w.after d m session object s'

theorem fits_ownLookup (d : Device σ) (m : Module) (session : SessionHandle)
    (object : ObjectHandle) (s : State σ) :
    (ownLookup d m session object s).Fits object s.cache := by
  unfold ownLookup
  cases found : s.cache.find? object with
  | none => exact found
  | some params => exact found

theorem fits_lookupFor {d : Device σ} {m : Module} {session : SessionHandle}
    {object : ObjectHandle} {l : List Attribute} {s : State σ} {w : Lookup}
    (looked : lookupFor d m session object l s = some w) : w.Fits object s.cache := by
  unfold lookupFor at looked
  cases read : readParams? l with
  | some params =>
    rw [read] at looked
    cases looked
    trivial
  | none =>
    rw [read] at looked
    obtain ⟨point, -, rfl⟩ := Option.map_eq_some_iff.mp looked
    exact fits_ownLookup d m session object s

theorem fits_lookup {d : Device σ} {m : Module} {session : SessionHandle} {s : State σ}
    {r : Request} {object : ObjectHandle} {w : Lookup}
    (looked : lookup d m session s r = some (object, w)) : w.Fits object s.cache := by
  simp only [lookup] at looked
  cases r with
  | fetchAll key codes =>
    obtain ⟨w', looked, same⟩ := Option.map_eq_some_iff.mp looked
    cases same
    have fits := fits_lookupFor looked
    exact fits
  | fetchOne key code =>
    obtain ⟨a, -, looked⟩ := Option.bind_eq_some_iff.mp looked
    obtain ⟨w', looked, same⟩ := Option.map_eq_some_iff.mp looked
    cases same
    have fits := fits_lookupFor looked
    exact fits
  | ecParams key =>
    cases looked
    exact fits_ownLookup ..
  | cached key =>
    obtain ⟨params, found, same⟩ := Option.map_eq_some_iff.mp looked
    cases same
    exact found
  | fixSignature key mechanism sig =>
    obtain ⟨scheme, -, same⟩ := Option.map_eq_some_iff.mp looked
    cases same
    exact fits_ownLookup ..
  | createObject t => cases looked
  | close => cases looked

/-! ## Devices that match -/

section

variable {R : σ → τ → Prop} {d : Device σ} {d' : Device τ} {st : σ} {st' : τ}
  (h : Matches R d d') (related : R st st') (m : Module) (session : SessionHandle)
  (object : ObjectHandle) (flags : Repair.Flags) (cache : Cache)

include h related

theorem ownLookup_related :
    ownLookup d m session object ⟨st, flags, cache⟩ =
      ownLookup d' m session object ⟨st', flags, cache⟩ := by
  have read := h.fetchOne related m.encoding session object AttributeCode.ecParams
  simp only [ownLookup, directParams?, read.1]

theorem lookupFor_related (l : List Attribute) :
    lookupFor d m session object l ⟨st, flags, cache⟩ =
      lookupFor d' m session object l ⟨st', flags, cache⟩ := by
  simp only [lookupFor, ownLookup_related h related]

/-- Devices that match are looked up from alike. -/
theorem lookup_related (r : Request) :
    lookup d m session ⟨st, flags, cache⟩ r = lookup d' m session ⟨st', flags, cache⟩ r := by
  cases r with
  | fetchAll object codes =>
    obtain ⟨read, after⟩ := h.fetchAll related m.encoding session object codes
    simp only [lookup, asked, read, lookupFor_related h after]
  | fetchOne object code =>
    obtain ⟨read, after⟩ := h.fetchOne related m.encoding session object code
    simp only [lookup, asked, read, lookupFor_related h after]
  | ecParams object => simp only [lookup, asked, ownLookup_related h related]
  | cached object => rfl
  | fixSignature key mechanism sig => simp only [lookup, asked, ownLookup_related h related]
  | createObject t => rfl
  | close => rfl

end

/-! ## One operation -/

variable (d : Device σ) (m : Module) (session : SessionHandle) (object : ObjectHandle)

theorem ecParams_eq_after (s : State σ) :
    ecParams d m session object s =
      let w := ownLookup d m session object s
      (w.params?, w.after d m session object s) := by
  unfold ecParams ownLookup directParams?
  cases found : s.cache.find? object with
  | some params => simp only [Cache.get, Lookup.params?, Lookup.after, Lookup.cache, found]
  | none =>
    simp only [Cache.get, Lookup.params?, Lookup.after, Lookup.cache, found]
    generalize d.fetchOne m.encoding session object AttributeCode.ecParams s.device = call
    obtain ⟨_ | a, device⟩ := call
    · rfl
    · cases octets : a.bytes? with
      | none => simp only [Except.toOption, Option.bind_some, octets]
      | some params => simp only [Except.toOption, Option.bind_some, octets]

theorem process_eq_after (l : List Attribute) (s : State σ) :
    ∃ flags, (process d m session object l s).2 =
      { (lookupFor d m session object l s).elim s (·.after d m session object s) with flags } := by
  simp only [process, repairPoint, readParams?_attributesToGeneric, points_attributesToGeneric,
    lookupFor]
  cases readParams? l with
  | some params =>
    cases l.findSome? pointBytes? with
    | none => exact ⟨s.flags, rfl⟩
    | some point => exact ⟨_, rfl⟩
  | none =>
    cases l.findSome? pointBytes? with
    | none => exact ⟨s.flags, rfl⟩
    | some point =>
      simp only [ecParams_eq_after]
      cases (ownLookup d m session object s).params? with
      | none => exact ⟨s.flags, rfl⟩
      | some params => exact ⟨_, rfl⟩

/-- A request but closing is its calls, a look-up, and a change of the flags. -/
theorem answer_eq_afterLookup (s : State σ) (r : Request) (kept : r ≠ .close) :
    ∃ flags, (answer d m session s r).2 = { afterLookup d m session s r with flags } := by
  cases r with
  | fetchAll object codes =>
    obtain ⟨flags, processed⟩ := process_eq_after d m session object
      (attributesOf (d.fetchAll m.encoding session object codes s.device).1)
      { s with device := (d.fetchAll m.encoding session object codes s.device).2 }
    refine ⟨flags, ?_⟩
    show (fetchAll d m session object codes s).2 = _
    simp only [fetchAll_eq_process, processed, afterLookup, lookup, asked, Option.elim_map,
      Function.comp_def]
  | fetchOne object code =>
    show ∃ flags, (fetchOne d m session object code s).2 = _
    simp only [fetchOne, afterLookup, lookup, asked]
    obtain ⟨read, device⟩ := d.fetchOne m.encoding session object code s.device
    cases read with
    | error fault => exact ⟨s.flags, rfl⟩
    | ok a =>
      obtain ⟨flags, processed⟩ := process_eq_after d m session object [a] { s with device }
      refine ⟨flags, ?_⟩
      simp only [processed, Except.toOption, Option.bind_some, Option.elim_map, Function.comp_def]
  | ecParams object =>
    exact ⟨s.flags, congrArg Prod.snd (ecParams_eq_after d m session object s)⟩
  | cached object =>
    refine ⟨s.flags, ?_⟩
    show ({ s with cache := (s.cache.get object).2 } : State σ) = _
    simp only [afterLookup, lookup, asked, Option.elim_map]
    cases found : s.cache.find? object with
    | none => simp [Cache.get, found]
    | some params => rfl
  | fixSignature key mechanism sig =>
    show ∃ flags, (fixSignature d m session key mechanism sig s).2 = _
    simp only [fixSignature, afterLookup, lookup, asked, Option.elim_map]
    cases Scheme.ofMechanism? mechanism with
    | none => exact ⟨s.flags, rfl⟩
    | some scheme =>
      simp only [ecParams_eq_after]
      exact ⟨_, rfl⟩
  | createObject t => exact ⟨s.flags, rfl⟩
  | close => exact absurd rfl kept

theorem cache_answer (s : State σ) (r : Request) (kept : r ≠ .close) :
    (answer d m session s r).2.cache =
      (lookup d m session s r).elim s.cache fun (object, w) => w.cache object s.cache := by
  obtain ⟨flags, after⟩ := answer_eq_afterLookup d m session s r kept
  rw [after]
  simp only [afterLookup]
  cases lookup d m session s r with
  | none => rfl
  | some looked => rfl

/-- The calls of a request are those that it is for, and then that of its look-up. -/
theorem calls_answer (s : State σ) (r : Request) (kept : r ≠ .close) :
    (answer d.logged m session ⟨(s.device, []), s.flags, s.cache⟩ r).2.device.2 =
      (asked d.logged m session r (s.device, [])).2 ++
        (lookup d m session s r).elim [] fun (object, w) => w.calls session object := by
  obtain ⟨flags, after⟩ := answer_eq_afterLookup d.logged m session
    ⟨(s.device, []), s.flags, s.cache⟩ r kept
  have same : lookup d.logged m session ⟨(s.device, []), s.flags, s.cache⟩ r =
      lookup d m session s r := (lookup_related (matches_logged d) rfl m session _ _ r).symm
  rw [after]
  simp only [afterLookup, same]
  cases lookup d m session s r with
  | none => exact (List.append_nil _).symm
  | some looked => exact Lookup.calls_after d m session looked.1 _ looked.2

end TokenMarshal.Session

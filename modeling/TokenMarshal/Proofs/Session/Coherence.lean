/-
  TokenMarshal.Proofs.Session.Coherence — the cache of a session does not show.

  Over a token that repeats itself (`Device.Repeats`) every entry of a cache is what the token
  gives for the parameters of its key (`Cache.Coherent`): parameters get there from attributes
  that were read, or from a read of their own, and both give the octets of the token's reply.
  Every request to a session keeps that (`coherent_answer`). While it holds, the session knows
  the same parameters as the token (`shown_ecParams`), so what it shows is what a session
  without a cache would, and two sessions that differ in their caches alone answer alike
  (`shown_answer`).
-/
import TokenMarshal.Proofs.Device.Repeats
import TokenMarshal.Proofs.Session.Process
import TokenMarshal.Session.Desk

namespace TokenMarshal

open Marshal

/-! ## The cache -/

namespace Cache

/-- The cache is within its capacity, and every entry is the parameters of its key. -/
structure Coherent (params : ObjectHandle → Option (List UInt8)) (n : Nat) (c : Cache) : Prop where
  capacity : c.capacity = n
  bounded : c.size ≤ n
  entries : ∀ entry ∈ c.entries, params entry.1 = some entry.2

variable {c : Cache} {object : ObjectHandle} {b : List UInt8}

theorem mem_of_find? (found : c.find? object = some b) : (object, b) ∈ c.entries := by
  obtain ⟨entry, here, rfl⟩ := Option.map_eq_some_iff.mp found
  have key : entry.1 = object := by simpa using List.find?_some here
  rw [← key]
  exact List.mem_of_find?_eq_some here

theorem length_without_lt (here : (object, b) ∈ c.entries) : (c.without object).length < c.size :=
  List.length_filter_lt_length_iff_exists.mpr ⟨(object, b), here, by simp⟩

theorem mem_of_mem_without {entry : ObjectHandle × List UInt8} (h : entry ∈ c.without object) :
    entry ∈ c.entries :=
  List.mem_of_mem_filter h

namespace Coherent

variable {params : ObjectHandle → Option (List UInt8)} {n : Nat}

theorem empty : Coherent params n ⟨n, []⟩ :=
  ⟨rfl, Nat.zero_le n, fun _ h => absurd h List.not_mem_nil⟩

theorem of_find? (h : c.Coherent params n) (found : c.find? object = some b) :
    params object = some b :=
  h.entries _ (mem_of_find? found)

theorem get (h : c.Coherent params n) (object : ObjectHandle) :
    (c.get object).2.Coherent params n := by
  unfold Cache.get
  cases found : c.find? object with
  | none => exact h
  | some b =>
    refine ⟨h.capacity, ?_, ?_⟩
    · exact Nat.le_trans (length_without_lt (mem_of_find? found)) h.bounded
    · intro entry here
      rcases List.mem_cons.mp here with rfl | here
      · exact h.of_find? found
      · exact h.entries entry (mem_of_mem_without here)

theorem put (h : c.Coherent params n) (known : params object = some b) :
    (c.put object b).Coherent params n := by
  refine ⟨h.capacity, ?_, ?_⟩
  · rw [← h.capacity]
    exact List.length_take_le _ _
  · intro entry here
    rcases List.mem_cons.mp (List.mem_of_mem_take here) with rfl | here
    · exact known
    · exact h.entries entry (mem_of_mem_without here)

theorem clear (h : c.Coherent params n) : c.clear.Coherent params n :=
  ⟨h.capacity, Nat.zero_le n, fun _ here => absurd here List.not_mem_nil⟩

end Coherent

end Cache

namespace Session

variable {σ : Type} {d : Device σ} {m : Module} {session : SessionHandle} {object : ObjectHandle}
  {reply : ObjectHandle → AttributeCode → Content}
  {status : SessionHandle → ObjectHandle → List AttributeCode → ReturnCode}

/-- The parameters that a token holds for a key. -/
def paramsIn (reply : ObjectHandle → AttributeCode → Content) (object : ObjectHandle) :
    Option (List UInt8) :=
  (⟨AttributeCode.ecParams, reply object AttributeCode.ecParams⟩ : Field).payload?

theorem paramsIn_eq_some_iff {b : List UInt8} :
    paramsIn reply object = some b ↔ reply object AttributeCode.ecParams = .payload b := by
  unfold paramsIn Field.payload?
  cases reply object AttributeCode.ecParams <;> simp

theorem kind_ecParams : AttributeCode.ecParams.kind = .bytes := by decide

theorem directParams?_eq (h : d.Repeats reply status) (e : Text.Encoding) (st : σ) :
    directParams? d e session object st = paramsIn reply object :=
  Device.bytes?_fetchOne h kind_ecParams st

/-! ## One operation -/

variable {n : Nat} {s : State σ} (m session object)

theorem shown_ecParams (h : d.Repeats reply status)
    (coherent : s.cache.Coherent (paramsIn reply) n) :
    shown (ecParams d m session object s) = (paramsIn reply object, s.flags) := by
  refine Prod.ext ?_ (flags_ecParams d m session object s)
  show (ecParams d m session object s).1 = _
  rw [ecParams_fst, directParams?_eq h]
  cases found : s.cache.find? object with
  | none => rfl
  | some b => exact (coherent.of_find? found).symm

theorem coherent_ecParams (h : d.Repeats reply status)
    (coherent : s.cache.Coherent (paramsIn reply) n) :
    (ecParams d m session object s).2.cache.Coherent (paramsIn reply) n := by
  rcases ecParams_cases d m session object s with ⟨b, -, result⟩ | ⟨-, -, same | ⟨b, read, put⟩⟩
  · rw [result]
    exact coherent.get object
  · rw [same]
    exact coherent
  · rw [directParams?_eq h] at read
    rw [put]
    exact coherent.put read

/-- The parameters among attributes are those that the token holds. -/
def Truthful (reply : ObjectHandle → AttributeCode → Content) (object : ObjectHandle)
    (l : List Attribute) : Prop :=
  ∀ b, readParams? l = some b → paramsIn reply object = some b

variable {object} in
theorem truthful_given (e : Text.Encoding) (status : List AttributeCode → ReturnCode)
    (codes : List AttributeCode) :
    Truthful reply object (Device.attributesOf (Device.given e (reply object) status codes)) := by
  intro b read
  obtain ⟨a, found, octets⟩ := Option.bind_eq_some_iff.mp read
  have code : a.code = AttributeCode.ecParams := by simpa using List.find?_some found
  have payload := Device.payload_of_mem_given (List.mem_of_find?_eq_some found)
    (by rw [code]; exact kind_ecParams) octets
  rw [code] at payload
  exact paramsIn_eq_some_iff.mpr payload

variable {l : List Attribute}

theorem shown_process (h : d.Repeats reply status)
    (coherent : s.cache.Coherent (paramsIn reply) n) (truthful : Truthful reply object l) :
    shown (process d m session object l s) =
      repaired m (paramsIn reply object) (m.attributesToGeneric l) s.flags := by
  rw [process_eq_repaired, pointParams?]
  cases read : readParams? l with
  | some b => rw [truthful b read, Option.some_or]
  | none =>
    have own := shown_ecParams m session object h coherent
    rw [Option.none_or, (Prod.mk.inj own).1]

theorem coherent_process (h : d.Repeats reply status)
    (coherent : s.cache.Coherent (paramsIn reply) n) (truthful : Truthful reply object l) :
    (process d m session object l s).2.cache.Coherent (paramsIn reply) n := by
  have repair (read : Option (List UInt8)) {s : State σ}
      (coherent : s.cache.Coherent (paramsIn reply) n) :
      (repairPoint d m session object read (m.attributesToGeneric l) s).2.cache.Coherent
        (paramsIn reply) n := by
    rcases cache_repairPoint read (m.attributesToGeneric l) s with untouched | looked_up
    · exact untouched ▸ coherent
    · exact looked_up ▸ coherent_ecParams m session object h coherent
  simp only [process, readParams?_attributesToGeneric]
  cases read : readParams? l with
  | some b => exact repair _ (coherent.put (truthful b read))
  | none => exact repair _ coherent

theorem shown_fetchAll (h : d.Repeats reply status)
    (coherent : s.cache.Coherent (paramsIn reply) n) (codes : List AttributeCode) :
    shown (fetchAll d m session object codes s) =
      let r := Device.given m.encoding (reply object) (status session object) codes
      (repaired m (paramsIn reply object) (m.attributesToGeneric (Device.attributesOf r))
        s.flags).map (Device.withAttributes r) id := by
  simp only [fetchAll_eq_process, Device.fetchAll_eq_given h]
  generalize (d.fetchAll m.encoding session object codes s.device).2 = device
  rw [← shown_process m session object (s := { s with device }) h coherent
    (truthful_given _ _ codes)]
  rfl

theorem coherent_fetchAll (h : d.Repeats reply status)
    (coherent : s.cache.Coherent (paramsIn reply) n) (codes : List AttributeCode) :
    (fetchAll d m session object codes s).2.cache.Coherent (paramsIn reply) n := by
  simp only [fetchAll_eq_process, Device.fetchAll_eq_given h]
  exact coherent_process m session object h coherent (truthful_given _ _ codes)

variable {object} in
/-- One attribute that was read is the one of a reading of its code alone. -/
theorem truthful_of_ok {e : Text.Encoding} {status : List AttributeCode → ReturnCode}
    {code : AttributeCode} {a : Attribute}
    (ok : (Device.ownReading e (reply object) status code).result = .ok a) :
    Truthful reply object [a] := by
  have alone : Device.attributesOf (Device.given e (reply object) status [code]) = [a] := by
    rw [Device.given, if_neg (by simp), Device.attributesOf_gather, List.map_singleton,
      List.map_singleton]
    generalize Device.ownReading e (reply object) status code = r at ok
    obtain ⟨_, _ | fault⟩ := r <;> cases ok
    rfl
  exact alone ▸ truthful_given e status [code]

theorem shown_fetchOne (h : d.Repeats reply status)
    (coherent : s.cache.Coherent (paramsIn reply) n) (code : AttributeCode) :
    shown (fetchOne d m session object code s) =
      match (Device.ownReading m.encoding (reply object) (status session object) code).result with
      | .error fault => (.error fault, s.flags)
      | .ok a =>
        (repaired m (paramsIn reply object) (m.attributesToGeneric [a]) s.flags).map
          (fun l => .ok (l.headD a)) id := by
  have read := Device.fetchOne_eq_ownReading h m.encoding session object code s.device
  rw [← read]
  unfold fetchOne
  generalize d.fetchOne m.encoding session object code s.device = call at read ⊢
  obtain ⟨r, device⟩ := call
  cases r with
  | error fault => rfl
  | ok a =>
    simp only
    rw [← shown_process m session object (s := { s with device }) h coherent
      (truthful_of_ok read.symm)]
    rfl

theorem coherent_fetchOne (h : d.Repeats reply status)
    (coherent : s.cache.Coherent (paramsIn reply) n) (code : AttributeCode) :
    (fetchOne d m session object code s).2.cache.Coherent (paramsIn reply) n := by
  have read := Device.fetchOne_eq_ownReading h m.encoding session object code s.device
  unfold fetchOne
  generalize d.fetchOne m.encoding session object code s.device = call at read ⊢
  obtain ⟨r, device⟩ := call
  cases r with
  | error fault => exact coherent
  | ok a =>
    exact coherent_process m session object (s := { s with device }) h coherent
      (truthful_of_ok read.symm)

theorem shown_fixSignature (h : d.Repeats reply status)
    (coherent : s.cache.Coherent (paramsIn reply) n) (mechanism : Mechanism)
    (sig : List UInt8) :
    shown (fixSignature d m session object mechanism sig s) =
      match Scheme.ofMechanism? mechanism with
      | none => (sig, s.flags)
      | some scheme => m.normalizeSignature s.flags sig (paramsIn reply object) scheme := by
  unfold fixSignature
  cases Scheme.ofMechanism? mechanism with
  | none => rfl
  | some scheme =>
    have own := shown_ecParams m session object h coherent
    generalize ecParams d m session object s = r at own ⊢
    obtain ⟨params, s'⟩ := r
    obtain ⟨rfl, flags⟩ := Prod.mk.inj own
    simp only
    rw [← flags]
    rfl

theorem coherent_fixSignature (h : d.Repeats reply status)
    (coherent : s.cache.Coherent (paramsIn reply) n) (mechanism : Mechanism)
    (sig : List UInt8) :
    (fixSignature d m session object mechanism sig s).2.cache.Coherent (paramsIn reply) n := by
  unfold fixSignature
  cases Scheme.ofMechanism? mechanism with
  | none => exact coherent
  | some scheme => exact coherent_ecParams m session object h coherent

/-! ## One request -/

/-- The answer does not tell of the cache alone, and is not up to the device alone. -/
def Request.isPlain : Request → Bool
  | .cached _ | .createObject _ => false
  | _ => true

theorem coherent_answer (h : d.Repeats reply status)
    (coherent : s.cache.Coherent (paramsIn reply) n) (r : Request) :
    (answer d m session s r).2.cache.Coherent (paramsIn reply) n := by
  cases r with
  | fetchAll object codes => exact coherent_fetchAll m session object h coherent codes
  | fetchOne object code => exact coherent_fetchOne m session object h coherent code
  | ecParams object => exact coherent_ecParams m session object h coherent
  | cached object => exact coherent.get object
  | fixSignature key mechanism sig => exact coherent_fixSignature m session key h coherent mechanism sig
  | createObject t => exact coherent
  | close => exact coherent.clear

/-- Sessions that differ in their caches show the same. -/
theorem shown_answer (h : d.Repeats reply status) (s s' : State σ) {n' : Nat}
    (coherent : s.cache.Coherent (paramsIn reply) n)
    (coherent' : s'.cache.Coherent (paramsIn reply) n') (flags : s.flags = s'.flags)
    (r : Request) :
    (answer d m session s r).2.flags = (answer d m session s' r).2.flags ∧
      (r.isPlain = true → (answer d m session s r).1 = (answer d m session s' r).1) := by
  have of_shown {α : Type} {a a' : α × State σ} (f : α → Answer) (same : shown a = shown a') :
      (a.map f id).2.flags = (a'.map f id).2.flags ∧
        (r.isPlain = true → (a.map f id).1 = (a'.map f id).1) := by
    obtain ⟨result, flags⟩ := Prod.mk.inj same
    exact ⟨flags, fun _ => congrArg f result⟩
  cases r with
  | fetchAll object codes =>
    have same : shown (fetchAll d m session object codes s) =
        shown (fetchAll d m session object codes s') := by
      rw [shown_fetchAll m session object h coherent, shown_fetchAll m session object h coherent', flags]
    exact of_shown .attributes same
  | fetchOne object code =>
    have same : shown (fetchOne d m session object code s) =
        shown (fetchOne d m session object code s') := by
      rw [shown_fetchOne m session object h coherent, shown_fetchOne m session object h coherent', flags]
    exact of_shown .attribute same
  | ecParams object =>
    have same : shown (ecParams d m session object s) = shown (ecParams d m session object s') := by
      rw [shown_ecParams m session object h coherent, shown_ecParams m session object h coherent', flags]
    exact of_shown .params same
  | cached object => exact ⟨flags, fun plain => by cases plain⟩
  | fixSignature key mechanism sig =>
    have same : shown (fixSignature d m session key mechanism sig s) =
        shown (fixSignature d m session key mechanism sig s') := by
      rw [shown_fixSignature m session key h coherent, shown_fixSignature m session key h coherent',
        flags]
    exact of_shown .signature same
  | createObject t => exact ⟨flags, fun plain => by cases plain⟩
  | close => exact ⟨flags, fun _ => rfl⟩

/-- A session does not ask how many entries a cache is for. -/
theorem answer_cacheSize (capacity : Nat) (r : Request) :
    answer d { m with cacheSize := capacity } session s r = answer d m session s r := by
  cases r <;> rfl

end Session

end TokenMarshal

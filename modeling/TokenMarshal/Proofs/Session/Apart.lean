/-
  TokenMarshal.Proofs.Session.Apart — sessions of one module do not get in each other's way.

  What a session does hangs on its device, the flags and its cache alone: on devices that match
  and with the same flags and cache it answers alike and leaves all three so
  (`answer_related`). So a run does not change by its calls being written down, and the calls
  written down in one go are those of its requests one after another (`answers_exchanges`,
  `calls_exchanges`).

  A module that is not adaptive never changes its flags (`flags_answer`), and a device without a
  memory gives each session what it would give it alone. Then a session is answered as if no
  other were there, with the same calls for it and the same cache after each request
  (`exchanges_apart`).
-/
import TokenMarshal.Proofs.Device.Matching
import TokenMarshal.Proofs.Session.Desk

namespace TokenMarshal

open Marshal Device

variable {σ τ α β : Type}

theorem Repair.Flags.apply_not_adaptive_snd (f : Repair.Flags) (k : Repair.Target)
    (repair : List UInt8 → Repair) (input : List UInt8) : (f.apply false k repair input).2 = f := by
  simp [Repair.Flags.apply, Repair.Flags.runs]

theorem Module.normalizePoint_snd {m : Module} (fixed : m.adaptive = false) (flags : Repair.Flags)
    (point params : List UInt8) : (m.normalizePoint flags point params).2 = flags := by
  rw [normalizePoint, fixed]
  exact Repair.Flags.apply_not_adaptive_snd flags _ _ point

theorem Module.normalizeSignature_snd {m : Module} (fixed : m.adaptive = false)
    (flags : Repair.Flags) (sig : List UInt8) (params : Option (List UInt8)) (scheme : Scheme) :
    (m.normalizeSignature flags sig params scheme).2 = flags := by
  unfold normalizeSignature
  split
  · rfl
  · rw [fixed]
    exact Repair.Flags.apply_not_adaptive_snd flags _ _ sig

namespace Session

/-! ## Sessions on devices that match -/

/-- Sessions that differ in their devices alone, and the devices are in related states. -/
structure State.Related (R : σ → τ → Prop) (s : State σ) (t : State τ) : Prop where
  device : R s.device t.device
  flags : s.flags = t.flags
  cache : s.cache = t.cache

theorem same_map {R : σ → τ → Prop} {a : α × σ} {b : α × τ} (same : Same R a b) (f : α → β) :
    Same R (a.map f id) (b.map f id) := by
  obtain ⟨result, related⟩ := same
  exact ⟨congrArg f result, related⟩

variable {R : σ → τ → Prop} {d : Device σ} {d' : Device τ} {s : State σ} {t : State τ}
  (h : Matches R d d') (related : s.Related R t) (m : Module) (session : SessionHandle)
  (object : ObjectHandle)

include h related

theorem ecParams_related :
    Same (State.Related R) (ecParams d m session object s) (ecParams d' m session object t) := by
  obtain ⟨device, flags, cache⟩ := s
  obtain ⟨device', _, _⟩ := t
  obtain ⟨related, rfl, rfl⟩ := related
  unfold ecParams
  simp only
  split
  · exact ⟨rfl, related, rfl, rfl⟩
  · have read := h.fetchOne related m.encoding session object AttributeCode.ecParams
    generalize d.fetchOne m.encoding session object AttributeCode.ecParams device = a at read ⊢
    generalize d'.fetchOne m.encoding session object AttributeCode.ecParams device' = b at read ⊢
    obtain ⟨r, after⟩ := a
    obtain ⟨_, after'⟩ := b
    obtain ⟨rfl, related⟩ := read
    cases r with
    | error fault => exact ⟨rfl, related, rfl, rfl⟩
    | ok a =>
      cases octets : a.bytes? with
      | none => simp only [octets]; exact ⟨rfl, related, rfl, rfl⟩
      | some params => simp only [octets]; exact ⟨rfl, related, rfl, rfl⟩

theorem repairPoint_related (read : Option (List UInt8)) (l : List Attribute) :
    Same (State.Related R) (repairPoint d m session object read l s)
      (repairPoint d' m session object read l t) := by
  unfold repairPoint
  cases l.findSome? pointBytes? with
  | none => exact ⟨rfl, related⟩
  | some point =>
    have own := ecParams_related h related m session object
    cases read with
    | some params =>
      obtain ⟨device, flags, cache⟩ := s
      obtain ⟨device', _, _⟩ := t
      obtain ⟨related, rfl, rfl⟩ := related
      exact ⟨rfl, related, rfl, rfl⟩
    | none =>
      generalize ecParams d m session object s = a at own ⊢
      generalize ecParams d' m session object t = b at own ⊢
      obtain ⟨params, device, flags, cache⟩ := a
      obtain ⟨_, device', _, _⟩ := b
      obtain ⟨rfl, related, rfl, rfl⟩ := own
      cases params with
      | none => exact ⟨rfl, related, rfl, rfl⟩
      | some params => exact ⟨rfl, related, rfl, rfl⟩

theorem process_related (l : List Attribute) :
    Same (State.Related R) (process d m session object l s) (process d' m session object l t) := by
  simp only [process]
  cases readParams? (m.attributesToGeneric l) with
  | none => exact repairPoint_related h related m session object none _
  | some params =>
    have put : State.Related R { s with cache := s.cache.put object params }
        { t with cache := t.cache.put object params } :=
      ⟨related.device, related.flags, by rw [related.cache]⟩
    exact repairPoint_related h put m session object (some params) _

theorem fetchAll_related (codes : List AttributeCode) :
    Same (State.Related R) (fetchAll d m session object codes s)
      (fetchAll d' m session object codes t) := by
  rw [fetchAll_eq_process, fetchAll_eq_process]
  obtain ⟨read, after⟩ := h.fetchAll related.device m.encoding session object codes
  simp only [read]
  obtain ⟨attributes, processed⟩ := process_related h
    (s := { s with device := (d.fetchAll m.encoding session object codes s.device).2 })
    (t := { t with device := (d'.fetchAll m.encoding session object codes t.device).2 })
    ⟨after, related.flags, related.cache⟩ m session object
    (attributesOf (d'.fetchAll m.encoding session object codes t.device).1)
  exact ⟨by rw [attributes], processed⟩

theorem fetchOne_related (code : AttributeCode) :
    Same (State.Related R) (fetchOne d m session object code s)
      (fetchOne d' m session object code t) := by
  have read := h.fetchOne related.device m.encoding session object code
  unfold fetchOne
  generalize d.fetchOne m.encoding session object code s.device = a at read ⊢
  generalize d'.fetchOne m.encoding session object code t.device = b at read ⊢
  obtain ⟨r, after⟩ := a
  obtain ⟨_, after'⟩ := b
  obtain ⟨rfl, device⟩ := read
  cases r with
  | error fault => exact ⟨rfl, device, related.flags, related.cache⟩
  | ok a =>
    obtain ⟨attributes, processed⟩ := process_related h (s := { s with device := after })
      (t := { t with device := after' }) ⟨device, related.flags, related.cache⟩ m session object [a]
    exact ⟨by simp only [attributes], processed⟩

theorem fixSignature_related (mechanism : Mechanism) (sig : List UInt8) :
    Same (State.Related R) (fixSignature d m session object mechanism sig s)
      (fixSignature d' m session object mechanism sig t) := by
  unfold fixSignature
  cases Scheme.ofMechanism? mechanism with
  | none => exact ⟨rfl, related⟩
  | some scheme =>
    have own := ecParams_related h related m session object
    generalize ecParams d m session object s = a at own ⊢
    generalize ecParams d' m session object t = b at own ⊢
    obtain ⟨params, device, flags, cache⟩ := a
    obtain ⟨_, device', _, _⟩ := b
    obtain ⟨rfl, related, rfl, rfl⟩ := own
    exact ⟨rfl, related, rfl, rfl⟩

theorem answer_related (r : Request) :
    Same (State.Related R) (answer d m session s r) (answer d' m session t r) := by
  cases r with
  | fetchAll object codes => exact same_map (fetchAll_related h related m session object codes) _
  | fetchOne object code => exact same_map (fetchOne_related h related m session object code) _
  | ecParams object => exact same_map (ecParams_related h related m session object) _
  | cached object =>
    unfold answer
    simp only [related.cache]
    exact ⟨rfl, related.device, related.flags, rfl⟩
  | fixSignature key mechanism sig =>
    exact same_map (fixSignature_related h related m session key mechanism sig) _
  | createObject new =>
    obtain ⟨created, after⟩ := h.create related.device session (m.writeFields new)
    exact ⟨congrArg Answer.handle created, after, related.flags, related.cache⟩
  | close => exact ⟨rfl, related.device, related.flags, congrArg Cache.clear related.cache⟩

omit h related

/-! ## The flags of a module that is not adaptive -/

theorem flags_repaired (fixed : m.adaptive = false) (params : Option (List UInt8))
    (l : List Attribute) (flags : Repair.Flags) : (repaired m params l flags).2 = flags := by
  unfold repaired
  split
  · exact Module.normalizePoint_snd fixed flags _ _
  · rfl

theorem flags_process (fixed : m.adaptive = false) (l : List Attribute) (s : State σ) :
    (process d m session object l s).2.flags = s.flags := by
  have both := process_eq_repaired d m session object l s
  exact (Prod.mk.inj both).2.trans (flags_repaired m fixed _ _ _)

theorem flags_answer (fixed : m.adaptive = false) (s : State σ) (r : Request) :
    (answer d m session s r).2.flags = s.flags := by
  cases r with
  | fetchAll object codes =>
    show (fetchAll d m session object codes s).2.flags = s.flags
    rw [fetchAll_eq_process]
    exact flags_process m session object fixed _ _
  | fetchOne object code =>
    show (fetchOne d m session object code s).2.flags = s.flags
    unfold fetchOne
    obtain ⟨read, device⟩ := d.fetchOne m.encoding session object code s.device
    cases read with
    | error fault => rfl
    | ok a => exact flags_process m session object fixed [a] { s with device }
  | ecParams object => exact flags_ecParams d m session object s
  | cached object => rfl
  | fixSignature key mechanism sig =>
    show (fixSignature d m session key mechanism sig s).2.flags = s.flags
    unfold fixSignature
    cases Scheme.ofMechanism? mechanism with
    | none => rfl
    | some scheme =>
      simp only
      rw [Module.normalizeSignature_snd fixed, flags_ecParams]
  | createObject t => rfl
  | close => rfl

end Session

namespace Desk

open Session

/-! ## Requests with the calls for them -/

/-- What a request comes to: its answer, and the calls that are made for it. -/
structure Exchange where
  answer : Option Session.Answer
  calls : List Call

/-- The same desk on a device in another state. -/
def on (k : Desk σ) (device : τ) : Desk τ := ⟨k.module, device, k.flags, k.sessions⟩

/-- Requests one after another, each with the calls for it and marked by its session, and the desk
after them. -/
def exchanges (d : Device σ) (k : Desk σ) :
    List (Nat × Request) → List (Nat × Exchange) × Desk σ
  | [] => ([], k)
  | (i, r) :: rest =>
    let (a, k') := ask d.logged (k.on (k.device, [])) i r
    let (later, last) := exchanges d (k'.on k'.device.1) rest
    ((i, ⟨a, k'.device.2⟩) :: later, last)

/-- What is marked by one session. -/
def own (i : Nat) (l : List (Nat × α)) : List α := (l.filter (·.1 = i)).map (·.2)

/-- The same desk with one session alone. -/
def alone (k : Desk σ) (o : OpenSession) (device : σ) : Desk σ := ⟨k.module, device, k.flags, [o]⟩

structure Related (R : σ → τ → Prop) (k : Desk σ) (k' : Desk τ) : Prop where
  module : k.module = k'.module
  device : R k.device k'.device
  flags : k.flags = k'.flags
  sessions : k.sessions = k'.sessions

variable {R : σ → τ → Prop} {d : Device σ} {d' : Device τ} {k : Desk σ} {k' : Desk τ}

/-- Related desks differ in their devices alone. -/
theorem Related.on_eq {R : σ → τ → Prop} {k : Desk σ} {k' : Desk τ} (related : Related R k k')
    (device : β) : k.on device = k'.on device := by
  rw [on, on, related.module, related.flags, related.sessions]

theorem ask_related (h : Matches R d d') (related : Related R k k') (i : Nat) (r : Request) :
    Same (Related R) (ask d k i r) (ask d' k' i r) := by
  obtain ⟨module, device, flags, sessions⟩ := k
  obtain ⟨_, device', _, _⟩ := k'
  obtain ⟨rfl, related, rfl, rfl⟩ := related
  cases here : sessions[i]? with
  | none =>
    rw [ask_of_none here, ask_of_none here]
    exact ⟨rfl, rfl, related, rfl, rfl⟩
  | some o =>
    obtain ⟨answers, after⟩ := answer_related h (s := ⟨device, flags, o.cache⟩)
      (t := ⟨device', flags, o.cache⟩) ⟨related, rfl, rfl⟩ module o.handle r
    rw [ask_of_some here, ask_of_some here]
    exact ⟨congrArg some answers, rfl, after.device, after.flags, by simp only [after.cache]⟩

/-- Writing the calls down changes neither the answers nor the desk. -/
theorem answers_exchanges (k : Desk σ) (l : List (Nat × Request)) :
    ((exchanges d k l).1.map (·.2.answer), (exchanges d k l).2) = run d k l := by
  induction l generalizing k with
  | nil => rfl
  | cons request l ih =>
    obtain ⟨i, r⟩ := request
    have related : Related (fun st (s : σ × List Call) => st = s.1) k (k.on (k.device, [])) :=
      ⟨rfl, rfl, rfl, rfl⟩
    obtain ⟨first, after⟩ := ask_related (matches_logged d) related i r
    have next : (ask d.logged (k.on (k.device, [])) i r).2.on
        (ask d.logged (k.on (k.device, [])) i r).2.device.1 = (ask d k i r).2 := by
      rw [← after.on_eq, ← after.device]
      rfl
    have rest := ih (ask d k i r).2
    simp only [exchanges, run, List.map_cons, next, ← rest, first]

/-- The calls of all requests in turn are those written down in one go. -/
theorem calls_exchanges (k : Desk σ) (before : List Call) (l : List (Nat × Request)) :
    (run d.logged (k.on (k.device, before)) l).2.device.2 =
      before ++ (exchanges d k l).1.flatMap (·.2.calls) := by
  induction l generalizing k before with
  | nil => simp [run, exchanges, on]
  | cons request l ih =>
    obtain ⟨i, r⟩ := request
    have related : Related (fun s s' : σ × List Call => s.1 = s'.1 ∧ s'.2 = before ++ s.2)
        (k.on (k.device, [])) (k.on (k.device, before)) :=
      ⟨rfl, ⟨rfl, by simp [on]⟩, rfl, rfl⟩
    obtain ⟨-, after⟩ := ask_related (matches_logged_later d before) related i r
    simp only [run, exchanges, List.flatMap_cons]
    generalize ask d.logged (k.on (k.device, [])) i r = a at after ⊢
    have next : (ask d.logged (k.on (k.device, before)) i r).2 =
        (a.2.on a.2.device.1).on (a.2.device.1, before ++ a.2.device.2) := by
      have devices : (ask d.logged (k.on (k.device, before)) i r).2.device =
          (a.2.device.1, before ++ a.2.device.2) := Prod.ext after.device.1.symm after.device.2
      rw [← devices]
      exact (after.on_eq _).symm
    have rest := ih (a.2.on a.2.device.1) (before ++ a.2.device.2)
    rw [next, ← List.append_assoc]
    exact rest

theorem exchanges_cons_of_none {i : Nat} (missing : k.sessions[i]? = none) (r : Request)
    (l : List (Nat × Request)) :
    exchanges d k ((i, r) :: l) =
      ((i, ⟨none, []⟩) :: (exchanges d k l).1, (exchanges d k l).2) := by
  have asked := ask_of_none (d := d.logged) (k := k.on (k.device, [])) missing r
  rw [exchanges, asked]
  rfl

theorem exchanges_cons_of_some {i : Nat} {o : OpenSession} (here : k.sessions[i]? = some o)
    (r : Request) (l : List (Nat × Request)) :
    exchanges d k ((i, r) :: l) =
      let a := answer d.logged k.module o.handle ⟨(k.device, []), k.flags, o.cache⟩ r
      let later := exchanges d ⟨k.module, a.2.device.1, a.2.flags,
        k.sessions.set i { o with cache := a.2.cache }⟩ l
      ((i, ⟨some a.1, a.2.device.2⟩) :: later.1, later.2) := by
  have asked := ask_of_some (d := d.logged) (k := k.on (k.device, [])) here r
  rw [exchanges, asked]
  rfl

/-! ## A session among others -/

theorem own_cons_self (i : Nat) (a : α) (l : List (Nat × α)) :
    own i ((i, a) :: l) = a :: own i l := by
  simp [own]

theorem own_cons_of_ne {i j : Nat} (other : j ≠ i) (a : α) (l : List (Nat × α)) :
    own i ((j, a) :: l) = own i l := by
  simp [own, other]

/-- What other sessions do leaves the module, its flags and the session alone; what the session
does itself it does as it would alone. -/
theorem own_exchanges (h : d.Memoryless) (k : Desk σ) (fixed : k.module.adaptive = false) (i : Nat)
    (o : OpenSession) (here : k.sessions[i]? = some o) (st : σ) (l : List (Nat × Request)) :
    let apart := exchanges d (k.alone o st) ((own i l).map (0, ·))
    own i (exchanges d k l).1 = apart.1.map (·.2) ∧
      (exchanges d k l).2.sessions[i]? = apart.2.sessions[0]? := by
  induction l generalizing k o st with
  | nil => exact ⟨rfl, here⟩
  | cons request l ih =>
    obtain ⟨j, r⟩ := request
    by_cases mine : j = i
    · subst mine
      obtain ⟨inside, -⟩ := List.getElem?_eq_some_iff.mp here
      let a := answer d.logged k.module o.handle ⟨(k.device, []), k.flags, o.cache⟩ r
      let b := answer d.logged k.module o.handle ⟨(st, []), k.flags, o.cache⟩ r
      let o' : OpenSession := { o with cache := a.2.cache }
      let k' : Desk σ := ⟨k.module, a.2.device.1, a.2.flags, k.sessions.set j o'⟩
      let rest := exchanges d (k'.alone o' b.2.device.1) ((own j l).map (0, ·))
      have among : exchanges d k ((j, r) :: l) =
          ((j, ⟨some a.1, a.2.device.2⟩) :: (exchanges d k' l).1, (exchanges d k' l).2) :=
        exchanges_cons_of_some here r l
      have apart : exchanges d (k.alone o st) ((0, r) :: (own j l).map (0, ·)) =
          ((0, ⟨some a.1, a.2.device.2⟩) :: rest.1, rest.2) := by
        obtain ⟨answers, calls, flags, cache⟩ := answer_related h.matches
          (s := ⟨(k.device, []), k.flags, o.cache⟩) (t := ⟨(st, []), k.flags, o.cache⟩)
          ⟨rfl, rfl, rfl⟩ k.module o.handle r
        simp only [rest, k', o', a, alone, answers, calls, flags, cache]
        exact exchanges_cons_of_some (o := o) rfl r _
      obtain ⟨own, cached⟩ := ih k' fixed o' (List.getElem?_set_self inside) b.2.device.1
      rw [own_cons_self, among, own_cons_self, List.map_cons, apart]
      exact ⟨congrArg _ own, cached⟩
    · rw [own_cons_of_ne mine]
      cases asked : k.sessions[j]? with
      | none =>
        rw [exchanges_cons_of_none asked, own_cons_of_ne mine]
        exact ih k fixed o here st
      | some o' =>
        rw [exchanges_cons_of_some asked]
        simp only [own_cons_of_ne mine, flags_answer k.module o'.handle fixed]
        refine ih ⟨k.module, _, k.flags, k.sessions.set j _⟩ fixed o ?_ st
        rw [List.getElem?_set_ne mine, here]

/-- Sessions of a module that is not adaptive, over a device whose answers hang on the arguments of
a call alone, do not get in each other's way. Take any requests to any sessions with the calls made
for each, which are the answers, the desk and the calls of the run. What one session is asked, and
asked alone, in whatever state the device is, comes to the same answers and the same calls, and
leaves it with the same entries in its cache in the same order. -/
theorem exchanges_apart (d : Device σ) (h : d.Memoryless) (k : Desk σ)
    (fixed : k.module.adaptive = false) (l : List (Nat × Request)) :
    let all := exchanges d k l
    (all.1.map (·.2.answer), all.2) = run d k l ∧
    all.1.flatMap (·.2.calls) = (run d.logged (k.on (k.device, [])) l).2.device.2 ∧
    ∀ (i : Nat) (o : OpenSession), k.sessions[i]? = some o → ∀ st,
      let apart := exchanges d (k.alone o st) ((own i l).map (0, ·))
      own i all.1 = apart.1.map (·.2) ∧ all.2.sessions[i]? = apart.2.sessions[0]? := by
  intro all
  have calls := calls_exchanges (d := d) k [] l
  refine ⟨answers_exchanges k l, calls.symm, ?_⟩
  intro i o here st
  exact own_exchanges h k fixed i o here st l

/-- Two sessions with a cache of one entry, asked for the same keys in turn, and a device that
counts its calls. -/
theorem exchanges_apart_of_two_sessions :
    let t := Simulated.twoKeys
    let d : Device Nat := {
      info := fun n => (t.info, n)
      read := fun _ object fields n => (t.read object fields, n + 1)
      create? := some fun session fields n => (.ok (session + fields.length.toUInt64), n + 1)
      mechanisms? := none }
    let m : Module := { Simulated.plainModule with cacheSize := 1 }
    let k := opened m 0 [1, 2]
    let l : List (Nat × Request) := [(0, .fetchAll 31 [0x180, 0x181]), (1, .ecParams 32),
      (0, .ecParams 31), (1, .fetchAll 31 [0x11, 0x181]), (0, .createObject ⟨[]⟩),
      (1, .fixSignature 31 0x1041 Simulated.derSignature), (0, .close), (1, .cached 31),
      (0, .fetchOne 31 0x181), (1, .close)]
    (d.Memoryless ∧ k.module.adaptive = false) ∧
    ∀ (i : Nat) (o : OpenSession), k.sessions[i]? = some o → ∀ st,
      let apart := exchanges d (k.alone o st) ((own i l).map (0, ·))
      own i (exchanges d k l).1 = apart.1.map (·.2) ∧
        (exchanges d k l).2.sessions[i]? = apart.2.sessions[0]? := by
  intro t d m k l
  have memoryless : d.Memoryless := ⟨fun _ _ _ _ _ => rfl, fun _ _ _ _ => rfl⟩
  exact ⟨⟨memoryless, rfl⟩, (exchanges_apart d memoryless k rfl l).2.2⟩

end Desk

end TokenMarshal

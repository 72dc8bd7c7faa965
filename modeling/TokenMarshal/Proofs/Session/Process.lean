/-
  TokenMarshal.Proofs.Session.Process — a session hands on what the device read, repaired.

  Going through the vendor's codes leaves the codes and octets of attributes alone. The
  parameters that a session has for a key are those in its cache, and else those that the
  device gives for it (`ecParams_cases`, `ecParams_fst`). What becomes of attributes that were
  read hangs on three things alone: the attributes, the parameters for a point among them
  (`pointParams?`) and the flags (`process_eq_repaired`). It is the same work whether the
  device read all of them or failed some (`fetchAll_eq_process`).
-/
import TokenMarshal.Proofs.Device.Fetch
import TokenMarshal.Proofs.Vendor.Translate
import TokenMarshal.Session.Basic

namespace TokenMarshal

open Marshal

/-! ## Generic attributes -/

/-- No translation makes octets or changes any. -/
theorem Attribute.bytes?_translate (table : Vendor.Table) (dir : Vendor.Direction)
    (a : Attribute) : (a.translate table dir).bytes? = a.bytes? := by
  rw [bytes?, bytes?, value_translate]
  cases a.value with
  | number n =>
    rw [Value.translate]
    split
    · rfl
    · split <;> rfl
  | mechanisms l => rw [Value.translate]; split <;> rfl
  | _ => rfl

/-- An attribute as the module hands it on. -/
def Module.attributeToGeneric (m : Module) (a : Attribute) : Attribute :=
  match m.table? with
  | some table => a.translate table .toGeneric
  | none => a

theorem Module.attributesToGeneric_eq_map (m : Module) (l : List Attribute) :
    m.attributesToGeneric l = l.map m.attributeToGeneric := by
  unfold attributesToGeneric attributeToGeneric
  cases m.table? with
  | none => exact (List.map_id l).symm
  | some table => exact Attribute.translateAll_eq_map l

@[simp] theorem Module.code_attributeToGeneric (m : Module) (a : Attribute) :
    (m.attributeToGeneric a).code = a.code := by
  unfold attributeToGeneric
  cases m.table? with
  | none => rfl
  | some table => exact Attribute.code_translate a

@[simp] theorem Module.bytes?_attributeToGeneric (m : Module) (a : Attribute) :
    (m.attributeToGeneric a).bytes? = a.bytes? := by
  unfold attributeToGeneric
  cases m.table? with
  | none => rfl
  | some table => exact Attribute.bytes?_translate table .toGeneric a

/-- A reading with other attributes, failed where it was. -/
def Device.withAttributes (r : Except PartialFailure (List Attribute)) (l : List Attribute) :
    Except PartialFailure (List Attribute) :=
  match r with
  | .ok _ => .ok l
  | .error p => .error { p with attributes := l }

@[simp] theorem Device.attributesOf_withAttributes (r : Except PartialFailure (List Attribute))
    (l : List Attribute) : attributesOf (withAttributes r l) = l := by
  cases r <;> rfl

namespace Session

variable {σ : Type} {d : Device σ} {m : Module} {session : SessionHandle} {object : ObjectHandle}

/-! ## The parameters of a key -/

/-- The parameters that the device gives for a key, whatever the cache holds. -/
def directParams? (d : Device σ) (e : Text.Encoding) (session : SessionHandle)
    (object : ObjectHandle) (st : σ) : Option (List UInt8) :=
  (d.fetchOne e session object AttributeCode.ecParams st).1.toOption.bind (·.bytes?)

/-- Parameters come from the cache, or are read and then put there, or there are none. -/
theorem ecParams_cases (d : Device σ) (m : Module) (session : SessionHandle)
    (object : ObjectHandle) (s : State σ) :
    (∃ params, s.cache.find? object = some params ∧
      ecParams d m session object s = (some params, { s with cache := (s.cache.get object).2 })) ∨
    (s.cache.find? object = none ∧
      (ecParams d m session object s).1 = directParams? d m.encoding session object s.device ∧
      ((ecParams d m session object s).2.cache = s.cache ∨
        ∃ params, directParams? d m.encoding session object s.device = some params ∧
          (ecParams d m session object s).2.cache = s.cache.put object params)) := by
  unfold ecParams Cache.get directParams?
  cases s.cache.find? object with
  | some params => exact .inl ⟨params, rfl, rfl⟩
  | none =>
    refine .inr ⟨rfl, ?_⟩
    obtain ⟨r, device⟩ := d.fetchOne m.encoding session object AttributeCode.ecParams s.device
    cases r with
    | error fault => exact ⟨rfl, .inl rfl⟩
    | ok a =>
      cases read : a.bytes? with
      | none => simp [Except.toOption, read]
      | some params => simp [Except.toOption, read]

theorem ecParams_fst (d : Device σ) (m : Module) (session : SessionHandle)
    (object : ObjectHandle) (s : State σ) : (ecParams d m session object s).1 =
      (s.cache.find? object).or (directParams? d m.encoding session object s.device) := by
  rcases ecParams_cases d m session object s with ⟨params, found, result⟩ | ⟨missed, result, -⟩
  · rw [found, result]
    rfl
  · rw [missed, result]
    rfl

theorem flags_ecParams (d : Device σ) (m : Module) (session : SessionHandle)
    (object : ObjectHandle) (s : State σ) : (ecParams d m session object s).2.flags = s.flags := by
  unfold ecParams
  split
  · rfl
  · simp only
    split
    · rfl
    · split <;> rfl

theorem readParams?_attributesToGeneric (m : Module) (l : List Attribute) :
    readParams? (m.attributesToGeneric l) = readParams? l := by
  rw [m.attributesToGeneric_eq_map, readParams?, List.find?_map, Option.bind_map, readParams?]
  simp only [Function.comp_def, m.code_attributeToGeneric, m.bytes?_attributeToGeneric]

theorem pointBytes?_attributeToGeneric (m : Module) (a : Attribute) :
    pointBytes? (m.attributeToGeneric a) = pointBytes? a := by
  simp only [pointBytes?, m.code_attributeToGeneric, m.bytes?_attributeToGeneric]

theorem points_attributesToGeneric (m : Module) (l : List Attribute) :
    (m.attributesToGeneric l).findSome? pointBytes? = l.findSome? pointBytes? := by
  rw [m.attributesToGeneric_eq_map, List.findSome?_map]
  simp only [Function.comp_def, pointBytes?_attributeToGeneric]

/-- The parameters for the points among attributes: those read alongside, else those in the
cache, else those of a read of their own. -/
def pointParams? (d : Device σ) (m : Module) (session : SessionHandle) (object : ObjectHandle)
    (l : List Attribute) (s : State σ) : Option (List UInt8) :=
  (readParams? l).or (ecParams d m session object s).1

/-! ## What becomes of attributes -/

theorem codes_replacePoint (fixed : List UInt8) (l : List Attribute) :
    (replacePoint fixed l).map (·.code) = l.map (·.code) := by
  induction l with
  | nil => rfl
  | cons a l ih =>
    rw [replacePoint]
    split
    · rfl
    · rw [List.map_cons, ih, List.map_cons]

/-- Generic attributes with the first point repaired where its parameters are known, and the
flags after that. -/
def repaired (m : Module) (params : Option (List UInt8)) (l : List Attribute)
    (flags : Repair.Flags) : List Attribute × Repair.Flags :=
  match l.findSome? pointBytes?, params with
  | some point, some params =>
    let (fixed, flags) := m.normalizePoint flags point params
    (replacePoint fixed l, flags)
  | _, _ => (l, flags)

/-- What an operation shows: its result, and the flags after it. -/
def shown {α : Type} (r : α × State σ) : α × Repair.Flags := (r.1, r.2.flags)

theorem repairPoint_eq_repaired (read : Option (List UInt8)) (l : List Attribute) (s : State σ) :
    shown (repairPoint d m session object read l s) =
      repaired m (read.or (ecParams d m session object s).1) l s.flags := by
  have flags := flags_ecParams d m session object s
  unfold repairPoint repaired
  cases l.findSome? pointBytes? with
  | none => rfl
  | some point =>
    cases read with
    | some params => rfl
    | none =>
      rw [Option.none_or]
      generalize ecParams d m session object s = own at flags
      obtain ⟨params, s'⟩ := own
      cases params with
      | none => exact Prod.ext rfl flags
      | some params => simp only [shown, ← flags]

/-- A repair leaves the cache alone or as a look-up of the parameters leaves it. -/
theorem cache_repairPoint (read : Option (List UInt8)) (l : List Attribute) (s : State σ) :
    (repairPoint d m session object read l s).2.cache = s.cache ∨
      (repairPoint d m session object read l s).2.cache =
        (ecParams d m session object s).2.cache := by
  unfold repairPoint
  split
  · exact .inl rfl
  · cases read with
    | some params => exact .inl rfl
    | none =>
      obtain ⟨params, s'⟩ := ecParams d m session object s
      cases params <;> exact .inr rfl

theorem process_eq_repaired (d : Device σ) (m : Module) (session : SessionHandle)
    (object : ObjectHandle) (l : List Attribute) (s : State σ) :
    shown (process d m session object l s) =
      repaired m (pointParams? d m session object l s) (m.attributesToGeneric l) s.flags := by
  simp only [process, pointParams?, readParams?_attributesToGeneric]
  cases readParams? l with
  | some params => exact repairPoint_eq_repaired _ _ _
  | none => exact repairPoint_eq_repaired _ _ _

theorem process_fst (d : Device σ) (m : Module) (session : SessionHandle)
    (object : ObjectHandle) (l : List Attribute) (s : State σ) :
    (process d m session object l s).1 =
      (repaired m (pointParams? d m session object l s) (m.attributesToGeneric l) s.flags).1 :=
  congrArg Prod.fst (process_eq_repaired d m session object l s)

theorem codes_repaired (params : Option (List UInt8)) (l : List Attribute) (flags : Repair.Flags) :
    (repaired m params l flags).1.map (·.code) = l.map (·.code) := by
  unfold repaired
  split
  · exact codes_replacePoint _ l
  · rfl

theorem codes_process (l : List Attribute) (s : State σ) :
    (process d m session object l s).1.map (·.code) = l.map (·.code) := by
  rw [process_fst, codes_repaired, m.attributesToGeneric_eq_map, List.map_map]
  exact List.map_congr_left fun a _ => m.code_attributeToGeneric a

/-- The attributes of a reading are processed whether it failed or not. -/
theorem fetchAll_eq_process (codes : List AttributeCode) (s : State σ) :
    fetchAll d m session object codes s =
      let call := d.fetchAll m.encoding session object codes s.device
      let p := process d m session object (Device.attributesOf call.1) { s with device := call.2 }
      (Device.withAttributes call.1 p.1, p.2) := by
  unfold fetchAll
  obtain ⟨r, device⟩ := d.fetchAll m.encoding session object codes s.device
  cases r <;> rfl

end Session

end TokenMarshal

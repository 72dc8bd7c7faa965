/-
  TokenMarshal.Proofs.Session.ReadBack — a session hands on coherent flags.

  A session hands on each attribute in generic codes, and one point among them it may hand on
  with other octets (`Repaired`, `forall₂_process`). Neither changes a code or a flag, makes a
  value or takes one away (`Handed`). So the flags that a session hands on are those that the
  device read, and they are coherent at every depth whatever the token answers (`ReadBack`), in
  a request for many attributes as in one for one (`fetch_reads_back`).
-/
import TokenMarshal.Proofs.Device.Told
import TokenMarshal.Proofs.Session.Process

namespace TokenMarshal

open Marshal

/-! ## Generic codes -/

namespace Module

variable (m : Module)

theorem outline_attributeToGeneric {a : Attribute}
    (distinct : a.value.EveryLevel fun l => (l.map (·.code)).Nodup) :
    (m.attributeToGeneric a).outline = a.outline := by
  unfold attributeToGeneric
  cases m.table? with
  | none => rfl
  | some table =>
    obtain ⟨code, v, present, sensitive⟩ := a
    exact congrArg (Outline.mk code present sensitive) (Value.outline_translate v distinct)

theorem coherent_attributeToGeneric {a : Attribute} (coherent : a.CoherentThroughout)
    (distinct : a.value.EveryLevel fun l => (l.map (·.code)).Nodup) :
    (m.attributeToGeneric a).CoherentThroughout := by
  unfold attributeToGeneric
  cases m.table? with
  | none => exact coherent
  | some table => exact Attribute.coherentThroughout_translate coherent distinct

theorem attributeToGeneric_absent (code : AttributeCode) :
    m.attributeToGeneric (.absent code) = .absent code := by
  unfold attributeToGeneric
  cases m.table? <;> rfl

end Module

namespace Session

variable {σ : Type} {d : Device σ} {m : Module} {session : SessionHandle} {object : ObjectHandle}

/-! ## Repairs -/

/-- An attribute after a repair: as it was, or with other octets if it had some. -/
inductive Repaired : Attribute → Attribute → Prop
  | same (a : Attribute) : Repaired a a
  | octets {a : Attribute} {b : List UInt8} (fixed : List UInt8) : a.bytes? = some b →
      Repaired a { a with value := .bytes fixed }

namespace Repaired

variable {a a' : Attribute}

/-- Octets are a value without anything inside. -/
theorem value_of_bytes? {b : List UInt8} (held : a.bytes? = some b) : a.value = .bytes b := by
  unfold Attribute.bytes? at held
  cases value : a.value with
  | bytes _ => rw [value] at held; cases held; rfl
  | _ => rw [value] at held; cases held

theorem outline_eq (h : Repaired a a') : a'.outline = a.outline := by
  cases h with
  | same => rfl
  | octets fixed held => rw [Attribute.outline, Attribute.outline, value_of_bytes? held]; rfl

theorem coherent (h : Repaired a a') (coherent : a.CoherentThroughout) :
    a'.CoherentThroughout := by
  cases h with
  | same => exact coherent
  | octets fixed held =>
    have told := coherent.1.1 (by rw [Attribute.hasValue, value_of_bytes? held]; rfl)
    exact ⟨Attribute.coherent_of_present told.1 told.2, trivial⟩

theorem eq_of_absent {code : AttributeCode} (h : Repaired (.absent code) a') :
    a' = .absent code := by
  cases h with
  | same => rfl
  | octets fixed held => cases held

end Repaired

theorem forall₂_replacePoint (fixed : List UInt8) (l : List Attribute) :
    List.Forall₂ Repaired l (replacePoint fixed l) := by
  induction l with
  | nil => exact .nil
  | cons a l ih =>
    rw [replacePoint]
    split
    next held =>
      obtain ⟨b, point⟩ := Option.isSome_iff_exists.mp held
      have octets : a.bytes? = some b := by
        unfold pointBytes? at point
        split at point
        · exact point
        · cases point
      exact .cons (.octets fixed octets) (List.forall₂_same.mpr fun a _ => .same a)
    · exact .cons (.same a) ih

/-- What a session hands on, place by place. -/
theorem forall₂_process (l : List Attribute) (s : State σ) :
    List.Forall₂ (fun a a' => Repaired (m.attributeToGeneric a) a') l
      (process d m session object l s).1 := by
  rw [process_fst, m.attributesToGeneric_eq_map, ← List.forall₂_map_left_iff (f := m.attributeToGeneric)]
  unfold repaired
  split
  · exact forall₂_replacePoint _ _
  · exact List.forall₂_same.mpr fun a _ => .same a

/-! ## What is handed on of what was read -/

/-- The attribute that a session hands on for one that was read has its code and flags, at every
depth, and is coherent. -/
structure Handed (a a' : Attribute) : Prop where
  outline : a'.outline = a.outline
  coherent : a'.CoherentThroughout
  absent : ∀ code, a = .absent code → a' = .absent code

theorem handed_of_told {e : Text.Encoding} {a a' : Attribute} (told : Device.Told e a)
    (h : Repaired (m.attributeToGeneric a) a') : Handed a a' where
  outline := h.outline_eq.trans (m.outline_attributeToGeneric told.distinct)
  coherent := h.coherent (m.coherent_attributeToGeneric told.coherent told.distinct)
  absent := by
    rintro code rfl
    rw [m.attributeToGeneric_absent] at h
    exact h.eq_of_absent

theorem Handed.code_eq {a a' : Attribute} (h : Handed a a') : a'.code = a.code := by
  have same := h.outline
  unfold Attribute.outline at same
  injection same

theorem forall₂_handed (d : Device σ) (m : Module) (session : SessionHandle)
    (object : ObjectHandle) {e : Text.Encoding} {l : List Attribute}
    (told : ∀ a ∈ l, Device.Told e a) (s : State σ) :
    List.Forall₂ Handed l (process d m session object l s).1 :=
  ((List.forall₂_and_left _ _).mpr ⟨told, forall₂_process l s⟩).imp fun _ _ both =>
    handed_of_told both.1 both.2

theorem forall₂_fetchAll (codes : List AttributeCode) (s : State σ) :
    List.Forall₂ Handed
      (Device.attributesOf (d.fetchAll m.encoding session object codes s.device).1)
      (Device.attributesOf (fetchAll d m session object codes s).1) := by
  rw [fetchAll_eq_process]
  simp only [Device.attributesOf_withAttributes]
  exact forall₂_handed d m session object (Device.told_fetchAll codes s.device) _

/-- An attribute whose own read is answered neither with a value nor with that it is sensitive is
handed on as one of which nothing is known. -/
theorem fetchAll_of_return {codes : List AttributeCode} {s : State σ} {i : Nat} {rv : ReturnCode}
    (made : (Device.singleReturns d session object codes s.device)[i]? = some rv)
    (failed : rv ≠ ReturnCode.ok) (other : rv ≠ ReturnCode.attributeSensitive) :
    ∃ code, codes[i]? = some code ∧
      (Device.attributesOf (fetchAll d m session object codes s).1)[i]? = some (.absent code) := by
  obtain ⟨code, here, read⟩ := Device.fetchAll_of_return (e := m.encoding) made failed
  rw [Device.classify_absent other] at read
  obtain ⟨a, at_i, h⟩ := Lists.getElem?_of_forall₂ (forall₂_fetchAll codes s) read
  exact ⟨code, here, h.absent code rfl ▸ at_i⟩

/-! ## One attribute -/

/-- A session hands on what a single read tells, unless that failed hard. -/
theorem fetchOne_cases (d : Device σ) (m : Module) (session : SessionHandle)
    (object : ObjectHandle) (code : AttributeCode) (s : State σ) :
    let reading := (d.readOne m.encoding session object code s.device).1
    (∃ a, reading.2 = none ∧ (fetchOne d m session object code s).1 = .ok a ∧
      (d.fetchOne m.encoding session object code s.device).1 = .ok reading.1 ∧
      Handed reading.1 a) ∨
    ∃ fault, reading.2 = some fault ∧ (fetchOne d m session object code s).1 = .error fault := by
  have told := Device.told_readOne d m.encoding session object code s.device
  unfold fetchOne Device.fetchOne
  generalize d.readOne m.encoding session object code s.device = call at told ⊢
  obtain ⟨⟨read, _ | fault⟩, st⟩ := call
  · have alone := forall₂_handed d m session object (List.forall_mem_singleton.mpr told)
      { s with device := st }
    obtain ⟨a, rest, handed, -, only⟩ := List.forall₂_cons_left_iff.mp alone
    refine .inl ⟨a, rfl, ?_, rfl, handed⟩
    simp only [only, List.headD_cons]
  · exact .inr ⟨fault, rfl, rfl⟩

/-! ## What is read back -/

/-- The attributes handed on for codes: one for each, in their order, with coherent flags at every
depth, which are those of the attributes that were read. -/
structure ReadBack (codes : List AttributeCode) (returned handed : List Attribute) : Prop where
  codes : handed.map (·.code) = codes
  coherent : ∀ a ∈ handed, a.CoherentThroughout
  outline : Attribute.outlineAll handed = Attribute.outlineAll returned

theorem readBack_of_handed {codes : List AttributeCode} {returned handed : List Attribute}
    (asked : returned.map (·.code) = codes) (each : List.Forall₂ Handed returned handed) :
    ReadBack codes returned handed where
  codes := (Lists.map_eq_of_forall₂ (each.imp fun _ _ h => h.code_eq)).trans asked
  coherent := Lists.forall_mem_of_forall₂ each fun _ _ h => h.coherent
  outline := by
    rw [Attribute.outlineAll_eq_map, Attribute.outlineAll_eq_map]
    exact Lists.map_eq_of_forall₂ (each.imp fun _ _ h => h.outline)

/-- Over any token that leaves the codes asked for in the fields, what a session hands on has
those codes in order and coherent flags at every depth, which are those that the device read.
An attribute whose own read is answered neither with a value nor with that it is sensitive comes
without a value and with neither flag; a single read has a result unless that answer is a
hard failure. -/
theorem fetch_reads_back (d : Device σ) (m : Module) (keeps : d.KeepsCodes)
    (session : SessionHandle) (object : ObjectHandle) (s : State σ) :
    (∀ codes,
      let returned := Device.attributesOf (d.fetchAll m.encoding session object codes s.device).1
      let handed := Device.attributesOf (fetchAll d m session object codes s).1
      ReadBack codes returned handed ∧
      ∀ (i : Nat) rv, (d.singleReturns session object codes s.device)[i]? = some rv →
        rv ≠ ReturnCode.ok → rv ≠ ReturnCode.attributeSensitive →
        ∃ code, codes[i]? = some code ∧ handed[i]? = some (.absent code)) ∧
    ∀ code,
      let rv := (d.read session object [.request code] s.device).1.1
      let returned := (d.fetchOne m.encoding session object code s.device).1
      let handed := (fetchOne d m session object code s).1
      ((∃ a, handed = .ok a) ↔ rv = ReturnCode.ok ∨ rv = ReturnCode.attributeTypeInvalid ∨
        rv = ReturnCode.attributeSensitive ∨ Device.tolerated rv = true) ∧
      ∀ a, handed = .ok a → (∃ b, returned = .ok b ∧ ReadBack [code] [b] [a]) ∧
        (rv ≠ ReturnCode.ok → rv ≠ ReturnCode.attributeSensitive → a = .absent code) := by
  refine ⟨fun codes => ⟨?_, fun i rv => fetchAll_of_return⟩, fun code => ?_⟩
  · exact readBack_of_handed (Device.codes_fetchAll keeps codes s.device) (forall₂_fetchAll codes s)
  intro rv returned handed
  have result := Device.readOne_fault_eq_none_iff d m.encoding session object code s.device
  have asked : (d.readOne m.encoding session object code s.device).1.1.code = code :=
    Device.code_readOne keeps code s.device
  rcases fetchOne_cases d m session object code s with
    ⟨a, succeeded, handed_on, read, h⟩ | ⟨fault, failed, refused⟩
  · refine ⟨⟨fun _ => result.mp succeeded, fun _ => ⟨a, handed_on⟩⟩, fun a' same => ?_⟩
    obtain rfl : a = a' := Except.ok.inj (handed_on.symm.trans same)
    refine ⟨⟨_, read, ?_⟩, fun failed other => h.absent code ?_⟩
    · exact readBack_of_handed (congrArg (fun c => [c]) asked) (.cons h .nil)
    · rw [Device.readOne_of_not_ok failed]
      exact Device.classify_absent other code
  · refine ⟨⟨fun ⟨a, same⟩ => ?_, fun known => ?_⟩, fun a same => ?_⟩
    · cases refused.symm.trans same
    · cases failed.symm.trans (result.mpr known)
    · cases refused.symm.trans same

/-- A template with a member that is not told, a point with its parameters, a sensitive exponent,
an attribute that is not known and one that fails hard. -/
theorem fetch_reads_back_of_nested_template :
    let block := Block.encode [.holding 0x3 [0x61], .withoutValue 0x11, .holding 0x40000212 []]
    let t := Simulated.Token.ofObjects
      [(31, (0x40000211, .value block) :: (0x11, .fail 17) :: (0x3, .fail 48) :: Simulated.bareKey)]
    let m := Simulated.plainModule
    let s : State Unit := ⟨(), .initial, ⟨8, []⟩⟩
    let codes : List AttributeCode := [0x40000211, 0x181, 0x11, 0x80, 0x3, 0x40000211]
    t.constant.KeepsCodes ∧
    let returned := Device.attributesOf (t.constant.fetchAll m.encoding 1 31 codes s.device).1
    let handed := Device.attributesOf (fetchAll t.constant m 1 31 codes s).1
    ReadBack codes returned handed ∧
    ∀ (i : Nat) rv, (t.constant.singleReturns 1 31 codes s.device)[i]? = some rv →
      rv ≠ ReturnCode.ok → rv ≠ ReturnCode.attributeSensitive →
      ∃ code, codes[i]? = some code ∧ handed[i]? = some (.absent code) := by
  intro block t m s codes
  have keeps : t.constant.KeepsCodes := t.constant_keepsCodes
  exact ⟨keeps, (fetch_reads_back t.constant m keeps 1 31 s).1 codes⟩

end Session

end TokenMarshal

/-
  TokenMarshal.Proofs.Library.Slot — how deep a template reaches in the library's layout.

  The slots that denote a template have an array in place of every template, at any depth
  (`Template.slots`). Fields to be written give other slots: a template field becomes an array
  of slots, but each member of it is the slot of a field, and a template among these stays the
  block it was written as (`Attribute.passed?`). That is what a library is passed for a
  template whose values are of the kind of their codes; the two agree just when no template
  lies inside a template of the template (`Template.Shallow`, `ofFields?_encode`).
-/
import TokenMarshal.Proofs.Library.Pairing
import TokenMarshal.Proofs.Lists
import TokenMarshal.Proofs.Marshal.Codec

namespace TokenMarshal

open Library Marshal Text

/-! ## Kinds -/

/-- The kind of a value, if there is one. -/
def Value.kind? : Value → Option Kind
  | .absent => none
  | .bool _ => some .boolean
  | .number _ => some .number
  | .bytes _ => some .bytes
  | .text _ => some .text
  | .date _ => some .date
  | .mechanisms _ => some .numberList
  | .template _ => some .template

/-- The attribute has no value, or one of the kind that its code stands for. -/
def Attribute.Typed (a : Attribute) : Prop := a.value.kind? = none ∨ a.value.kind? = some a.code.kind

instance : DecidablePred Attribute.Typed := fun _ => inferInstanceAs (Decidable (_ ∨ _))

/-- Every value in the template, at any depth, is of the kind of its code. -/
def Template.Typed (t : Template) : Prop := t.EveryLevel fun l => ∀ a ∈ l, a.Typed

instance : DecidablePred Template.Typed := fun t => inferInstanceAs (Decidable (t.EveryLevel _))

/-! ## Slots of a template -/

def Library.Slot.ofBytes (code : AttributeCode) (b : List UInt8) : Slot :=
  ⟨code, .bytes b 0, UInt64.ofNat b.length⟩

mutual

/-- The slot that denotes a value under a code; none for no value. -/
def Value.slot? (e : Encoding) (code : AttributeCode) : Value → Option Slot
  | .template t => some (.ofSlots code (Template.slots e t))
  | v => (v.encode e).map (.ofBytes code)

/-- The slots that denote a template: an array for each template in it, at any depth. -/
def Template.slots (e : Encoding) : Template → List Slot
  | ⟨l⟩ => Attribute.slotsAll e l

def Attribute.slotsAll (e : Encoding) : List Attribute → List Slot
  | [] => []
  | ⟨code, v, _, _⟩ :: l => (Value.slot? e code v).toList ++ Attribute.slotsAll e l

end

/-- The slot with the octets of a value, a template's block included. -/
def Attribute.flat? (e : Encoding) (a : Attribute) : Option Slot :=
  (a.value.encode e).map (.ofBytes a.code)

/-- The slot that a library is passed: for a template the array of the octets of its members. -/
def Attribute.passed? (e : Encoding) (a : Attribute) : Option Slot :=
  match a.value with
  | .template inner => some (.ofSlots a.code (inner.attributes.filterMap (flat? e)))
  | _ => a.flat? e

/-- Templates in the template hold no templates. -/
def Template.Shallow (t : Template) : Prop :=
  ∀ a ∈ t.attributes, ∀ b ∈ a.value.members, b.value.isTemplate = false

instance : DecidablePred Template.Shallow := fun t =>
  inferInstanceAs (Decidable (∀ a ∈ t.attributes, _))

theorem Template.slots_eq (e : Encoding) (t : Template) :
    t.slots e = t.attributes.filterMap fun a => a.value.slot? e a.code := by
  obtain ⟨l⟩ := t
  rw [Template.slots]
  induction l with
  | nil => rfl
  | cons a l ih =>
    obtain ⟨code, v, _, _⟩ := a
    rw [Attribute.slotsAll, ih]
    cases h : v.slot? e code <;> simp [h]

/-! ## Slots that are passed -/

/-- The slots of fields are those of octets. -/
theorem Template.map_ofField_encode (e : Encoding) (t : Template) :
    (t.encode e).map Slot.ofField = t.attributes.filterMap (Attribute.flat? e) := by
  obtain ⟨l⟩ := t
  rw [Template.encode, Attribute.encodeAll_eq, List.map_filterMap]
  refine List.filterMap_congr fun a _ => ?_
  rw [Option.map_map, Attribute.flat?]
  rfl

theorem Library.Slot.ofField?_of_kind {code : AttributeCode} (h : code.kind ≠ .template)
    (b : List UInt8) : ofField? (.holding code b) = .ok (ofBytes code b) := by
  have unblocked : block? (.holding code b) = none := by
    rw [Option.eq_none_iff_forall_ne_some]
    exact fun block blocked => h (block?_eq_some_iff.mp blocked).1
  exact ofField?_of_no_block unblocked

/-- The block of a template is laid out again as the array of its fields. -/
theorem Library.Slot.ofField?_block {code : AttributeCode} (h : code.kind = .template)
    {e : Encoding} {t : Template} (small : (Block.encode (t.encode e)).length < 2 ^ 64) :
    ofField? (.holding code (Block.encode (t.encode e))) =
      .ok (ofSlots code (t.attributes.filterMap (Attribute.flat? e))) := by
  have read : Block.decode? (Block.encode (t.encode e)) = some (t.encode e) := by
    rw [Block.decode?_encode small]
    obtain ⟨l⟩ := t
    exact congrArg some (Attribute.normalized_encodeAll e l)
  rw [ofField?_of_block (block?_eq_some_iff.mpr ⟨h, rfl⟩), entries?, read,
    ← Template.map_ofField_encode]
  rfl

theorem Attribute.ofField?_passed {e : Encoding} {a : Attribute} {b : List UInt8}
    (typed : a.Typed) (written : a.value.encode e = some b) (small : b.length < 2 ^ 64) :
    ∃ s, a.passed? e = some s ∧ Slot.ofField? (.holding a.code b) = .ok s := by
  obtain ⟨code, v, present, sensitive⟩ := a
  cases v with
  | absent => cases written
  | template t =>
    cases written
    have kind : code.kind = .template := by simpa [Typed, Value.kind?, eq_comm] using typed
    exact ⟨_, rfl, Slot.ofField?_block kind small⟩
  | _ =>
    cases written
    refine ⟨_, rfl, Slot.ofField?_of_kind (fun kind => ?_) _⟩
    simp [Typed, Value.kind?, kind] at typed

theorem Attribute.passed?_eq_none_iff {e : Encoding} {a : Attribute} :
    a.passed? e = none ↔ a.value.isAbsent = true := by
  obtain ⟨code, v, _, _⟩ := a
  cases v <;> simp [passed?, flat?, Value.encode, Value.isAbsent]

theorem Template.ofFields?_eq_passed {e : Encoding} {t : Template} (typed : t.Typed)
    (small : octets (t.encode e) < 2 ^ 64) :
    Slot.ofFields? (t.encode e) = .ok (t.attributes.filterMap (Attribute.passed? e)) := by
  obtain ⟨l⟩ := t
  rw [encode] at small ⊢
  have kinds : ∀ a ∈ l, a.Typed := typed.1
  have sizes : ∀ f ∈ Attribute.encodeAll e l, f.size < 2 ^ 64 := fun f hf =>
    Nat.lt_of_le_of_lt (size_le_octets hf) small
  clear typed small
  rw [Attribute.encodeAll_eq] at sizes ⊢
  rw [Slot.ofFields?_eq_mapM, Except.mapM_eq_ok_iff]
  induction l with
  | nil => exact .nil
  | cons a l ih =>
    obtain ⟨kind, kinds⟩ := List.forall_mem_cons.mp kinds
    cases written : a.value.encode e with
    | none =>
      have unset : a.passed? e = none :=
        Attribute.passed?_eq_none_iff.mpr (Value.encode_eq_none_iff.mp written)
      rw [List.filterMap_cons_none (by rw [written]; rfl)] at sizes ⊢
      rw [List.filterMap_cons_none unset]
      exact ih kinds sizes
    | some b =>
      rw [List.filterMap_cons_some (by rw [written]; rfl)] at sizes ⊢
      obtain ⟨size, sizes⟩ := List.forall_mem_cons.mp sizes
      obtain ⟨s, passed, slot⟩ := Attribute.ofField?_passed kind written size
      rw [List.filterMap_cons_some passed]
      exact .cons slot (ih kinds sizes)

/-! ## Which templates are denoted -/

theorem Value.slot?_eq_none_iff {e : Encoding} {code : AttributeCode} {v : Value} :
    v.slot? e code = none ↔ v.isAbsent = true := by
  cases v <;> simp [slot?, Value.encode, Value.isAbsent]

theorem Attribute.flat?_eq_slot?_iff {e : Encoding} {a : Attribute} :
    a.flat? e = a.value.slot? e a.code ↔ a.value.isTemplate = false := by
  obtain ⟨code, v, _, _⟩ := a
  cases v <;> simp [flat?, Value.slot?, Value.encode, Value.isTemplate, Slot.ofBytes, Slot.ofSlots]

theorem Attribute.passed?_eq_slot?_iff {e : Encoding} {a : Attribute} :
    a.passed? e = a.value.slot? e a.code ↔ ∀ b ∈ a.value.members, b.value.isTemplate = false := by
  obtain ⟨code, v, present, sensitive⟩ := a
  cases v with
  | template t =>
    have same : ∀ b : Attribute, b.flat? e = none ↔ b.value.slot? e b.code = none := fun b => by
      rw [Value.slot?_eq_none_iff, ← Value.encode_eq_none_iff (e := e), flat?,
        Option.map_eq_none_iff]
    have arrays : passed? e ⟨code, .template t, present, sensitive⟩ =
          Value.slot? e code (.template t) ↔
        t.attributes.filterMap (flat? e) = t.slots e := by
      simp only [passed?, Value.slot?, Slot.ofSlots, Option.some.injEq, Slot.mk.injEq,
        Buffer.slots.injEq, true_and]
      exact and_iff_left_of_imp fun h => by rw [h]
    rw [arrays, Template.slots_eq, Lists.filterMap_eq_iff same]
    exact forall₂_congr fun b _ => flat?_eq_slot?_iff
  | absent => exact ⟨fun _ _ h => (by cases h), fun _ => rfl⟩
  | _ => exact ⟨fun _ _ h => (by cases h), fun _ => rfl⟩

theorem Template.passed_eq_slots_iff {e : Encoding} {t : Template} :
    t.attributes.filterMap (Attribute.passed? e) = t.slots e ↔ t.Shallow := by
  rw [slots_eq, Lists.filterMap_eq_iff fun a => Attribute.passed?_eq_none_iff.trans
    Value.slot?_eq_none_iff.symm]
  exact forall₂_congr fun a _ => Attribute.passed?_eq_slot?_iff

/-- A library is passed a slot for each attribute with a value, in order: its octets, or the array
of the octets of its members. These slots denote the template just when it is no deeper. -/
theorem Template.ofFields?_encode (e : Encoding) (t : Template) (typed : t.Typed)
    (small : octets (t.encode e) < 2 ^ 64) :
    Slot.ofFields? (t.encode e) = .ok (t.attributes.filterMap (Attribute.passed? e)) ∧
    (Slot.ofFields? (t.encode e) = .ok (t.slots e) ↔ t.Shallow) := by
  have passed := ofFields?_eq_passed typed small
  refine ⟨passed, ?_⟩
  rw [passed, Except.ok.injEq, passed_eq_slots_iff]

/-- A key to be unwrapped, with a class, a label that is not set and two members. -/
theorem Template.ofFields?_encode_of_shallow :
    let inner : Template := ⟨[.of 0x103 (.bool true), .of 0x3 .absent, .of 0x102 (.bytes [1, 2])]⟩
    let t : Template :=
      ⟨[.of 0x0 (.number 4), .of 0x3 .absent, .of 0x40000212 (.template inner)]⟩
    t.Typed ∧ octets (t.encode .utf8) < 2 ^ 64 ∧ t.Shallow ∧
      Slot.ofFields? (t.encode .utf8) = .ok (t.slots .utf8) := by
  intro inner t
  have typed : t.Typed := by decide
  have small : octets (t.encode .utf8) < 2 ^ 64 := by decide
  have shallow : t.Shallow := by decide
  exact ⟨typed, small, shallow, (ofFields?_encode .utf8 t typed small).2.mpr shallow⟩

/-- A template in a template of a template is not laid out. -/
theorem Template.ofFields?_encode_of_deep :
    let inner : Template := ⟨[.of 0x1 (.bool true)]⟩
    let t : Template := ⟨[.of 0x40000211 (.template ⟨[.of 0x40000212 (.template inner)]⟩)]⟩
    t.Typed ∧ octets (t.encode .utf8) < 2 ^ 64 ∧
      ¬ Slot.ofFields? (t.encode .utf8) = .ok (t.slots .utf8) := by
  intro inner t
  have typed : t.Typed := by decide
  have small : octets (t.encode .utf8) < 2 ^ 64 := by decide
  have deep : ¬ t.Shallow := by decide
  refine ⟨typed, small, fun same => ?_⟩
  rw [ofFields?_eq_passed typed small] at same
  exact deep (passed_eq_slots_iff.mp (Except.ok.inj same))

end TokenMarshal

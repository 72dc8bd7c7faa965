/-
  TokenMarshal.Proofs.Attribute.Coherent — what is told of attributes beside their values.

  The flags of an attribute are coherent when a value goes with one that is present and not
  sensitive, and a sensitive one is present and has no value (`Attribute.Coherent`). Whatever
  octets are decoded, what comes of them is coherent at every depth, and no code stands twice
  in a template of it: what holds of the members of any block holds at every depth of a value
  (`Value.everyLevel_decode`), since the payloads in a block are shorter than the block.

  The outline of attributes is their codes and flags at every depth, without their values. A
  translation leaves it as it is (`Value.outline_translate`), and so it keeps flags coherent
  (`Attribute.coherentThroughout_translate`).
-/
import TokenMarshal.Proofs.Vendor.Translate

namespace TokenMarshal

open Marshal Text Vendor

/-- A value goes with an attribute that is present and not sensitive, and a sensitive attribute is
present and has no value. -/
def Attribute.Coherent (a : Attribute) : Prop :=
  (a.hasValue = true → a.present = true ∧ a.sensitive = false) ∧
    (a.sensitive = true → a.present = true ∧ a.hasValue = false)

/-- The flags of the attribute and of all attributes inside it are coherent. -/
def Attribute.CoherentThroughout (a : Attribute) : Prop :=
  a.Coherent ∧ a.value.EveryLevel fun l => ∀ b ∈ l, b.Coherent

theorem Attribute.coherent_of_present {a : Attribute} (present : a.present = true)
    (disclosed : a.sensitive = false) : a.Coherent := by
  refine ⟨fun _ => ⟨present, disclosed⟩, fun sensitive => ?_⟩
  rw [disclosed] at sensitive
  cases sensitive

theorem Attribute.coherent_of_absent {a : Attribute} (absent : a.value = .absent)
    (known : a.sensitive = true → a.present = true) : a.Coherent := by
  have none_held : a.hasValue = false := by rw [hasValue, absent]; rfl
  refine ⟨fun held => ?_, fun sensitive => ⟨known sensitive, none_held⟩⟩
  rw [none_held] at held
  cases held

/-! ## What is decoded -/

theorem Marshal.Field.coherent_decode (e : Encoding) (f : Field) : (f.decode e).Coherent := by
  unfold Field.decode
  cases f.content with
  | payload b => exact Attribute.coherent_of_present rfl rfl
  | missing len => exact Attribute.coherent_of_absent rfl fun sensitive => by cases sensitive

/-- No template comes of octets that have the shape of another kind, or of none. -/
theorem Value.everyLevel_getD {α : Type} {P : List Attribute → Prop} {f : α → Value}
    (flat : ∀ x, (f x).EveryLevel P) (o : Option α) (b : List UInt8) :
    ((o.map f).getD (.bytes b)).EveryLevel P := by
  cases o with
  | none => trivial
  | some x => exact flat x

/-- What holds of the members of every block holds at every depth of a decoded value. -/
theorem Value.everyLevel_decode {P : List Attribute → Prop} {e : Encoding}
    (members : ∀ fields : List Field, P (Template.ofList (fields.map (Field.decode e))).attributes)
    (code : AttributeCode) (b : List UInt8) : (Value.decode e code b).EveryLevel P := by
  -- By the number of octets: the members of a block are read of fewer than the block has.
  induction size : b.length using Nat.strongRecOn generalizing b code with
  | ind n ih =>
    cases kind : code.kind with
    | template =>
      rw [Value.decode_template e code b kind]
      cases read : Block.decode? b with
      | none => trivial
      | some fields =>
        refine Template.everyLevel_iff.mpr ⟨members fields, fun a ha => ?_⟩
        obtain ⟨f, hf, rfl⟩ := List.mem_map.mp (Template.mem_of_mem_ofList ha)
        unfold Field.decode
        cases content : f.content with
        | missing len => trivial
        | payload p =>
          exact ih p.length (size ▸ Block.payload_length_lt read hf content) f.code p rfl
    | number =>
      rw [Value.decode, kind]
      exact everyLevel_getD (f := .number) (fun _ => trivial) _ b
    | numberList =>
      rw [Value.decode, kind]
      exact everyLevel_getD (f := .mechanisms) (fun _ => trivial) _ b
    | date =>
      rw [Value.decode, kind]
      exact everyLevel_getD (f := .date) (fun _ => trivial) _ b
    | _ =>
      rw [Value.decode, kind]
      trivial

theorem Value.distinct_decode (e : Encoding) (code : AttributeCode) (b : List UInt8) :
    (Value.decode e code b).EveryLevel fun l => (l.map (·.code)).Nodup :=
  everyLevel_decode (fun _ => Template.nodup_ofList _) code b

theorem Value.coherent_decode (e : Encoding) (code : AttributeCode) (b : List UInt8) :
    (Value.decode e code b).EveryLevel fun l => ∀ a ∈ l, a.Coherent := by
  refine everyLevel_decode (fun fields a ha => ?_) code b
  obtain ⟨f, -, rfl⟩ := List.mem_map.mp (Template.mem_of_mem_ofList ha)
  exact Field.coherent_decode e f

/-! ## Outlines -/

/-- A code with its flags and the outlines of what is inside. -/
inductive Outline where
  | mk (code : AttributeCode) (present sensitive : Bool) (inner : List Outline)

mutual

def Value.outline : Value → List Outline
  | .template t => Template.outline t
  | _ => []

def Template.outline : Template → List Outline
  | ⟨l⟩ => Attribute.outlineAll l

def Attribute.outlineAll : List Attribute → List Outline
  | [] => []
  | ⟨code, v, present, sensitive⟩ :: l =>
    .mk code present sensitive (Value.outline v) :: Attribute.outlineAll l

end

/-- The outline of one attribute. -/
def Attribute.outline (a : Attribute) : Outline :=
  .mk a.code a.present a.sensitive a.value.outline

theorem Attribute.outlineAll_eq_map (l : List Attribute) : outlineAll l = l.map outline := by
  induction l with
  | nil => rfl
  | cons a l ih =>
    obtain ⟨code, v, present, sensitive⟩ := a
    rw [List.map_cons, ← ih]
    rfl

variable {table : Table} {dir : Direction}

mutual

theorem Value.outline_translate {code : AttributeCode} (v : Value)
    (distinct : v.EveryLevel fun l => (l.map (·.code)).Nodup) :
    (v.translate table dir code).outline = v.outline := by
  cases v with
  | number n =>
    rw [Value.translate]
    split
    · rfl
    · split <;> rfl
  | mechanisms l => rw [Value.translate]; split <;> rfl
  | template t =>
    obtain ⟨l⟩ := t
    rw [Value.translate, Template.translate_of_nodup distinct.1]
    exact Attribute.outlineAll_translateAll l distinct.2
  | _ => rfl

theorem Attribute.outlineAll_translateAll (l : List Attribute)
    (distinct : Attribute.insideAll (fun l => (l.map (·.code)).Nodup) l) :
    Attribute.outlineAll (Attribute.translateAll table dir l) = Attribute.outlineAll l := by
  cases l with
  | nil => rfl
  | cons a l =>
    obtain ⟨code, v, present, sensitive⟩ := a
    rw [Attribute.translateAll, Attribute.translate, Attribute.outlineAll, Attribute.outlineAll,
      Value.outline_translate v distinct.1, Attribute.outlineAll_translateAll l distinct.2]

end

theorem Attribute.coherent_translate {a : Attribute} (h : a.Coherent) :
    (a.translate table dir).Coherent := by
  obtain ⟨code, v, present, sensitive⟩ := a
  unfold Coherent hasValue at h ⊢
  rwa [value_translate, Value.isAbsent_translate]

theorem Attribute.coherentThroughout_translate {a : Attribute} (h : a.CoherentThroughout)
    (distinct : a.value.EveryLevel fun l => (l.map (·.code)).Nodup) :
    (a.translate table dir).CoherentThroughout := by
  refine ⟨coherent_translate h.1, ?_⟩
  rw [value_translate]
  refine Value.everyLevel_translate (fun l coherent b hb => ?_) a.value distinct h.2
  rw [translateAll_eq_map] at hb
  obtain ⟨member, here, rfl⟩ := List.mem_map.mp hb
  exact coherent_translate (coherent member here)

end TokenMarshal

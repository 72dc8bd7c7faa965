/-
  TokenMarshal.Proofs.Vendor.Places — a translation touches codes and nothing else.

  An attribute of a list, or of a template inside, is found at a place: a position in the list, and
  then one in each template on the way down (`Attribute.at?`). What a translation may do to the
  attribute at one place is said without what is inside it (`Attribute.Recoded`): its code and its
  flags stay, a number or a list of mechanisms is translated where the code says that it holds
  codes, a template stays a template, and every other value is the same. Two lists are the same but
  for codes if that is so at every place, and nothing stands at a place of one and not of the other
  (`SameButCodes`), so the number and the order of the attributes are the same at every depth.

  The members of a translated template are the translated members in their order as long as no code
  stands there twice, which holds of every template that is set attribute by attribute. So the
  theorem goes down place by place (`sameButCodes_translateAll`). `translates_codes_only` has it for
  tables in both directions, and for what modules read and write.
-/
import TokenMarshal.Proofs.Vendor.Translate

namespace TokenMarshal

open Marshal Vendor

/-- The attribute at a place: a position in a list, and one in each template below. -/
def Attribute.at? : List Attribute → Nat → List Nat → Option Attribute
  | l, i, [] => l[i]?
  | l, i, j :: below => l[i]?.bind fun a => at? a.value.members j below

/-- The values that hold codes under a code. -/
inductive Value.HoldsCodes : AttributeCode → Value → Prop
  | keyType (n : UInt64) : HoldsCodes AttributeCode.keyType (.number n)
  | keyGenMechanism (n : UInt64) : HoldsCodes AttributeCode.keyGenMechanism (.number n)
  | allowedMechanisms (l : List UInt64) : HoldsCodes AttributeCode.allowedMechanisms (.mechanisms l)

/-- A value and what becomes of it as its codes are translated, but for what is inside a template. -/
inductive Value.Recoded (translate : Space → UInt64 → UInt64) :
    AttributeCode → Value → Value → Prop
  | keyType (n : UInt64) :
      Recoded translate AttributeCode.keyType (.number n) (.number (translate .keyType n))
  | keyGenMechanism (n : UInt64) :
      Recoded translate AttributeCode.keyGenMechanism (.number n) (.number (translate .mechanism n))
  | allowedMechanisms (l : List UInt64) :
      Recoded translate AttributeCode.allowedMechanisms (.mechanisms l)
        (.mechanisms (l.map (translate .mechanism)))
  | template (code : AttributeCode) (t t' : Template) :
      Recoded translate code (.template t) (.template t')
  | other {code : AttributeCode} {v : Value} : ¬ v.HoldsCodes code → v.isTemplate = false →
      Recoded translate code v v

structure Attribute.Recoded (translate : Space → UInt64 → UInt64) (a a' : Attribute) : Prop where
  code : a'.code = a.code
  present : a'.present = a.present
  sensitive : a'.sensitive = a.sensitive
  value : Value.Recoded translate a.code a.value a'.value

/-- At every place there is nothing in either list, or an attribute in both with its codes
translated. -/
def SameButCodes (translate : Space → UInt64 → UInt64) (l l' : List Attribute) : Prop :=
  ∀ i below, Option.Rel (Attribute.Recoded translate) (Attribute.at? l i below)
    (Attribute.at? l' i below)

variable {table : Table} {dir : Direction}

/-! ## One place -/

theorem Value.recoded_translate (code : AttributeCode) (v : Value) :
    Recoded (table.translate dir) code v (v.translate table dir code) := by
  cases v with
  | number n =>
    rw [Value.translate]
    split
    next key => subst key; exact .keyType n
    next key =>
      split
      next made => subst made; exact .keyGenMechanism n
      next made =>
        refine .other ?_ rfl
        rintro (_ | _)
        · exact key rfl
        · exact made rfl
  | mechanisms l =>
    rw [Value.translate]
    split
    next allowed => subst allowed; exact .allowedMechanisms l
    next allowed =>
      refine .other ?_ rfl
      rintro ⟨⟩
      exact allowed rfl
  | template t => exact .template code t _
  | _ => exact .other (fun h => nomatch h) rfl

theorem Value.recoded_self (code : AttributeCode) (v : Value) : Recoded (fun _ n => n) code v v := by
  by_cases holds : v.HoldsCodes code
  · cases holds with
    | keyType n => exact .keyType n
    | keyGenMechanism n => exact .keyGenMechanism n
    | allowedMechanisms l =>
      have held : Recoded (fun _ n => n) AttributeCode.allowedMechanisms (.mechanisms l)
          (.mechanisms (l.map fun n => n)) := .allowedMechanisms l
      rwa [List.map_id'] at held
  · cases v with
    | template t => exact .template code t t
    | _ => exact .other holds rfl

theorem Attribute.recoded_translate (a : Attribute) :
    Recoded (table.translate dir) a (a.translate table dir) := by
  obtain ⟨code, v, present, sensitive⟩ := a
  exact ⟨rfl, rfl, rfl, Value.recoded_translate code v⟩

theorem Attribute.recoded_self (a : Attribute) : Recoded (fun _ n => n) a a :=
  ⟨rfl, rfl, rfl, Value.recoded_self a.code a.value⟩

theorem Value.members_translate {code : AttributeCode} {v : Value}
    (distinct : v.EveryLevel fun l => (l.map (·.code)).Nodup) :
    (v.translate table dir code).members = Attribute.translateAll table dir v.members := by
  cases v with
  | number n =>
    rw [Value.translate]
    split
    · rfl
    · split <;> rfl
  | mechanisms l => rw [Value.translate]; split <;> rfl
  | template t =>
    obtain ⟨l⟩ := t
    rw [Value.translate, Template.translate_of_nodup distinct.1]
    rfl
  | _ => rfl

theorem Value.everyLevel_of_mem_members {P : List Attribute → Prop} {v : Value}
    (h : v.EveryLevel P) : ∀ a ∈ v.members, a.value.EveryLevel P := by
  cases v with
  | template t => exact (Template.everyLevel_iff.mp h).2
  | _ => exact fun a ha => absurd ha List.not_mem_nil

/-! ## Every place -/

theorem sameButCodes_self (l : List Attribute) : SameButCodes (fun _ n => n) l l := by
  intro i below
  cases Attribute.at? l i below with
  | none => exact .none
  | some a => exact .some a.recoded_self

theorem sameButCodes_translateAll {l : List Attribute}
    (distinct : ∀ a ∈ l, a.value.EveryLevel fun l => (l.map (·.code)).Nodup) :
    SameButCodes (table.translate dir) l (Attribute.translateAll table dir l) := by
  intro i below
  induction below generalizing l i with
  | nil =>
    rw [Attribute.translateAll_eq_map, Attribute.at?, Attribute.at?, List.getElem?_map]
    cases l[i]? with
    | none => exact .none
    | some a => exact .some a.recoded_translate
  | cons j below ih =>
    rw [Attribute.translateAll_eq_map, Attribute.at?, Attribute.at?, List.getElem?_map]
    cases here : l[i]? with
    | none => exact .none
    | some a =>
      have inside := distinct a (List.mem_of_getElem? here)
      simp only [Option.map_some, Option.bind_some, Attribute.value_translate,
        Value.members_translate inside]
      exact ih (Value.everyLevel_of_mem_members inside) j

theorem sameButCodes_translate {t : Template} (distinct : t.Distinct) :
    SameButCodes (table.translate dir) t.attributes (t.translate table dir).attributes := by
  obtain ⟨here, inside⟩ := Template.everyLevel_iff.mp distinct
  obtain ⟨l⟩ := t
  rw [Template.translate_of_nodup here]
  exact sameButCodes_translateAll inside

/-! ## Through a module -/

namespace Module

variable {m : Module}

theorem translate_of_table (chosen : m.table? = some table) : m.translate dir = table.translate dir := by
  funext space code
  rw [translate, chosen]

theorem translate_of_no_table (unchosen : m.table? = none) : m.translate dir = fun _ n => n := by
  funext space code
  rw [translate, unchosen]

theorem sameButCodes_attributesToGeneric (m : Module) {l : List Attribute}
    (distinct : ∀ a ∈ l, a.value.EveryLevel fun l => (l.map (·.code)).Nodup) :
    SameButCodes (m.translate .toGeneric) l (m.attributesToGeneric l) := by
  unfold attributesToGeneric
  cases chosen : m.table? with
  | none =>
    rw [translate_of_no_table chosen]
    exact sameButCodes_self l
  | some table =>
    rw [translate_of_table chosen]
    exact sameButCodes_translateAll distinct

theorem exists_sameButCodes_writeFields (m : Module) {t : Template} (distinct : t.Distinct) :
    ∃ t' : Template, m.writeFields t = t'.encode m.encoding ∧
      SameButCodes (m.translate .toVendor) t.attributes t'.attributes := by
  unfold writeFields
  cases chosen : m.table? with
  | none =>
    rw [translate_of_no_table chosen]
    exact ⟨t, rfl, sameButCodes_self t.attributes⟩
  | some table =>
    rw [translate_of_table chosen]
    exact ⟨_, rfl, sameButCodes_translate distinct⟩

end Module

/-- A translation by any table in either direction leaves a list of attributes, and a template, the
same at every depth but for the codes in values: every attribute stays at its place with its code
and its flags, key types and mechanisms are translated where an attribute for them holds a number or
a list of them, and every other value stays as it was. So do the attributes that a module reads, and
what it writes is a template that is the same but for codes. No template may hold a code twice, as
none does that was set attribute by attribute; the list may. -/
theorem Vendor.Table.translates_codes_only (table : Table) (dir : Direction) (l : List Attribute)
    (hl : ∀ a ∈ l, a.value.EveryLevel fun l => (l.map (·.code)).Nodup) (t : Template)
    (ht : t.Distinct) :
    SameButCodes (table.translate dir) l (Attribute.translateAll table dir l) ∧
    SameButCodes (table.translate dir) t.attributes (t.translate table dir).attributes ∧
    ∀ m : Module,
      SameButCodes (m.translate .toGeneric) l (m.attributesToGeneric l) ∧
      ∃ t' : Template, m.writeFields t = t'.encode m.encoding ∧
        SameButCodes (m.translate .toVendor) t.attributes t'.attributes :=
  ⟨sameButCodes_translateAll hl, sameButCodes_translate ht, fun m =>
    ⟨m.sameButCodes_attributesToGeneric hl, m.exists_sameButCodes_writeFields ht⟩⟩

/-- Values of an unexpected kind under the three codes, and codes two levels down, in a list that
holds a code twice. -/
theorem Vendor.Table.translates_codes_only_of_unexpected_kinds :
    let table : Table :=
      ⟨⟨[(0xFFFFF002, 0x80000101), (0xFFFFF003, 0x80000102)], by decide, by decide⟩,
        ⟨[(0xFFFFF001, 0x80000101)], by decide, by decide⟩⟩
    let inner : Template :=
      ⟨[⟨0x166, .number 0x80000101, true, false⟩, ⟨0x100, .mechanisms [0x80000101], true, false⟩]⟩
    let t : Template := ⟨[⟨0x40000211, .template ⟨[⟨0x161, .number 0x80000101, true, false⟩,
      ⟨0x40000213, .template inner, true, false⟩]⟩, true, true⟩, .of 0x100 .absent]⟩
    let l : List Attribute := [⟨0x40000600, .mechanisms [0x80000102, 0x1041], true, false⟩,
      ⟨0x40000600, .number 0x80000102, true, false⟩, ⟨0x40000212, .template t, true, false⟩]
    (∀ a ∈ l, a.value.EveryLevel fun l => (l.map (·.code)).Nodup) ∧ t.Distinct ∧
      SameButCodes (table.translate .toGeneric) l (Attribute.translateAll table .toGeneric l) ∧
      SameButCodes (table.translate .toGeneric) t.attributes
        (t.translate table .toGeneric).attributes := by
  intro table inner t l
  have distinct : t.Distinct := by decide
  have inside : ∀ a ∈ l, a.value.EveryLevel fun l => (l.map (·.code)).Nodup :=
    Attribute.insideAll_iff.mp ⟨trivial, trivial, distinct, trivial⟩
  obtain ⟨list, template, -⟩ := translates_codes_only table .toGeneric l inside t distinct
  exact ⟨inside, distinct, list, template⟩

end TokenMarshal

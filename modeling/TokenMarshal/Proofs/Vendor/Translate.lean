/-
  TokenMarshal.Proofs.Vendor.Translate — what is written in vendor codes reads back in
  generic ones.

  A translation replaces codes inside values and nothing else: the codes of the attributes
  stay, so a template stays one without repetitions (`everyLevel_translate`), and each value
  stays of its kind (`Value.fits_translate`). So a translated template is still read back as
  it was written; and translating what is read undoes the first translation wherever each
  code it holds comes back by itself (`CodesRevert`, `translate_disclosed`).
  `attributesToGeneric_writeFields` is the way through a module and back, with the table of
  vendor codes it may have.
-/
import TokenMarshal.Module
import TokenMarshal.Proofs.Marshal.Codec
import TokenMarshal.Proofs.Vendor.CodeMap
import TokenMarshal.Simulated.Token

namespace TokenMarshal

open Marshal Text Vendor

variable {table : Table} {dir : Direction}

/-- Each code that the attribute holds comes back from the vendor's by itself. -/
def Attribute.CodesRevert (table : Table) (a : Attribute) : Prop :=
  match a.value with
  | .number n =>
    (a.code = AttributeCode.keyType → (table.space .keyType).Reverts n) ∧
    (a.code = AttributeCode.keyGenMechanism → (table.space .mechanism).Reverts n)
  | .mechanisms l =>
    a.code = AttributeCode.allowedMechanisms → ∀ n ∈ l, (table.space .mechanism).Reverts n
  | _ => True

instance (table : Table) : DecidablePred (Attribute.CodesRevert table)
  | ⟨code, .number n, _, _⟩ => inferInstanceAs (Decidable
      ((code = AttributeCode.keyType → (table.space .keyType).Reverts n) ∧
        (code = AttributeCode.keyGenMechanism → (table.space .mechanism).Reverts n)))
  | ⟨code, .mechanisms l, _, _⟩ =>
    have := List.decidableBAll (table.space .mechanism).Reverts l
    inferInstanceAs (Decidable
      (code = AttributeCode.allowedMechanisms → ∀ n ∈ l, (table.space .mechanism).Reverts n))
  | ⟨_, .absent, _, _⟩ | ⟨_, .bool _, _, _⟩ | ⟨_, .bytes _, _, _⟩ | ⟨_, .text _, _, _⟩
  | ⟨_, .date _, _, _⟩ | ⟨_, .template _, _, _⟩ => .isTrue trivial

/-- Each code held at any depth comes back from the vendor's by itself. -/
def Template.CodesRevert (table : Table) (t : Template) : Prop :=
  t.EveryLevel fun l => ∀ a ∈ l, a.CodesRevert table

instance (table : Table) : DecidablePred (Template.CodesRevert table) :=
  fun t => inferInstanceAs (Decidable (t.EveryLevel _))

/-! ## What a translation keeps -/

@[simp] theorem Attribute.code_translate (a : Attribute) : (a.translate table dir).code = a.code := by
  cases a; rfl

@[simp] theorem Attribute.value_translate (a : Attribute) :
    (a.translate table dir).value = a.value.translate table dir a.code := by
  cases a; rfl

theorem Attribute.translateAll_eq_map (l : List Attribute) :
    translateAll table dir l = l.map (translate table dir) := by
  induction l with
  | nil => rfl
  | cons a l ih => rw [translateAll, ih, List.map_cons]

theorem Attribute.codes_translateAll (l : List Attribute) :
    (translateAll table dir l).map (·.code) = l.map (·.code) := by
  rw [translateAll_eq_map, List.map_map]
  exact List.map_congr_left fun a _ => code_translate a

theorem Template.translate_of_nodup {l : List Attribute} (h : (l.map (·.code)).Nodup) :
    Template.translate table dir ⟨l⟩ = ⟨Attribute.translateAll table dir l⟩ := by
  rw [Template.translate, Template.ofList_of_nodup (by rwa [Attribute.codes_translateAll])]

theorem Value.isAbsent_translate (code : AttributeCode) (v : Value) :
    (v.translate table dir code).isAbsent = v.isAbsent := by
  cases v with
  | number n =>
    rw [Value.translate]
    split
    · rfl
    · split <;> rfl
  | mechanisms l => rw [Value.translate]; split <;> rfl
  | _ => rfl

theorem Value.fits_translate {e : Encoding} {code : AttributeCode} {v : Value} (h : v.Fits e code) :
    (v.translate table dir code).Fits e code := by
  cases v with
  | number n =>
    rw [Value.translate]
    split
    · exact h
    · split <;> exact h
  | mechanisms l => rw [Value.translate]; split <;> exact h
  | _ => exact h

theorem Attribute.fits_translateAll {e : Encoding} {l : List Attribute}
    (h : ∀ a ∈ l, a.value.Fits e a.code) :
    ∀ a ∈ translateAll table dir l, a.value.Fits e a.code := by
  rw [translateAll_eq_map]
  intro a ha
  obtain ⟨b, hb, rfl⟩ := List.mem_map.mp ha
  rw [code_translate, value_translate]
  exact Value.fits_translate (h b hb)

mutual

theorem Value.everyLevel_translate {P : List Attribute → Prop}
    (hP : ∀ l, P l → P (Attribute.translateAll table dir l)) {code : AttributeCode} (v : Value)
    (hd : v.EveryLevel fun l => (l.map (·.code)).Nodup) (h : v.EveryLevel P) :
    (v.translate table dir code).EveryLevel P := by
  cases v with
  | number n =>
    rw [Value.translate]
    split
    · trivial
    · split <;> trivial
  | mechanisms l => rw [Value.translate]; split <;> trivial
  | template t =>
    obtain ⟨l⟩ := t
    rw [Value.translate, Template.translate_of_nodup hd.1]
    exact ⟨hP l h.1, Attribute.insideAll_translateAll hP l hd.2 h.2⟩
  | _ => trivial

theorem Attribute.insideAll_translateAll {P : List Attribute → Prop}
    (hP : ∀ l, P l → P (Attribute.translateAll table dir l)) (l : List Attribute)
    (hd : Attribute.insideAll (fun l => (l.map (·.code)).Nodup) l) (h : Attribute.insideAll P l) :
    Attribute.insideAll P (Attribute.translateAll table dir l) := by
  cases l with
  | nil => trivial
  | cons a l =>
    obtain ⟨code, v, present, sensitive⟩ := a
    exact ⟨Value.everyLevel_translate hP v hd.1 h.1,
      Attribute.insideAll_translateAll hP l hd.2 h.2⟩

end

/-- What a translation keeps in each list of attributes holds at every depth. -/
theorem Template.everyLevel_translate {P : List Attribute → Prop}
    (hP : ∀ l, P l → P (Attribute.translateAll table dir l)) {t : Template} (hd : t.Distinct)
    (h : t.EveryLevel P) : (t.translate table dir).EveryLevel P := by
  obtain ⟨l⟩ := t
  rw [Template.translate_of_nodup hd.1]
  exact ⟨hP l h.1, Attribute.insideAll_translateAll hP l hd.2 h.2⟩

theorem Template.distinct_translate {t : Template} (hd : t.Distinct) :
    (t.translate table dir).Distinct :=
  everyLevel_translate (fun l h => by rwa [Attribute.codes_translateAll]) hd hd

theorem Template.fits_translate {e : Encoding} {t : Template} (hd : t.Distinct) (hf : t.Fits e) :
    (t.translate table dir).Fits e :=
  everyLevel_translate (P := fun l => ∀ a ∈ l, a.value.Fits e a.code)
    (fun _ h => Attribute.fits_translateAll h) hd hf

/-! ## There and back -/

theorem Table.toGeneric_toVendor {space : Space} {n : UInt64} (h : (table.space space).Reverts n) :
    table.translate .toGeneric space (table.translate .toVendor space n) = n :=
  CodeMap.toGeneric_toVendor h

mutual

/-- What is told of a translated value is what is told of the value, translated back. -/
theorem Value.translate_disclosed {code : AttributeCode} {present sensitive : Bool} (v : Value)
    (hc : Attribute.CodesRevert table ⟨code, v, present, sensitive⟩)
    (hi : v.EveryLevel fun l => ∀ a ∈ l, a.CodesRevert table)
    (hd : v.EveryLevel fun l => (l.map (·.code)).Nodup) :
    (v.translate table .toVendor code).disclosed.translate table .toGeneric code = v.disclosed := by
  cases v with
  | number n =>
    rw [Value.translate]
    by_cases key : code = AttributeCode.keyType
    · simp only [if_pos key, Value.disclosed, Value.translate, Table.toGeneric_toVendor (hc.1 key)]
    by_cases made : code = AttributeCode.keyGenMechanism
    · simp only [if_neg key, if_pos made, Value.disclosed, Value.translate,
        Table.toGeneric_toVendor (hc.2 made)]
    · simp only [if_neg key, if_neg made, Value.disclosed, Value.translate]
  | mechanisms l =>
    rw [Value.translate]
    by_cases allowed : code = AttributeCode.allowedMechanisms
    · have back : (l.map (table.translate .toVendor .mechanism)).map
          (table.translate .toGeneric .mechanism) = l := by
        rw [List.map_map]
        exact (List.map_congr_left fun n hn => Table.toGeneric_toVendor (hc allowed n hn)).trans
          (List.map_id l)
      simp only [if_pos allowed, Value.disclosed, Value.translate, back]
    · simp only [if_neg allowed, Value.disclosed, Value.translate]
  | date d =>
    simp only [Value.translate, Value.disclosed]
    split <;> rfl
  | template t =>
    obtain ⟨l⟩ := t
    have members := Attribute.translateAll_disclosedAll l hi.1 hi.2 hd.2
    have distinct := (Attribute.codes_disclosedAll l).nodup hd.1
    simp only [Value.translate, Template.translate_of_nodup hd.1, Value.disclosed,
      Template.disclosed]
    rw [Template.translate, members, Template.ofList_of_nodup distinct]
  | _ => rfl

theorem Attribute.translateAll_disclosedAll (l : List Attribute)
    (hc : ∀ a ∈ l, a.CodesRevert table)
    (hi : Attribute.insideAll (fun l => ∀ a ∈ l, a.CodesRevert table) l)
    (hd : Attribute.insideAll (fun l => (l.map (·.code)).Nodup) l) :
    Attribute.translateAll table .toGeneric
      (Attribute.disclosedAll (Attribute.translateAll table .toVendor l)) =
      Attribute.disclosedAll l := by
  cases l with
  | nil => rfl
  | cons a l =>
    obtain ⟨code, v, present, sensitive⟩ := a
    have rest := Attribute.translateAll_disclosedAll l (fun b hb => hc b (List.mem_cons_of_mem _ hb))
      hi.2 hd.2
    have value := Value.translate_disclosed v (hc _ List.mem_cons_self) hi.1 hd.1
    rw [Attribute.translateAll_eq_map] at rest ⊢
    rw [Attribute.translateAll, Attribute.translate, Attribute.disclosedAll, Attribute.disclosedAll,
      List.map_append, rest, Attribute.disclosed?_eq, Attribute.disclosed?_eq,
      Value.isAbsent_translate]
    congr 1
    by_cases absent : v.isAbsent = true
    · rw [if_pos absent, if_pos absent]; rfl
    · rw [if_neg absent, if_neg absent, ← value]; rfl

end

/-! ## Through a module -/

/-- A template written through a module and read back is what a token would tell of the
template, whatever table of vendor codes the module has, as long as each code it holds comes
back from that table by itself. -/
theorem Module.attributesToGeneric_writeFields (m : Module) (t : Template) (hd : t.Distinct)
    (hf : t.Fits m.encoding) (hr : ∀ table, m.table? = some table → t.CodesRevert table)
    (hs : octets (m.writeFields t) < 2 ^ 64) :
    m.attributesToGeneric ((m.writeFields t).map (Field.decode m.encoding)) =
      t.disclosed.attributes := by
  rw [writeFields] at hs ⊢
  rw [attributesToGeneric]
  cases ht : m.table? with
  | none =>
    simp only [ht] at hs ⊢
    exact Template.decode_encode hd hf hs
  | some table =>
    simp only [ht] at hs ⊢
    have read := Template.decode_encode (Template.distinct_translate hd)
      (Template.fits_translate hd hf) hs
    obtain ⟨l⟩ := t
    have hr := hr table ht
    rw [read, Template.translate_of_nodup hd.1]
    exact Attribute.translateAll_disclosedAll l hr.1 hr.2 hd.2

/-- A key type and mechanisms of a vendor, two levels down and beside a date that is not set. -/
theorem Module.attributesToGeneric_writeFields_of_nested_codes :
    let table : Table :=
      ⟨⟨[(0xFFFFF002, 0x80000101), (0xFFFFF003, 0x80000102)], by decide, by decide⟩,
        ⟨[(0xFFFFF001, 0x80000201)], by decide, by decide⟩⟩
    let m : Module := { Simulated.plainModule with table? := some table }
    let inner : Template := ⟨[.of 0x100 (.number 0xFFFFF001), .of 0x110 .absent]⟩
    let outer : Template := ⟨[.of 0x166 (.number 0x80000201), .of 0x40000213 (.template inner),
      .of 0x40000600 (.mechanisms [0x1041, 0xFFFFF003])]⟩
    let t : Template := ⟨[.of 0x40000211 (.template outer)]⟩
    t.Distinct ∧ t.Fits m.encoding ∧ (∀ table, m.table? = some table → t.CodesRevert table) ∧
      octets (m.writeFields t) < 2 ^ 64 ∧
      m.attributesToGeneric ((m.writeFields t).map (Field.decode m.encoding)) =
        t.disclosed.attributes := by
  intro table m inner outer t
  have distinct : t.Distinct := by decide
  have fits : t.Fits m.encoding := by decide
  have revert : ∀ table, m.table? = some table → t.CodesRevert table := by
    rintro _ ⟨⟩
    decide
  have size : octets (m.writeFields t) < 2 ^ 64 := by decide
  exact ⟨distinct, fits, revert, size, attributesToGeneric_writeFields m t distinct fits revert size⟩

end TokenMarshal

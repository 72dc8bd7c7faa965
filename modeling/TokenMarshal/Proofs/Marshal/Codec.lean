/-
  TokenMarshal.Proofs.Marshal.Codec — what is written is read back.

  A template whose values are of the kind of their code (`Fits`) is read back from its
  fields as a token would tell it (`disclosed`): attributes without a value are left out at
  every depth, all others come in order with their values, known and not sensitive. The one
  value that changes is a date whose fields do not keep to eight digits: it comes back as
  the octets that were written, and never as another date.

  The induction follows the values into their templates. A template is one block, which is
  read back by `Block.decode?_encode`; its members are then set one by one, which loses none
  of them since no code stands twice (`Template.ofList_of_nodup`).
-/
import TokenMarshal.Marshal.Codec
import TokenMarshal.Proofs.Attribute.Date
import TokenMarshal.Proofs.Attribute.Template
import TokenMarshal.Proofs.Marshal.Block
import TokenMarshal.Proofs.Text.Encoding

namespace TokenMarshal

open Marshal Text

/-- The value is of the kind of its code, and a text can be written. -/
def Value.Fits (e : Encoding) (code : AttributeCode) : Value → Prop
  | .absent => True
  | .bool _ => code.kind = .boolean
  | .number _ => code.kind = .number
  | .bytes _ => code.kind = .bytes
  | .text s => code.kind = .text ∧ e.Writes s
  | .date _ => code.kind = .date
  | .mechanisms _ => code.kind = .numberList
  | .template _ => code.kind = .template

instance (e : Encoding) (code : AttributeCode) : DecidablePred (Value.Fits e code)
  | .absent => .isTrue trivial
  | .bool _ => inferInstanceAs (Decidable (code.kind = .boolean))
  | .number _ => inferInstanceAs (Decidable (code.kind = .number))
  | .bytes _ => inferInstanceAs (Decidable (code.kind = .bytes))
  | .text s => inferInstanceAs (Decidable (code.kind = .text ∧ e.Writes s))
  | .date _ => inferInstanceAs (Decidable (code.kind = .date))
  | .mechanisms _ => inferInstanceAs (Decidable (code.kind = .numberList))
  | .template _ => inferInstanceAs (Decidable (code.kind = .template))

/-- Every value in the template, at any depth, is of the kind of its code. -/
def Template.Fits (e : Encoding) (t : Template) : Prop :=
  t.EveryLevel fun l => ∀ a ∈ l, a.value.Fits e a.code

instance (e : Encoding) : DecidablePred (Template.Fits e) :=
  fun t => inferInstanceAs (Decidable (t.EveryLevel _))

mutual

/-- A value as a token that holds it tells it. -/
def Value.disclosed : Value → Value
  | .template t => .template (Template.disclosed t)
  | .date d => if d.HasEightDigits then .date d else .bytes d.toBytes
  | v => v

/-- A template as a token that holds it tells it: what has no value is left out. -/
def Template.disclosed : Template → Template
  | ⟨l⟩ => ⟨Attribute.disclosedAll l⟩

def Attribute.disclosedAll : List Attribute → List Attribute
  | [] => []
  | a :: l => (Attribute.disclosed? a).toList ++ Attribute.disclosedAll l

def Attribute.disclosed? : Attribute → Option Attribute
  | ⟨_, .absent, _, _⟩ => none
  | ⟨code, v, _, _⟩ => some ⟨code, Value.disclosed v, true, false⟩

end

/-- How many octets a list of fields holds. -/
def Marshal.octets (fields : List Field) : Nat := (fields.map Field.size).sum

theorem Marshal.size_le_octets {f : Field} {fields : List Field} (h : f ∈ fields) :
    f.size ≤ octets fields := by
  obtain ⟨before, after, rfl⟩ := List.append_of_mem h
  simp only [octets, List.map_append, List.map_cons, List.sum_append, List.sum_cons]
  omega

/-! ## Codes -/

theorem Attribute.codes_disclosedAll (l : List Attribute) :
    ((disclosedAll l).map (·.code)).Sublist (l.map (·.code)) := by
  induction l with
  | nil => exact List.Sublist.refl []
  | cons a l ih =>
    rcases a with ⟨code, v, _, _⟩
    cases v with
    | absent => exact ih.cons code
    | _ => exact ih.cons_cons code

theorem Attribute.encodeAll_eq (e : Encoding) (l : List Attribute) :
    encodeAll e l = l.filterMap fun a => (a.value.encode e).map (Field.holding a.code) := by
  induction l with
  | nil => rfl
  | cons a l ih =>
    obtain ⟨code, v, _, _⟩ := a
    rw [encodeAll, ih, encode?]
    cases h : v.encode e <;> simp [h]

/-- Everything written has octets, so its block loses nothing of it. -/
theorem Attribute.normalized_encodeAll (e : Encoding) (l : List Attribute) :
    (encodeAll e l).map Field.normalized = encodeAll e l := by
  induction l with
  | nil => rfl
  | cons a l ih =>
    obtain ⟨code, v, _, _⟩ := a
    rw [encodeAll, List.map_append, ih, encode?]
    cases v.encode e <;> rfl

theorem Attribute.disclosed?_eq (a : Attribute) :
    disclosed? a =
      if a.value.isAbsent then none else some ⟨a.code, a.value.disclosed, true, false⟩ := by
  rcases a with ⟨code, v, _, _⟩
  cases v <;> rfl

theorem Value.encode_eq_none_iff {e : Encoding} {v : Value} :
    v.encode e = none ↔ v.isAbsent = true := by
  cases v <;> simp [Value.encode, isAbsent]

/-! ## Values and templates -/

theorem Date.decode_toBytes (e : Encoding) {code : AttributeCode} (hk : code.kind = .date) (d : Date) :
    Value.decode e code d.toBytes = if d.HasEightDigits then .date d else .bytes d.toBytes := by
  rw [Value.decode, hk]
  by_cases h : d.HasEightDigits
  · simp only [Date.ofBytes?_toBytes h, if_pos h]
    rfl
  · simp only [Date.ofBytes?_toBytes_of_overlong h, if_neg h]
    rfl

mutual

theorem Value.decode_encode {e : Encoding} {code : AttributeCode} {b : List UInt8} (v : Value)
    (hf : v.Fits e code) (hi : v.EveryLevel fun l => ∀ a ∈ l, a.value.Fits e a.code)
    (hd : v.EveryLevel fun l => (l.map (·.code)).Nodup)
    (hb : v.encode e = some b) (hs : b.length < 2 ^ 64) : Value.decode e code b = v.disclosed := by
  cases v with
  | absent => cases hb
  | bool x => cases hb; rw [Value.decode, show code.kind = _ from hf]; cases x <;> rfl
  | number n =>
    cases hb
    rw [Value.decode, show code.kind = _ from hf]
    simp only [Word.ofBytes?_toBytes]
    rfl
  | bytes x => cases hb; rw [Value.decode, show code.kind = _ from hf]; rfl
  | text s =>
    cases hb
    rw [Value.decode, hf.1]
    simp only [Encoding.decode_encode hf.2]
    rfl
  | date d => cases hb; exact Date.decode_toBytes e hf d
  | mechanisms l =>
    cases hb
    rw [Value.decode, show code.kind = _ from hf]
    simp only [Word.listOfBytes?_flatMap_toBytes]
    rfl
  | template t =>
    obtain ⟨l⟩ := t
    cases hb
    rw [Template.encode] at hs ⊢
    have block := Block.decode?_encode hs
    rw [Attribute.normalized_encodeAll] at block
    have members := Attribute.decode_encodeAll l hi.1 hi.2 hd.2 fun f hf => by
      have := Block.size_lt_encode hf
      omega
    have distinct := (Attribute.codes_disclosedAll l).nodup hd.1
    rw [Value.decode_template e code _ hf, block]
    simp only [members, Template.ofList_of_nodup distinct, Value.disclosed, Template.disclosed]

theorem Attribute.decode_encodeAll {e : Encoding} (l : List Attribute)
    (hf : ∀ a ∈ l, a.value.Fits e a.code)
    (hi : Attribute.insideAll (fun l => ∀ a ∈ l, a.value.Fits e a.code) l)
    (hd : Attribute.insideAll (fun l => (l.map (·.code)).Nodup) l)
    (hs : ∀ f ∈ Attribute.encodeAll e l, f.size < 2 ^ 64) :
    (Attribute.encodeAll e l).map (Field.decode e) = Attribute.disclosedAll l := by
  cases l with
  | nil => rfl
  | cons a l =>
    obtain ⟨code, v, present, sensitive⟩ := a
    rw [Attribute.encodeAll] at hs
    have rest := Attribute.decode_encodeAll l (fun b hb => hf b (List.mem_cons_of_mem _ hb)) hi.2
      hd.2 fun f h => hs f (List.mem_append_right _ h)
    rw [Attribute.encodeAll, List.map_append, rest, Attribute.disclosedAll, Attribute.encode?,
      Attribute.disclosed?_eq]
    congr 1
    cases hb : v.encode e with
    | none => rw [if_pos (Value.encode_eq_none_iff.mp hb)]; rfl
    | some b =>
      have size : b.length < 2 ^ 64 := hs (.holding code b) (List.mem_append_left _ (by
        simp [Attribute.encode?, hb]))
      have value := Value.decode_encode v (hf _ List.mem_cons_self) hi.1 hd.1 hb size
      have held : ¬ v.isAbsent = true := by rw [← Value.encode_eq_none_iff (e := e), hb]; simp
      rw [if_neg held, ← value]
      rfl

end

theorem Template.decode_encode {e : Encoding} {t : Template} (hd : t.Distinct) (hf : t.Fits e)
    (hs : octets (t.encode e) < 2 ^ 64) :
    (t.encode e).map (Field.decode e) = t.disclosed.attributes := by
  obtain ⟨l⟩ := t
  rw [Template.encode] at hs ⊢
  exact Attribute.decode_encodeAll l hf.1 hf.2 hd.2 fun f h =>
    Nat.lt_of_le_of_lt (size_le_octets h) hs

theorem Attribute.flags_disclosedAll (l : List Attribute) :
    ∀ a ∈ disclosedAll l, a.present = true ∧ a.sensitive = false := by
  induction l with
  | nil => intro a ha; cases ha
  | cons b l ih =>
    intro a ha
    rw [disclosedAll, disclosed?_eq] at ha
    rcases List.mem_append.mp ha with ha | ha
    · split at ha
      · cases ha
      · cases List.mem_singleton.mp ha; exact ⟨rfl, rfl⟩
    · exact ih a ha

/-- A template is read back from its fields as a token that holds it would tell it: what has a
value comes in order with its code and value, at every depth, known and not sensitive. Of all
dates those with eight digits come back, and any other as its octets. -/
theorem Template.written_reads_back (e : Encoding) (t : Template) (hd : t.Distinct) (hf : t.Fits e)
    (hs : octets (t.encode e) < 2 ^ 64) :
    (t.encode e).map (Field.decode e) = t.disclosed.attributes ∧
    (∀ a ∈ (t.encode e).map (Field.decode e), a.present = true ∧ a.sensitive = false) ∧
    (∀ code : AttributeCode, code.kind = .date → ∀ d : Date,
      Value.decode e code d.toBytes = if d.HasEightDigits then .date d else .bytes d.toBytes) := by
  have read := decode_encode hd hf hs
  refine ⟨read, ?_, fun code hk d => Date.decode_toBytes e hk d⟩
  obtain ⟨l⟩ := t
  rw [read]
  exact Attribute.flags_disclosedAll l

/-- A Latin-1 label beside a value that is not set and a template with two dates, of which one
has a year of five digits. -/
theorem Template.written_reads_back_of_dates_inside :
    let inner : Template :=
      ⟨[.of 0x110 (.date ⟨2025, 1, 2⟩), .of 0x11 .absent, .of 0x111 (.date ⟨12025, 1, 2⟩)]⟩
    let t : Template :=
      ⟨[.of 0x3 (.text "clé"), .of 0x102 .absent, .of 0x40000211 (.template inner)]⟩
    t.Distinct ∧ t.Fits .latin1 ∧ octets (t.encode .latin1) < 2 ^ 64 ∧
      (t.encode .latin1).map (Field.decode .latin1) = t.disclosed.attributes := by
  intro inner t
  have distinct : t.Distinct := by decide
  have fits : t.Fits .latin1 := by decide
  have size : octets (t.encode .latin1) < 2 ^ 64 := by cbv
  exact ⟨distinct, fits, size, (written_reads_back _ t distinct fits size).1⟩

end TokenMarshal

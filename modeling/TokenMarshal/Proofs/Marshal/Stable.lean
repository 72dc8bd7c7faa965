/-
  TokenMarshal.Proofs.Marshal.Stable — what is read, whatever it is, is written and read again.

  A token may give any octets for any code. They are read as some value, of the kind of the
  code or octets again, and that value is stable (`Value.stable_decode`): it can be written,
  and what is written reads as the same value, without the attributes in it that have none
  (`pruned`). Where the kind has one form only, these are the octets that the token gave
  (`Value.encode_decode_of_exact`). Other kinds may take more of them than were read: a number
  takes eight, U+FFFD three in the place of one, and no value more than
  `Value.length_encode_decode_le` says, so the condition that what is written has less than
  `2 ^ 64` octets says nothing of octets below `2 ^ 62`.

  The induction is on the number of octets, since the members of a block are read from fewer
  than the block has. Of members that repeat a code the template has the last, so the members
  that are written are some of those that were read (`Template.sublist_ofList`).
-/
import Mathlib.Data.List.Flatten
import TokenMarshal.Proofs.Attribute.Coherent

namespace TokenMarshal

open Marshal Text

mutual

/-- A value without the attributes in it that have none, at any depth. -/
def Value.pruned : Value → Value
  | .template t => .template (Template.pruned t)
  | v => v

/-- A template without the attributes that have no value, at any depth. -/
def Template.pruned : Template → Template
  | ⟨l⟩ => ⟨Attribute.prunedAll l⟩

def Attribute.prunedAll : List Attribute → List Attribute
  | [] => []
  | a :: l => (Attribute.pruned? a).toList ++ Attribute.prunedAll l

def Attribute.pruned? : Attribute → Option Attribute
  | ⟨_, .absent, _, _⟩ => none
  | ⟨code, v, present, sensitive⟩ => some ⟨code, Value.pruned v, present, sensitive⟩

end

theorem Attribute.pruned?_eq (a : Attribute) :
    pruned? a = if a.hasValue then some { a with value := a.value.pruned } else none := by
  rcases a with ⟨code, v, _, _⟩
  cases v <;> rfl

theorem Attribute.codes_prunedAll (l : List Attribute) :
    ((prunedAll l).map (·.code)).Sublist (l.map (·.code)) := by
  induction l with
  | nil => exact List.Sublist.refl []
  | cons a l ih =>
    rw [prunedAll, pruned?_eq]
    split
    · exact ih.cons_cons a.code
    · exact ih.cons a.code

/-- What the value is written as reads as the value, pruned. The length of what a template holds
is written in 64 bits. -/
def Value.Stable (e : Encoding) (code : AttributeCode) (v : Value) : Prop :=
  ∀ b, v.encode e = some b → (code.kind = .template → b.length < 2 ^ 64) →
    Value.decode e code b = v.pruned

/-! ## Templates -/

theorem Attribute.decode_encodeAll_of_stable {e : Encoding} {l : List Attribute}
    (coherent : ∀ a ∈ l, a.Coherent) (stable : ∀ a ∈ l, a.value.Stable e a.code)
    (small : ∀ f ∈ encodeAll e l, f.size < 2 ^ 64) :
    (encodeAll e l).map (Field.decode e) = prunedAll l := by
  induction l with
  | nil => rfl
  | cons a l ih =>
    obtain ⟨flags, coherent⟩ := List.forall_mem_cons.mp coherent
    obtain ⟨value, stable⟩ := List.forall_mem_cons.mp stable
    rw [encodeAll] at small
    have rest := ih coherent stable fun f hf => small f (List.mem_append_right _ hf)
    rw [encodeAll, List.map_append, rest, prunedAll, pruned?_eq]
    congr 1
    obtain ⟨code, v, present, sensitive⟩ := a
    cases written : v.encode e with
    | none =>
      have absent : Attribute.hasValue ⟨code, v, present, sensitive⟩ = false := by
        rw [hasValue, Value.encode_eq_none_iff.mp written]
        rfl
      rw [absent, encode?, written]
      rfl
    | some b =>
      have held : Attribute.hasValue ⟨code, v, present, sensitive⟩ = true := by
        rw [hasValue, Bool.not_eq_true', ← Bool.not_eq_true, ← Value.encode_eq_none_iff (e := e),
          written]
        exact fun h => by cases h
      obtain ⟨rfl, rfl⟩ : present = true ∧ sensitive = false := flags.1 held
      have size : b.length < 2 ^ 64 :=
        small (.holding code b) (List.mem_append_left _ (by simp [encode?, written]))
      have again : Value.decode e code b = v.pruned := value b written fun _ => size
      rw [held, if_pos rfl, ← again, encode?, written]
      rfl

/-- A template is stable if no code stands in it twice and its members are stable. -/
theorem Template.stable_of_members {e : Encoding} {code : AttributeCode} (kind : code.kind = .template)
    {t : Template} (distinct : (t.attributes.map (·.code)).Nodup)
    (coherent : ∀ a ∈ t.attributes, a.Coherent)
    (stable : ∀ a ∈ t.attributes, a.value.Stable e a.code) : (Value.template t).Stable e code := by
  obtain ⟨l⟩ := t
  intro b written small
  rw [Value.encode, Template.encode] at written
  cases written
  have block := Block.decode?_encode (small kind)
  rw [Attribute.normalized_encodeAll] at block
  have members : (Attribute.encodeAll e l).map (Field.decode e) = Attribute.prunedAll l :=
    Attribute.decode_encodeAll_of_stable coherent stable fun f hf => by
      have size := Block.size_lt_encode hf
      have block_size := small kind
      omega
  rw [Value.decode_template e code _ kind, block]
  simp only [members, Value.pruned, Template.pruned,
    Template.ofList_of_nodup ((Attribute.codes_prunedAll l).nodup distinct)]

theorem Template.encode_eq (e : Encoding) (t : Template) :
    t.encode e = Attribute.encodeAll e t.attributes := by
  obtain ⟨l⟩ := t
  rw [Template.encode]

/-- The members of a block take at most three times as many octets as the block, if each
of its payloads does with five more. -/
theorem Attribute.length_encodeAll_le {e : Encoding} {fields : List Field}
    (each : ∀ f ∈ fields, ∀ p, f.content = .payload p →
      ∃ b, (Value.decode e f.code p).encode e = some b ∧ b.length ≤ 3 * p.length + 5) :
    (Block.encode (encodeAll e (fields.map (Field.decode e)))).length ≤
      3 * (Block.encode fields).length := by
  induction fields with
  | nil => exact Nat.zero_le _
  | cons f fields ih =>
    obtain ⟨first, each⟩ := List.forall_mem_cons.mp each
    have rest := ih each
    have entry : (Block.encode (encode? e (f.decode e)).toList).length ≤ 3 * (Block.entry f).length := by
      rw [Block.entry_length]
      cases content : f.content with
      | missing len =>
        have none_written : encode? e (f.decode e) = none := by
          rw [Field.decode, content]
          rfl
        rw [none_written]
        exact Nat.zero_le _
      | payload p =>
        obtain ⟨b, written, length⟩ := first p content
        have one_written : encode? e (f.decode e) = some (.holding f.code b) := by
          rw [Field.decode, content]
          simp only [encode?, written, Option.map_some]
        have size : f.size = p.length := by rw [Field.size, Field.payload?, content]; rfl
        rw [one_written, Option.toList_some, Block.encode_cons, List.length_append,
          Block.entry_length, size]
        show 16 + b.length + 0 ≤ 3 * (16 + p.length)
        omega
    rw [List.map_cons, encodeAll, Block.encode_append, Block.encode_cons, List.length_append,
      List.length_append]
    omega

/-- Fewer members take fewer octets. -/
theorem Attribute.length_encodeAll_of_sublist (e : Encoding) {l l' : List Attribute}
    (h : l.Sublist l') :
    (Block.encode (encodeAll e l)).length ≤ (Block.encode (encodeAll e l')).length := by
  rw [encodeAll_eq, encodeAll_eq]
  exact ((h.filterMap _).flatMap Block.entry).length_le

/-! ## Values -/

/-- A value of the kind is written in the octets that it is read from, and in no others. -/
def Kind.IsExact (e : Encoding) : Kind → Prop
  | .bytes | .date | .numberList => True
  | .text => e = .latin1
  | .boolean | .number | .template => False

theorem Value.encode_decode_of_exact {e : Encoding} {code : AttributeCode}
    (exact_kind : code.kind.IsExact e) (b : List UInt8) :
    (Value.decode e code b).encode e = some b := by
  cases kind : code.kind with
  | bytes =>
    rw [Value.decode, kind]
    rfl
  | date =>
    rw [Value.decode, kind]
    cases read : Date.ofBytes? b with
    | none => rfl
    | some d =>
      show some d.toBytes = some b
      rw [Date.toBytes_of_ofBytes? read]
  | numberList =>
    rw [Value.decode, kind]
    cases read : Word.listOfBytes? b with
    | none => rfl
    | some l =>
      show some (l.flatMap Word.toBytes) = some b
      rw [Word.flatMap_toBytes_of_listOfBytes? read]
  | text =>
    rw [kind] at exact_kind
    obtain rfl : e = .latin1 := exact_kind
    rw [Value.decode, kind]
    show some (Encoding.encode .latin1 (Encoding.decode .latin1 b)) = some b
    rw [Encoding.encode_decode_latin1]
  | _ =>
    rw [kind] at exact_kind
    exact exact_kind.elim

/-- Whatever is read can be written, in not many more octets than it was read from. -/
theorem Value.exists_encode_decode (e : Encoding) (code : AttributeCode) (b : List UInt8) :
    ∃ b', (Value.decode e code b).encode e = some b' ∧ b'.length ≤ 3 * b.length + 5 := by
  induction size : b.length using Nat.strongRecOn generalizing b code with
  | ind n ih =>
    subst size
    have as_read : ∃ b', some b = some b' ∧ b'.length ≤ 3 * b.length + 5 := ⟨b, rfl, by omega⟩
    by_cases exact_kind : code.kind.IsExact e
    · rw [encode_decode_of_exact exact_kind]
      exact as_read
    cases kind : code.kind with
    | boolean =>
      rw [Value.decode, kind]
      exact ⟨_, rfl, Nat.le_add_left 1 _⟩
    | number =>
      rw [Value.decode, kind]
      cases read : Word.ofBytes? b with
      | none => exact as_read
      | some n =>
        have some_octet := Word.length_of_ofBytes? read
        refine ⟨Word.toBytes n, rfl, ?_⟩
        rw [Word.toBytes_length]
        omega
    | text =>
      rw [Value.decode, kind]
      exact ⟨_, rfl, Nat.le_add_right_of_le (Encoding.length_encode_decode_le e b)⟩
    | template =>
      rw [Value.decode_template e code b kind]
      cases read : Block.decode? b with
      | none => exact as_read
      | some fields =>
        have members := Attribute.length_encodeAll_le (e := e) fun f hf p content =>
          ih p.length (Block.payload_length_lt read hf content) f.code p rfl
        rw [Block.encode_of_decode? read] at members
        have kept := Attribute.length_encodeAll_of_sublist e
          (Template.sublist_ofList (fields.map (Field.decode e)))
        refine ⟨_, rfl, Nat.le_add_right_of_le ?_⟩
        rw [Template.encode_eq]
        exact Nat.le_trans kept members
    | _ =>
      rw [kind] at exact_kind
      exact absurd trivial exact_kind

/-- Values of the other kinds hold no attributes. -/
theorem Value.pruned_decode (e : Encoding) {code : AttributeCode} (other : code.kind ≠ .template)
    (b : List UInt8) : (Value.decode e code b).pruned = Value.decode e code b := by
  have getD {α : Type} {f : α → Value} (flat : ∀ x, (f x).pruned = f x) (o : Option α) :
      ((o.map f).getD (.bytes b)).pruned = (o.map f).getD (.bytes b) := by
    cases o with
    | none => rfl
    | some x => exact flat x
  rw [Value.decode]
  cases kind : code.kind with
  | template => exact absurd kind other
  | number => exact getD (f := .number) (fun _ => rfl) _
  | numberList => exact getD (f := .mechanisms) (fun _ => rfl) _
  | date => exact getD (f := .date) (fun _ => rfl) _
  | _ => rfl

/-- Octets that are read as octets are written as they are. -/
theorem Value.stable_bytes {e : Encoding} {code : AttributeCode} {b : List UInt8}
    (read : Value.decode e code b = .bytes b) : (Value.bytes b).Stable e code := by
  intro b' written _
  cases written
  exact read

theorem Value.stable_decode (e : Encoding) (code : AttributeCode) (b : List UInt8) :
    (Value.decode e code b).Stable e code := by
  induction size : b.length using Nat.strongRecOn generalizing b code with
  | ind n ih =>
    subst size
    by_cases exact_kind : code.kind.IsExact e
    · have other : code.kind ≠ .template := fun kind => by rw [kind] at exact_kind; exact exact_kind
      intro b' written _
      rw [encode_decode_of_exact exact_kind] at written
      cases written
      exact (pruned_decode e other b).symm
    cases kind : code.kind with
    | boolean =>
      rw [Value.decode, kind]
      intro b' written _
      cases written
      rw [Value.decode, kind]
      cases b.any (· != 0) <;> rfl
    | number =>
      rw [Value.decode, kind]
      cases read : Word.ofBytes? b with
      | none => exact stable_bytes (by rw [Value.decode, kind]; simp only [read]; rfl)
      | some n =>
        intro b' written _
        cases written
        rw [Value.decode, kind]
        simp only [Word.ofBytes?_toBytes]
        rfl
    | text =>
      rw [Value.decode, kind]
      intro b' written _
      cases written
      rw [Value.decode, kind]
      simp only [Encoding.decode_encode (Encoding.writes_decode e b)]
      rfl
    | template =>
      rw [Value.decode_template e code b kind]
      cases read : Block.decode? b with
      | none => exact stable_bytes (by rw [Value.decode_template e code b kind, read])
      | some fields =>
        have each : ∀ a ∈ (Template.ofList (fields.map (Field.decode e))).attributes,
            a.Coherent ∧ a.value.Stable e a.code := by
          intro a ha
          obtain ⟨f, hf, rfl⟩ := List.mem_map.mp (Template.mem_of_mem_ofList ha)
          refine ⟨Field.coherent_decode e f, ?_⟩
          unfold Field.decode
          cases content : f.content with
          | missing len => exact fun b' written _ => by cases written
          | payload p =>
            exact ih p.length (Block.payload_length_lt read hf content) f.code p rfl
        exact Template.stable_of_members kind (Template.nodup_ofList _) (fun a ha => (each a ha).1)
          fun a ha => (each a ha).2
    | _ =>
      rw [kind] at exact_kind
      exact absurd trivial exact_kind

/-- Whatever octets are read for whatever code, the value can be written, in octets that are
read as the same value without the attributes in it that have none. For octets, dates, lists of
mechanisms and texts in Latin-1 these are the octets that were read, of the shape of the kind or
not. The condition on templates is that the lengths of what is in them can be written at all. -/
theorem Value.decode_encode_decode (e : Encoding) (code : AttributeCode) (b : List UInt8) :
    ∃ b', (Value.decode e code b).encode e = some b' ∧
      ((code.kind = .template → b.length < 2 ^ 62 ∨ b'.length < 2 ^ 64) →
        Value.decode e code b' = (Value.decode e code b).pruned) ∧
      (code.kind.IsExact e → b' = b) ∧ b'.length ≤ 3 * b.length + 5 := by
  obtain ⟨b', written, length⟩ := exists_encode_decode e code b
  refine ⟨b', written, fun small => stable_decode e code b b' written fun kind => ?_,
    fun exact_kind => ?_, length⟩
  · have := small kind
    omega
  · rw [encode_decode_of_exact exact_kind] at written
    exact (Option.some.inj written).symm

/-- A template with a text that is not UTF-8, a number of one octet that a second one replaces, a
member that cannot be given, a boolean of two octets, what is no block, and a block in which
of two members one has no value and the other is no date. Beside it a list of mechanisms that
does not come out even. -/
theorem Value.decode_encode_decode_of_rough_block :
    let inner := Block.encode [.withoutValue 0x102, .holding 0x110 [0x32]]
    let b := Block.encode [.holding 0x3 [0xC3], .holding 0x161 [7], .withoutValue 0x11,
      .holding 0x1 [0, 2], .holding 0x40000212 [1, 2], .holding 0x40000213 inner,
      .holding 0x161 [9]]
    b.length < 2 ^ 62 ∧
    (∃ b', (Value.decode .utf8 0x40000211 b).encode .utf8 = some b' ∧
      Value.decode .utf8 0x40000211 b' = (Value.decode .utf8 0x40000211 b).pruned) ∧
    (AttributeCode.kind 0x40000600).IsExact .utf8 ∧
    (Value.decode .utf8 0x40000600 [1, 2, 3]).encode .utf8 = some [1, 2, 3] := by
  intro inner b
  have small : b.length < 2 ^ 62 := by decide +kernel
  have exact_kind : (AttributeCode.kind 0x40000600).IsExact .utf8 := trivial
  obtain ⟨b', written, stable, -⟩ := decode_encode_decode .utf8 0x40000211 b
  obtain ⟨c, mechanisms, -, as_read, -⟩ := decode_encode_decode .utf8 0x40000600 [1, 2, 3]
  rw [as_read exact_kind] at mechanisms
  exact ⟨small, ⟨b', written, stable fun _ => .inl small⟩, exact_kind, mechanisms⟩

end TokenMarshal

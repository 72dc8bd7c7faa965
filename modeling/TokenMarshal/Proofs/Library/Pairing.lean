/-
  TokenMarshal.Proofs.Library.Pairing — every field is laid out with the array of its own block.

  Fields are laid out in three rounds: the blocks among them are read, the entries of each are laid
  out as an array, and the fields take these arrays one after another. So it hangs on all rounds
  agreeing on which fields have a block. They do (`ofFields?_cons_of_none`, `ofFields?_cons_of_some`):
  a field without a block takes no array, and one with a block takes the first, which is its own.
  By induction on the fields it is as if each had been laid out by itself (`ofFields?_eq_mapM`), and
  no array is ever wanting.

  `ofFields?_laid` says what becomes of each field: no slots at all if one of them holds octets that
  are no block where a block is due, and otherwise a slot for each (`Laid`).
-/
import TokenMarshal.Library.Slot
import TokenMarshal.Proofs.Except

namespace TokenMarshal

open Library Marshal

/-- The field is to hold a block, and its octets are none. -/
def Marshal.Field.Malformed (f : Field) : Prop :=
  f.code.kind = .template ∧ ∃ b, f.content = .payload b ∧ Block.decode? b = none

namespace Library.Slot

/-- A slot that points to the octets of a field, or to nothing for a field without octets. -/
inductive Flat (f : Field) : Slot → Prop
  | null {len : UInt64} : f.content = .missing len → Flat f ⟨f.code, .null, len⟩
  | octets {b : List UInt8} : f.content = .payload b →
      Flat f ⟨f.code, .bytes b 0, UInt64.ofNat b.length⟩

/-- The slot of a field: for octets that are the block of a template, an array with a slot for each
entry of the block, in order. -/
inductive Laid (f : Field) : Slot → Prop
  | null {len : UInt64} : f.content = .missing len → Laid f ⟨f.code, .null, len⟩
  | octets {b : List UInt8} : f.content = .payload b → f.code.kind ≠ .template →
      Laid f ⟨f.code, .bytes b 0, UInt64.ofNat b.length⟩
  | array {b : List UInt8} {inner : List Field} {l : List Slot} : f.content = .payload b →
      f.code.kind = .template → Block.decode? b = some inner → List.Forall₂ Flat inner l →
      Laid f ⟨f.code, .slots l, UInt64.ofNat (24 * inner.length)⟩

/-! ## One field after another -/

/-- A field laid out by itself. -/
def ofField? (f : Field) : Except Fault Slot :=
  match block? f with
  | some block => (entries? block).map fun inner => ofSlots f.code (inner.map ofField)
  | none => .ok (ofField f)

variable {f : Field} {fields : List Field}

theorem ofField?_of_block {block : List UInt8} (blocked : block? f = some block) :
    ofField? f = (entries? block).map fun inner => ofSlots f.code (inner.map ofField) := by
  rw [ofField?, blocked]

theorem ofField?_of_no_block (unblocked : block? f = none) : ofField? f = .ok (ofField f) := by
  rw [ofField?, unblocked]

theorem ofFields?_cons_of_none (unblocked : block? f = none) :
    ofFields? (f :: fields) = (ofFields? fields).map (ofField f :: ·) := by
  unfold ofFields? members?
  rw [List.filterMap_cons_none unblocked]
  cases (fields.filterMap block?).mapM entries? with
  | error fault => rfl
  | ok members => simp only [bind, Except.bind, layOut?, unblocked]

theorem ofFields?_cons_of_some {block : List UInt8} (blocked : block? f = some block) :
    ofFields? (f :: fields) = entries? block >>= fun inner =>
      (ofFields? fields).map (ofSlots f.code (inner.map ofField) :: ·) := by
  unfold ofFields? members?
  rw [List.filterMap_cons_some blocked, List.mapM_cons]
  cases entries? block with
  | error fault => rfl
  | ok inner =>
    cases (fields.filterMap block?).mapM entries? with
    | error fault => rfl
    | ok members =>
      simp only [bind, Except.bind, pure, Except.pure, List.map_cons, layOut?, blocked]

/-- The rounds agree: each field is laid out as it is by itself. -/
theorem ofFields?_eq_mapM (fields : List Field) : ofFields? fields = fields.mapM ofField? := by
  induction fields with
  | nil => rfl
  | cons f fields ih =>
    rw [List.mapM_cons, ← ih]
    cases blocked : block? f with
    | none =>
      rw [ofFields?_cons_of_none blocked, ofField?_of_no_block blocked]
      cases ofFields? fields <;> rfl
    | some block =>
      rw [ofFields?_cons_of_some blocked, ofField?_of_block blocked]
      cases entries? block with
      | error fault => rfl
      | ok inner => cases ofFields? fields <;> rfl

/-! ## What a field becomes -/

theorem block?_eq_some_iff {block : List UInt8} :
    block? f = some block ↔ f.code.kind = .template ∧ f.content = .payload block := by
  unfold block?
  split
  next b kind content => simp [kind, content]
  next other =>
    simp only [reduceCtorEq, false_iff, not_and]
    intro kind content
    exact other block kind content

theorem flat_ofField (f : Field) : Flat f (ofField f) := by
  obtain ⟨code, b | len⟩ := f
  · exact .octets rfl
  · exact .null rfl

theorem ne_template_of_no_block {b : List UInt8} (unblocked : block? f = none)
    (content : f.content = .payload b) : f.code.kind ≠ .template := by
  intro kind
  rw [block?_eq_some_iff.mpr ⟨kind, content⟩] at unblocked
  cases unblocked

theorem laid_of_no_block (unblocked : block? f = none) : Laid f (ofField f) := by
  obtain ⟨code, b | len⟩ := f
  · exact .octets rfl (ne_template_of_no_block unblocked rfl)
  · exact .null rfl

theorem laid_of_block {block : List UInt8} {inner : List Field} (blocked : block? f = some block)
    (read : Block.decode? block = some inner) : Laid f (ofSlots f.code (inner.map ofField)) := by
  obtain ⟨kind, content⟩ := block?_eq_some_iff.mp blocked
  have members : List.Forall₂ Flat inner (inner.map ofField) :=
    List.forall₂_map_right_iff.mpr (List.forall₂_same.mpr fun f _ => flat_ofField f)
  have len : (inner.map ofField).length * slotSize = 24 * inner.length := by
    rw [List.length_map, Nat.mul_comm, slotSize]
  rw [ofSlots, len]
  exact .array content kind read members

/-- A field is malformed, and then laying it out fails, or it has a slot. -/
theorem ofField?_cases (f : Field) :
    (f.Malformed ∧ ofField? f = .error (.returned ReturnCode.templateInconsistent)) ∨
      (¬ f.Malformed ∧ ∃ s, ofField? f = .ok s ∧ Laid f s) := by
  cases blocked : block? f with
  | none =>
    refine .inr ⟨?_, _, ofField?_of_no_block blocked, laid_of_no_block blocked⟩
    rintro ⟨kind, b, content, -⟩
    exact ne_template_of_no_block blocked content kind
  | some block =>
    obtain ⟨kind, content⟩ := block?_eq_some_iff.mp blocked
    rw [ofField?_of_block blocked, entries?]
    cases read : Block.decode? block with
    | none => exact .inl ⟨⟨kind, block, content, read⟩, rfl⟩
    | some inner =>
      refine .inr ⟨?_, _, rfl, laid_of_block blocked read⟩
      rintro ⟨-, b, same, unread⟩
      rw [content] at same
      cases same
      rw [read] at unread
      cases unread

theorem ofFields?_cases (fields : List Field) :
    ((∃ f ∈ fields, f.Malformed) ∧
        ofFields? fields = .error (.returned ReturnCode.templateInconsistent)) ∨
      ((∀ f ∈ fields, ¬ f.Malformed) ∧
        ∃ slots, ofFields? fields = .ok slots ∧ List.Forall₂ Laid fields slots) := by
  rw [ofFields?_eq_mapM]
  induction fields with
  | nil => exact .inr ⟨fun _ h => absurd h List.not_mem_nil, [], rfl, .nil⟩
  | cons f fields ih =>
    rw [List.mapM_cons, List.exists_mem_cons_iff, List.forall_mem_cons]
    rcases ofField?_cases f with ⟨malformed, failed⟩ | ⟨fine, s, made, laid⟩
    · exact .inl ⟨.inl malformed, by rw [failed]; rfl⟩
    · rw [made]
      rcases ih with ⟨malformed, failed⟩ | ⟨allFine, slots, allMade, allLaid⟩
      · exact .inl ⟨.inr malformed, by rw [failed]; rfl⟩
      · exact .inr ⟨⟨fine, allFine⟩, s :: slots, by rw [allMade]; rfl, .cons laid allLaid⟩

/-- Fields fail to be laid out, as an inconsistent template, just when one of them holds octets that
are no block where a block is due. Otherwise there is a slot for each field in order: a null pointer
with the length of a field without octets, the octets of a field that is no template, and for a
template the array of the entries of its own block, in order. -/
theorem ofFields?_laid (fields : List Field) :
    (ofFields? fields = .error (.returned ReturnCode.templateInconsistent) ↔
      ∃ f ∈ fields, f.Malformed) ∧
    ((∃ slots, ofFields? fields = .ok slots ∧ List.Forall₂ Laid fields slots) ↔
      ∀ f ∈ fields, ¬ f.Malformed) := by
  rcases ofFields?_cases fields with ⟨⟨f, hf, malformed⟩, failed⟩ | ⟨fine, slots, made, laid⟩
  · rw [failed]
    refine ⟨⟨fun _ => ⟨f, hf, malformed⟩, fun _ => rfl⟩, ⟨?_, fun fine => absurd malformed (fine f hf)⟩⟩
    rintro ⟨slots, made, -⟩
    cases made
  · rw [made]
    refine ⟨⟨fun h => (by cases h), ?_⟩, ⟨fun _ => fine, fun _ => ⟨slots, rfl, laid⟩⟩⟩
    rintro ⟨f, hf, malformed⟩
    exact absurd malformed (fine f hf)

end Library.Slot

end TokenMarshal

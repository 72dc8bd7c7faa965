/-
  TokenMarshal.Proofs.Curve.Resolve — what parameters say about a curve, exactly.

  Parameters that refer to a curve are the encoding of its identifier or of a name for it
  (`byName`), and nothing else that the reader of elements takes (`refers_of_oid?`). By its
  identifier a curve is looked up as it is (`size?_der`), and by a name as the identifier that
  the name stands for (`size?_byName`); the encodings of names are no keys of the table, for
  they have another tag.

  So the size of a curve is that of the entry of the table whose identifier the parameters
  are or name (`size?_eq_some_iff`), the curves of which points have a fixed length are four
  (`fixedLength?_eq_some_iff`), and no repair and no signature tells a name from the
  identifier it stands for (`params_resolve`).
-/
import TokenMarshal.Proofs.Curve.Params
import TokenMarshal.Proofs.Der
import TokenMarshal.Proofs.Oid
import TokenMarshal.Repair.Point
import TokenMarshal.Repair.Signature

namespace TokenMarshal.Curve

/-- The name of a curve as parameters. -/
def byName (name : String) : List UInt8 := Der.element Der.printableTag (nameOctets name)

/-- Parameters refer to a curve by its identifier or by a name that stands for it. -/
def Refers (params : List UInt8) (o : Oid) : Prop :=
  params = o.der ∨ ∃ name, (name, o) ∈ names ∧ params = byName name

/-- The Edwards and Montgomery curves, with the octets of their points. -/
def fixedLengths : List (Oid × Nat) := [(ed25519, 32), (ed448, 57), (x25519, 32), (x448, 56)]

/-! ## References -/

theorem der_ne_byName (o : Oid) (name : String) : o.der ≠ byName name := by
  intro same
  exact absurd (List.cons.inj same).1 (by decide)

theorem mem_names_of_ofName? {name : List UInt8} {o : Oid} (found : ofName? name = some o) :
    ∃ s, (s, o) ∈ names ∧ nameOctets s = name := by
  obtain ⟨⟨s, o'⟩, first, rfl⟩ := Option.map_eq_some_iff.mp found
  exact ⟨s, List.mem_of_find?_eq_some first, by simpa using List.find?_some first⟩

theorem refers_of_oid? {params : List UInt8} {o : Oid} (found : oid? params = some o) :
    Refers params o := by
  unfold oid? at found
  split at found
  · cases found
  next tag content read =>
    have whole := Der.eq_element_of_read? read
    split at found
    next is_oid =>
      left
      rw [whole, is_oid, Oid.der, Oid.content_of_ofContent? found]
    split at found
    next is_name =>
      obtain ⟨name, known, rfl⟩ := mem_names_of_ofName? found
      exact .inr ⟨name, known, by rw [whole, is_name, byName]⟩
    · cases found

theorem oid?_byName : ∀ e ∈ names, oid? (byName e.1) = some e.2 := by decide +kernel

theorem oid?_der_of_mem_names : ∀ e ∈ names, oid? e.2.der = some e.2 := by decide +kernel

/-! ## Sizes -/

theorem lookup?_der_of_mem_table : ∀ e ∈ table, lookup? e.oid.der = some e.size := by decide +kernel

theorem lookup?_eq_some_iff {key : List UInt8} {size : Size} :
    lookup? key = some size ↔ ∃ e ∈ table, e.size = size ∧ e.oid.der = key := by
  refine ⟨exists_entry_of_lookup?, ?_⟩
  rintro ⟨e, listed, rfl, rfl⟩
  exact lookup?_der_of_mem_table e listed

theorem lookup?_byName (name : String) : lookup? (byName name) = none := by
  refine Option.eq_none_iff_forall_ne_some.mpr fun size found => ?_
  obtain ⟨e, -, -, same⟩ := lookup?_eq_some_iff.mp found
  exact der_ne_byName e.oid name same

theorem size?_der (o : Oid) : size? o.der = lookup? o.der := by
  unfold size?
  split
  next size found => exact found.symm
  next unlisted =>
    split
    · exact unlisted.symm
    next o' found =>
      rcases refers_of_oid? found with same | ⟨name, -, same⟩
      · rw [if_pos same.symm, unlisted]
      · exact absurd same (der_ne_byName o name)

theorem size?_byName {name : String} {o : Oid} (known : (name, o) ∈ names) :
    size? (byName name) = lookup? o.der := by
  simp only [size?, lookup?_byName, oid?_byName _ known, if_neg (der_ne_byName o name)]

theorem size?_eq_some_iff {params : List UInt8} {size : Size} :
    size? params = some size ↔ ∃ e ∈ table, e.size = size ∧
      (params = e.oid.der ∨ ∃ name o, (name, o) ∈ names ∧ params = byName name ∧ o.der = e.oid.der) := by
  constructor
  · intro found
    obtain ⟨e, listed, size_eq, same | ⟨o, named, same⟩⟩ := exists_entry_of_size? found
    · exact ⟨e, listed, size_eq, .inl same.symm⟩
    · rcases refers_of_oid? named with rfl | ⟨name, known, rfl⟩
      · exact ⟨e, listed, size_eq, .inl same.symm⟩
      · exact ⟨e, listed, size_eq, .inr ⟨name, o, known, rfl, same.symm⟩⟩
  · rintro ⟨e, listed, rfl, rfl | ⟨name, o, known, rfl, same⟩⟩
    · rw [size?_der]
      exact lookup?_der_of_mem_table e listed
    · rw [size?_byName known, same]
      exact lookup?_der_of_mem_table e listed

/-! ## Fixed lengths -/

theorem fixedLengthOf?_eq_some_iff {o : Oid} {n : Nat} :
    fixedLengthOf? o = some n ↔ (o, n) ∈ fixedLengths := by
  constructor
  · intro fixed
    have listed : ∀ o ∈ fixedCurves, ∀ n ∈ fixedLengthOf? o, (o, n) ∈ fixedLengths := by decide
    exact listed o (mem_fixedCurves_of_fixedLengthOf? fixed) n fixed
  · have fixed : ∀ e ∈ fixedLengths, fixedLengthOf? e.1 = some e.2 := by decide
    exact fixed (o, n)

theorem oid?_der_of_fixed : ∀ e ∈ fixedLengths, oid? e.1.der = some e.1 := by decide +kernel

theorem fixedLength?_eq_some_iff {params : List UInt8} {n : Nat} :
    fixedLength? params = some n ↔ ∃ o, (o, n) ∈ fixedLengths ∧ Refers params o := by
  constructor
  · intro found
    obtain ⟨o, named, fixed⟩ := Option.bind_eq_some_iff.mp found
    exact ⟨o, fixedLengthOf?_eq_some_iff.mp fixed, refers_of_oid? named⟩
  · rintro ⟨o, fixed, rfl | ⟨name, known, rfl⟩⟩
    · rw [fixedLength?, oid?_der_of_fixed _ fixed]
      exact fixedLengthOf?_eq_some_iff.mpr fixed
    · rw [fixedLength?, oid?_byName _ known]
      exact fixedLengthOf?_eq_some_iff.mpr fixed

/-! ## Names and identifiers -/

section

variable {name : String} {o : Oid}

theorem size?_name_eq (known : (name, o) ∈ names) : size? (byName name) = size? o.der :=
  (size?_byName known).trans (size?_der o).symm

theorem fixedLength?_name_eq (known : (name, o) ∈ names) :
    fixedLength? (byName name) = fixedLength? o.der := by
  rw [fixedLength?, fixedLength?, oid?_byName _ known, oid?_der_of_mem_names _ known]

end

/-- Parameters have a size just when they are the identifier of an entry of the table or a name for
it, and then they have that entry's; points of a fixed length just when they are one of four
identifiers or a name for it; and never both. A name and the identifier that it stands for are
alike in every repair of a point and for the order of every signature. -/
theorem params_resolve (params : List UInt8) :
    (∀ size, size? params = some size ↔ ∃ e ∈ table, e.size = size ∧
      (params = e.oid.der ∨
        ∃ name o, (name, o) ∈ names ∧ params = byName name ∧ o.der = e.oid.der)) ∧
    (∀ n, fixedLength? params = some n ↔ ∃ o, (o, n) ∈ fixedLengths ∧
      (params = o.der ∨ ∃ name, (name, o) ∈ names ∧ params = byName name)) ∧
    (size? params = none ∨ fixedLength? params = none) ∧
    ∀ name o, (name, o) ∈ names →
      (∀ p, Repair.point (byName name) p = Repair.point o.der p) ∧
      ∀ scheme : Scheme,
        scheme.orderLength? (some (byName name)) = scheme.orderLength? (some o.der) := by
  refine ⟨fun size => size?_eq_some_iff, fun n => fixedLength?_eq_some_iff, ?_,
    fun name o known => ⟨fun p => ?_, fun scheme => ?_⟩⟩
  · cases found : size? params with
    | none => exact .inl rfl
    | some size => exact .inr (fixedLength?_eq_none_of_size? found)
  · rw [Repair.point, Repair.point, fixedLength?_name_eq known, size?_name_eq known]
  · simp only [Scheme.orderLength?, Option.bind_some, size?_name_eq known]

/-- A curve of 521 bits and a Montgomery curve by their names, and the name of the SM2 curve beside
its identifier. -/
theorem params_resolve_of_names :
    size? (byName "secp521r1") = some ⟨66, 66⟩ ∧
    (fixedLength? (byName "curve448") = some 56 ∧ size? (byName "curve448") = none) ∧
    ("sm2p256v1", sm2p256v1) ∈ names ∧
    (∀ p, Repair.point (byName "sm2p256v1") p = Repair.point sm2p256v1.der p) ∧
    ∀ scheme : Scheme,
      scheme.orderLength? (some (byName "sm2p256v1")) = scheme.orderLength? (some sm2p256v1.der) := by
  have sized := ((params_resolve (byName "secp521r1")).1 ⟨66, 66⟩).mpr
    ⟨⟨secp521r1, 521, 521⟩, by decide, rfl, .inr ⟨"secp521r1", secp521r1, by decide, rfl, rfl⟩⟩
  obtain ⟨-, fixed, apart, -⟩ := params_resolve (byName "curve448")
  have montgomery := (fixed 56).mpr ⟨x448, by decide, .inr ⟨"curve448", by decide, rfl⟩⟩
  have known : ("sm2p256v1", sm2p256v1) ∈ names := by decide
  have unsized := apart.resolve_right (by rw [montgomery]; exact Option.some_ne_none 56)
  exact ⟨sized, ⟨montgomery, unsized⟩, known, (params_resolve []).2.2.2 _ _ known⟩

/-- The identifier of a listed curve with its length in two octets is none. -/
example : size? (0x06 :: 0x81 :: 0x08 :: secp256r1.content) = none ∧
    size? (0x06 :: 0x08 :: secp256r1.content) = some ⟨32, 32⟩ := by
  decide +kernel

end TokenMarshal.Curve

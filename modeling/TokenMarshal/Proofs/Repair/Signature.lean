/-
  TokenMarshal.Proofs.Repair.Signature — signatures that are repaired, and into what.

  The reader takes an element whose length is stated in one octet below 0x80, or in one octet
  after 0x81 (`StatesLength`), so it reads back every element of less than 256 octets that is
  written canonically, and also one with a longer length than it needs
  (`readElement?_of_statesLength`). The number in an integer below `256 ^ n` is what
  remains without the octet for its sign, and fills `n` octets (`fixedLength?_of_isInteger`).
  So a sequence of two such integers becomes those two numbers side by side
  (`signature_of_der`). What a repair gives always has another length than what it was given
  (`length_of_signature_fixed`).
-/
import TokenMarshal.Proofs.Curve.Params
import TokenMarshal.Proofs.Der
import TokenMarshal.Repair.Signature

namespace TokenMarshal.Repair

/-! ## Elements -/

/-- Octets that the reader takes for a length. -/
inductive StatesLength (n : Nat) : List UInt8 → Prop
  | short : n < 128 → StatesLength n [UInt8.ofNat n]
  | long : n < 256 → StatesLength n [0x81, UInt8.ofNat n]

theorem statesLength_length {n : Nat} (small : n < 256) : StatesLength n (Der.length n) := by
  by_cases short : n < 128
  · rw [Der.length_of_lt_128 short]
    exact .short short
  · rw [Der.length_of_lt_256 (by omega) small]
    exact .long small

theorem readLength?_of_statesLength {n : Nat} {header : List UInt8} (h : StatesLength n header)
    (rest : List UInt8) : readLength? (header ++ rest) = some (n, rest) := by
  cases h with
  | short small =>
    have octet : (UInt8.ofNat n).toNat = n := UInt8.toNat_ofNat_of_lt' (small.trans (by decide))
    simp only [List.singleton_append, readLength?, if_pos (Der.ofNat_lt_0x80 small), octet]
  | long small =>
    have octet : (UInt8.ofNat n).toNat = n := UInt8.toNat_ofNat_of_lt' small
    simp [readLength?, octet]

theorem readElement?_of_statesLength (tag : UInt8) {header content : List UInt8}
    (h : StatesLength content.length header) (rest : List UInt8) :
    readElement? tag (tag :: header ++ content ++ rest) = some (content, rest) := by
  rw [List.append_assoc, List.cons_append, readElement?, if_neg (not_not.mpr rfl),
    readLength?_of_statesLength h]
  simp

theorem readElement?_element (tag : UInt8) {content : List UInt8} (small : content.length < 256)
    (rest : List UInt8) : readElement? tag (Der.element tag content ++ rest) = some (content, rest) :=
  readElement?_of_statesLength tag (statesLength_length small) rest

/-- The numbers of a sequence of two integers, however its length is stated. -/
theorem readNumbers?_of_statesLength {header a b : List UInt8}
    (h : StatesLength (Der.element Der.integerTag a ++ Der.element Der.integerTag b).length header)
    (a_small : a.length < 256) (b_small : b.length < 256) :
    readNumbers? (Der.sequenceTag :: header ++
      (Der.element Der.integerTag a ++ Der.element Der.integerTag b)) = some (a, b) := by
  have sequence := readElement?_of_statesLength Der.sequenceTag h []
  have second := readElement?_element Der.integerTag b_small []
  rw [List.append_nil] at sequence second
  rw [readNumbers?, sequence]
  simp only [readElement?_element Der.integerTag a_small, second]

/-! ## Numbers of a fixed length -/

theorem fixedLength?_eq (n : Nat) (content : List UInt8) :
    fixedLength? n content =
      if (Der.magnitude content).length ≤ n then
        some (List.replicate (n - (Der.magnitude content).length) 0 ++ Der.magnitude content)
      else none := rfl

theorem length_of_fixedLength? {n : Nat} {content number : List UInt8}
    (fixed : fixedLength? n content = some number) : number.length = n := by
  rw [fixedLength?_eq] at fixed
  split at fixed
  next fits =>
    cases fixed
    rw [List.length_append, List.length_replicate]
    omega
  · cases fixed

theorem ofBigEndian_of_fixedLength? {n : Nat} {content number : List UInt8}
    (fixed : fixedLength? n content = some number) :
    Der.ofBigEndian number = Der.ofBigEndian content := by
  rw [fixedLength?_eq] at fixed
  split at fixed
  · cases fixed
    rw [Der.ofBigEndian_zeros_append, Der.ofBigEndian_magnitude]
  · cases fixed

theorem fixedLength?_of_isInteger {content : List UInt8} {n r : Nat} (h : Der.IsInteger content r)
    (small : r < 256 ^ n) :
    ∃ number, fixedLength? n content = some number ∧ number.length = n ∧
      Der.ofBigEndian number = r := by
  have fixed := fixedLength?_eq n content
  rw [if_pos (h.length_magnitude_le small)] at fixed
  exact ⟨_, fixed, length_of_fixedLength? fixed, (ofBigEndian_of_fixedLength? fixed).trans h.value⟩

/-! ## Signatures -/

theorem signature_eq_fixed_iff {n : Nat} {sig fixed : List UInt8} :
    signature n sig = .fixed fixed ↔
      (sig.length ≠ 2 * n ∧ sig.head? = some Der.sequenceTag) ∧
      ∃ a b first second, readNumbers? sig = some (a, b) ∧ fixedLength? n a = some first ∧
        fixedLength? n b = some second ∧ first ++ second = fixed := by
  unfold signature
  split
  next skipped =>
    refine ⟨fun h => (by cases h), ?_⟩
    rintro ⟨⟨other, sequence⟩, -⟩
    exact (skipped.elim other fun not_sequence => not_sequence sequence).elim
  next tried =>
    obtain ⟨other, sequence⟩ := not_or.mp tried
    rw [not_not] at sequence
    constructor
    · intro repaired
      refine ⟨⟨other, sequence⟩, ?_⟩
      cases numbers : readNumbers? sig with
      | none => rw [numbers] at repaired; cases repaired
      | some ab =>
        simp only [numbers] at repaired
        split at repaired
        next first second ha hb =>
          cases repaired
          exact ⟨ab.1, ab.2, first, second, rfl, ha, hb, rfl⟩
        · cases repaired
    · rintro ⟨-, a, b, first, second, numbers, ha, hb, rfl⟩
      simp only [numbers, ha, hb]

/-- A repair changes the length. -/
theorem length_of_signature_fixed {n : Nat} {sig fixed : List UInt8}
    (repaired : signature n sig = .fixed fixed) : sig.length ≠ 2 * n ∧ fixed.length = 2 * n := by
  obtain ⟨⟨other, -⟩, a, b, first, second, -, ha, hb, rfl⟩ := signature_eq_fixed_iff.mp repaired
  refine ⟨other, ?_⟩
  rw [List.length_append, length_of_fixedLength? ha, length_of_fixedLength? hb, Nat.two_mul]

/-- A sequence of two integers below `256 ^ n` becomes their octets side by side, `n` of each,
whether its length is stated as short as can be or not. The sequence is short enough for
every curve whose size is known. -/
theorem signature_of_der (n r s : Nat) (r_small : r < 256 ^ n) (s_small : s < 256 ^ n) :
    let content := Der.integer r ++ Der.integer s
    (content.length ≤ 255 → ∃ first second : List UInt8,
      (first.length = n ∧ Der.ofBigEndian first = r) ∧
      (second.length = n ∧ Der.ofBigEndian second = s) ∧
      ∀ sig, sig = Der.element Der.sequenceTag content ∨
          sig = Der.sequenceTag :: 0x81 :: UInt8.ofNat content.length :: content →
        sig.length ≠ 2 * n → signature n sig = .fixed (first ++ second)) ∧
    ((∃ e ∈ Curve.table, n = e.size.order) → content.length ≤ 255) := by
  intro content
  refine ⟨fun short => ?_, ?_⟩
  · have a := Der.isInteger_integerContent r
    have b := Der.isInteger_integerContent s
    obtain ⟨first, ha, first_length, first_value⟩ := fixedLength?_of_isInteger a r_small
    obtain ⟨second, hb, second_length, second_value⟩ := fixedLength?_of_isInteger b s_small
    refine ⟨first, second, ⟨first_length, first_value⟩, ⟨second_length, second_value⟩,
      fun sig written other => ?_⟩
    have parts : (Der.integerContent r).length < 256 ∧ (Der.integerContent s).length < 256 := by
      simp only [content, List.length_append, Der.integer, Der.length_element] at short
      omega
    obtain ⟨header, states, rfl⟩ : ∃ header, StatesLength content.length header ∧
        sig = Der.sequenceTag :: header ++ content := by
      rcases written with rfl | rfl
      · exact ⟨_, statesLength_length (by omega), rfl⟩
      · exact ⟨_, .long (by omega), rfl⟩
    exact signature_eq_fixed_iff.mpr ⟨⟨other, rfl⟩, _, _, first, second,
      readNumbers?_of_statesLength states parts.1 parts.2, ha, hb, rfl⟩
  · rintro ⟨e, he, rfl⟩
    have order := (Curve.order_of_mem_table e he).2
    have first := Der.length_integer_le r_small (by omega)
    have second := Der.length_integer_le s_small (by omega)
    rw [List.length_append]
    omega

/-- A number of one octet that needs another for its sign, and one of the full length; the
sequence is below 128 octets, and its length is also stated after 0x81. -/
theorem signature_of_der_of_long_length :
    let content := Der.integer 0x80 ++ Der.integer (256 ^ 65)
    0x80 < 256 ^ 66 ∧ 256 ^ 65 < 256 ^ 66 ∧ content.length = 72 ∧ ∃ first second : List UInt8,
      (first.length = 66 ∧ Der.ofBigEndian first = 0x80) ∧
      (second.length = 66 ∧ Der.ofBigEndian second = 256 ^ 65) ∧
      signature 66 (Der.element Der.sequenceTag content) = .fixed (first ++ second) ∧
      signature 66 (Der.sequenceTag :: 0x81 :: 72 :: content) = .fixed (first ++ second) := by
  intro content
  have r_small : 0x80 < 256 ^ 66 := by decide
  have s_small : 256 ^ 65 < 256 ^ 66 := by decide
  have length : content.length = 72 := by decide +kernel
  have other : (Der.element Der.sequenceTag content).length ≠ 2 * 66 := by decide +kernel
  obtain ⟨repaired, -⟩ := signature_of_der 66 0x80 (256 ^ 65) r_small s_small
  obtain ⟨first, second, first_eq, second_eq, fixed⟩ := repaired (by rw [length]; decide)
  refine ⟨r_small, s_small, length, first, second, first_eq, second_eq,
    fixed _ (.inl rfl) other, fixed _ (.inr ?_) ?_⟩
  · rw [length]; rfl
  · rw [List.length_cons, List.length_cons, List.length_cons, length]; decide

end TokenMarshal.Repair

/-
  TokenMarshal.Proofs.Repair.Numbers — the numbers of a repaired signature, and the octets after it.

  The reader takes an element just where its tag, a stated length and as many octets stand at
  the front (`readElement?_eq_some_iff`). So what it takes for a signature is one sequence that
  two integers fill (`IsNumbers`), whatever comes after it (`readNumbers?_eq_some_iff`).

  `signature_same_numbers`: the repair fixes such a signature just when its length is not the
  one expected and neither number is too long, and what it gives are the same two numbers in
  `n` octets each; every other input passes through a module as it is.

  As built the octets after the sequence are not asked for. Inside it none is lost, and those
  after it make no difference (`signature_loses_only_rest`), so they are gone from what is
  handed on (`signature_fixed_of_octet_after_sequence`).
-/
import TokenMarshal.Proofs.Repair.Normalize

namespace TokenMarshal.Repair

/-! ## What the reader takes -/

theorem readLength?_eq_some_iff {l rest : List UInt8} {n : Nat} :
    readLength? l = some (n, rest) ↔ ∃ header, StatesLength n header ∧ l = header ++ rest := by
  constructor
  · intro read
    cases l with
    | nil => cases read
    | cons a r =>
      simp only [readLength?] at read
      by_cases short : a < 0x80
      · rw [if_pos short] at read
        obtain ⟨rfl, rfl⟩ : a.toNat = n ∧ r = rest := by simpa using read
        exact ⟨[a], by simpa using StatesLength.short (UInt8.lt_iff_toNat_lt.mp short), rfl⟩
      · rw [if_neg short] at read
        by_cases long : a = 0x81
        · rw [if_pos long] at read
          subst long
          cases r with
          | nil => cases read
          | cons b r =>
            obtain ⟨rfl, rfl⟩ : b.toNat = n ∧ r = rest := by simpa using read
            exact ⟨[0x81, b], by simpa using StatesLength.long b.toNat_lt, rfl⟩
        · rw [if_neg long] at read
          cases read
  · rintro ⟨header, states, rfl⟩
    exact readLength?_of_statesLength states rest

/-- Octets that the reader takes for one element of a tag, with this content. -/
def IsElement (tag : UInt8) (content whole : List UInt8) : Prop :=
  ∃ header, StatesLength content.length header ∧ whole = tag :: header ++ content

theorem readElement?_eq_some_iff {tag : UInt8} {l content rest : List UInt8} :
    readElement? tag l = some (content, rest) ↔
      ∃ whole, IsElement tag content whole ∧ l = whole ++ rest := by
  constructor
  · intro read
    cases l with
    | nil => cases read
    | cons t r =>
      simp only [readElement?] at read
      by_cases other : t ≠ tag
      · rw [if_pos other] at read
        cases read
      · rw [if_neg other] at read
        cases length : readLength? r with
        | none => simp [length] at read
        | some nr =>
          obtain ⟨n, r'⟩ := nr
          simp only [length] at read
          by_cases inside : n ≤ r'.length
          · rw [if_pos inside] at read
            obtain ⟨rfl, rfl⟩ : r'.take n = content ∧ r'.drop n = rest := by simpa using read
            obtain ⟨header, states, rfl⟩ := readLength?_eq_some_iff.mp length
            have stated : (r'.take n).length = n := by simpa using inside
            refine ⟨tag :: header ++ r'.take n, ⟨header, by rwa [stated], rfl⟩, ?_⟩
            have same : t = tag := by simpa using other
            simp [same]
          · rw [if_neg inside] at read
            cases read
  · rintro ⟨whole, ⟨header, states, rfl⟩, rfl⟩
    exact readElement?_of_statesLength tag states rest

/-- Octets that are one sequence, and the sequence is two integers with these contents. -/
def IsNumbers (a b whole : List UInt8) : Prop :=
  ∃ first second, IsElement Der.integerTag a first ∧ IsElement Der.integerTag b second ∧
    IsElement Der.sequenceTag (first ++ second) whole

theorem readNumbers?_eq_some_iff {sig a b : List UInt8} :
    readNumbers? sig = some (a, b) ↔ ∃ whole rest, IsNumbers a b whole ∧ sig = whole ++ rest := by
  constructor
  · intro read
    unfold readNumbers? at read
    cases sequence : readElement? Der.sequenceTag sig with
    | none => simp [sequence] at read
    | some outer =>
      obtain ⟨inner, rest⟩ := outer
      simp only [sequence] at read
      cases one : readElement? Der.integerTag inner with
      | none => simp [one] at read
      | some ar =>
        obtain ⟨a', tail⟩ := ar
        simp only [one] at read
        split at read
        · rename_i s two
          obtain ⟨rfl, rfl⟩ : a' = a ∧ s = b := by simpa using read
          obtain ⟨whole, isSequence, rfl⟩ := readElement?_eq_some_iff.mp sequence
          obtain ⟨first, isFirst, rfl⟩ := readElement?_eq_some_iff.mp one
          obtain ⟨second, isSecond, rfl⟩ := readElement?_eq_some_iff.mp two
          rw [List.append_nil] at isSequence
          exact ⟨whole, rest, ⟨first, second, isFirst, isSecond, isSequence⟩, rfl⟩
        · cases read
  · intro ⟨whole, rest, ⟨first, second, isFirst, isSecond, isSequence⟩, split⟩
    have outer := readElement?_eq_some_iff.mpr ⟨whole, isSequence, split⟩
    have one : readElement? Der.integerTag (first ++ second) = some (a, second) :=
      readElement?_eq_some_iff.mpr ⟨first, isFirst, rfl⟩
    have two := readElement?_eq_some_iff.mpr ⟨second, isSecond, (List.append_nil second).symm⟩
    simp only [readNumbers?, outer, one, two]

/-- Octets after the second integer, inside the sequence, are not passed over. -/
theorem readNumbers?_of_more {sig a b first second more whole rest : List UInt8}
    (isFirst : IsElement Der.integerTag a first) (isSecond : IsElement Der.integerTag b second)
    (isSequence : IsElement Der.sequenceTag (first ++ second ++ more) whole) (some_more : more ≠ [])
    (split : sig = whole ++ rest) : readNumbers? sig = none := by
  have outer := readElement?_eq_some_iff.mpr ⟨whole, isSequence, split⟩
  have one : readElement? Der.integerTag (first ++ second ++ more) = some (a, second ++ more) :=
    readElement?_eq_some_iff.mpr ⟨first, isFirst, List.append_assoc first second more⟩
  have two : readElement? Der.integerTag (second ++ more) = some (b, more) :=
    readElement?_eq_some_iff.mpr ⟨second, isSecond, rfl⟩
  simp only [readNumbers?, outer, one, two]
  split
  · rename_i none_more
    simp at none_more
    exact absurd none_more.2 some_more
  · rfl

/-! ## The same numbers -/

theorem fixedLength?_eq_some_iff {n : Nat} {content number : List UInt8} :
    fixedLength? n content = some number ↔ (Der.magnitude content).length ≤ n ∧
      number.length = n ∧ Der.ofBigEndian number = Der.ofBigEndian content := by
  constructor
  · intro fixed
    refine ⟨?_, length_of_fixedLength? fixed, ofBigEndian_of_fixedLength? fixed⟩
    rw [fixedLength?_eq] at fixed
    split at fixed
    · assumption
    · cases fixed
  · intro ⟨fits, length, value⟩
    have fixed := fixedLength?_eq n content
    rw [if_pos fits] at fixed
    rw [fixed, Option.some.injEq]
    refine Der.eq_of_ofBigEndian_eq ?_ ?_
    · rw [length_of_fixedLength? fixed, length]
    · rw [ofBigEndian_of_fixedLength? fixed, value]

/-- A module hands a signature on as it is unless the repair fixes it. -/
theorem normalizeSignature_of_not_fixed {sig : List UInt8} {params : Option (List UInt8)}
    {scheme : Scheme} (other : ∀ n out, scheme.orderLength? params = some n →
      signature n sig ≠ .fixed out) (m : Module) (flags : Flags) :
    (m.normalizeSignature flags sig params scheme).1 = sig := by
  unfold Module.normalizeSignature
  split
  · rfl
  · rename_i n known
    show (flags.apply m.adaptive (Module.target scheme) (signature n) sig).1 = sig
    unfold Flags.apply
    split
    · exact Flags.apply_of_not_fixed (fun out => other n out known) sig
    · rfl

/-- The outcome `fixed` and the signature is at its front one sequence of two integers. -/
theorem exists_numbers_of_fixed {n : Nat} {sig out : List UInt8}
    (repaired : signature n sig = .fixed out) :
    ∃ whole rest a b, sig = whole ++ rest ∧ IsNumbers a b whole := by
  obtain ⟨-, a, b, -, -, numbers, -⟩ := signature_eq_fixed_iff.mp repaired
  obtain ⟨whole, rest, isNumbers, split⟩ := readNumbers?_eq_some_iff.mp numbers
  exact ⟨whole, rest, a, b, split, isNumbers⟩

theorem IsNumbers.head? {a b whole : List UInt8} (h : IsNumbers a b whole) (rest : List UInt8) :
    (whole ++ rest).head? = some Der.sequenceTag := by
  obtain ⟨_, _, _, _, header, _, rfl⟩ := h
  rfl

/-- A signature that the repair fixes is `n` octets for each of two numbers afterwards and was not
so long before. It began with a sequence of two integers, its lengths stated in one octet or
after 0x81, and the numbers are theirs. This is so just where neither integer has more than
`n` octets besides the one for its sign. All else is handed on as it is, by every module: what is
not such a sequence (cut off, with a length that runs past the end, of another tag, with a length
of two octets) and what is one that the repair cannot fit. -/
theorem signature_same_numbers (n : Nat) (sig : List UInt8) :
    (∀ out, signature n sig = .fixed out ↔
      out.length = 2 * n ∧ sig.length ≠ 2 * n ∧ ∃ whole rest a b, sig = whole ++ rest ∧
        IsNumbers a b whole ∧
        ((Der.magnitude a).length ≤ n ∧ Der.ofBigEndian (out.take n) = Der.ofBigEndian a) ∧
        ((Der.magnitude b).length ≤ n ∧ Der.ofBigEndian (out.drop n) = Der.ofBigEndian b)) ∧
    ∀ (m : Module) (flags : Flags) (params : Option (List UInt8)) (scheme : Scheme),
      ((¬ ∃ whole rest a b, sig = whole ++ rest ∧ IsNumbers a b whole) ∨
        (∀ k out, scheme.orderLength? params = some k → signature k sig ≠ .fixed out)) →
      (m.normalizeSignature flags sig params scheme).1 = sig := by
  refine ⟨fun out => ⟨?_, ?_⟩, ?_⟩
  · intro repaired
    obtain ⟨⟨other, -⟩, a, b, first, second, numbers, ha, hb, rfl⟩ :=
      signature_eq_fixed_iff.mp repaired
    obtain ⟨whole, rest, isNumbers, split⟩ := readNumbers?_eq_some_iff.mp numbers
    obtain ⟨a_fits, a_length, a_value⟩ := fixedLength?_eq_some_iff.mp ha
    obtain ⟨b_fits, b_length, b_value⟩ := fixedLength?_eq_some_iff.mp hb
    refine ⟨by simp; omega, other, whole, rest, a, b, split, isNumbers, ⟨a_fits, ?_⟩, b_fits, ?_⟩
    · rw [List.take_left' a_length, a_value]
    · rw [List.drop_left' a_length, b_value]
  · intro ⟨length, other, whole, rest, a, b, split, isNumbers, ⟨a_fits, a_value⟩, b_fits, b_value⟩
    have tag : sig.head? = some Der.sequenceTag := split ▸ isNumbers.head? rest
    have numbers := readNumbers?_eq_some_iff.mpr ⟨whole, rest, isNumbers, split⟩
    have first := fixedLength?_eq_some_iff.mpr ⟨a_fits, by simp; omega, a_value⟩
    have second := fixedLength?_eq_some_iff.mpr ⟨b_fits, by simp; omega, b_value⟩
    exact signature_eq_fixed_iff.mpr ⟨⟨other, tag⟩, a, b, out.take n, out.drop n, numbers, first,
      second, List.take_append_drop n out⟩
  · intro m flags params scheme unfit
    apply normalizeSignature_of_not_fixed
    intro k out known repaired
    rcases unfit with shapeless | other
    · exact shapeless (exists_numbers_of_fixed repaired)
    · exact other k out known repaired

/-- Both lengths of the sequence after 0x81 although they are short, a number that is stated with a
zero in front that it does not need, and one of no octets at all. The same with a length of two
octets is handed on. -/
theorem signature_same_numbers_of_empty_integer :
    let whole : List UInt8 := [0x30, 0x81, 8, 2, 0x81, 3, 0, 1, 2, 2, 0]
    let wide : List UInt8 := [0x30, 0x82, 0, 4, 2, 0, 2, 0]
    let m := Simulated.plainModule
    signature 3 whole = .fixed [0, 1, 2, 0, 0, 0] ∧
    (m.normalizeSignature .initial wide none .sm2).1 = wide := by
  intro whole wide m
  have first : IsElement Der.integerTag [0, 1, 2] [2, 0x81, 3, 0, 1, 2] := ⟨_, .long (by decide), rfl⟩
  have second : IsElement Der.integerTag [] [2, 0] := ⟨_, .short (by decide), rfl⟩
  have numbers : IsNumbers [0, 1, 2] [] whole :=
    ⟨_, _, first, second, ⟨[0x81, 8], .long (by decide), rfl⟩⟩
  obtain ⟨fixed_iff, -⟩ := signature_same_numbers 3 whole
  obtain ⟨-, handed_on⟩ := signature_same_numbers 3 wide
  refine ⟨(fixed_iff _).mpr ⟨rfl, by decide, whole, [], _, _, rfl, numbers, ?_, ?_⟩, ?_⟩
  · decide
  · decide
  · refine handed_on m .initial none .sm2 (.inl ?_)
    intro ⟨sequence, rest, a, b, split, isNumbers⟩
    have read := readNumbers?_eq_some_iff.mpr ⟨sequence, rest, isNumbers, split⟩
    have nothing : readNumbers? wide = none := by decide
    rw [nothing] at read
    cases read

/-! ## Octets that are left over -/

/-- A signature is fixed only if it begins with one sequence that two integers fill; what follows
the sequence makes no difference, so that is all that is not in what is handed on. Where
something follows the integers inside the sequence, every module hands the signature on as
it is. -/
theorem signature_loses_only_rest (n : Nat) (sig : List UInt8) :
    (∀ out, signature n sig = .fixed out → ∃ whole rest a b, sig = whole ++ rest ∧
      IsNumbers a b whole ∧ ∀ rest', (whole ++ rest').length ≠ 2 * n →
        signature n (whole ++ rest') = .fixed out) ∧
    ∀ a b first second more whole rest, IsElement Der.integerTag a first →
      IsElement Der.integerTag b second →
      IsElement Der.sequenceTag (first ++ second ++ more) whole → more ≠ [] →
      sig = whole ++ rest →
      ∀ (m : Module) (flags : Flags) (params : Option (List UInt8)) (scheme : Scheme),
        (m.normalizeSignature flags sig params scheme).1 = sig := by
  constructor
  · intro out repaired
    obtain ⟨-, a, b, first, second, numbers, ha, hb, together⟩ :=
      signature_eq_fixed_iff.mp repaired
    obtain ⟨whole, rest, isNumbers, split⟩ := readNumbers?_eq_some_iff.mp numbers
    refine ⟨whole, rest, a, b, split, isNumbers, fun rest' other => ?_⟩
    have same := readNumbers?_eq_some_iff.mpr ⟨whole, rest', isNumbers, rfl⟩
    exact signature_eq_fixed_iff.mpr
      ⟨⟨other, isNumbers.head? rest'⟩, a, b, first, second, same, ha, hb, together⟩
  · intro a b first second more whole rest isFirst isSecond isSequence some_more split m flags params
      scheme
    apply normalizeSignature_of_not_fixed
    intro k out _ repaired
    obtain ⟨-, _, _, _, _, numbers, -⟩ := signature_eq_fixed_iff.mp repaired
    rw [readNumbers?_of_more isFirst isSecond isSequence some_more split] at numbers
    cases numbers

/-- A zero octet inside the sequence, after the second integer. -/
theorem signature_loses_only_rest_of_octet_inside :
    let sig : List UInt8 := [0x30, 7, 2, 1, 1, 2, 1, 2, 0]
    let m : Module := { Simulated.plainModule with adaptive := true }
    (m.normalizeSignature .initial sig none .sm2).1 = sig ∧
    ∃ whole rest a b, Simulated.derSignature = whole ++ rest ∧ IsNumbers a b whole ∧
      ∀ rest', (whole ++ rest').length ≠ 4 → signature 2 (whole ++ rest') = .fixed [0, 1, 0, 2] := by
  intro sig m
  refine ⟨?_, (signature_loses_only_rest 2 Simulated.derSignature).1 _ (by decide)⟩
  have first : IsElement Der.integerTag [1] [2, 1, 1] := ⟨_, .short (by decide), rfl⟩
  have second : IsElement Der.integerTag [2] [2, 1, 2] := ⟨_, .short (by decide), rfl⟩
  have sequence : IsElement Der.sequenceTag ([2, 1, 1] ++ [2, 1, 2] ++ [0]) sig :=
    ⟨[7], .short (by decide), rfl⟩
  exact (signature_loses_only_rest 2 sig).2 _ _ _ _ [0] sig [] first second sequence (by simp) rfl
    m .initial none .sm2

/-- An octet after the sequence is not among what is handed on, though the signature is no single
sequence. -/
theorem signature_fixed_of_octet_after_sequence :
    let sig : List UInt8 := [0x30, 6, 2, 1, 1, 2, 1, 2, 0xff]
    let m := Simulated.plainModule
    (¬ ∃ content, IsElement Der.sequenceTag content sig) ∧
    (∃ out, signature 32 sig = .fixed out) ∧
    (m.normalizeSignature .initial sig none .sm2).1 =
      List.replicate 31 0 ++ [1] ++ (List.replicate 31 0 ++ [2]) := by
  refine ⟨?_, ⟨_, rfl⟩, by decide +kernel⟩
  intro ⟨content, isElement⟩
  have whole := readElement?_eq_some_iff.mpr ⟨_, isElement, (List.append_nil _).symm⟩
  have read : readElement? Der.sequenceTag [0x30, 6, 2, 1, 1, 2, 1, 2, 0xff] =
      some ([2, 1, 1, 2, 1, 2], [0xff]) := by decide
  rw [read] at whole
  cases whole

end TokenMarshal.Repair

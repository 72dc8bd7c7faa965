/-
  TokenMarshal.Proofs.Repair.Point — points that are repaired, and into what.

  A point on a Weierstrass curve may come bare in three shapes (`Bare`), and each is repaired
  into the DER octet string of its encoding (`weierstrassPoint_of_bare`); anything else is
  left alone (`weierstrassPoint_of_not_bare`). The shapes are told apart by length and first
  octet only, and the tag of an octet string is the form octet of a point with two
  coordinates; but for coordinates of 4 to 126 octets no octet string around a point has the
  length of a bare shape (`not_bare_wrapped`). The curves of the table lie within, so a
  repaired point is not repaired again (`point_canonicalizes`).
-/
import Mathlib.Tactic.ByContra
import TokenMarshal.Proofs.Curve.Params
import TokenMarshal.Proofs.Der
import TokenMarshal.Repair.Point

namespace TokenMarshal.Repair

/-! ## Bare points -/

/-- The octets of a point outside its octet string, and the encoding that they stand for, where
coordinates have `n` octets. -/
inductive Bare (n : Nat) : List UInt8 → List UInt8 → Prop
  | coordinates {xy : List UInt8} : xy.length = 2 * n → Bare n xy (0x04 :: xy)
  | uncompressed {xy : List UInt8} : xy.length = 2 * n → Bare n (0x04 :: xy) (0x04 :: xy)
  | compressed {form : UInt8} {x : List UInt8} : form = 0x02 ∨ form = 0x03 → x.length = n →
      Bare n (form :: x) (form :: x)

variable {n : Nat} {point encoding : List UInt8}

theorem Bare.length_point (h : Bare n point encoding) :
    point.length = 2 * n ∨ point.length = 2 * n + 1 ∨ point.length = n + 1 := by
  cases h with
  | coordinates length => exact .inl length
  | uncompressed length => exact .inr (.inl (by rw [List.length_cons, length]))
  | compressed _ length => exact .inr (.inr (by rw [List.length_cons, length]))

theorem Bare.length_encoding (h : Bare n point encoding) :
    encoding.length = 2 * n + 1 ∨ encoding.length = n + 1 := by
  cases h with
  | coordinates length => exact .inl (by rw [List.length_cons, length])
  | uncompressed length => exact .inl (by rw [List.length_cons, length])
  | compressed _ length => exact .inr (by rw [List.length_cons, length])

theorem Bare.length_le (h : Bare n point encoding) : point.length ≤ encoding.length := by
  cases h with
  | coordinates => exact Nat.le_succ _
  | uncompressed => exact Nat.le_refl _
  | compressed => exact Nat.le_refl _

theorem weierstrassPoint_of_bare (h : Bare n point encoding) (several : 1 < n) :
    weierstrassPoint n point = .fixed (wrapped encoding) := by
  cases h with
  | coordinates length => exact if_pos length
  | @uncompressed xy length =>
    have longer : (0x04 :: xy).length ≠ 2 * n := by rw [List.length_cons, length]; omega
    have form : (0x04 :: xy).length = 1 + 2 * n := by rw [List.length_cons, length, Nat.add_comm]
    rw [weierstrassPoint, if_neg longer]
    simp only [List.head?_cons, form, and_self, if_true]
  | @compressed form x even_or_odd length =>
    have shorter : (form :: x).length ≠ 2 * n := by rw [List.length_cons, length]; omega
    have other : form ≠ 0x04 := by rcases even_or_odd with rfl | rfl <;> decide
    have here : (form :: x).length = 1 + n := by rw [List.length_cons, length, Nat.add_comm]
    rw [weierstrassPoint, if_neg shorter]
    simp only [List.head?_cons, other, false_and, if_false, even_or_odd, here, and_self, if_true]

theorem weierstrassPoint_of_not_bare (h : ¬ ∃ encoding, Bare n point encoding) :
    weierstrassPoint n point = .unchanged := by
  have not_coordinates : point.length ≠ 2 * n := fun length => h ⟨_, .coordinates length⟩
  rw [weierstrassPoint, if_neg not_coordinates]
  cases point with
  | nil => rfl
  | cons form x =>
    have not_uncompressed : ¬ (form = 0x04 ∧ (form :: x).length = 1 + 2 * n) := by
      rintro ⟨rfl, length⟩
      rw [List.length_cons] at length
      exact h ⟨_, .uncompressed (by omega)⟩
    have not_compressed : ¬ ((form = 0x02 ∨ form = 0x03) ∧ (form :: x).length = 1 + n) := by
      rintro ⟨even_or_odd, length⟩
      rw [List.length_cons] at length
      exact h ⟨_, .compressed even_or_odd (by omega)⟩
    simp only [List.head?_cons, if_neg not_uncompressed, if_neg not_compressed]

/-! ## Octet strings -/

theorem length_lt_wrapped (b : List UInt8) : b.length + 1 < (wrapped b).length := by
  have header := Der.length_pos b.length
  rw [wrapped, Der.length_element]
  omega

theorem length_wrapped {b : List UInt8} (short : b.length < 128) :
    (wrapped b).length = b.length + 2 := by
  rw [wrapped, Der.length_element, Der.length_of_lt_128 short, List.length_singleton]
  omega

/-- No octet string around a point is as long as a bare point. -/
theorem not_bare_wrapped (h : Bare n point encoding) (least : 3 < n) (most : n < 127) :
    ¬ ∃ other, Bare n (wrapped encoding) other := by
  rintro ⟨other, bare⟩
  have shapes := bare.length_point
  rcases h.length_encoding with two | one
  · -- Around two coordinates it is longer than any bare point.
    have longer := length_lt_wrapped encoding
    omega
  · -- Around one it has `n + 3` octets, as a bare point has only for `n` of 2 or 3.
    have length := length_wrapped (b := encoding) (by omega)
    omega

/-! ## Points of a curve -/

theorem point_of_size? {params : List UInt8} {size : Curve.Size}
    (found : Curve.size? params = some size) (p : List UInt8) :
    Repair.point params p = weierstrassPoint size.field p := by
  rw [Repair.point, Curve.fixedLength?_eq_none_of_size? found, found]

theorem point_of_fixedLength? {params : List UInt8} (found : Curve.fixedLength? params = some n)
    (p : List UInt8) :
    Repair.point params p = if p.length = n then .fixed (wrapped p) else .unchanged := by
  rw [Repair.point, found]

theorem point_of_unknown {params : List UInt8} (unsized : Curve.size? params = none)
    (unfixed : Curve.fixedLength? params = none) (p : List UInt8) :
    Repair.point params p = .undecided := by
  rw [Repair.point, unfixed, unsized]

/-- Every bare point of a known curve becomes the octet string of its encoding, which stays as it
is; so does any other input. A point of a curve that is not known stays as it is too. -/
theorem point_canonicalizes (params : List UInt8) :
    (∀ size, Curve.size? params = some size →
      (∀ p encoding, Bare size.field p encoding →
        Repair.point params p = .fixed (Der.element Der.octetStringTag encoding) ∧
        Der.read? (Der.element Der.octetStringTag encoding) = some (Der.octetStringTag, encoding) ∧
        Repair.point params (Der.element Der.octetStringTag encoding) = .unchanged) ∧
      ∀ p, (¬ ∃ encoding, Bare size.field p encoding) → Repair.point params p = .unchanged) ∧
    (∀ n, Curve.fixedLength? params = some n →
      (∀ p, p.length = n →
        Repair.point params p = .fixed (Der.element Der.octetStringTag p) ∧
        Der.read? (Der.element Der.octetStringTag p) = some (Der.octetStringTag, p) ∧
        Repair.point params (Der.element Der.octetStringTag p) = .unchanged) ∧
      ∀ p, p.length ≠ n → Repair.point params p = .unchanged) ∧
    (Curve.size? params = none → Curve.fixedLength? params = none →
      ∀ p, Repair.point params p = .undecided) := by
  refine ⟨fun size found => ⟨fun p encoding bare => ?_, fun p other => ?_⟩,
    fun n found => ⟨fun p length => ?_, fun p other => ?_⟩, point_of_unknown⟩
  · obtain ⟨least, most⟩ := Curve.field_of_size? found
    have short : encoding.length < 256 := by
      rcases bare.length_encoding with length | length <;> omega
    refine ⟨?_, Der.read?_element _ short, ?_⟩
    · rw [point_of_size? found, weierstrassPoint_of_bare bare (by omega), wrapped]
    · rw [point_of_size? found]
      exact weierstrassPoint_of_not_bare (not_bare_wrapped bare (by omega) (by omega))
  · rw [point_of_size? found, weierstrassPoint_of_not_bare other]
  · have short := Curve.fixedLength?_lt found
    have longer := length_lt_wrapped p
    refine ⟨?_, Der.read?_element _ (by omega), ?_⟩
    · rw [point_of_fixedLength? found, if_pos length, wrapped]
    · exact (point_of_fixedLength? found _).trans (if_neg (by rw [← wrapped]; omega))
  · rw [point_of_fixedLength? found, if_neg other]

/-- A curve of 521 bits by its name: coordinates that begin like an octet string, the point with
them, which takes the long form of a length, and a compressed point, which does not. Then a
point of an Edwards curve, and parameters that no curve has. -/
theorem point_canonicalizes_of_named_curve :
    let params := Der.element Der.printableTag (Curve.nameOctets "secp521r1")
    let xy : List UInt8 := List.replicate 132 0x04
    let x : List UInt8 := List.replicate 66 0x04
    let edwards := Curve.ed448.der
    let y : List UInt8 := List.replicate 57 0x04
    (Curve.size? params = some ⟨66, 66⟩ ∧
      Repair.point params xy = .fixed (0x04 :: 0x81 :: 133 :: 0x04 :: xy) ∧
      Repair.point params (0x04 :: xy) = .fixed (0x04 :: 0x81 :: 133 :: 0x04 :: xy) ∧
      Repair.point params (0x04 :: 0x81 :: 133 :: 0x04 :: xy) = .unchanged ∧
      Repair.point params (0x03 :: x) = .fixed (0x04 :: 67 :: 0x03 :: x) ∧
      Repair.point params [] = .unchanged) ∧
    (Curve.fixedLength? edwards = some 57 ∧ Repair.point edwards y = .fixed (0x04 :: 57 :: y) ∧
      Repair.point edwards (0x04 :: 57 :: y) = .unchanged ∧ Repair.point edwards [] = .unchanged) ∧
    Repair.point [0x06, 0x03, 0x2A, 0x03, 0x04] xy = .undecided := by
  intro params xy x edwards y
  have found : Curve.size? params = some ⟨66, 66⟩ := by decide +kernel
  have fixed : Curve.fixedLength? edwards = some 57 := by decide +kernel
  have long : Der.element Der.octetStringTag (0x04 :: xy) = 0x04 :: 0x81 :: 133 :: 0x04 :: xy := by
    decide +kernel
  have short : Der.element Der.octetStringTag (0x03 :: x) = 0x04 :: 67 :: 0x03 :: x := by
    decide +kernel
  have around : Der.element Der.octetStringTag y = 0x04 :: 57 :: y := by decide +kernel
  obtain ⟨repaired, others⟩ := (point_canonicalizes params).1 _ found
  obtain ⟨wrapped, unwrapped⟩ := (point_canonicalizes edwards).2.1 _ fixed
  have bare := repaired xy _ (.coordinates List.length_replicate)
  have formed := repaired (0x04 :: xy) _ (.uncompressed List.length_replicate)
  have compressed := repaired (0x03 :: x) _ (.compressed (.inr rfl) List.length_replicate)
  have edwards_point := wrapped y List.length_replicate
  rw [long] at bare formed
  rw [short] at compressed
  rw [around] at edwards_point
  have none_empty : ¬ ∃ encoding, Bare 66 [] encoding := by
    rintro ⟨encoding, other⟩
    cases other with
    | coordinates length => exact absurd length (by decide)
  exact ⟨⟨found, bare.1, formed.1, bare.2.2, compressed.1, others _ none_empty⟩,
    ⟨fixed, edwards_point.1, edwards_point.2.2, unwrapped _ (by decide)⟩,
    (point_canonicalizes _).2.2 (by decide +kernel) (by decide +kernel) xy⟩

end TokenMarshal.Repair

/-
  TokenMarshal.Proofs.Curve.Params — what parameters can stand for.

  Parameters whose curve is found in the table are the identifier of an entry, or name one
  (`exists_entry_of_size?`). No entry has the identifier of an Edwards or Montgomery curve, so
  no parameters stand for curves of both sorts (`fixedLength?_eq_none_of_size?`).
-/
import TokenMarshal.Curve.Params

namespace TokenMarshal.Curve

/-- The curves whose points have one fixed length. -/
def fixedCurves : List Oid := [ed25519, ed448, x25519, x448]

theorem mem_fixedCurves_of_fixedLengthOf? {o : Oid} {n : Nat} (fixed : fixedLengthOf? o = some n) :
    o ∈ fixedCurves := by
  refine Decidable.byContradiction fun other => ?_
  simp only [fixedCurves, List.mem_cons, List.not_mem_nil, or_false, not_or] at other
  simp [fixedLengthOf?, other] at fixed

theorem fixedLength?_lt {params : List UInt8} {n : Nat} (found : fixedLength? params = some n) :
    n < 128 := by
  obtain ⟨o, -, fixed⟩ := Option.bind_eq_some_iff.mp found
  have each : ∀ o ∈ fixedCurves, ∀ n ∈ fixedLengthOf? o, n < 128 := by decide
  exact each o (mem_fixedCurves_of_fixedLengthOf? fixed) n fixed

theorem exists_entry_of_lookup? {key : List UInt8} {size : Size} (found : lookup? key = some size) :
    ∃ e ∈ table, e.size = size ∧ e.oid.der = key := by
  obtain ⟨e, first, rfl⟩ := Option.map_eq_some_iff.mp found
  exact ⟨e, List.mem_of_find?_eq_some first, rfl, by simpa using List.find?_some first⟩

/-- A curve is found as an entry of the table, by its identifier or by a name for it. -/
theorem exists_entry_of_size? {params : List UInt8} {size : Size} (found : size? params = some size) :
    ∃ e ∈ table, e.size = size ∧
      (e.oid.der = params ∨ ∃ o, oid? params = some o ∧ e.oid.der = o.der) := by
  unfold size? at found
  cases direct : lookup? params with
  | some s =>
    rw [direct] at found
    cases found
    obtain ⟨e, he, size_eq, key⟩ := exists_entry_of_lookup? direct
    exact ⟨e, he, size_eq, .inl key⟩
  | none =>
    cases named : oid? params with
    | none => simp only [direct, named] at found; cases found
    | some o =>
      simp only [direct, named] at found
      split at found
      · cases found
      · obtain ⟨e, he, size_eq, key⟩ := exists_entry_of_lookup? found
        exact ⟨e, he, size_eq, .inr ⟨o, rfl, key⟩⟩

theorem table_not_fixed : ∀ e ∈ table, fixedLength? e.oid.der = none ∧
    ∀ o ∈ fixedCurves, e.oid.der ≠ o.der := by decide +kernel

theorem fixedLength?_eq_none_of_size? {params : List UInt8} {size : Size}
    (found : size? params = some size) : fixedLength? params = none := by
  obtain ⟨e, he, -, rfl | ⟨o, named, same⟩⟩ := exists_entry_of_size? found
  · exact (table_not_fixed e he).1
  · rw [fixedLength?, named, Option.bind_some]
    cases fixed : fixedLengthOf? o with
    | none => rfl
    | some n =>
      exact absurd same ((table_not_fixed e he).2 o (mem_fixedCurves_of_fixedLengthOf? fixed))

theorem field_of_mem_table : ∀ e ∈ table, 14 ≤ e.size.field ∧ e.size.field ≤ 72 := by decide

theorem order_of_mem_table : ∀ e ∈ table, 14 ≤ e.size.order ∧ e.size.order ≤ 72 := by decide

theorem field_of_size? {params : List UInt8} {size : Size} (found : size? params = some size) :
    14 ≤ size.field ∧ size.field ≤ 72 := by
  obtain ⟨e, he, rfl, -⟩ := exists_entry_of_size? found
  exact field_of_mem_table e he

end TokenMarshal.Curve

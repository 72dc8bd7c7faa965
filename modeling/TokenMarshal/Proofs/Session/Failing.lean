/-
  TokenMarshal.Proofs.Session.Failing — an attribute that fails does not disturb the others.

  An attribute whose read failed is handed on without octets (`Mute`), and to attributes without
  octets a session does nothing but to translate each by itself: they are no parameters and no
  points. So to leave out codes that have no octets leaves the parameters as they are
  (`readParams?_kept`) and the first point (`findSome?_kept`), and with them the repair of the
  others and the flags (`kept_repaired`). Whether the codes that do not fail are then read in
  one call or each by itself, they come out as they do among the others
  (`fetchAll_without_failing`).
-/
import TokenMarshal.Proofs.Session.Process

namespace TokenMarshal.Session

open Marshal

variable {σ : Type} {d : Device σ} {m : Module} {session : SessionHandle} {object : ObjectHandle}
  {keep : AttributeCode → Bool} {l : List Attribute}

/-- The attributes of the codes that are kept. -/
def kept (keep : AttributeCode → Bool) (l : List Attribute) : List Attribute :=
  l.filter fun a => keep a.code

/-- Attributes of codes that are not kept have no octets. -/
def Mute (keep : AttributeCode → Bool) (l : List Attribute) : Prop :=
  ∀ a ∈ l, keep a.code = false → a.bytes? = none

theorem kept_map {α : Type} (f : α → Attribute) (code : α → AttributeCode)
    (same : ∀ x, (f x).code = code x) (l : List α) :
    kept keep (l.map f) = (l.filter fun x => keep (code x)).map f := by
  unfold kept
  rw [List.filter_map]
  simp only [Function.comp_def, same]

theorem kept_cons_of_pos {a : Attribute} (held : keep a.code = true) (l : List Attribute) :
    kept keep (a :: l) = a :: kept keep l :=
  List.filter_cons_of_pos held

theorem kept_cons_of_neg {a : Attribute} (left_out : ¬ keep a.code = true) (l : List Attribute) :
    kept keep (a :: l) = kept keep l :=
  List.filter_cons_of_neg left_out

/-! ## What codes without octets have no part in -/

theorem readParams?_kept (mute : Mute keep l) : readParams? (kept keep l) = readParams? l := by
  unfold readParams? kept
  rw [List.find?_filter]
  by_cases params : keep AttributeCode.ecParams = true
  · congr 2
    funext a
    by_cases code : a.code = AttributeCode.ecParams
    · simp [code, params]
    · simp [code]
  · -- Without the code of parameters none are found, nor were there: the first has no octets.
    have dropped : l.find? (fun a => decide (keep a.code = true ∧
        (a.code == AttributeCode.ecParams) = true)) = none := by
      rw [List.find?_eq_none]
      intro a _ both
      obtain ⟨held, code⟩ := of_decide_eq_true both
      rw [eq_of_beq code] at held
      exact params held
    rw [dropped]
    cases found : l.find? (·.code == AttributeCode.ecParams) with
    | none => rfl
    | some a =>
      have code : a.code = AttributeCode.ecParams := by simpa using List.find?_some found
      have octets := mute a (List.mem_of_find?_eq_some found) (by rw [code]; simpa using params)
      rw [Option.bind_some, octets]
      rfl

theorem pointBytes?_of_mute {a : Attribute} (octets : a.bytes? = none) : pointBytes? a = none := by
  unfold pointBytes?
  split
  · exact octets
  · rfl

theorem findSome?_kept (mute : Mute keep l) :
    (kept keep l).findSome? pointBytes? = l.findSome? pointBytes? := by
  induction l with
  | nil => rfl
  | cons a l ih =>
    obtain ⟨here, rest⟩ := List.forall_mem_cons.mp mute
    rw [List.findSome?_cons, ← ih rest]
    by_cases held : keep a.code = true
    · rw [kept_cons_of_pos held, List.findSome?_cons]
    · rw [kept_cons_of_neg held, pointBytes?_of_mute (here (by simpa using held))]

theorem kept_replacePoint (fixed : List UInt8) (mute : Mute keep l) :
    kept keep (replacePoint fixed l) = replacePoint fixed (kept keep l) := by
  induction l with
  | nil => rfl
  | cons a l ih =>
    obtain ⟨here, rest⟩ := List.forall_mem_cons.mp mute
    by_cases held : keep a.code = true
    · rw [kept_cons_of_pos held, replacePoint, replacePoint]
      split
      · exact kept_cons_of_pos (a := { a with value := .bytes fixed }) held l
      · rw [kept_cons_of_pos held, ih rest]
    · have octets := pointBytes?_of_mute (here (by simpa using held))
      rw [kept_cons_of_neg held, replacePoint, octets, if_neg (by simp), kept_cons_of_neg held,
        ih rest]

theorem kept_repaired (params : Option (List UInt8)) (flags : Repair.Flags) (mute : Mute keep l) :
    repaired m params (kept keep l) flags =
      (repaired m params l flags).map (kept keep) id := by
  unfold repaired
  rw [findSome?_kept mute]
  cases l.findSome? pointBytes? with
  | none => rfl
  | some point =>
    cases params with
    | none => rfl
    | some params => exact Prod.ext (kept_replacePoint _ mute).symm rfl

theorem kept_attributesToGeneric (m : Module) (l : List Attribute) :
    m.attributesToGeneric (kept keep l) = kept keep (m.attributesToGeneric l) := by
  rw [m.attributesToGeneric_eq_map, m.attributesToGeneric_eq_map,
    kept_map _ _ m.code_attributeToGeneric]
  rfl

theorem Mute.attributesToGeneric (mute : Mute keep l) (m : Module) :
    Mute keep (m.attributesToGeneric l) := by
  rw [m.attributesToGeneric_eq_map]
  intro generic here
  obtain ⟨a, ha, rfl⟩ := List.mem_map.mp here
  rw [m.code_attributeToGeneric, m.bytes?_attributeToGeneric]
  exact mute a ha

/-- The parameters of a key are the same in whichever state they are read. -/
def Steady (d : Device σ) (m : Module) (session : SessionHandle) (object : ObjectHandle) : Prop :=
  ∀ st st', directParams? d m.encoding session object st =
    directParams? d m.encoding session object st'

theorem shown_process_kept (mute : Mute keep l) (steady : Steady d m session object)
    (s : State σ) (st st' : σ) :
    shown (process d m session object (kept keep l) { s with device := st' }) =
      (shown (process d m session object l { s with device := st })).map (kept keep) id := by
  have params : pointParams? d m session object (kept keep l) { s with device := st' } =
      pointParams? d m session object l { s with device := st } := by
    rw [pointParams?, pointParams?, readParams?_kept mute, ecParams_fst, ecParams_fst,
      steady st st']
  rw [process_eq_repaired, process_eq_repaired, params, kept_attributesToGeneric,
    kept_repaired _ _ (mute.attributesToGeneric m)]

/-! ## A reading in which some fail -/

section

variable (e : Text.Encoding) (reply : AttributeCode → ReturnCode × Content)

/-- The reading of an attribute by itself, by what the token replies. -/
def readingIn (code : AttributeCode) : Device.Reading :=
  Device.readingOf e code ((reply code).1, ⟨code, (reply code).2⟩)

/-- The reading of a code is no hard failure. -/
def succeeds (code : AttributeCode) : Bool := (readingIn e reply code).2.isNone

theorem mute_readings (codes : List AttributeCode) :
    Mute (succeeds e reply) (codes.map fun code => (readingIn e reply code).1) := by
  intro a ha failed
  obtain ⟨code, -, rfl⟩ := List.mem_map.mp ha
  rw [readingIn, Device.code_readingOf] at failed
  cases fault : (readingIn e reply code).2 with
  | none => rw [succeeds, fault] at failed; cases failed
  | some _ => rw [readingIn, Device.readingOf_hard fault]; rfl

theorem kept_readings (codes : List AttributeCode) :
    kept (succeeds e reply) (codes.map fun code => (readingIn e reply code).1) =
      (codes.filter (succeeds e reply)).map fun code => (readingIn e reply code).1 :=
  kept_map (fun code => (readingIn e reply code).1) id
    (fun _ => Device.code_readingOf _ _ _ _) codes

theorem gather_succeeding (codes : List AttributeCode) :
    ∃ l, Device.gather ((codes.filter (succeeds e reply)).map (readingIn e reply)) = .ok l := by
  rw [Device.gather_eq_ok_iff, List.forall_mem_map]
  intro code here
  exact Option.isNone_iff_eq_none.mp (List.mem_filter.mp here).2

end

/-- What a token replies for an attribute, as a field of its code. -/
def asField (reply : ObjectHandle → AttributeCode → ReturnCode × Content) (object : ObjectHandle)
    (code : AttributeCode) : ReturnCode × Field :=
  ((reply object code).1, ⟨code, (reply object code).2⟩)

variable {reply : ObjectHandle → AttributeCode → ReturnCode × Content}

theorem steady_of_answers (h : d.Answers (asField reply)) (m : Module) (session : SessionHandle)
    (object : ObjectHandle) : Steady d m session object := by
  intro st st'
  rw [directParams?, directParams?, Device.fetchOne_eq h, Device.fetchOne_eq h]

/-- Without the codes whose own reading fails hard a request succeeds, hands on the other
attributes as they are in the whole request, and leaves the same flags. -/
theorem fetchAll_without_failing (d : Device σ) (m : Module)
    (reply : ObjectHandle → AttributeCode → ReturnCode × Content) (h : d.Answers (asField reply))
    (session : SessionHandle) (object : ObjectHandle) (codes : List AttributeCode)
    (s : State σ) :
    let good := fun code => (d.fetchOne m.encoding session object code s.device).1.isOk
    let all := fetchAll d m session object codes s
    let less := fetchAll d m session object (codes.filter good) s
    (∃ l, less.1 = .ok l) ∧
    (Device.attributesOf all.1).map (·.code) = codes ∧
    Device.attributesOf less.1 = (Device.attributesOf all.1).filter (fun a => good a.code) ∧
    less.2.flags = all.2.flags := by
  intro good all less
  have is_good : good = succeeds m.encoding (reply object) := by
    funext code
    show Except.isOk (d.fetchOne m.encoding session object code s.device).1 = _
    rw [Device.fetchOne_eq h]
    show Except.isOk (readingIn m.encoding (reply object) code).result = _
    unfold succeeds
    obtain ⟨a, _ | fault⟩ := readingIn m.encoding (reply object) code <;> rfl
  have read (codes : List AttributeCode) (st : σ) :
      (d.fetchAll m.encoding session object codes st).1 =
        Device.gather (codes.map (readingIn m.encoding (reply object))) :=
    Device.fetchAll_eq_gather h m.encoding session object codes st
  have attributes (codes : List AttributeCode) :
      Device.attributesOf (Device.gather (codes.map (readingIn m.encoding (reply object)))) =
        codes.map fun code => (readingIn m.encoding (reply object) code).1 := by
    rw [Device.attributesOf_gather, List.map_map]
    rfl
  have same := shown_process_kept
    (mute_readings m.encoding (reply object) codes) (steady_of_answers h m session object) s
    (d.fetchAll m.encoding session object codes s.device).2
    (d.fetchAll m.encoding session object (codes.filter good) s.device).2
  rw [kept_readings, ← is_good] at same
  obtain ⟨same_attributes, same_flags⟩ := Prod.mk.inj same
  simp only [all, less, fetchAll_eq_process, read, attributes, Device.attributesOf_withAttributes]
  refine ⟨?_, ?_, same_attributes, same_flags⟩
  · obtain ⟨l, ok⟩ := gather_succeeding m.encoding (reply object) codes
    rw [← is_good] at ok
    rw [ok]
    exact ⟨_, rfl⟩
  · rw [codes_process, List.map_map]
    refine (List.map_congr_left fun code _ => ?_).trans (List.map_id codes)
    exact Device.code_readingOf m.encoding code _ _

/-- What a token held in memory replies. -/
def repliesOf (t : Simulated.Token) (object : ObjectHandle) (code : AttributeCode) :
    ReturnCode × Content :=
  ((t.replyTo object code).1, (t.replyTo object code).2.content)

theorem asField_repliesOf (t : Simulated.Token) : asField (repliesOf t) = t.replyTo := by
  funext object code
  have same : (t.replyTo object code).2.code = code := by
    unfold Simulated.Token.replyTo
    cases t.objects.find? (·.1 == object) with
    | none => rfl
    | some o => cases reply : Simulated.Token.reply o.2 code <;> simp only [reply] <;> rfl
  exact Prod.ext rfl (congrArg (Marshal.Field.mk · _) same.symm)

/-- The point comes with parameters that the session has to read itself, between a private
exponent and a label that fail, so that one request falls back to single reads and the other,
of a point and a number, does not. -/
theorem fetchAll_without_failing_of_two_failures :
    let t := Simulated.Token.ofObjects
      [(31, (0x11, .fail 5) :: (0x3, .fail 48) :: (0x100, .value [3]) :: Simulated.bareKey)]
    let m : Module := { Simulated.plainModule with adaptive := true }
    let s : State Unit := ⟨(), .initial, ⟨8, []⟩⟩
    let codes : List AttributeCode := [0x11, 0x181, 0x3, 0x100]
    t.constant.Answers (asField (repliesOf t)) ∧
    let good := fun code => (t.constant.fetchOne m.encoding 1 31 code s.device).1.isOk
    let all := fetchAll t.constant m 1 31 codes s
    let less := fetchAll t.constant m 1 31 (codes.filter good) s
    (∃ l, less.1 = .ok l) ∧
    (Device.attributesOf all.1).map (·.code) = codes ∧
    Device.attributesOf less.1 = (Device.attributesOf all.1).filter (fun a => good a.code) ∧
    less.2.flags = all.2.flags := by
  intro t m s codes
  have answers : t.constant.Answers (asField (repliesOf t)) := by
    rw [asField_repliesOf]
    exact Simulated.Token.constant_answers (by decide)
  exact ⟨answers, fetchAll_without_failing t.constant m (repliesOf t) answers 1 31 codes s⟩

end TokenMarshal.Session

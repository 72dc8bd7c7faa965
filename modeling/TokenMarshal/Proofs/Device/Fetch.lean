/-
  TokenMarshal.Proofs.Device.Fetch — reading many attributes is reading each of them.

  A token may fail a call for several attributes as it likes, but when it says that such a
  call went well it must have answered every field as it answers it alone (`Answers`). Then
  a reading of many attributes is the readings of the single ones put together, whichever of
  its two ways it takes (`fetchAll_eq_gather`): the call that went well gave the same fields,
  and otherwise each attribute is read by itself, the hard failures included.

  `gather` keeps every attribute and reports the first hard failure, so
  `fetchAll_agrees_with_fetchOne` follows: the same attributes in the order of the request,
  success when all single readings succeed, and otherwise the fault of the first that fails.
-/
import TokenMarshal.Device.Fetch
import TokenMarshal.Simulated.Token

namespace TokenMarshal.Device

open Marshal Text

variable {σ : Type} {d : Device σ} {reply : ObjectHandle → AttributeCode → ReturnCode × Field}
  {e : Encoding} {session : SessionHandle} {object : ObjectHandle}

/-- The token answers a read of one attribute by the object and the code alone, and a call for
several only goes well if each of them alone would, with the same fields. -/
structure Answers (d : Device σ) (reply : ObjectHandle → AttributeCode → ReturnCode × Field) :
    Prop where
  single : ∀ session object code st, (d.read session object [.request code] st).1 =
    ((reply object code).1, [(reply object code).2])
  several : ∀ session object (codes : List AttributeCode) st fields, 1 < codes.length →
    (d.read session object (codes.map .request) st).1 = (ReturnCode.ok, fields) →
    (∀ code ∈ codes, (reply object code).1 = ReturnCode.ok) ∧
      fields = codes.map fun code => (reply object code).2

/-- What a reply says about its attribute. -/
def readingOf (e : Encoding) (code : AttributeCode) (r : ReturnCode × Field) : Reading :=
  if r.1 = ReturnCode.ok then (r.2.decode e, none) else classify code r.1

/-- A reading as the result of reading that one attribute. -/
def Reading.result : Reading → Except Fault Attribute
  | (a, none) => .ok a
  | (_, some fault) => .error fault

/-- All attributes of a reading, whether it succeeded or not. -/
def attributesOf : Except PartialFailure (List Attribute) → List Attribute
  | .ok l => l
  | .error p => p.attributes

/-! ## Single readings -/

theorem classify_hard {code : AttributeCode} {rv : ReturnCode} {fault : Fault}
    (h : (classify code rv).2 = some fault) : (classify code rv).1 = .absent code := by
  unfold classify at h ⊢
  split
  · rfl
  next h₁ =>
    rw [if_neg h₁] at h
    split
    next h₂ => rw [if_pos h₂] at h; cases h
    · split <;> rfl

theorem readingOf_hard {e : Encoding} {code : AttributeCode} {r : ReturnCode × Field} {fault : Fault}
    (h : (readingOf e code r).2 = some fault) : (readingOf e code r).1 = .absent code := by
  unfold readingOf at h ⊢
  split
  next hr => rw [if_pos hr] at h; cases h
  next hr => rw [if_neg hr] at h; exact classify_hard h

@[simp] theorem code_decode (e : Encoding) (f : Field) : (f.decode e).code = f.code := by
  unfold Field.decode
  split <;> rfl

theorem classify_fst (code : AttributeCode) (rv : ReturnCode) :
    (classify code rv).1 = .absent code ∨ (classify code rv).1 = ⟨code, .absent, true, true⟩ := by
  unfold classify
  split
  · exact .inl rfl
  · split
    · exact .inr rfl
    · split <;> exact .inl rfl

theorem bytes?_classify (code : AttributeCode) (rv : ReturnCode) :
    (classify code rv).1.bytes? = none := by
  rcases classify_fst code rv with absent | sensitive
  · rw [absent]; rfl
  · rw [sensitive]; rfl

theorem code_readingOf (e : Encoding) (code : AttributeCode) (rv : ReturnCode) (c : Content) :
    (readingOf e code (rv, ⟨code, c⟩)).1.code = code := by
  unfold readingOf
  split
  · exact code_decode e _
  · rcases classify_fst code rv with absent | sensitive
    · rw [absent]; rfl
    · rw [sensitive]

theorem Reading.result_eq_ok_iff {r : Reading} : (∃ a, r.result = .ok a) ↔ r.2 = none := by
  obtain ⟨a, fault⟩ := r
  cases fault with
  | none => exact ⟨fun _ => rfl, fun _ => ⟨a, rfl⟩⟩
  | some fault => exact ⟨fun ⟨_, h⟩ => (by cases h), fun h => (by cases h)⟩

theorem Reading.result_of_hard {r : Reading} {fault : Fault} (h : r.2 = some fault) :
    r.result = .error fault := by
  obtain ⟨a, _⟩ := r
  cases h
  rfl

/-- Where there is no result, the attribute was read as one without a value. -/
theorem attribute_of_result (e : Encoding) (code : AttributeCode) (r : ReturnCode × Field) :
    (Reading.result (readingOf e code r)).toOption.getD (.absent code) = (readingOf e code r).1 := by
  have hard := @readingOf_hard e code r
  generalize readingOf e code r = reading at hard ⊢
  obtain ⟨a, fault⟩ := reading
  cases fault with
  | none => rfl
  | some fault => exact (hard rfl).symm

theorem readOne_snd (code : AttributeCode) (st : σ) :
    (d.readOne e session object code st).2 = (d.read session object [.request code] st).2 := by
  unfold readOne
  obtain ⟨⟨rv, fields⟩, st'⟩ := d.read session object [.request code] st
  simp only
  split <;> rfl

theorem fetchOne_snd (code : AttributeCode) (st : σ) :
    (d.fetchOne e session object code st).2 = (d.read session object [.request code] st).2 := by
  rw [← readOne_snd (e := e), fetchOne]
  obtain ⟨⟨a, fault⟩, after⟩ := d.readOne e session object code st
  cases fault <;> rfl

theorem readOne_of_ok {code : AttributeCode} {st : σ}
    (ok : (d.read session object [.request code] st).1.1 = ReturnCode.ok) :
    (d.readOne e session object code st).1 =
      (((d.read session object [.request code] st).1.2.headD (.request code)).decode e, none) := by
  unfold readOne
  generalize d.read session object [.request code] st = call at ok ⊢
  obtain ⟨⟨rv, fields⟩, st'⟩ := call
  exact congrArg Prod.fst (if_pos ok)

theorem readOne_of_not_ok {code : AttributeCode} {st : σ}
    (failed : (d.read session object [.request code] st).1.1 ≠ ReturnCode.ok) :
    (d.readOne e session object code st).1 =
      classify code (d.read session object [.request code] st).1.1 := by
  unfold readOne
  generalize d.read session object [.request code] st = call at failed ⊢
  obtain ⟨⟨rv, fields⟩, st'⟩ := call
  exact congrArg Prod.fst (if_neg failed)

theorem readOne_eq (h : d.Answers reply) (e : Encoding) (session : SessionHandle)
    (object : ObjectHandle) (code : AttributeCode) (st : σ) :
    (d.readOne e session object code st).1 = readingOf e code (reply object code) := by
  have answer := h.single session object code st
  unfold readingOf
  by_cases ok : (reply object code).1 = ReturnCode.ok
  · rw [readOne_of_ok (by rw [answer]; exact ok), answer, if_pos ok]
    rfl
  · rw [readOne_of_not_ok (by rw [answer]; exact ok), answer, if_neg ok]

theorem fetchOne_eq (h : d.Answers reply) (e : Encoding) (session : SessionHandle)
    (object : ObjectHandle) (code : AttributeCode) (st : σ) :
    (d.fetchOne e session object code st).1 = Reading.result (readingOf e code (reply object code)) := by
  rw [← readOne_eq h e session object code st, fetchOne]
  obtain ⟨⟨a, fault⟩, st'⟩ := d.readOne e session object code st
  cases fault <;> rfl

/-- Where a single reading does not hang on the state, reading each is all of them. -/
theorem readEach_eq_map {e : Encoding} {session : SessionHandle} {object : ObjectHandle}
    {reading : AttributeCode → Reading}
    (one : ∀ code st, (d.readOne e session object code st).1 = reading code)
    (codes : List AttributeCode) (st : σ) :
    (d.readEach e session object codes st).1 = codes.map reading := by
  induction codes generalizing st with
  | nil => rfl
  | cons code codes ih => rw [readEach, List.map_cons, ← one code st, ← ih]

theorem readEach_eq (h : d.Answers reply) (e : Encoding) (session : SessionHandle)
    (object : ObjectHandle) (codes : List AttributeCode) (st : σ) :
    (d.readEach e session object codes st).1 =
      codes.map fun code => readingOf e code (reply object code) :=
  readEach_eq_map (fun code st => readOne_eq h e session object code st) codes st

/-! ## Readings put together -/

theorem attributesOf_gather (l : List Reading) : attributesOf (gather l) = l.map (·.1) := by
  unfold gather
  split <;> rfl

theorem gather_eq_ok_iff {l : List Reading} : (∃ a, gather l = .ok a) ↔ ∀ r ∈ l, r.2 = none := by
  rw [← List.findSome?_eq_none_iff]
  unfold gather
  cases l.findSome? (·.2) with
  | none => exact ⟨fun _ => rfl, fun _ => ⟨_, rfl⟩⟩
  | some fault => exact ⟨fun ⟨_, h⟩ => (by cases h), fun h => (by cases h)⟩

theorem gather_eq_error {l : List Reading} {p : PartialFailure} (h : gather l = .error p) :
    ∃ before r after, l = before ++ r :: after ∧ r.2 = some p.fault ∧ ∀ b ∈ before, b.2 = none := by
  rw [← List.findSome?_eq_some_iff]
  unfold gather at h
  cases hf : l.findSome? (·.2) with
  | none => rw [hf] at h; cases h
  | some fault => rw [hf] at h; cases h; rfl

theorem fetchEach_eq (h : d.Answers reply) (e : Encoding) (session : SessionHandle)
    (object : ObjectHandle) (codes : List AttributeCode) (st : σ) :
    (d.fetchEach e session object codes st).1 =
      gather (codes.map fun code => readingOf e code (reply object code)) := by
  rw [fetchEach, ← readEach_eq h e session object codes st]

theorem gather_of_ok {codes : List AttributeCode} {reply : AttributeCode → ReturnCode × Field}
    (e : Encoding) (h : ∀ code ∈ codes, (reply code).1 = ReturnCode.ok) :
    gather (codes.map fun code => readingOf e code (reply code)) =
      .ok (codes.map fun code => (reply code).2.decode e) := by
  have value : ∀ code ∈ codes, readingOf e code (reply code) = ((reply code).2.decode e, none) :=
    fun code hc => by rw [readingOf, if_pos (h code hc)]
  rw [List.map_congr_left value, gather]
  have none_hard : (codes.map fun code => ((reply code).2.decode e, (none : Option Fault))).findSome?
      (·.2) = none := by
    rw [List.findSome?_eq_none_iff]
    simp
  rw [none_hard, List.map_map]
  rfl

/-- However the attributes are read, it is the single readings put together. -/
theorem fetchAll_eq_gather (h : d.Answers reply) (e : Encoding) (session : SessionHandle)
    (object : ObjectHandle) (codes : List AttributeCode) (st : σ) :
    (d.fetchAll e session object codes st).1 =
      gather (codes.map fun code => readingOf e code (reply object code)) := by
  unfold fetchAll
  split
  next many =>
    have answer := h.several session object codes st
    generalize d.read session object (codes.map .request) st = call at answer ⊢
    obtain ⟨⟨rv, fields⟩, st'⟩ := call
    simp only
    split
    next hrv =>
      obtain ⟨ok, rfl⟩ := answer fields many (by rw [hrv])
      rw [gather_of_ok e ok, List.map_map]
      rfl
    · exact fetchEach_eq h e session object codes st'
  · exact fetchEach_eq h e session object codes st

/-- Reading many attributes agrees with reading each: it gives the attributes that the single
readings give, in the order of the request and without a value where one fails hard; it
succeeds when they all do; and otherwise its fault is that of the first one that fails. -/
theorem fetchAll_agrees_with_fetchOne (d : Device σ)
    (reply : ObjectHandle → AttributeCode → ReturnCode × Field) (h : d.Answers reply)
    (e : Encoding) (session : SessionHandle) (object : ObjectHandle) (codes : List AttributeCode)
    (st st' : σ) :
    let one := fun code => (d.fetchOne e session object code st').1
    let all := (d.fetchAll e session object codes st).1
    attributesOf all = codes.map (fun code => (one code).toOption.getD (.absent code)) ∧
    ((∃ l, all = .ok l) ↔ ∀ code ∈ codes, ∃ a, one code = .ok a) ∧
    (∀ p, all = .error p → ∃ before code after, codes = before ++ code :: after ∧
      (∀ c ∈ before, ∃ a, one c = .ok a) ∧ one code = .error p.fault) := by
  intro one all
  have single (code : AttributeCode) :
      one code = Reading.result (readingOf e code (reply object code)) :=
    fetchOne_eq h e session object code st'
  have whole : all = gather (codes.map fun code => readingOf e code (reply object code)) :=
    fetchAll_eq_gather h e session object codes st
  refine ⟨?_, ?_, ?_⟩
  · rw [whole, attributesOf_gather, List.map_map]
    refine List.map_congr_left fun code _ => ?_
    rw [single, attribute_of_result, Function.comp]
  · rw [whole, gather_eq_ok_iff, List.forall_mem_map]
    exact forall₂_congr fun code _ => by rw [single, Reading.result_eq_ok_iff]
  · intro p hp
    rw [whole] at hp
    obtain ⟨before, r, after, hl, hr, hb⟩ := gather_eq_error hp
    obtain ⟨before, rest, rfl, rfl, hrest⟩ := List.map_eq_append_iff.mp hl
    obtain ⟨code, after, rfl, rfl, rfl⟩ := List.map_eq_cons_iff.mp hrest
    refine ⟨before, code, after, rfl, ?_, ?_⟩
    · intro c hc
      rw [single, Reading.result_eq_ok_iff]
      exact hb _ (List.mem_map_of_mem hc)
    · rw [single, Reading.result_of_hard hr]

end TokenMarshal.Device

namespace TokenMarshal.Simulated.Token

open Marshal

/-! ## A token held in memory answers so -/

/-- The token as a device that no call changes. -/
def constant (t : Token) : Device Unit where
  info := fun _ => (t.info, ())
  read := fun _ object fields _ => (t.read object fields, ())
  create? := none
  mechanisms? := none

/-- What the token replies for one attribute. -/
def replyTo (t : Token) (object : ObjectHandle) (code : AttributeCode) : ReturnCode × Field :=
  match t.objects.find? (·.1 == object) with
  | none => (ReturnCode.objectHandleInvalid, .request code)
  | some (_, replies) => fill (.request code) (reply replies code)

theorem firstFailure_singleton (rv : ReturnCode) : firstFailure [rv] = rv := by
  by_cases h : rv = ReturnCode.ok
  · subst h; rfl
  · rw [firstFailure, List.find?_cons_of_pos (by simpa using h)]
    rfl

theorem all_ok_of_firstFailure {l : List ReturnCode} (h : firstFailure l = ReturnCode.ok) :
    ∀ rv ∈ l, rv = ReturnCode.ok := by
  cases hf : l.find? (· != ReturnCode.ok) with
  | none => simpa using hf
  | some rv =>
    rw [firstFailure, hf] at h
    have failed := List.find?_some hf
    rw [show rv = ReturnCode.ok from h] at failed
    cases failed

/-- Every such token answers by object and code, unless it is told to say that every call for
several attributes went well. -/
theorem constant_answers {t : Token} (h : t.batch ≠ some ReturnCode.ok) :
    t.constant.Answers t.replyTo where
  single := by
    intro session object code _
    simp only [constant, read, replyTo]
    cases t.objects.find? (·.1 == object) with
    | none => rfl
    | some o => simp [firstFailure_singleton, Field.request]
  several := by
    intro session object codes _ fields many answer
    simp only [constant, read, replyTo, List.length_map] at answer ⊢
    cases ho : t.objects.find? (·.1 == object) with
    | none => rw [ho] at answer; cases answer
    | some o =>
      obtain ⟨_, replies⟩ := o
      simp only [ho, if_pos many, Prod.mk.injEq, List.map_map] at answer ⊢
      obtain ⟨status, rfl⟩ := answer
      cases hb : t.batch with
      | some rv => rw [hb] at h status; exact absurd (congrArg some status) h
      | none =>
        rw [hb] at status
        have each := all_ok_of_firstFailure status
        refine ⟨fun code hc => each _ (List.mem_map_of_mem hc), rfl⟩

end TokenMarshal.Simulated.Token

namespace TokenMarshal.Device

open Marshal Simulated

/-- A value, a sensitive one, two hard failures of which the first is reported, a code asked for
twice and one that the object does not have. -/
theorem fetchAll_agrees_with_fetchOne_of_failures :
    let t := Token.ofObjects [(7, [(0x3, .value [0x61]), (0x11, .fail 17), (0x102, .fail 5),
      (0x100, .fail 48), (0x1, .without 0)])]
    let codes : List AttributeCode := [0x3, 0x11, 0x100, 0x3, 0x102, 0x1, 0x80]
    let one := fun code => (t.constant.fetchOne .utf8 1 7 code ()).1
    t.constant.Answers t.replyTo ∧
      attributesOf (t.constant.fetchAll .utf8 1 7 codes ()).1 =
        codes.map fun code => (one code).toOption.getD (.absent code) := by
  intro t codes one
  have answers : t.constant.Answers t.replyTo := Token.constant_answers (by decide)
  exact ⟨answers, (fetchAll_agrees_with_fetchOne t.constant t.replyTo answers .utf8 1 7 codes () ()).1⟩

end TokenMarshal.Device

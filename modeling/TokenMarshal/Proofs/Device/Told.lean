/-
  TokenMarshal.Proofs.Device.Told — what is read of a token that answers anything.

  Each attribute of a reading is a field that was decoded or what a return code says about its
  code (`Told`), so its flags are coherent and no template in it has a code twice, whatever
  the token answers. A reading is one call that went well or the single reads one after
  another (`fetchAll_cases`): where the token leaves the codes in the fields, the attributes
  have the codes of the request in its order (`codes_fetchAll`), and a single read that did
  not go well makes its attribute what its return code says (`fetchAll_of_return`).
-/
import TokenMarshal.Proofs.Attribute.Coherent
import TokenMarshal.Proofs.Device.Fetch

namespace TokenMarshal.Device

open Marshal Text

variable {σ : Type} {d : Device σ} {e : Encoding} {session : SessionHandle}
  {object : ObjectHandle}

/-- The token leaves the codes asked for in the fields. -/
def KeepsCodes (d : Device σ) : Prop :=
  ∀ session object (codes : List AttributeCode) st,
    (d.read session object (codes.map .request) st).1.2.map (·.code) = codes

/-- The attribute is a decoded field or what a return code says about a code. -/
inductive Told (e : Encoding) : Attribute → Prop
  | decoded (f : Field) : Told e (f.decode e)
  | classified (code : AttributeCode) (rv : ReturnCode) : Told e (classify code rv).1

/-- The return codes of single reads one after another. -/
def returnsEach (d : Device σ) (session : SessionHandle) (object : ObjectHandle) :
    List AttributeCode → σ → List ReturnCode
  | [], _ => []
  | code :: codes, st =>
    let call := d.read session object [.request code] st
    call.1.1 :: returnsEach d session object codes call.2

/-- The return codes of the single reads that a request makes, of which there are none if one call
for all of them goes well. -/
def singleReturns (d : Device σ) (session : SessionHandle) (object : ObjectHandle)
    (codes : List AttributeCode) (st : σ) : List ReturnCode :=
  if 1 < codes.length then
    let call := d.read session object (codes.map .request) st
    if call.1.1 = ReturnCode.ok then [] else returnsEach d session object codes call.2
  else returnsEach d session object codes st

/-! ## One attribute -/

theorem Told.coherent {a : Attribute} (told : Told e a) : a.CoherentThroughout := by
  cases told with
  | decoded f =>
    refine ⟨f.coherent_decode e, ?_⟩
    unfold Field.decode
    split
    · exact Value.coherent_decode e _ _
    · trivial
  | classified code rv =>
    rcases classify_fst code rv with absent | sensitive
    · rw [absent]
      exact ⟨Attribute.coherent_of_absent rfl (fun h => nomatch h), trivial⟩
    · rw [sensitive]
      exact ⟨Attribute.coherent_of_absent rfl fun _ => rfl, trivial⟩

theorem Told.distinct {a : Attribute} (told : Told e a) :
    a.value.EveryLevel fun l => (l.map (·.code)).Nodup := by
  cases told with
  | decoded f =>
    unfold Field.decode
    split
    · exact Value.distinct_decode e _ _
    · trivial
  | classified code rv =>
    rcases classify_fst code rv with absent | sensitive
    · rw [absent]; trivial
    · rw [sensitive]; trivial

/-- Only the return code for a sensitive attribute says something of it. -/
theorem classify_absent {rv : ReturnCode} (other : rv ≠ ReturnCode.attributeSensitive)
    (code : AttributeCode) : (classify code rv).1 = .absent code := by
  unfold classify
  split
  · rfl
  · split <;> rfl

/-- The return codes after which a single read has a result. -/
theorem classify_snd_eq_none_iff {code : AttributeCode} {rv : ReturnCode} :
    (classify code rv).2 = none ↔ rv = ReturnCode.attributeTypeInvalid ∨
      rv = ReturnCode.attributeSensitive ∨ tolerated rv = true := by
  unfold classify
  by_cases invalid : rv = ReturnCode.attributeTypeInvalid
  · simp [invalid]
  · by_cases sensitive : rv = ReturnCode.attributeSensitive
    · rw [if_neg invalid, if_pos sensitive]
      simp [sensitive]
    · by_cases tolerable : tolerated rv = true <;> simp [invalid, sensitive, tolerable]

theorem told_readOne (d : Device σ) (e : Encoding) (session : SessionHandle)
    (object : ObjectHandle) (code : AttributeCode) (st : σ) :
    Told e (d.readOne e session object code st).1.1 := by
  by_cases ok : (d.read session object [.request code] st).1.1 = ReturnCode.ok
  · rw [readOne_of_ok ok]
    exact .decoded _
  · rw [readOne_of_not_ok ok]
    exact .classified code _

theorem readOne_fault_eq_none_iff (d : Device σ) (e : Encoding) (session : SessionHandle)
    (object : ObjectHandle) (code : AttributeCode) (st : σ) :
    let rv := (d.read session object [.request code] st).1.1
    (d.readOne e session object code st).1.2 = none ↔ rv = ReturnCode.ok ∨
      rv = ReturnCode.attributeTypeInvalid ∨ rv = ReturnCode.attributeSensitive ∨
      tolerated rv = true := by
  intro rv
  by_cases ok : rv = ReturnCode.ok
  · rw [readOne_of_ok ok]
    exact ⟨fun _ => .inl ok, fun _ => rfl⟩
  · rw [readOne_of_not_ok ok, classify_snd_eq_none_iff]
    exact ⟨.inr, fun h => h.resolve_left ok⟩

theorem code_readOne (keeps : d.KeepsCodes) (code : AttributeCode) (st : σ) :
    (d.readOne e session object code st).1.1.code = code := by
  by_cases ok : (d.read session object [.request code] st).1.1 = ReturnCode.ok
  · have kept := keeps session object [code] st
    rw [readOne_of_ok ok, code_decode]
    obtain ⟨f, same, rfl⟩ := List.map_eq_singleton_iff.mp kept
    rw [List.map_singleton] at same
    rw [same, List.headD_cons]
  · rw [readOne_of_not_ok ok]
    rcases classify_fst code (d.read session object [.request code] st).1.1 with absent | sensitive
    · rw [absent]; rfl
    · rw [sensitive]

/-! ## One attribute after another -/

theorem told_readEach (codes : List AttributeCode) (st : σ) :
    ∀ r ∈ (d.readEach e session object codes st).1, Told e r.1 := by
  induction codes generalizing st with
  | nil => exact fun r hr => absurd hr List.not_mem_nil
  | cons code codes ih => exact List.forall_mem_cons.mpr ⟨told_readOne d e session object code st, ih _⟩

theorem codes_readEach (keeps : d.KeepsCodes) (codes : List AttributeCode) (st : σ) :
    (d.readEach e session object codes st).1.map (·.1.code) = codes := by
  induction codes generalizing st with
  | nil => rfl
  | cons code codes ih =>
    rw [readEach, List.map_cons, code_readOne keeps]
    exact congrArg (code :: ·) (ih _)

theorem readEach_of_return {codes : List AttributeCode} {st : σ} {i : Nat} {rv : ReturnCode}
    (returned : (returnsEach d session object codes st)[i]? = some rv)
    (failed : rv ≠ ReturnCode.ok) : ∃ code, codes[i]? = some code ∧
      (d.readEach e session object codes st).1[i]? = some (classify code rv) := by
  induction codes generalizing st i with
  | nil => cases returned
  | cons code codes ih =>
    rw [readEach]
    cases i with
    | zero =>
      cases returned
      exact ⟨code, rfl, congrArg some (readOne_of_not_ok failed)⟩
    | succ i =>
      obtain ⟨code', here, reading⟩ := ih returned
      refine ⟨code', here, ?_⟩
      rw [← readOne_snd] at reading
      exact reading

/-! ## A request -/

/-- A request is answered by one call, or by single reads from some state on. -/
theorem fetchAll_cases (d : Device σ) (e : Encoding) (session : SessionHandle)
    (object : ObjectHandle) (codes : List AttributeCode) (st : σ) :
    (attributesOf (d.fetchAll e session object codes st).1 =
        (d.read session object (codes.map .request) st).1.2.map (Field.decode e) ∧
      singleReturns d session object codes st = []) ∨
    ∃ st', attributesOf (d.fetchAll e session object codes st).1 =
        (d.readEach e session object codes st').1.map (·.1) ∧
      singleReturns d session object codes st = returnsEach d session object codes st' := by
  have each (st : σ) : attributesOf (d.fetchEach e session object codes st).1 =
      (d.readEach e session object codes st).1.map (·.1) := attributesOf_gather _
  unfold fetchAll singleReturns
  split
  · obtain ⟨⟨rv, fields⟩, st'⟩ := d.read session object (codes.map .request) st
    simp only
    split
    · exact .inl ⟨rfl, rfl⟩
    · exact .inr ⟨st', each st', rfl⟩
  · exact .inr ⟨st, each st, rfl⟩

theorem told_fetchAll (codes : List AttributeCode) (st : σ) :
    ∀ a ∈ attributesOf (d.fetchAll e session object codes st).1, Told e a := by
  rcases fetchAll_cases d e session object codes st with ⟨decoded, -⟩ | ⟨st', each, -⟩
  · rw [decoded]
    exact List.forall_mem_map.mpr fun f _ => .decoded f
  · rw [each]
    exact List.forall_mem_map.mpr (told_readEach codes st')

theorem codes_fetchAll (keeps : d.KeepsCodes) (codes : List AttributeCode) (st : σ) :
    (attributesOf (d.fetchAll e session object codes st).1).map (·.code) = codes := by
  rcases fetchAll_cases d e session object codes st with ⟨decoded, -⟩ | ⟨st', each, -⟩
  · rw [decoded, List.map_map]
    refine (List.map_congr_left fun f _ => ?_).trans (keeps session object codes st)
    exact code_decode e f
  · rw [each, List.map_map]
    exact codes_readEach keeps codes st'

/-- An attribute whose own read did not go well is what the return code of that says. -/
theorem fetchAll_of_return {codes : List AttributeCode} {st : σ} {i : Nat} {rv : ReturnCode}
    (returned : (singleReturns d session object codes st)[i]? = some rv)
    (failed : rv ≠ ReturnCode.ok) : ∃ code, codes[i]? = some code ∧
      (attributesOf (d.fetchAll e session object codes st).1)[i]? = some (classify code rv).1 := by
  rcases fetchAll_cases d e session object codes st with ⟨-, none_made⟩ | ⟨st', each, made⟩
  · rw [none_made] at returned
    cases returned
  · rw [made] at returned
    obtain ⟨code, here, reading⟩ := readEach_of_return returned failed
    refine ⟨code, here, ?_⟩
    rw [each, List.getElem?_map, reading]
    rfl

end TokenMarshal.Device

namespace TokenMarshal.Simulated.Token

open Marshal

theorem constant_keepsCodes (t : Token) : t.constant.KeepsCodes := by
  intro _ object codes _
  simp only [constant, read]
  cases t.objects.find? (·.1 == object) with
  | none => exact (List.map_map ..).trans (List.map_id codes)
  | some o =>
    simp only [List.map_map]
    refine (List.map_congr_left fun code _ => ?_).trans (List.map_id codes)
    show (fill (.request code) (reply o.2 code)).2.code = code
    cases reply o.2 code <;> rfl

end TokenMarshal.Simulated.Token

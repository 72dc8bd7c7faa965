/-
  TokenMarshal.Proofs.Device.Repeats — a token that gives the same octets at every read.

  Such a token (`Repeats`) answers by the arguments of a call alone. Its return code for
  several attributes may be any, also that all went well when one of them fails alone; only
  it gives octets for no attribute that it would not give them for by itself. So what is read
  from it does not hang on its state (`fetchAll_eq_given`), and octets of an attribute that
  holds octets are those of the token's reply, whichever read gave them
  (`payload_of_mem_given`, `bytes?_fetchOne`).
-/
import TokenMarshal.Proofs.Device.Fetch

namespace TokenMarshal.Device

open Marshal Text

variable {σ : Type}

/-- The token answers a read by its arguments alone, field by field by the object and the code,
and gives octets only where it gives them to a read of their own. -/
structure Repeats (d : Device σ) (reply : ObjectHandle → AttributeCode → Content)
    (status : SessionHandle → ObjectHandle → List AttributeCode → ReturnCode) : Prop where
  outcome : ∀ session object (codes : List AttributeCode) st,
    (d.read session object (codes.map .request) st).1.1 = status session object codes
  fields : ∀ session object (codes : List AttributeCode) st,
    status session object codes = ReturnCode.ok →
    (d.read session object (codes.map .request) st).1.2 =
      codes.map fun code => ⟨code, reply object code⟩
  payload : ∀ session object code b, reply object code = .payload b →
    status session object [code] = ReturnCode.ok

variable {d : Device σ} {reply : ObjectHandle → AttributeCode → Content}
  {status : SessionHandle → ObjectHandle → List AttributeCode → ReturnCode}
  {e : Encoding} {session : SessionHandle} {object : ObjectHandle}

/-- A single reading of an attribute, by the return code and the reply for it. -/
def ownReading (e : Encoding) (reply : AttributeCode → Content)
    (status : List AttributeCode → ReturnCode) (code : AttributeCode) : Reading :=
  readingOf e code (status [code], ⟨code, reply code⟩)

/-- What a reading of many attributes gives: the replies to a call that went well, else the single
readings put together. -/
def given (e : Encoding) (reply : AttributeCode → Content)
    (status : List AttributeCode → ReturnCode) (codes : List AttributeCode) :
    Except PartialFailure (List Attribute) :=
  if 1 < codes.length ∧ status codes = ReturnCode.ok then
    .ok (codes.map fun code => Field.decode e ⟨code, reply code⟩)
  else gather (codes.map (ownReading e reply status))

theorem readOne_eq_ownReading (h : d.Repeats reply status) (code : AttributeCode) (st : σ) :
    (d.readOne e session object code st).1 =
      ownReading e (reply object) (status session object) code := by
  have outcome := h.outcome session object [code] st
  have fields := h.fields session object [code] st
  rw [List.map_singleton] at outcome fields
  unfold ownReading readingOf
  by_cases ok : status session object [code] = ReturnCode.ok
  · rw [readOne_of_ok (outcome.trans ok), fields ok, if_pos ok]
    rfl
  · rw [readOne_of_not_ok (outcome ▸ ok), outcome, if_neg ok]

theorem fetchAll_eq_given (h : d.Repeats reply status) (codes : List AttributeCode) (st : σ) :
    (d.fetchAll e session object codes st).1 =
      given e (reply object) (status session object) codes := by
  have each (st : σ) : (d.fetchEach e session object codes st).1 =
      gather (codes.map (ownReading e (reply object) (status session object))) := by
    rw [fetchEach, ← readEach_eq_map (readOne_eq_ownReading h) codes st]
  unfold fetchAll given
  by_cases many : 1 < codes.length
  · have outcome := h.outcome session object codes st
    have fields := h.fields session object codes st
    rw [← outcome] at fields ⊢
    generalize d.read session object (codes.map .request) st = call at fields ⊢
    obtain ⟨⟨rv, got⟩, st'⟩ := call
    simp only [many, true_and, if_true]
    split
    next ok =>
      obtain rfl : got = codes.map fun code => ⟨code, reply object code⟩ := fields ok
      rw [List.map_map]
      rfl
    · exact each st'
  · rw [if_neg many, if_neg (many ·.1)]
    exact each st

theorem fetchOne_eq_ownReading (h : d.Repeats reply status) (e : Encoding)
    (session : SessionHandle) (object : ObjectHandle) (code : AttributeCode) (st : σ) :
    (d.fetchOne e session object code st).1 =
      Reading.result (ownReading e (reply object) (status session object) code) := by
  rw [← readOne_eq_ownReading h code st, fetchOne]
  obtain ⟨⟨a, fault⟩, st'⟩ := d.readOne e session object code st
  cases fault <;> rfl

/-! ## Octets -/

/-- What is to be read as octets is read as it is. -/
theorem bytes?_decode (f : Field) (octets : f.code.kind = .bytes) :
    (f.decode e).bytes? = f.payload? := by
  unfold Field.decode Field.payload?
  cases f.content with
  | payload b =>
    show (Value.decode e f.code b).bytes? = some b
    rw [Value.decode, octets]
    rfl
  | missing len => rfl

theorem bytes?_readingOf (code : AttributeCode) (rv : ReturnCode) (f : Field)
    (octets : f.code.kind = .bytes) :
    (readingOf e code (rv, f)).1.bytes? = if rv = ReturnCode.ok then f.payload? else none := by
  unfold readingOf
  split
  · exact bytes?_decode f octets
  · exact bytes?_classify code rv

theorem bytes?_result (r : Reading) :
    r.result.toOption.bind (·.bytes?) = if r.2 = none then r.1.bytes? else none := by
  obtain ⟨a, fault⟩ := r
  cases fault <;> rfl

section

variable {reply : AttributeCode → Content} {status : List AttributeCode → ReturnCode}
  {codes : List AttributeCode} {a : Attribute} {b : List UInt8}

/-- Octets among attributes are those of the reply for them. -/
theorem payload_of_mem_given (ha : a ∈ attributesOf (given e reply status codes))
    (octets : a.code.kind = .bytes) (here : a.bytes? = some b) : reply a.code = .payload b := by
  have of_field : ∀ code, (⟨code, reply code⟩ : Field).payload? = some b → reply code = .payload b := by
    intro code
    unfold Field.payload?
    cases reply code with
    | payload _ => intro same; cases same; rfl
    | missing _ => intro same; cases same
  unfold given at ha
  split at ha
  · obtain ⟨code, -, rfl⟩ := List.mem_map.mp ha
    rw [code_decode] at octets ⊢
    rw [bytes?_decode _ octets] at here
    exact of_field code here
  · rw [attributesOf_gather, List.map_map] at ha
    obtain ⟨code, -, rfl⟩ := List.mem_map.mp ha
    rw [Function.comp_apply, ownReading, code_readingOf] at octets ⊢
    rw [Function.comp_apply, ownReading, bytes?_readingOf _ _ _ octets] at here
    split at here
    · exact of_field code here
    · cases here

end

/-- A read of its own gives the octets of the reply. -/
theorem bytes?_fetchOne (h : d.Repeats reply status) {code : AttributeCode}
    (octets : code.kind = .bytes) (st : σ) :
    (d.fetchOne e session object code st).1.toOption.bind (·.bytes?) =
      (⟨code, reply object code⟩ : Field).payload? := by
  rw [fetchOne_eq_ownReading h, bytes?_result, ownReading, bytes?_readingOf _ _ _ octets]
  by_cases ok : status session object [code] = ReturnCode.ok
  · rw [if_pos ok, readingOf, if_pos ok]
    rfl
  · rw [if_neg ok, ite_self, Field.payload?]
    cases content : reply object code with
    | payload b => exact absurd (h.payload session object code b content) ok
    | missing len => rfl

end TokenMarshal.Device

namespace TokenMarshal.Simulated.Token

open Marshal Device

/-- A token held in memory repeats itself, whatever it says to calls for several attributes. -/
theorem constant_repeats (t : Token) :
    t.constant.Repeats (fun object code => (t.replyTo object code).2.content)
      (fun _ object codes => (t.read object (codes.map .request)).1) where
  outcome := fun _ _ _ _ => rfl
  fields := by
    intro _ object codes _ _
    simp only [constant, read, replyTo]
    cases t.objects.find? (·.1 == object) with
    | none => rfl
    | some o =>
      simp only [List.map_map]
      refine List.map_congr_left fun code _ => ?_
      show (fill (.request code) (reply o.2 code)).2 = _
      cases reply o.2 code <;> rfl
  payload := by
    intro _ object code b
    simp only [read, replyTo, Field.request]
    cases t.objects.find? (·.1 == object) with
    | none => intro content; cases content
    | some o =>
      obtain ⟨_, replies⟩ := o
      simp only [List.map_singleton, List.length_singleton, Nat.lt_irrefl, if_false,
        firstFailure_singleton]
      intro content
      cases held : reply replies code with
      | value b => exact congrArg (fun r => (fill (.request code) r).1) held
      | without len => rw [held] at content; cases content
      | fail rv => rw [held] at content; cases content

end TokenMarshal.Simulated.Token

/-
  TokenMarshal.Proofs.Session.Calls — the calls that reading attributes takes.

  A device is asked for several attributes in one call, and for each of them by itself unless that
  went well: the single reads are made in the order of the request, whatever they return
  (`calls_readEach`, `calls_fetchAll`). After that a session makes one more read at most, that of
  the parameters, for a point that it has read and knows none for (`calls_lookupFor`). What
  it hands on has the codes of what was read, and octets where that has some (`forall₂_sameForm`),
  so whether the read is made shows in the attributes handed on.

  `fetchAll_calls` puts the calls of a request together.
-/
import TokenMarshal.Proofs.Session.Apart
import TokenMarshal.Proofs.Session.Lookup
import TokenMarshal.Proofs.Session.ReadBack

namespace TokenMarshal

open Marshal Text

variable {σ : Type}

/-! ## Calls of a device -/

namespace Device

variable (d : Device σ) (e : Encoding) (session : SessionHandle) (object : ObjectHandle)

theorem calls_readOne (code : AttributeCode) (st : σ) (before : List Call) :
    (d.logged.readOne e session object code (st, before)).2 =
      ((d.readOne e session object code st).2, before ++ [.read session object [code]]) := by
  rw [readOne_snd, readOne_snd]
  rfl

/-- Each attribute is read by itself, whatever the reads before it returned. -/
theorem calls_readEach (codes : List AttributeCode) (st : σ) (before : List Call) :
    (d.logged.readEach e session object codes (st, before)).2.2 =
      before ++ codes.map fun code => .read session object [code] := by
  induction codes generalizing st before with
  | nil => exact (List.append_nil before).symm
  | cons code codes ih =>
    have rest := ih (d.readOne e session object code st).2 (before ++ [.read session object [code]])
    simp only [readEach, calls_readOne, rest, List.map_cons, List.append_assoc, List.cons_append,
      List.nil_append]

/-- The return code of the call for all attributes of a request; none if there is no such call. -/
def batchReturn? (codes : List AttributeCode) (st : σ) : Option ReturnCode :=
  if 1 < codes.length then some (d.read session object (codes.map .request) st).1.1 else none

theorem calls_fetchAll (codes : List AttributeCode) (st : σ) (before : List Call) :
    (d.logged.fetchAll e session object codes (st, before)).2.2 =
      before ++ (if 1 < codes.length then [.read session object codes] else []) ++
        (if d.batchReturn? session object codes st = some ReturnCode.ok then []
          else codes.map fun code => .read session object [code]) := by
  have asked : (codes.map Field.request).map (·.code) = codes := by
    rw [List.map_map]
    exact List.map_id codes
  unfold fetchAll batchReturn?
  by_cases several : 1 < codes.length
  · have batch : d.logged.read session object (codes.map .request) (st, before) =
        ((d.read session object (codes.map .request) st).1,
          (d.read session object (codes.map .request) st).2, before ++ [.read session object codes]) := by
      rw [← asked]
      simp only [logged, asked]
    simp only [if_pos several, batch, Option.some.injEq]
    split
    · exact (List.append_nil _).symm
    · exact calls_readEach d e session object codes _ _
  · simp only [if_neg several, reduceCtorEq, if_false, List.append_nil]
    exact calls_readEach d e session object codes st before

end Device

namespace Session

open Device

/-! ## What shows in the attributes handed on -/

/-- A point with octets is among the attributes. -/
def HoldsPoint (l : List Attribute) : Prop := ∃ a ∈ l, (pointBytes? a).isSome = true

instance : DecidablePred HoldsPoint := fun l => inferInstanceAs (Decidable (∃ a ∈ l, _))

/-- Attributes that have the same code, and that both have octets or both have none. -/
def SameForm (a a' : Attribute) : Prop :=
  a'.code = a.code ∧ a'.bytes?.isSome = a.bytes?.isSome

theorem Repaired.sameForm {a a' : Attribute} (h : Repaired a a') : SameForm a a' := by
  cases h with
  | same => exact ⟨rfl, rfl⟩
  | octets fixed held => exact ⟨rfl, by rw [held]; rfl⟩

theorem forall₂_sameForm {d : Device σ} {m : Module} {session : SessionHandle}
    {object : ObjectHandle} (l : List Attribute) (s : State σ) :
    List.Forall₂ SameForm l (process d m session object l s).1 := by
  refine (forall₂_process l s).imp fun a a' repaired => ?_
  obtain ⟨code, octets⟩ := repaired.sameForm
  exact ⟨code.trans (m.code_attributeToGeneric a), by rw [octets, m.bytes?_attributeToGeneric]⟩

theorem SameForm.isSome_pointBytes? {a a' : Attribute} (h : SameForm a a') :
    (pointBytes? a').isSome = (pointBytes? a).isSome := by
  obtain ⟨code, octets⟩ := h
  unfold pointBytes?
  rw [code]
  split
  · exact octets
  · rfl

theorem holdsPoint_congr {l l' : List Attribute} (h : List.Forall₂ SameForm l l') :
    HoldsPoint l' ↔ HoldsPoint l := by
  induction h with
  | nil => exact Iff.rfl
  | cons first _ ih =>
    unfold HoldsPoint at ih ⊢
    rw [List.exists_mem_cons_iff, List.exists_mem_cons_iff, ih, first.isSome_pointBytes?]

theorem readParams?_eq_none_congr {l l' : List Attribute} (h : List.Forall₂ SameForm l l') :
    readParams? l' = none ↔ readParams? l = none := by
  induction h with
  | nil => exact Iff.rfl
  | @cons a a' _ _ first _ ih =>
    obtain ⟨code, octets⟩ := first
    unfold readParams? at ih ⊢
    rw [List.find?_cons, List.find?_cons, code]
    split
    · rw [Option.bind_some, Option.bind_some, ← Option.not_isSome_iff_eq_none, octets,
        Option.not_isSome_iff_eq_none]
    · exact ih

/-! ## Calls of a session -/

variable (d : Device σ) (m : Module) (session : SessionHandle) (object : ObjectHandle)

/-- A session reads the parameters itself for a point that comes without them and is of a key that it
does not know. -/
theorem calls_lookupFor (l : List Attribute) (s : State σ) :
    ((lookupFor d m session object l s).elim [] fun w => w.calls session object) =
      if HoldsPoint l ∧ readParams? l = none ∧ s.cache.find? object = none then
        [.read session object [AttributeCode.ecParams]]
      else [] := by
  have points : HoldsPoint l ↔ l.findSome? pointBytes? ≠ none := by
    simp [HoldsPoint, Option.isSome_iff_ne_none]
  simp only [points, lookupFor, ownLookup]
  cases readParams? l with
  | some params => simp [Lookup.calls]
  | none =>
    cases l.findSome? pointBytes? with
    | none => simp
    | some point =>
      cases s.cache.find? object with
      | none => simp [Lookup.calls]
      | some params => simp [Lookup.calls]

/-- A request for attributes takes these calls, in this order, whatever the device, the session and
the codes are: one for all of them if there are several; one for each, in the order of the request,
unless that call went well; and one for the parameters, if the attributes handed on hold a point,
their first attribute for parameters has no octets, and the key is not in the cache. Writing them
down changes nothing of the result. -/
theorem fetchAll_calls (codes : List AttributeCode) (s : State σ) :
    let result := attributesOf (fetchAll d m session object codes s).1
    let logged := fetchAll d.logged m session object codes ⟨(s.device, []), s.flags, s.cache⟩
    logged.1 = (fetchAll d m session object codes s).1 ∧
    logged.2.device.2 =
      (if 1 < codes.length then [.read session object codes] else []) ++
      (if d.batchReturn? session object codes s.device = some ReturnCode.ok then []
        else codes.map fun code => .read session object [code]) ++
      (if HoldsPoint result ∧ readParams? result = none ∧ s.cache.find? object = none then
        [.read session object [AttributeCode.ecParams]]
      else []) := by
  intro result logged
  have same : Same (State.Related fun st (s : σ × List Call) => st = s.1)
      (fetchAll d m session object codes s) logged :=
    fetchAll_related (matches_logged d) ⟨rfl, rfl, rfl⟩ m session object codes
  let read := attributesOf (d.fetchAll m.encoding session object codes s.device).1
  let s' : State σ := { s with device := (d.fetchAll m.encoding session object codes s.device).2 }
  have handed : List.Forall₂ SameForm read result := by
    simp only [result, fetchAll_eq_process, attributesOf_withAttributes]
    exact forall₂_sameForm read s'
  have calls := calls_answer d m session s (.fetchAll object codes) (fun h => nomatch h)
  refine ⟨same.1.symm, calls.trans ?_⟩
  simp only [holdsPoint_congr handed, readParams?_eq_none_congr handed]
  rw [← calls_lookupFor d m session object read s']
  simp only [asked, lookup, calls_fetchAll, List.nil_append, Option.elim_map, Function.comp_def,
    read, s']

/-- A call for two attributes that fails, both by themselves, and the parameters for the point. -/
example :
    let t := Simulated.Token.ofObjects [(31, (0x11, .fail 5) :: Simulated.strangeKey)]
    let m := Simulated.plainModule
    (fetchAll t.constant.logged m 1 31 [0x11, 0x181] ⟨((), []), .initial, ⟨8, []⟩⟩).2.device.2 =
      [.read 1 31 [0x11, 0x181], .read 1 31 [0x11], .read 1 31 [0x181], .read 1 31 [0x180]] := by
  decide +kernel

end Session

end TokenMarshal

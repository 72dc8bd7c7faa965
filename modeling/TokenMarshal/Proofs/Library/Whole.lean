/-
  TokenMarshal.Proofs.Library.Whole — a read tells all fields anew, or none.

  Nothing is assumed of the library but that it leaves the array of slots as long as it was
  (`KeepsCount`): each of its calls may return any code, and write any lengths and octets
  whatever. The codes after which the slots count are three (`accepted`). A read makes one
  call after another for as long as these are returned (`fill_calls`, `readWith_calls`), and
  its own code is that of the last call. If that is none of the three, whichever call it came
  from, the fields are as they were; else each of them has been told anew, with octets or as
  one that has no value (`read_tells_all_or_none`).
-/
import TokenMarshal.Proofs.Library.Read

namespace TokenMarshal.Library

open Marshal

variable {σ : Type}

/-- The codes after which the slots count. -/
def accepted : List ReturnCode :=
  [ReturnCode.ok, ReturnCode.attributeTypeInvalid, ReturnCode.attributeSensitive]

theorem usable_iff {rv : ReturnCode} : usable rv = true ↔ rv ∈ accepted := by
  simp [usable, accepted, or_assoc]

theorem usable_eq_false_iff {rv : ReturnCode} : usable rv = false ↔ rv ∉ accepted := by
  rw [← usable_iff, Bool.not_eq_true]

/-- A call leaves as many slots as it was given. -/
def KeepsCount (call : List Slot → σ → (ReturnCode × List Slot) × σ) : Prop :=
  ∀ slots st, (call slots st).1.2.length = slots.length

/-- The attribute asked for has been told anew: it has octets, or the length that stands for no
value. -/
def ToldAnew (asked told : Field) : Prop :=
  told.code = asked.code ∧
    ((∃ b, told.payload? = some b) ∨ told.payload? = none ∧ told.len = unavailable)

theorem toldAnew_field (asked : Field) (s : Slot) : ToldAnew asked (s.field asked.code) := by
  unfold Slot.field
  split
  · exact ⟨rfl, .inr ⟨rfl, rfl⟩⟩
  split
  · exact ⟨rfl, .inr ⟨rfl, rfl⟩⟩
  · exact ⟨rfl, .inl ⟨_, rfl⟩⟩
  · exact ⟨rfl, .inl ⟨_, rfl⟩⟩

theorem toldAnew_zipWith {fields : List Field} {slots : List Slot}
    (same : slots.length = fields.length) :
    List.Forall₂ ToldAnew fields (List.zipWith (fun f s => Slot.field f.code s) fields slots) := by
  induction fields generalizing slots with
  | nil => exact .nil
  | cons f fields ih =>
    cases slots with
    | nil => cases same
    | cons s slots => exact .cons (toldAnew_field f s) (ih (Nat.succ.inj same))

/-! ## The calls of a read -/

section

variable {call : List Slot → σ → (ReturnCode × List Slot) × σ}

/-- The calls that get values: the last decides, and one before it was accepted. -/
theorem fill_calls (keeps : KeepsCount call) (sized : List Slot) (st : σ) :
    let reply := fill call sized st
    reply.1.2.length = sized.length ∧
      ∃ earlier, Calls call st (earlier ++ [reply.1.1]) reply.2 ∧ earlier.length ≤ 1 ∧
        ∀ rv ∈ earlier, rv ∈ accepted := by
  unfold fill
  have count := keeps (sized.map Slot.allocate) st
  generalize called : call (sized.map Slot.allocate) st = reply at count
  obtain ⟨⟨rv, slots⟩, st'⟩ := reply
  simp only [List.length_map] at count ⊢
  split
  next again =>
    have count' := keeps (slots.map Slot.allocateArray) st'
    generalize called' : call (slots.map Slot.allocateArray) st' = reply at count'
    obtain ⟨⟨rv', slots'⟩, st''⟩ := reply
    rw [List.length_map] at count'
    have first_accepted : rv ∈ accepted := usable_iff.mp (Bool.and_eq_true_iff.mp again).1
    exact ⟨count'.trans count, [rv], .next called (.next called' (.none st'')), Nat.le_refl 1,
      by simpa using first_accepted⟩
  · exact ⟨count, [], .next called (.none st'), Nat.zero_le 1, by simp⟩

/-- The calls of a read: the last decides whether the fields are told, and those before it were
accepted. -/
theorem readWith_calls (keeps : KeepsCount call) (fields : List Field) (st : σ) :
    let reply := readWith call fields st
    (reply.1.1 ∉ accepted → reply.1.2 = fields) ∧
    (reply.1.1 ∈ accepted → List.Forall₂ ToldAnew fields reply.1.2) ∧
    ∃ earlier, Calls call st (earlier ++ [reply.1.1]) reply.2 ∧ earlier.length ≤ 2 ∧
      ∀ rv ∈ earlier, rv ∈ accepted := by
  unfold readWith
  have count := keeps (fields.map fun f => .empty f.code) st
  generalize called : call (fields.map fun f => .empty f.code) st = reply at count
  obtain ⟨⟨rv, sized⟩, st'⟩ := reply
  simp only [List.length_map, Bool.not_eq_true', usable_eq_false_iff] at count ⊢
  by_cases sizes : rv ∈ accepted
  · rw [if_neg (not_not_intro sizes)]
    obtain ⟨same, earlier, calls, few, before⟩ := fill_calls keeps sized st'
    generalize fill call sized st' = filled at same calls ⊢
    obtain ⟨⟨rv', slots⟩, st''⟩ := filled
    simp only at same calls ⊢
    have made : ∃ earlier, Calls call st (earlier ++ [rv']) st'' ∧ earlier.length ≤ 2 ∧
        ∀ rv ∈ earlier, rv ∈ accepted :=
      ⟨rv :: earlier, .next called calls, Nat.succ_le_succ few, by simpa [sizes] using before⟩
    by_cases values : rv' ∈ accepted
    · rw [if_neg (not_not_intro values)]
      exact ⟨fun h => absurd values h, fun _ => toldAnew_zipWith (same.trans count), made⟩
    · rw [if_pos values]
      exact ⟨fun _ => rfl, fun h => absurd h values, made⟩
  · rw [if_pos sizes]
    exact ⟨fun _ => rfl, fun h => absurd h sizes, [], .next called (.none st'), Nat.zero_le 2, by simp⟩

end

/-- A read that returns none of the three codes leaves all fields as they were; one that returns one
of them has told every field anew. The code is that of the last of at most three calls, before which
no call failed. -/
theorem read_tells_all_or_none (lib : Library σ) (session : SessionHandle) (object : ObjectHandle)
    (keeps : ∀ f ∈ lib.attributes?, KeepsCount (f session object)) (fields : List Field) (st : σ) :
    let reply := lib.read session object fields st
    (reply.1.1 ∉ [ReturnCode.ok, ReturnCode.attributeTypeInvalid, ReturnCode.attributeSensitive] →
      reply.1.2 = fields) ∧
    (reply.1.1 ∈ [ReturnCode.ok, ReturnCode.attributeTypeInvalid, ReturnCode.attributeSensitive] →
      List.Forall₂ ToldAnew fields reply.1.2) ∧
    ∀ f ∈ lib.attributes?, ∃ earlier,
      Calls (f session object) st (earlier ++ [reply.1.1]) reply.2 ∧ earlier.length ≤ 2 ∧
        ∀ rv ∈ earlier, rv ∈ accepted := by
  unfold read
  cases present : lib.attributes? with
  | none =>
    have not_accepted : ReturnCode.functionNotSupported ∉ accepted := by decide
    exact ⟨fun _ => rfl, fun h => absurd h not_accepted, fun f given => (by cases given)⟩
  | some f =>
    obtain ⟨kept, told, calls⟩ := readWith_calls (keeps f present) fields st
    refine ⟨kept, told, fun f' given => ?_⟩
    cases given
    exact calls

/-- A template and a label are asked for, and a field that held something. When the third call fails,
after it has written all that it was asked for, nothing of that is told; when it does not, all is. -/
theorem read_tells_all_or_none_of_third_call :
    let stored : AttributeCode → Stored := fun code =>
      if code = 0x40000211 then .members [(0x1, some [1]), (0x11, none)] else .value [0x61, code.toUInt8]
    let lib : Library Nat := ⟨fun st => ((ReturnCode.ok, true), st), none, none, none,
      some fun _ _ slots made => ((if made = 2 then ReturnCode.functionFailed else ReturnCode.ok,
        slots.map fun s => (stored s.code).give s), made + 1), none, none⟩
    let fields := [Field.request 0x40000211, Field.request 0x3, Field.holding 0x102 [9]]
    (∀ f ∈ lib.attributes?, KeepsCount (f 1 7)) ∧
    ((lib.read 1 7 fields 0).1.1 = ReturnCode.functionFailed ∧ (lib.read 1 7 fields 0).1.2 = fields) ∧
    ((lib.read 1 7 fields 3).1.1 = ReturnCode.ok ∧
      List.Forall₂ ToldAnew fields (lib.read 1 7 fields 3).1.2) := by
  intro stored lib fields
  have keeps : ∀ f ∈ lib.attributes?, KeepsCount (f 1 7) := by
    intro f given slots st
    cases given
    exact List.length_map _
  have failed : (lib.read 1 7 fields 0).1.1 = ReturnCode.functionFailed := by decide +kernel
  have succeeded : (lib.read 1 7 fields 3).1.1 = ReturnCode.ok := by decide +kernel
  obtain ⟨kept, -, -⟩ := read_tells_all_or_none lib 1 7 keeps fields 0
  obtain ⟨-, told, -⟩ := read_tells_all_or_none lib 1 7 keeps fields 3
  exact ⟨keeps, ⟨failed, kept (by rw [failed]; decide)⟩, succeeded, told (by rw [succeeded]; decide)⟩

end TokenMarshal.Library

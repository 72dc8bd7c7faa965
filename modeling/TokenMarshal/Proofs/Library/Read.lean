/-
  TokenMarshal.Proofs.Library.Read — a read through buffers gives what the library holds.

  A library that keeps to its interface (`Conforms`) holds something for every attribute of an
  object (`Stored`) and answers slot by slot (`Stored.Answers`): a null buffer with a length, a
  buffer that is long enough with what it holds, and what it does not tell with the length for
  that. It owes this only for calls in which each slot can be answered so, and there it is the
  reader who has to keep to the rules.

  The lengths that the first call tells fix the buffers of the second (`allocate_of_answers`),
  and what that tells of the members of a template fixes those of the third
  (`map_allocateInner_sized`). So each call is one that the library has to answer, each buffer
  is just as long as what goes into it (`IsFull`), and the fields that are read are those of
  what the library holds (`read_of_conforms`). The return code is that of the last call: the
  second, or the third when there is a template among the attributes.
-/
import TokenMarshal.Library.Read
import TokenMarshal.Proofs.Lists

namespace TokenMarshal.Library

open Marshal

variable {σ : Type}

/-- An attribute inside a template that a library holds, without octets if it is not disclosed. -/
abbrev Member := AttributeCode × Option (List UInt8)

/-- What a library holds for an attribute of an object. -/
inductive Stored where
  | value (b : List UInt8)
  | members (l : List Member)
  | undisclosed
  | unknown
  deriving DecidableEq

/-! ## The rules for a library -/

/-- An answer for octets: their number where the buffer is null, and where it has as much room
as its length says, and enough, the octets at its front. -/
inductive Gives (b : List UInt8) : Slot → Slot → Prop
  | length (code : AttributeCode) (len : UInt64) :
      Gives b ⟨code, .null, len⟩ ⟨code, .null, UInt64.ofNat b.length⟩
  | octets {code : AttributeCode} {len : UInt64} {old new : List UInt8} {room rest : Nat} :
      len.toNat ≤ old.length + room → b.length ≤ len.toNat → new.length + rest = old.length + room →
      b <+: new ++ List.replicate rest 0 →
      Gives b ⟨code, .bytes old room, len⟩ ⟨code, .bytes new rest, UInt64.ofNat b.length⟩

/-- An answer for a member of a template, in a slot that may have had any code. -/
inductive GivesMember : Member → Slot → Slot → Prop
  | disclosed {code : AttributeCode} {b : List UInt8} {s s' : Slot} :
      Gives b ⟨code, s.buffer, s.len⟩ s' → GivesMember (code, some b) s s'
  | undisclosed (code : AttributeCode) (s : Slot) :
      GivesMember (code, none) s ⟨code, s.buffer, unavailable⟩

/-- The members of a template go into the first slots of an array. -/
inductive GivesMembers : List Member → List Slot → List Slot → Prop
  | none (rest : List Slot) : GivesMembers [] rest rest
  | next {m : Member} {l : List Member} {s s' : Slot} {slots slots' : List Slot} :
      GivesMember m s s' → GivesMembers l slots slots' →
      GivesMembers (m :: l) (s :: slots) (s' :: slots')

namespace Stored

/-- An answer for what is held. -/
inductive Answers : Stored → Slot → Slot → Prop
  | value {b : List UInt8} {s s' : Slot} : Gives b s s' → Answers (value b) s s'
  | count (l : List Member) (code : AttributeCode) (len : UInt64) :
      Answers (members l) ⟨code, .null, len⟩ ⟨code, .null, UInt64.ofNat (l.length * slotSize)⟩
  | members {l : List Member} {code : AttributeCode} {len : UInt64} {slots slots' : List Slot} :
      len.toNat ≤ slots.length * slotSize → l.length * slotSize ≤ len.toNat →
      GivesMembers l slots slots' →
      Answers (members l) ⟨code, .slots slots, len⟩
        ⟨code, .slots slots', UInt64.ofNat (l.length * slotSize)⟩
  | undisclosed (s : Slot) : Answers undisclosed s { s with len := unavailable }
  | unknown (s : Slot) : Answers unknown s { s with len := unavailable }

/-- Templates are held under the codes that stand for them, and every length is one that can be
told. -/
def Fits (code : AttributeCode) : Stored → Prop
  | value b => code.kind ≠ .template ∧ b.length < unavailable.toNat
  | members l => code.kind = .template ∧ l.length * slotSize < unavailable.toNat ∧
      ∀ m ∈ l, ∀ b, m.2 = some b → b.length < unavailable.toNat
  | undisclosed | unknown => True

def isMembers : Stored → Bool
  | members _ => true
  | _ => false

def isTold : Stored → Bool
  | value _ | members _ => true
  | undisclosed | unknown => false

/-- There is something that is not disclosed. -/
def withholds : Stored → Bool
  | undisclosed => true
  | members l => l.any (·.2.isNone)
  | value _ | unknown => false

end Stored

/-- The return codes for a call about what is held: of two that fit, a library may take either. -/
inductive Outcome (l : List Stored) : ReturnCode → Prop
  | ok : (∀ x ∈ l, x.isTold = true) → Outcome l ReturnCode.ok
  | sensitive : (∃ x ∈ l, x.withholds = true) → Outcome l ReturnCode.attributeSensitive
  | invalid : Stored.unknown ∈ l → Outcome l ReturnCode.attributeTypeInvalid

/-- Every slot can be answered for what is held under its code. -/
def Answerable (stored : AttributeCode → Stored) (slots : List Slot) : Prop :=
  ∀ s ∈ slots, ∃ s', (stored s.code).Answers s s'

/-- A library that holds the same at every call and answers each call that it can. -/
structure Conforms (call : List Slot → σ → (ReturnCode × List Slot) × σ)
    (stored : AttributeCode → Stored) : Prop where
  fits : ∀ code, (stored code).Fits code
  slots : ∀ slots st, Answerable stored slots →
    List.Forall₂ (fun s s' => (stored s.code).Answers s s') slots (call slots st).1.2
  outcome : ∀ slots st, Answerable stored slots →
    Outcome (slots.map fun s => stored s.code) (call slots st).1.1

/-! ## What is to be read -/

/-- The entry of a member in the block of its template. -/
def Member.field : Member → Field
  | (code, some b) => .holding code b
  | (code, none) => .withoutValue code

def Stored.field (code : AttributeCode) : Stored → Field
  | value b => .holding code b
  | members l => .holding code (Block.encode (l.map Member.field))
  | undisclosed | unknown => .withoutValue code

/-- Calls one after another, with what each returns. -/
inductive Calls (call : List Slot → σ → (ReturnCode × List Slot) × σ) :
    σ → List ReturnCode → σ → Prop
  | none (st : σ) : Calls call st [] st
  | next {st st' st'' : σ} {slots slots' : List Slot} {rv : ReturnCode} {l : List ReturnCode} :
      call slots st = ((rv, slots'), st') → Calls call st' l st'' → Calls call st (rv :: l) st''

@[simp] theorem Slot.code_allocateArray (s : Slot) : s.allocateArray.code = s.code := by
  unfold allocateArray
  split <;> rfl

/-! ## Lengths -/

theorem toNat_length {n : Nat} (h : n < unavailable.toNat) : (UInt64.ofNat n).toNat = n := by
  have : unavailable.toNat = 2 ^ 64 - 1 := rfl
  exact UInt64.toNat_ofNat_of_lt' (by show n < 2 ^ 64; omega)

theorem length_ne_unavailable {n : Nat} (h : n < unavailable.toNat) :
    UInt64.ofNat n ≠ unavailable := by
  intro same
  have value := toNat_length h
  rw [same] at value
  omega

/-! ## Buffers that are full -/

/-- The buffer of a slot holds these octets and has room for no more. -/
def IsFull (b : List UInt8) (s : Slot) : Prop :=
  ∃ new rest, s.buffer = .bytes new rest ∧ s.len = UInt64.ofNat b.length ∧
    new ++ List.replicate rest 0 = b

theorem Gives.isFull {b old : List UInt8} {room : Nat} {s s' : Slot} (h : Gives b s s')
    (buffer : s.buffer = .bytes old room) (exact_room : old.length + room = b.length) :
    IsFull b s' := by
  cases h with
  | length code len => cases buffer
  | @octets code len _ new _ rest _ _ same front =>
    cases buffer
    refine ⟨new, rest, rfl, rfl, (front.eq_of_length ?_).symm⟩
    rw [List.length_append, List.length_replicate]
    omega

theorem Gives.code_eq {b : List UInt8} {s s' : Slot} (h : Gives b s s') : s'.code = s.code := by
  cases h <;> rfl

namespace IsFull

variable {b : List UInt8} {s : Slot}

theorem len_ne (h : IsFull b s) (small : b.length < unavailable.toNat) : s.len ≠ unavailable := by
  obtain ⟨_, _, _, len, _⟩ := h
  rw [len]
  exact length_ne_unavailable small

theorem octets_eq (h : IsFull b s) (small : b.length < unavailable.toNat) : s.octets = b := by
  obtain ⟨new, rest, buffer, len, rfl⟩ := h
  unfold Slot.octets
  rw [buffer, len, toNat_length small]
  simp only [List.length_append, List.length_replicate]
  rw [List.take_of_length_le (by omega), Nat.add_sub_cancel_left, Nat.min_self]

/-- A full buffer is an answer to itself. -/
theorem gives (h : IsFull b s) (small : b.length < unavailable.toNat) : Gives b s s := by
  obtain ⟨code, buffer, len⟩ := s
  obtain ⟨new, rest, rfl, rfl, full⟩ := h
  have size := congrArg List.length full
  rw [List.length_append, List.length_replicate] at size
  exact .octets (by rw [toNat_length small]; omega) (Nat.le_of_eq (toNat_length small).symm) rfl
    (full ▸ List.prefix_rfl)

end IsFull

/-- A new buffer for octets whose number is known. -/
def roomFor (code : AttributeCode) (b : List UInt8) : Slot :=
  ⟨code, .bytes [] b.length, UInt64.ofNat b.length⟩

theorem gives_roomFor (code : AttributeCode) {b : List UInt8} (small : b.length < unavailable.toNat) :
    Gives b (roomFor code b) ⟨code, .bytes b 0, UInt64.ofNat b.length⟩ :=
  .octets (by rw [toNat_length small]; simp) (Nat.le_of_eq (toNat_length small).symm) (by simp) (by simp)

theorem Gives.isFull_of_roomFor {b : List UInt8} {code : AttributeCode} {s : Slot}
    (h : Gives b (roomFor code b) s) : IsFull b s :=
  h.isFull rfl (by simp)

/-! ## Members of a template -/

namespace Member

/-- The slot of a member whose length has been told. -/
def sized : Member → Slot
  | (code, some b) => ⟨code, .null, UInt64.ofNat b.length⟩
  | (code, none) => ⟨code, .null, unavailable⟩

/-- The slot of a member with a buffer for it. -/
def buffered : Member → Slot
  | (code, some b) => roomFor code b
  | (code, none) => ⟨code, .null, unavailable⟩

end Member

theorem givesMembers_sized (l : List Member) :
    GivesMembers l (List.replicate l.length (.empty 0)) (l.map Member.sized) := by
  induction l with
  | nil => exact .none []
  | cons m l ih =>
    rcases m with ⟨code, _ | b⟩
    · exact .next (.undisclosed code (.empty 0)) ih
    · exact .next (.disclosed (.length code 0)) ih

/-- Nothing but the lengths goes into an array of null buffers. -/
theorem eq_sized_of_givesMembers {l : List Member} {slots : List Slot}
    (h : GivesMembers l (List.replicate l.length (.empty 0)) slots) : slots = l.map Member.sized := by
  induction l generalizing slots with
  | nil => cases h; rfl
  | cons m l ih =>
    cases h with
    | next first others =>
      rw [List.map_cons, ← ih others]
      cases first with
      | disclosed given => cases given; rfl
      | undisclosed => rfl

variable {l : List Member}

theorem map_allocateInner_sized
    (small : ∀ m ∈ l, ∀ b, m.2 = some b → b.length < unavailable.toNat) :
    (l.map Member.sized).map Slot.allocateInner = l.map Member.buffered := by
  rw [List.map_map]
  refine List.map_congr_left fun m hm => ?_
  rcases m with ⟨code, _ | b⟩
  · rfl
  · have fits := small _ hm b rfl
    show Slot.allocateInner ⟨code, .null, UInt64.ofNat b.length⟩ = roomFor code b
    rw [Slot.allocateInner, if_neg (length_ne_unavailable fits), toNat_length fits]
    rfl

theorem exists_givesMembers_buffered
    (small : ∀ m ∈ l, ∀ b, m.2 = some b → b.length < unavailable.toNat) :
    ∃ slots, GivesMembers l (l.map Member.buffered) slots := by
  induction l with
  | nil => exact ⟨[], .none []⟩
  | cons m l ih =>
    rw [List.forall_mem_cons] at small
    obtain ⟨slots, given⟩ := ih small.2
    rcases m with ⟨code, _ | b⟩
    · exact ⟨_, .next (.undisclosed code _) given⟩
    · exact ⟨_, .next (.disclosed (gives_roomFor code (small.1 b rfl))) given⟩

/-- The entries of an array whose members have been given buffers are those of the members. -/
theorem map_entry_of_givesMembers {slots : List Slot}
    (small : ∀ m ∈ l, ∀ b, m.2 = some b → b.length < unavailable.toNat)
    (h : GivesMembers l (l.map Member.buffered) slots) :
    slots.map Slot.entry = l.map Member.field := by
  induction l generalizing slots with
  | nil => cases h; rfl
  | cons m l ih =>
    rw [List.forall_mem_cons] at small
    cases h with
    | next first others =>
      rw [List.map_cons, List.map_cons, ih small.2 others]
      congr 1
      cases first with
      | undisclosed code s => exact if_pos rfl
      | @disclosed code b _ _ given =>
        have fits := small.1 b rfl
        have full := Gives.isFull_of_roomFor given
        rw [Slot.entry, if_neg (full.len_ne fits), full.octets_eq fits, given.code_eq]
        rfl

/-! ## The three calls -/

namespace Stored

variable {x : Stored} {code : AttributeCode} {s s' : Slot}

theorem Answers.code_eq (h : x.Answers s s') : s'.code = s.code := by
  cases h with
  | value given => exact given.code_eq
  | _ => rfl

/-- A slot as it is passed to the second call. -/
def buffered (code : AttributeCode) : Stored → Slot
  | value b => roomFor code b
  | members l => ⟨code, .slots (List.replicate l.length (.empty 0)), UInt64.ofNat (l.length * slotSize)⟩
  | undisclosed | unknown => ⟨code, .null, unavailable⟩

theorem code_buffered (code : AttributeCode) (x : Stored) : (x.buffered code).code = code := by
  cases x <;> rfl

theorem exists_answers_empty (x : Stored) (code : AttributeCode) : ∃ s, x.Answers (.empty code) s := by
  cases x with
  | value b => exact ⟨_, .value (.length code 0)⟩
  | members l => exact ⟨_, .count l code 0⟩
  | undisclosed => exact ⟨_, .undisclosed _⟩
  | unknown => exact ⟨_, .unknown _⟩

/-- The length that is told fixes the buffer. -/
theorem allocate_of_answers (fits : x.Fits code) (h : x.Answers (.empty code) s) :
    s.allocate = x.buffered code := by
  cases h with
  | @value b _ _ given =>
    cases given
    rw [Slot.allocate, if_neg (length_ne_unavailable fits.2), if_neg fits.1, toNat_length fits.2]
    rfl
  | count l =>
    have positive : 0 < slotSize := by decide
    rw [Slot.allocate, if_neg (length_ne_unavailable fits.2.1), if_pos fits.1,
      toNat_length fits.2.1, Nat.mul_div_cancel _ positive]
    rfl
  | undisclosed => exact if_pos rfl
  | unknown => exact if_pos rfl

theorem exists_answers_buffered (fits : x.Fits code) : ∃ s, x.Answers (x.buffered code) s := by
  cases x with
  | value b => exact ⟨_, .value (gives_roomFor code fits.2)⟩
  | members l =>
    have length := toNat_length fits.2.1
    refine ⟨_, .members ?_ (Nat.le_of_eq length.symm) (givesMembers_sized l)⟩
    rw [List.length_replicate]
    exact Nat.le_of_eq length
  | undisclosed => exact ⟨_, .undisclosed _⟩
  | unknown => exact ⟨_, .unknown _⟩

theorem isArray_of_answers_buffered (h : x.Answers (x.buffered code) s) : s.isArray = x.isMembers := by
  cases x with
  | value b => cases h with | value given => cases given; rfl
  | members l => cases h; rfl
  | undisclosed => cases h; rfl
  | unknown => cases h; rfl

theorem field_of_isFull {b : List UInt8} (full : IsFull b s) (small : b.length < unavailable.toNat) :
    s.field code = .holding code b := by
  have octets := full.octets_eq small
  have told := full.len_ne small
  obtain ⟨new, rest, buffer, -, -⟩ := full
  unfold Slot.field
  rw [if_neg told, buffer, octets]

/-- Without a template the second call gives what is to be read. -/
theorem field_of_answers_buffered (fits : x.Fits code) (plain : x.isMembers = false)
    (h : x.Answers (x.buffered code) s) : s.field code = x.field code := by
  cases x with
  | value b => cases h with | value given => exact field_of_isFull given.isFull_of_roomFor fits.2
  | members l => cases plain
  | undisclosed => cases h; exact if_pos rfl
  | unknown => cases h; exact if_pos rfl

/-- A slot as it is passed to the third call: only the members of a template get new buffers. -/
theorem allocateArray_of_answers (fits : x.Fits code) (h : x.Answers (x.buffered code) s) :
    (∃ l, x = members l ∧ s.allocateArray =
        ⟨code, .slots (l.map Member.buffered), UInt64.ofNat (l.length * slotSize)⟩) ∨
      (∃ b, x = value b ∧ s.allocateArray = s ∧ IsFull b s) ∨
      x.isTold = false ∧ s.allocateArray = ⟨code, .null, unavailable⟩ := by
  cases x with
  | value b =>
    cases h with
    | value given =>
      have full := given.isFull_of_roomFor
      refine .inr (.inl ⟨b, rfl, ?_, full⟩)
      obtain ⟨new, rest, buffer, -, -⟩ := full
      unfold Slot.allocateArray
      rw [buffer]
  | members l =>
    cases h with
    | members _ _ given =>
      rw [eq_sized_of_givesMembers given]
      refine .inl ⟨l, rfl, ?_⟩
      rw [← map_allocateInner_sized fits.2.2]
      rfl
  | undisclosed => cases h; exact .inr (.inr ⟨rfl, rfl⟩)
  | unknown => cases h; exact .inr (.inr ⟨rfl, rfl⟩)

theorem exists_answers_allocateArray (fits : x.Fits code) (h : x.Answers (x.buffered code) s) :
    ∃ s', x.Answers s.allocateArray s' := by
  rcases allocateArray_of_answers fits h with ⟨l, rfl, array⟩ | ⟨b, rfl, same, full⟩ | ⟨untold, -⟩
  · obtain ⟨slots, given⟩ := exists_givesMembers_buffered fits.2.2
    have length := toNat_length fits.2.1
    rw [array]
    refine ⟨_, .members ?_ (Nat.le_of_eq length.symm) given⟩
    rw [List.length_map]
    exact Nat.le_of_eq length
  · rw [same]
    exact ⟨s, .value (full.gives fits.2)⟩
  · cases x with
    | value b => cases untold
    | members l => cases untold
    | undisclosed => exact ⟨_, .undisclosed _⟩
    | unknown => exact ⟨_, .unknown _⟩

/-- The third call gives what is to be read. -/
theorem field_of_answers_allocateArray (fits : x.Fits code) (h : x.Answers (x.buffered code) s)
    (h' : x.Answers s.allocateArray s') : s'.field code = x.field code := by
  rcases allocateArray_of_answers fits h with ⟨l, rfl, array⟩ | ⟨b, rfl, same, full⟩ | ⟨untold, null⟩
  · rw [array] at h'
    cases h' with
    | members _ _ given =>
      rw [Stored.field, ← map_entry_of_givesMembers fits.2.2 given]
      exact if_neg (length_ne_unavailable fits.2.1)
  · rw [same] at h'
    cases h' with
    | value given =>
      obtain ⟨new, rest, buffer, -, rfl⟩ := full
      exact field_of_isFull (given.isFull buffer (by simp)) fits.2
  · rw [null] at h'
    cases h' with
    | value => cases untold
    | count => cases untold
    | undisclosed => exact if_pos rfl
    | unknown => exact if_pos rfl

end Stored

section

variable {call : List Slot → σ → (ReturnCode × List Slot) × σ} {stored : AttributeCode → Stored}

theorem Outcome.usable {l : List Stored} {rv : ReturnCode} (h : Outcome l rv) : usable rv = true := by
  cases h <;> rfl

variable {fields : List Field}

/-- A call with a slot for each attribute asked for, all of which can be answered. -/
theorem Conforms.answers (h : Conforms call stored) (slots : List Slot)
    (owed : List.Forall₂ (fun f s => s.code = f.code ∧ ∃ s', (stored f.code).Answers s s')
      fields slots) (st : σ) :
    List.Forall₂ (fun s s' => (stored s.code).Answers s s') slots (call slots st).1.2 ∧
      Outcome (fields.map fun f => stored f.code) (call slots st).1.1 := by
  have answerable : Answerable stored slots := by
    intro s hs
    induction owed with
    | nil => cases hs
    | cons first _ ih =>
      rcases List.mem_cons.mp hs with rfl | hs
      · exact first.1 ▸ first.2
      · exact ih hs
  have same : slots.map (fun s => stored s.code) = fields.map fun f => stored f.code :=
    Lists.map_eq_of_forall₂ (owed.imp fun f s h => congrArg stored h.1)
  exact ⟨h.slots slots st answerable, same ▸ h.outcome slots st answerable⟩

/-- The fields of what is held under the codes asked for. -/
def held (stored : AttributeCode → Stored) (fields : List Field) : List Field :=
  fields.map fun f => (stored f.code).field f.code

/-- A template is among the attributes asked for. -/
def asksTemplate (stored : AttributeCode → Stored) (fields : List Field) : Bool :=
  fields.any fun f => (stored f.code).isMembers

variable {slots : List Slot}

/-- The slots are as the second call leaves them. -/
def Filled (stored : AttributeCode → Stored) : List Field → List Slot → Prop :=
  List.Forall₂ fun f s => (stored f.code).Answers ((stored f.code).buffered f.code) s

theorem Filled.any_isArray (h : Filled stored fields slots) :
    slots.any Slot.isArray = asksTemplate stored fields := by
  have arrays : slots.map Slot.isArray = fields.map fun f => (stored f.code).isMembers :=
    Lists.map_eq_of_forall₂ (h.imp fun _ _ => Stored.isArray_of_answers_buffered)
  have same := congrArg (List.any · id) arrays
  rwa [List.any_map, List.any_map] at same

/-- Without a template the second call gives what is to be read. -/
theorem Filled.zipWith_field (h : Filled stored fields slots) (fits : ∀ code, (stored code).Fits code)
    (plain : asksTemplate stored fields = false) :
    List.zipWith (fun f s => Slot.field f.code s) fields slots = held stored fields := by
  have values : ∀ f ∈ fields, (stored f.code).isMembers = false := by
    simpa [asksTemplate] using plain
  refine Lists.zipWith_eq_of_forall₂ (((List.forall₂_and_left fields slots).mpr ⟨values, h⟩).imp ?_)
  exact fun f s both => Stored.field_of_answers_buffered (fits f.code) both.1 both.2

theorem Conforms.first_call (h : Conforms call stored) (fields : List Field) (st : σ) :
    let reply := call (fields.map fun f => .empty f.code) st
    reply.1.2.map Slot.allocate = fields.map (fun f => (stored f.code).buffered f.code) ∧
      Outcome (fields.map fun f => stored f.code) reply.1.1 := by
  obtain ⟨answers, outcome⟩ := h.answers (fields.map fun f => .empty f.code)
    (List.forall₂_map_right_iff.mpr (List.forall₂_same.mpr fun f _ =>
      ⟨rfl, Stored.exists_answers_empty _ _⟩)) st
  refine ⟨Lists.map_eq_of_forall₂ ((List.forall₂_map_left_iff.mp answers).imp ?_), outcome⟩
  exact fun f s answer => Stored.allocate_of_answers (h.fits f.code) answer

theorem Conforms.second_call (h : Conforms call stored) (fields : List Field) (st : σ) :
    let reply := call (fields.map fun f => (stored f.code).buffered f.code) st
    Filled stored fields reply.1.2 ∧ Outcome (fields.map fun f => stored f.code) reply.1.1 := by
  obtain ⟨answers, outcome⟩ := h.answers (fields.map fun f => (stored f.code).buffered f.code)
    (List.forall₂_map_right_iff.mpr (List.forall₂_same.mpr fun f _ =>
      ⟨Stored.code_buffered _ _, Stored.exists_answers_buffered (h.fits f.code)⟩)) st
  refine ⟨(List.forall₂_map_left_iff.mp answers).imp fun f s answer => ?_, outcome⟩
  rwa [Stored.code_buffered] at answer

theorem Conforms.third_call (h : Conforms call stored) (filled : Filled stored fields slots) (st : σ) :
    let reply := call (slots.map Slot.allocateArray) st
    List.zipWith (fun f s => Slot.field f.code s) fields reply.1.2 = held stored fields ∧
      Outcome (fields.map fun f => stored f.code) reply.1.1 := by
  have code : ∀ {f : Field} {s : Slot}, (stored f.code).Answers ((stored f.code).buffered f.code) s →
      s.allocateArray.code = f.code := by
    intro f s answer
    rw [Slot.code_allocateArray, answer.code_eq, Stored.code_buffered]
  obtain ⟨answers, outcome⟩ := h.answers (slots.map Slot.allocateArray)
    (List.forall₂_map_right_iff.mpr (filled.imp fun f s answer =>
      ⟨code answer, Stored.exists_answers_allocateArray (h.fits f.code) answer⟩)) st
  refine ⟨Lists.zipWith_eq_of_forall₂ ?_, outcome⟩
  refine Lists.forall₂_trans filled (List.forall₂_map_left_iff.mp answers) fun f s s' answer last => ?_
  rw [code answer] at last
  exact Stored.field_of_answers_allocateArray (h.fits f.code) answer last

/-- The calls that get values: one, and another where a template is asked for. -/
theorem fill_of_conforms (h : Conforms call stored) {sized : List Slot}
    (buffers : sized.map Slot.allocate = fields.map fun f => (stored f.code).buffered f.code) (st : σ) :
    ∃ earlier rv slots st', fill call sized st = ((rv, slots), st') ∧
      Calls call st (earlier ++ [rv]) st' ∧
      earlier.length = (if asksTemplate stored fields then 1 else 0) ∧
      Outcome (fields.map fun f => stored f.code) rv ∧
      List.zipWith (fun f s => Slot.field f.code s) fields slots = held stored fields := by
  unfold fill
  rw [buffers]
  have second := h.second_call fields st
  generalize called : call (fields.map fun f => (stored f.code).buffered f.code) st = reply at second
  obtain ⟨⟨rv, slots⟩, st'⟩ := reply
  obtain ⟨filled, outcome⟩ := second
  simp only [outcome.usable, Bool.true_and, filled.any_isArray]
  -- Only where a template is among them is there a call for the values of its members.
  by_cases template : asksTemplate stored fields = true
  · have third := h.third_call filled st'
    simp only [template, if_true]
    generalize called' : call (slots.map Slot.allocateArray) st' = reply at third
    obtain ⟨⟨rv', slots'⟩, st''⟩ := reply
    exact ⟨[rv], rv', slots', st'', rfl, .next called (.next called' (.none st'')), rfl, third.2, third.1⟩
  · simp only [template]
    refine ⟨[], rv, slots, st', rfl, .next called (.none st'), rfl, outcome, ?_⟩
    exact filled.zipWith_field h.fits (by simpa using template)

/-- The fields that are read are those of what the library holds, and the return code is that of the
last call: there are two, and a third where a template is asked for. -/
theorem read_of_conforms (lib : Library σ) (session : SessionHandle) (object : ObjectHandle)
    (call : List Slot → σ → (ReturnCode × List Slot) × σ) (stored : AttributeCode → Stored)
    (attributes : lib.attributes?.map (· session object) = some call) (h : Conforms call stored)
    (fields : List Field) (st : σ) :
    ∃ earlier rv st', lib.read session object fields st = ((rv, held stored fields), st') ∧
      Calls call st (earlier ++ [rv]) st' ∧
      earlier.length = (if asksTemplate stored fields then 2 else 1) ∧
      Outcome (fields.map fun f => stored f.code) rv := by
  obtain ⟨given, present, rfl⟩ := Option.map_eq_some_iff.mp attributes
  unfold read
  simp only [present]
  unfold readWith
  have first := h.first_call fields st
  generalize called : given session object (fields.map fun f => .empty f.code) st = reply at first ⊢
  obtain ⟨⟨rv, sized⟩, st'⟩ := reply
  obtain ⟨buffers, outcome⟩ := first
  obtain ⟨earlier, rv', slots, st'', filled, calls, count, outcome', fields_held⟩ :=
    fill_of_conforms h buffers st'
  refine ⟨rv :: earlier, rv', st'', ?_, .next called calls, ?_, outcome'⟩
  · simp only [outcome.usable, outcome'.usable, filled, fields_held, Bool.not_true, Bool.false_eq_true,
      if_false]
  · rw [List.length_cons, count]
    split <;> rfl

end

/-! ## A library that keeps to the rules -/

def giveOctets (b : List UInt8) (s : Slot) : Slot :=
  match s.buffer with
  | .bytes old room =>
    ⟨s.code, .bytes (b ++ (old ++ List.replicate room 0).drop b.length) 0, UInt64.ofNat b.length⟩
  | buffer => ⟨s.code, buffer, UInt64.ofNat b.length⟩

def giveMember (m : Member) (s : Slot) : Slot :=
  match m.2 with
  | some b => giveOctets b ⟨m.1, s.buffer, s.len⟩
  | none => ⟨m.1, s.buffer, unavailable⟩

def Stored.give (x : Stored) (s : Slot) : Slot :=
  match x, s.buffer with
  | value b, _ => giveOctets b s
  | members l, .slots slots =>
    ⟨s.code, .slots (List.zipWith giveMember l slots ++ slots.drop l.length),
      UInt64.ofNat (l.length * slotSize)⟩
  | members l, buffer => ⟨s.code, buffer, UInt64.ofNat (l.length * slotSize)⟩
  | undisclosed, _ | unknown, _ => { s with len := unavailable }

/-- The library that tells what it holds, of all attributes that are unknown first. -/
def faithful (stored : AttributeCode → Stored) (slots : List Slot) (st : Unit) :
    (ReturnCode × List Slot) × Unit :=
  let asked := slots.map fun s => stored s.code
  ((if .unknown ∈ asked then ReturnCode.attributeTypeInvalid
    else if asked.any (·.withholds) then ReturnCode.attributeSensitive
    else ReturnCode.ok, slots.map fun s => (stored s.code).give s), st)

theorem Gives.giveOctets {b : List UInt8} {s s' : Slot} (h : Gives b s s') :
    Gives b s (giveOctets b s) := by
  cases h with
  | length code len => exact .length code len
  | octets room enough => exact .octets room enough (by simp; omega) (by simp)

theorem GivesMembers.giveMember {l : List Member} {slots slots' : List Slot}
    (h : GivesMembers l slots slots') :
    GivesMembers l slots (List.zipWith giveMember l slots ++ slots.drop l.length) := by
  induction h with
  | none rest => exact .none rest
  | next first _ ih =>
    refine .next ?_ ih
    cases first with
    | disclosed given => exact .disclosed given.giveOctets
    | undisclosed => exact .undisclosed _ _

theorem Stored.Answers.give {x : Stored} {s s' : Slot} (h : x.Answers s s') : x.Answers s (x.give s) := by
  cases h with
  | value given => exact .value given.giveOctets
  | count l code len => exact .count l code len
  | members room enough given => exact .members room enough given.giveMember
  | undisclosed => exact .undisclosed _
  | unknown => exact .unknown _

theorem faithful_conforms {stored : AttributeCode → Stored} (fits : ∀ code, (stored code).Fits code) :
    Conforms (faithful stored) stored where
  fits := fits
  slots := by
    intro slots _ answerable
    refine List.forall₂_map_right_iff.mpr (List.forall₂_same.mpr fun s hs => ?_)
    obtain ⟨s', answer⟩ := answerable s hs
    exact answer.give
  outcome := by
    intro slots _ _
    show Outcome _ (if _ then _ else if _ then _ else _)
    split
    next unknown => exact .invalid unknown
    next known =>
      split
      next withheld => exact .sensitive (by simpa using withheld)
      next told =>
        refine .ok fun x hx => ?_
        cases x with
        | undisclosed => exact absurd (List.any_eq_true.mpr ⟨_, hx, rfl⟩) told
        | unknown => exact absurd hx known
        | _ => rfl

/-- A label, a template of which one member is not disclosed and one is empty, an exponent that is
not disclosed, a template without members and an attribute that is not known. -/
theorem read_of_conforms_of_two_templates :
    let stored : AttributeCode → Stored := fun code =>
      if code = 0x3 then .value [0x61, 0]
      else if code = 0x40000211 then .members [(0x1, some [1]), (0x11, none), (0x102, some [])]
      else if code = 0x123 then .undisclosed
      else if code = 0x40000212 then .members []
      else .unknown
    let lib : Library Unit := ⟨fun st => ((ReturnCode.ok, true), st), none, none, none,
      some fun _ _ => faithful stored, none, none⟩
    let fields := [0x40000211, 0x3, 0x123, 0x40000212, 0x80].map Field.request
    Conforms (faithful stored) stored ∧
    ∃ earlier rv st', lib.read 1 7 fields () = ((rv, held stored fields), st') ∧
      Calls (faithful stored) () (earlier ++ [rv]) st' ∧
      earlier.length = (if asksTemplate stored fields then 2 else 1) ∧
      Outcome (fields.map fun f => stored f.code) rv := by
  intro stored lib fields
  have fits : ∀ code, (stored code).Fits code := by
    intro code
    simp only [stored]
    split
    next label => subst label; exact ⟨by decide, by decide⟩
    split
    next wrapped => subst wrapped; exact ⟨by decide, by decide, by decide⟩
    split
    · trivial
    split
    next unwrapped => subst unwrapped; exact ⟨by decide, by decide, by decide⟩
    · trivial
  have conforms := faithful_conforms fits
  exact ⟨conforms, read_of_conforms lib 1 7 (faithful stored) stored rfl conforms fields ()⟩

end TokenMarshal.Library

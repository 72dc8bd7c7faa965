/-
  TokenMarshal.Proofs.Attribute.Operations — templates after any operations.

  What a template holds in the end can be told from the operations alone. Setting an attribute puts
  it last; it stays where it is put, and is changed in place, until its code is set again or removed.
  So of each operation that sets an attribute, what is left in the end is that attribute with the
  later changes of its code, or nothing if a later operation ends it (`Op.left?`), and the template
  is what is left of the operations in their order (`standing`).

  One step: an operation takes the attributes out that it ends, amends those that stay, and puts one
  last if it sets one. That is what it does to a template (`attributes_run`), as long as no code
  stands there twice, and what one more operation does to what is left (`standing_concat`). So both
  agree after any operations (`attributes_after`).

  `after_tells` says which attribute each code has, and `codes_ofList` and `get?_ofList` the same
  of attributes that are collected: each code has the last attribute of it.
-/
import Mathlib.Data.List.Induction
import TokenMarshal.Proofs.Attribute.Template
import TokenMarshal.Proofs.Lists

namespace TokenMarshal.Template

/-! ## Operations -/

/-- A change of an attribute where it stands. -/
inductive Change where
  | value (v : Value)
  | noValue
  | present (b : Bool)
  | sensitive (b : Bool)

def Change.apply : Change → Attribute → Attribute
  | .value v, a => { a with value := v }
  | .noValue, a => { a with value := .absent }
  | .present b, a => { a with present := b }
  | .sensitive b, a => { a with sensitive := b }

inductive Op where
  | set (a : Attribute)
  /-- A builder sets an attribute of which nothing has been read. -/
  | build (code : AttributeCode) (v : Value)
  | remove (code : AttributeCode)
  | change (code : AttributeCode) (c : Change)
  /-- The template is taken apart and its attributes are collected again. -/
  | recollect

def Op.run (t : Template) : Op → Template
  | .set a => t.set a
  | .build code v => t.set (.of code v)
  | .remove code => t.remove code
  | .change code (.value v) => t.setValue code v
  | .change code .noValue => t.clearValue code
  | .change code (.present b) => t.setPresent code b
  | .change code (.sensitive b) => t.setSensitive code b
  | .recollect => ofList t.attributes

/-- A template after operations on an empty one. -/
def after (ops : List Op) : Template := ops.foldl Op.run empty

/-! ## What is left of them -/

/-- The attribute that an operation puts last. -/
def Op.sets? : Op → Option Attribute
  | .set a => some a
  | .build code v => some (.of code v)
  | _ => none

/-- The operation takes the attribute of a code out: it sets the code anew or removes it. -/
def Op.ends (code : AttributeCode) : Op → Bool
  | .set a => code == a.code
  | .build c _ => code == c
  | .remove c => code == c
  | _ => false

/-- What the operation makes of an attribute that stays. -/
def Op.amend : Op → Attribute → Attribute
  | .change code c, a => if a.code = code then c.apply a else a
  | _, a => a

/-- An attribute after operations that do not end it. -/
def amended (a : Attribute) (later : List Op) : Attribute := later.foldl (fun a op => op.amend a) a

/-- What is left of an operation after later ones. -/
def Op.left? (op : Op) (later : List Op) : Option Attribute :=
  match op.sets? with
  | some a => if later.any (ends a.code) then none else some (amended a later)
  | none => none

/-- What is left of operations, in their order. -/
def standing : List Op → List Attribute
  | [] => []
  | op :: later => (op.left? later).toList ++ standing later

@[simp] theorem code_apply (c : Change) (a : Attribute) : (c.apply a).code = a.code := by
  cases c <;> rfl

@[simp] theorem code_amend (op : Op) (a : Attribute) : (op.amend a).code = a.code := by
  cases op with
  | change code c => rw [Op.amend]; split <;> simp
  | _ => rfl

@[simp] theorem code_amended (a : Attribute) (later : List Op) : (amended a later).code = a.code := by
  induction later generalizing a with
  | nil => rfl
  | cons op later ih => rw [amended, List.foldl_cons, ← amended, ih, code_amend]

theorem amended_concat (a : Attribute) (later : List Op) (op : Op) :
    amended a (later ++ [op]) = op.amend (amended a later) := by
  rw [amended, List.foldl_append]
  rfl

/-- What one more operation makes of attributes. -/
def Op.step (l : List Attribute) (op : Op) : List Attribute :=
  (l.filter fun a => !op.ends a.code).map op.amend ++ op.sets?.toList

theorem left?_concat (op : Op) (later : List Op) (last : Op) :
    (op.left? (later ++ [last])).toList =
      ((op.left? later).toList.filter fun a => !last.ends a.code).map last.amend := by
  unfold Op.left?
  cases op.sets? with
  | none => rfl
  | some a =>
    simp only [List.any_append, List.any_cons, List.any_nil, Bool.or_false, amended_concat]
    cases ended : later.any (Op.ends a.code) with
    | true => simp
    | false => cases ends : last.ends a.code <;> simp [ends]

theorem standing_concat (ops : List Op) (last : Op) :
    standing (ops ++ [last]) = last.step (standing ops) := by
  induction ops with
  | nil =>
    show (last.left? []).toList ++ [] = last.step []
    simp only [Op.left?, Op.step]
    cases last.sets? <;> rfl
  | cons op ops ih =>
    rw [List.cons_append, standing, ih, left?_concat, standing]
    simp only [Op.step, List.filter_append, List.map_append, List.append_assoc]

/-! ## What an operation does to a template -/

theorem code_ne_of_nodup {a : Attribute} {l : List Attribute}
    (distinct : ((a :: l).map (·.code)).Nodup) : ∀ b ∈ l, b.code ≠ a.code := by
  intro b hb same
  have there : b.code ∈ l.map (·.code) := List.mem_map_of_mem hb
  rw [same] at there
  exact (List.nodup_cons.mp distinct).1 there

theorem eraseP_of_nodup {l : List Attribute} (distinct : (l.map (·.code)).Nodup)
    (code : AttributeCode) : l.eraseP (·.code == code) = l.filter (·.code != code) := by
  induction l with
  | nil => rfl
  | cons a l ih =>
    by_cases here : a.code = code
    · have others : ∀ b ∈ l, (b.code != code) = true := fun b hb => by
        simpa [here] using code_ne_of_nodup distinct b hb
      rw [List.eraseP_cons_of_pos (by simpa using here), List.filter_cons_of_neg (by simpa using here),
        List.filter_eq_self.mpr others]
    · rw [List.eraseP_cons_of_neg (by simpa using here), List.filter_cons_of_pos (by simpa using here),
        ih (List.nodup_cons.mp distinct).2]

theorem updateFirst_of_nodup {l : List Attribute} (distinct : (l.map (·.code)).Nodup)
    (code : AttributeCode) (f : Attribute → Attribute) :
    updateFirst code f l = l.map fun a => if a.code = code then f a else a := by
  induction l with
  | nil => rfl
  | cons a l ih =>
    rw [updateFirst, List.map_cons]
    by_cases here : a.code = code
    · have others : ∀ b ∈ l, (if b.code = code then f b else b) = b := fun b hb =>
        if_neg (here ▸ code_ne_of_nodup distinct b hb)
      rw [if_pos (by simpa using here), if_pos here, List.map_congr_left others, List.map_id']
    · rw [if_neg (by simpa using here), if_neg here, ih (List.nodup_cons.mp distinct).2]

theorem run_change (t : Template) (code : AttributeCode) (c : Change) :
    Op.run t (.change code c) = t.update code c.apply := by
  cases c <;> rfl

theorem step_of_staying {op : Op} (stays : ∀ code, op.ends code = false) (unset : op.sets? = none)
    (l : List Attribute) : op.step l = l.map op.amend := by
  simp [Op.step, stays, unset]

/-- An operation does the same to every template in which no code stands twice. -/
theorem attributes_run {t : Template} (distinct : t.codes.Nodup) (op : Op) :
    (op.run t).attributes = op.step t.attributes := by
  cases op with
  | set a => exact (congrArg (· ++ [a]) (List.map_id _)).symm
  | build code v => exact (congrArg (· ++ [Attribute.of code v]) (List.map_id _)).symm
  | remove code =>
    refine (eraseP_of_nodup distinct code).trans ?_
    exact (List.map_id _).symm.trans (List.append_nil _).symm
  | change code c =>
    rw [run_change, step_of_staying (fun _ => rfl) rfl]
    exact updateFirst_of_nodup distinct code c.apply
  | recollect =>
    rw [step_of_staying (fun _ => rfl) rfl]
    refine (congrArg attributes (ofList_of_nodup distinct)).trans ?_
    exact (List.map_id _).symm

theorem nodup_run {t : Template} (distinct : t.codes.Nodup) (op : Op) : (op.run t).codes.Nodup := by
  cases op with
  | set a => exact nodup_set a distinct
  | build code v => exact nodup_set _ distinct
  | remove code => exact (List.eraseP_sublist.map _).nodup distinct
  | change code c =>
    have kept : (Op.run t (.change code c)).codes = t.codes := by
      rw [codes, attributes_run distinct, step_of_staying (fun _ => rfl) rfl, List.map_map]
      exact List.map_congr_left fun a _ => code_amend _ a
    rwa [kept]
  | recollect => exact nodup_ofList _

/-! ## A run -/

theorem after_concat (ops : List Op) (op : Op) : after (ops ++ [op]) = op.run (after ops) := by
  rw [after, List.foldl_append]
  rfl

theorem nodup_after (ops : List Op) : (after ops).codes.Nodup := by
  induction ops using List.reverseRecOn with
  | nil => exact List.nodup_nil
  | append_singleton ops op ih =>
    rw [after_concat]
    exact nodup_run ih op

/-- A template holds what is left of the operations. -/
theorem attributes_after (ops : List Op) : (after ops).attributes = standing ops := by
  induction ops using List.reverseRecOn with
  | nil => rfl
  | append_singleton ops op ih =>
    rw [after_concat, attributes_run (nodup_after ops), ih, standing_concat]

theorem mem_standing_iff {ops : List Op} {a : Attribute} :
    a ∈ standing ops ↔
      ∃ before op later, ops = before ++ op :: later ∧ op.left? later = some a := by
  induction ops with
  | nil => simp [standing]
  | cons op ops ih =>
    rw [standing, List.mem_append, Option.mem_toList, ih]
    constructor
    · rintro (here | ⟨before, op', later, rfl, left⟩)
      · exact ⟨[], op, ops, rfl, here⟩
      · exact ⟨op :: before, op', later, rfl, left⟩
    · rintro ⟨_ | ⟨_, before⟩, op', later, same, left⟩
      · cases same
        exact .inl left
      · cases same
        exact .inr ⟨before, op', later, rfl, left⟩

theorem left?_eq_some_iff {op : Op} {later : List Op} {a : Attribute} :
    op.left? later = some a ↔ ∃ start, op.sets? = some start ∧
      (∀ o ∈ later, o.ends start.code = false) ∧ a = amended start later := by
  unfold Op.left?
  cases op.sets? with
  | none => simp
  | some start =>
    simp only [Option.some.injEq, exists_eq_left']
    cases ended : later.any (Op.ends start.code) with
    | true =>
      obtain ⟨o, ho, ends⟩ := List.any_eq_true.mp ended
      simp only [if_true, reduceCtorEq, false_iff, not_and]
      intro kept
      rw [kept o ho] at ends
      cases ends
    | false =>
      have kept : ∀ o ∈ later, o.ends start.code = false := by simpa using ended
      simp only [Bool.false_eq_true, if_false, Option.some.injEq]
      exact ⟨fun same => ⟨kept, same.symm⟩, fun h => h.2.symm⟩

theorem get?_eq_some_iff {t : Template} (distinct : t.codes.Nodup) {code : AttributeCode}
    {a : Attribute} : t.get? code = some a ↔ a ∈ t.attributes ∧ a.code = code := by
  constructor
  · intro found
    exact ⟨List.mem_of_find?_eq_some found, by simpa using List.find?_some found⟩
  · rintro ⟨held, rfl⟩
    cases found : t.get? a.code with
    | none => simpa using List.find?_eq_none.mp found a held
    | some b =>
      have same : b.code = a.code := by simpa using List.find?_some found
      exact congrArg some
        (List.inj_on_of_nodup_map distinct (List.mem_of_find?_eq_some found) held same)

/-! ## Attributes that are collected -/

theorem ofList_concat (l : List Attribute) (a : Attribute) : ofList (l ++ [a]) = (ofList l).set a := by
  rw [ofList, List.foldl_append]
  rfl

theorem codes_set (t : Template) (a : Attribute) :
    (t.set a).codes = t.codes.filter (· != a.code) ++ [a.code] := by
  show (t.attributes.filter (·.code != a.code) ++ [a]).map (·.code) = _
  rw [List.map_append, codes, List.filter_map]
  rfl

theorem get?_set (t : Template) (a : Attribute) (code : AttributeCode) :
    (t.set a).get? code = if a.code = code then some a else t.get? code := by
  show (t.attributes.filter (·.code != a.code) ++ [a]).find? (·.code == code) = _
  rw [List.find?_append]
  by_cases here : a.code = code
  · have former : (t.attributes.filter (·.code != a.code)).find? (·.code == code) = none := by
      rw [List.find?_eq_none, ← here]
      intro b hb
      simpa using (List.mem_filter.mp hb).2
    rw [former, if_pos here, List.find?_cons_of_pos (by simpa using here)]
    rfl
  · have others : ∀ b : Attribute, ((b.code != a.code) = true ∧ (b.code == code) = true) ↔
        (b.code == code) = true := by
      intro b
      refine and_iff_right_of_imp fun found => ?_
      rw [beq_iff_eq.mp found]
      simpa using Ne.symm here
    rw [List.find?_filter, if_neg here, List.find?_cons_of_neg (by simpa using here)]
    simp only [others, Bool.decide_eq_true, List.find?_nil, Option.or_none]
    rfl

/-- The codes of collected attributes, in the order of the last occurrence of each. -/
theorem codes_ofList (l : List Attribute) : (ofList l).codes = (l.map (·.code)).dedup := by
  induction l using List.reverseRecOn with
  | nil => rfl
  | append_singleton l a ih =>
    rw [ofList_concat, codes_set, ih, List.map_append, List.map_singleton, Lists.dedup_concat]

/-- Of attributes of one code, the last is collected. -/
theorem get?_ofList (l : List Attribute) (code : AttributeCode) :
    (ofList l).get? code = l.reverse.find? (·.code == code) := by
  induction l using List.reverseRecOn with
  | nil => rfl
  | append_singleton l a ih =>
    rw [ofList_concat, get?_set, ih, List.reverse_concat]
    by_cases here : a.code = code
    · rw [if_pos here, List.find?_cons_of_pos (by simpa using here)]
    · rw [if_neg here, List.find?_cons_of_neg (by simpa using here)]

/-- A template after any operations on an empty one has no code twice. It holds what is left of them,
in their order: each attribute stands where the last operation to set its code put it, changed by the
later ones in place. So a code has an attribute just when an operation set it and none later set it
anew or removed it. Of attributes that are collected, the last of each code is kept, in the order of
these. -/
theorem after_tells (ops : List Op) (l : List Attribute) :
    (after ops).codes.Nodup ∧
    (after ops).attributes = standing ops ∧
    (∀ code a, (after ops).get? code = some a ↔
      ∃ before op later start, ops = before ++ op :: later ∧ op.sets? = some start ∧
        start.code = code ∧ (∀ o ∈ later, o.ends code = false) ∧ a = amended start later) ∧
    (ofList l).codes = (l.map (·.code)).dedup ∧
    ∀ code, (ofList l).get? code = l.reverse.find? (·.code == code) := by
  refine ⟨nodup_after ops, attributes_after ops, ?_, codes_ofList l, get?_ofList l⟩
  intro code a
  rw [get?_eq_some_iff (nodup_after ops), attributes_after, mem_standing_iff]
  constructor
  · rintro ⟨⟨before, op, later, whole, left⟩, here⟩
    obtain ⟨start, sets, kept, rfl⟩ := left?_eq_some_iff.mp left
    rw [code_amended] at here
    subst here
    exact ⟨before, op, later, start, whole, sets, rfl, kept, rfl⟩
  · rintro ⟨before, op, later, start, whole, sets, rfl, kept, rfl⟩
    exact ⟨⟨before, op, later, whole, left?_eq_some_iff.mpr ⟨start, sets, kept, rfl⟩⟩,
      code_amended start later⟩

/-- A label that is set again stands last, and a class that is changed stays where it is. -/
example : (after [.build 0x0 (.number 4), .build 0x3 (.text "first"), .build 0x1 (.bool true),
    .set (.of 0x3 (.text "second")), .change 0x0 (.value (.number 2)), .remove 0x1]).codes =
    [0x0, 0x3] := by decide

end TokenMarshal.Template

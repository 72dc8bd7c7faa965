/-
  TokenMarshal.Proofs.Attribute.Template — what holds of a template at every depth.

  A value can hold a template whose attributes hold further ones. `EveryLevel P` says that
  `P` holds of the list of attributes at each of these levels; the invariant of templates,
  that no code stands in one twice, is `Distinct`. It holds of every template that is set
  attribute by attribute (`distinct_set`, `distinct_ofList`). Setting the members of a list
  without a repeated code one by one gives that list (`ofList_of_nodup`), so a template that
  is taken apart and put together again keeps its attributes and their order.
-/
import TokenMarshal.Attribute.Template

namespace TokenMarshal

def Value.isTemplate : Value → Bool
  | .template _ => true
  | _ => false

/-- The attributes of the template that the value is. -/
def Value.members : Value → List Attribute
  | .template t => t.attributes
  | _ => []

mutual

/-- `P` holds of the attributes of every template in the value. -/
def Value.EveryLevel (P : List Attribute → Prop) : Value → Prop
  | .template t => Template.EveryLevel P t
  | _ => True

/-- `P` holds of the attributes of the template and of every template inside. -/
def Template.EveryLevel (P : List Attribute → Prop) : Template → Prop
  | ⟨l⟩ => P l ∧ Attribute.insideAll P l

def Attribute.insideAll (P : List Attribute → Prop) : List Attribute → Prop
  | [] => True
  | ⟨_, v, _, _⟩ :: l => Value.EveryLevel P v ∧ Attribute.insideAll P l

end

mutual

def Value.decideEveryLevel (P : List Attribute → Prop) [DecidablePred P] :
    (v : Value) → Decidable (v.EveryLevel P)
  | .template t => Template.decideEveryLevel P t
  | .absent | .bool _ | .number _ | .bytes _ | .text _ | .date _ | .mechanisms _ => .isTrue trivial

def Template.decideEveryLevel (P : List Attribute → Prop) [DecidablePred P] :
    (t : Template) → Decidable (t.EveryLevel P)
  | ⟨l⟩ =>
    have := Attribute.decideInsideAll P l
    inferInstanceAs (Decidable (P l ∧ Attribute.insideAll P l))

def Attribute.decideInsideAll (P : List Attribute → Prop) [DecidablePred P] :
    (l : List Attribute) → Decidable (Attribute.insideAll P l)
  | [] => .isTrue trivial
  | ⟨_, v, _, _⟩ :: l =>
    have := Value.decideEveryLevel P v
    have := Attribute.decideInsideAll P l
    inferInstanceAs (Decidable (Value.EveryLevel P v ∧ Attribute.insideAll P l))

end

instance (P : List Attribute → Prop) [DecidablePred P] : DecidablePred (Template.EveryLevel P) :=
  Template.decideEveryLevel P

/-- No code stands twice in the template or in one inside. -/
def Template.Distinct (t : Template) : Prop := t.EveryLevel fun l => (l.map (·.code)).Nodup

instance : DecidablePred Template.Distinct := fun t => inferInstanceAs (Decidable (t.EveryLevel _))

theorem Attribute.insideAll_iff {P : List Attribute → Prop} {l : List Attribute} :
    Attribute.insideAll P l ↔ ∀ a ∈ l, a.value.EveryLevel P := by
  induction l with
  | nil => exact ⟨fun _ _ h => (by cases h), fun _ => trivial⟩
  | cons a l ih =>
    obtain ⟨code, v, _, _⟩ := a
    rw [List.forall_mem_cons, ← ih]
    rfl

theorem Template.everyLevel_iff {P : List Attribute → Prop} {t : Template} :
    t.EveryLevel P ↔ P t.attributes ∧ ∀ a ∈ t.attributes, a.value.EveryLevel P := by
  obtain ⟨l⟩ := t
  rw [← Attribute.insideAll_iff]
  rfl

/-! ## Setting attributes -/

theorem Template.distinct_empty : empty.Distinct := ⟨List.nodup_nil, trivial⟩

/-- A template has a code once after it has been set, and every other attribute as before. -/
theorem Template.nodup_set {t : Template} (a : Attribute)
    (h : (t.attributes.map (·.code)).Nodup) : ((t.set a).attributes.map (·.code)).Nodup := by
  have others := List.filter_sublist (p := fun b : Attribute => b.code != a.code) (l := t.attributes)
  show ((t.attributes.filter (·.code != a.code) ++ [a]).map (·.code)).Nodup
  rw [List.map_append, List.nodup_append]
  refine ⟨(others.map _).nodup h, List.nodup_cons.mpr ⟨List.not_mem_nil, List.nodup_nil⟩, ?_⟩
  intro code hc code' hc'
  obtain ⟨b, hb, rfl⟩ := List.mem_map.mp hc
  obtain rfl := List.mem_singleton.mp hc'
  simpa using (List.mem_filter.mp hb).2

theorem Template.mem_set {t : Template} {a b : Attribute} (h : b ∈ (t.set a).attributes) :
    b ∈ t.attributes ∨ b = a := by
  rcases List.mem_append.mp h with h | h
  · exact .inl (List.mem_filter.mp h).1
  · exact .inr (List.mem_singleton.mp h)

theorem Template.distinct_set {t : Template} {a : Attribute} (h : t.Distinct)
    (ha : a.value.EveryLevel fun l => (l.map (·.code)).Nodup) : (t.set a).Distinct := by
  obtain ⟨distinct, inside⟩ := everyLevel_iff.mp h
  refine everyLevel_iff.mpr ⟨nodup_set a distinct, fun b hb => ?_⟩
  rcases mem_set hb with hb | rfl
  · exact inside b hb
  · exact ha

theorem Template.nodup_foldl_set {t : Template} (l : List Attribute)
    (h : (t.attributes.map (·.code)).Nodup) :
    ((l.foldl set t).attributes.map (·.code)).Nodup := by
  induction l generalizing t with
  | nil => exact h
  | cons a l ih => exact ih (nodup_set a h)

theorem Template.mem_foldl_set {t : Template} {l : List Attribute} {a : Attribute}
    (h : a ∈ (l.foldl set t).attributes) : a ∈ t.attributes ∨ a ∈ l := by
  induction l generalizing t with
  | nil => exact .inl h
  | cons b l ih =>
    rcases ih h with h | h
    · rcases mem_set h with h | rfl
      · exact .inl h
      · exact .inr List.mem_cons_self
    · exact .inr (List.mem_cons_of_mem b h)

theorem Template.nodup_ofList (l : List Attribute) : ((ofList l).attributes.map (·.code)).Nodup :=
  nodup_foldl_set l List.nodup_nil

theorem Template.mem_of_mem_ofList {l : List Attribute} {a : Attribute}
    (h : a ∈ (ofList l).attributes) : a ∈ l :=
  (mem_foldl_set h).resolve_left List.not_mem_nil

/-- Setting keeps the order of the attributes that stay. -/
theorem Template.sublist_foldl_set {t : Template} {before : List Attribute} (l : List Attribute)
    (h : t.attributes.Sublist before) : (l.foldl set t).attributes.Sublist (before ++ l) := by
  induction l generalizing t before with
  | nil => rwa [List.append_nil]
  | cons a l ih =>
    have next : (t.set a).attributes.Sublist (before ++ [a]) :=
      (List.filter_sublist.trans h).append (List.Sublist.refl [a])
    simpa using ih next

theorem Template.sublist_ofList (l : List Attribute) : (ofList l).attributes.Sublist l :=
  @sublist_foldl_set empty [] l (List.Sublist.refl [])

/-- A template made of attributes is one without repetitions, whatever their codes are. -/
theorem Template.distinct_ofList {l : List Attribute}
    (h : ∀ a ∈ l, a.value.EveryLevel fun l => (l.map (·.code)).Nodup) : (ofList l).Distinct :=
  everyLevel_iff.mpr ⟨nodup_ofList l, fun a ha => h a (mem_of_mem_ofList ha)⟩

theorem Template.foldl_set {acc l : List Attribute} (h : ((acc ++ l).map (·.code)).Nodup) :
    l.foldl Template.set ⟨acc⟩ = ⟨acc ++ l⟩ := by
  induction l generalizing acc with
  | nil => rw [List.append_nil]; rfl
  | cons a l ih =>
    have others : ∀ b ∈ acc, (b.code != a.code) = true := by
      intro b hb
      rw [List.map_append, List.map_cons, List.nodup_append] at h
      have := h.2.2 b.code (List.mem_map_of_mem hb) a.code List.mem_cons_self
      simpa using this
    rw [List.foldl_cons, set, List.filter_eq_self.mpr others, ih (by simpa using h)]
    simp only [List.append_assoc, List.singleton_append]

theorem Template.ofList_of_nodup {l : List Attribute} (h : (l.map (·.code)).Nodup) :
    Template.ofList l = ⟨l⟩ :=
  @foldl_set [] l h

end TokenMarshal

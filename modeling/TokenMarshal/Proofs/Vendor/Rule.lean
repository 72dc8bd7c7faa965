/-
  TokenMarshal.Proofs.Vendor.Rule — the rule of a block.

  A rule is built from the statements of a block, one after another (`ofBlock`). It is for
  the block (`IsFor`) if each selector has the tokens of its last line, and the pairs of each
  space are the block's in their order. A statement is heard just when it repeats neither a
  name nor a value of the space, and keeps both (`IsFor.hear`, `IsFor.distinct_concat_iff`);
  so the statements make a rule just when none of them repeats one, and it is the rule for
  the block (`ofBlock_eq_ok_iff`). With the check at the closing mark the rules that are read
  are those of the valid blocks (`ofBlock_check_iff`).
-/
import Mathlib.Data.List.Induction
import Mathlib.Data.List.Nodup
import TokenMarshal.Proofs.Vendor.CodeMap
import TokenMarshal.Proofs.Vendor.Grammar

namespace TokenMarshal.Vendor

open Text

/-! ## One more statement -/

namespace Block

variable (b : Block) (s : Statement)

theorem last_concat {α : Type} (pick : Statement → Option (List α)) :
    last pick (b ++ [s]) = (pick s).getD (last pick b) := by
  rw [last, List.filterMap_append]
  cases h : pick s with
  | none => rw [List.filterMap_cons_none h, List.filterMap_nil, List.append_nil]; rfl
  | some l =>
    rw [List.filterMap_cons_some h, List.filterMap_nil, List.getLastD_concat]
    rfl

theorem names_concat : names (b ++ [s]) = b.names ++ s.name?.toList := by
  rw [names, List.filterMap_append]
  cases h : s.name? <;> simp [names, h]

theorem pairs_concat (space : Space) :
    pairs space (b ++ [s]) = b.pairs space ++ (s.pair? space).toList := by
  rw [pairs, List.filterMap_append]
  cases h : s.pair? space <;> simp [pairs, h]

/-- The generic codes of a space are the codes of the names in it. -/
theorem pairs_codes (space : Space) :
    (b.pairs space).map (·.1) = (b.names.filter (·.space = space)).map (·.code) := by
  induction b with
  | nil => rfl
  | cons s b ih =>
    cases s with
    | code name value =>
      by_cases h : name.space = space
      · simpa [pairs, names, Statement.pair?, Statement.name?, h] using ih
      · simpa [pairs, names, Statement.pair?, Statement.name?, h] using ih
    | _ => exact ih

/-- The names in the block are names that callers use. -/
def Known : Prop := ∀ n ∈ b.names, n ∈ Name.all

end Block

theorem Block.known_of_states {lines : List (List Char)} {b : Block}
    (h : List.Forall₂ States lines b) : b.Known := by
  induction h with
  | nil => intro n hn; cases hn
  | cons states _ ih =>
    obtain ⟨_, _, -, written⟩ := states
    cases written with
    | code known _ =>
      intro n hn
      rcases List.mem_cons.mp hn with rfl | hn
      · exact known
      · exact ih n hn
    | _ => exact ih

theorem Block.distinct_iff {b : Block} :
    b.Distinct ↔ b.names.Nodup ∧ ∀ space, ((b.pairs space).map (·.2)).Nodup :=
  ⟨fun h => ⟨h.names, h.values⟩, fun h => ⟨h.1, h.2⟩⟩

theorem Block.distinct_concat_code_iff {b : Block} {name : Name} {value : UInt64} :
    Distinct (b ++ [.code name value]) ↔
      b.Distinct ∧ name ∉ b.names ∧ value ∉ (b.pairs name.space).map (·.2) := by
  have values : (∀ space, ((pairs space (b ++ [.code name value])).map (·.2)).Nodup) ↔
      (∀ space, ((b.pairs space).map (·.2)).Nodup) ∧ value ∉ (b.pairs name.space).map (·.2) := by
    simp only [pairs_concat, List.map_append, Statement.pair?]
    constructor
    · intro h
      have here := h name.space
      rw [if_pos rfl] at here
      exact ⟨fun space => (h space).of_append_left, (Lists.nodup_concat_iff.mp here).2⟩
    · rintro ⟨h, free⟩ space
      split
      next here =>
        subst here
        exact Lists.nodup_concat_iff.mpr ⟨h _, free⟩
      · rw [Option.toList_none, List.map_nil, List.append_nil]
        exact h space
  have names : (names (b ++ [.code name value])).Nodup ↔ b.names.Nodup ∧ name ∉ b.names := by
    rw [names_concat]
    exact Lists.nodup_concat_iff
  rw [distinct_iff, values, names, distinct_iff]
  tauto

/-- Other statements name no code. -/
theorem Block.distinct_concat_iff {b : Block} {s : Statement} (h : ∀ space, s.pair? space = none)
    (h' : s.name? = none) : Distinct (b ++ [s]) ↔ b.Distinct := by
  simp only [distinct_iff, names_concat, pairs_concat, h, h', Option.toList_none, List.append_nil]

/-! ## Adding a code -/

namespace Rule

variable {r r' : Rule} {b : Block} {s : Statement}

theorem pairs_setPairs (l : List (UInt64 × UInt64)) (space other : Space) :
    (r.setPairs l space).pairs other = if space = other then l else r.pairs other := by
  cases space <;> cases other <;> rfl

/-- The selectors stay as they are. -/
theorem setPairs_eq (r : Rule) (l : List (UInt64 × UInt64)) (space : Space) :
    ∃ mechanisms keyTypes, r.setPairs l space = { r with mechanisms, keyTypes } := by
  cases space <;> exact ⟨_, _, rfl⟩

theorem addCode_eq_ok_iff {name : Name} {value : UInt64} : r.addCode name value = .ok r' ↔
    name.code ∉ (r.pairs name.space).map (·.1) ∧ value ∉ (r.pairs name.space).map (·.2) ∧
      r' = r.setPairs (r.pairs name.space ++ [(name.code, value)]) name.space := by
  have twice : (r.pairs name.space).any (·.1 == name.code) = true ↔
      name.code ∈ (r.pairs name.space).map (·.1) := by
    simp [List.any_eq_true]
  simp only [addCode]
  split
  next h => exact ⟨fun e => (by cases e), fun e => absurd (twice.mp h) e.1⟩
  next h =>
    rw [twice] at h
    split
    next owner taken =>
      have owned : ¬ CodeMap.owner? (r.pairs name.space) value = none := by simp [taken]
      rw [CodeMap.owner?_eq_none_iff] at owned
      exact ⟨fun e => (by cases e), fun e => absurd e.2.1 owned⟩
    next free =>
      rw [CodeMap.owner?_eq_none_iff] at free
      exact ⟨fun e => (by cases e; exact ⟨h, free, rfl⟩), fun e => by rw [e.2.2]⟩

/-! ## The rule of a block -/

/-- The rule holds what the block says: each selector as its last line has it, and the pairs
of either space. -/
structure IsFor (r : Rule) (b : Block) : Prop where
  paths : r.paths = (b.last Statement.paths?).map lower
  manufacturers : r.manufacturers = (b.last Statement.manufacturers?).map lower
  descriptions : r.descriptions = (b.last Statement.descriptions?).map lower
  versions : r.versions = b.last Statement.versions?
  pairs : ∀ space, r.pairs space = b.pairs space

theorem isFor_blank : blank.IsFor [] :=
  ⟨rfl, rfl, rfl, rfl, fun space => by cases space <;> rfl⟩

theorem IsFor.hear (h : r.IsFor b) (heard : r.hear s = .ok r') : r'.IsFor (b ++ [s]) := by
  suffices next : r'.paths = (s.paths?.getD (b.last Statement.paths?)).map lower ∧
      r'.manufacturers = (s.manufacturers?.getD (b.last Statement.manufacturers?)).map lower ∧
      r'.descriptions = (s.descriptions?.getD (b.last Statement.descriptions?)).map lower ∧
      r'.versions = s.versions?.getD (b.last Statement.versions?) ∧
      ∀ space, r'.pairs space = b.pairs space ++ (s.pair? space).toList by
    obtain ⟨paths, manufacturers, descriptions, versions, pairs⟩ := next
    constructor
    · rw [paths, Block.last_concat]
    · rw [manufacturers, Block.last_concat]
    · rw [descriptions, Block.last_concat]
    · rw [versions, Block.last_concat]
    · exact fun space => (pairs space).trans (Block.pairs_concat b s space).symm
  have same : ∀ space, r.pairs space = b.pairs space ++ [] := fun space => by
    rw [List.append_nil, h.pairs]
  cases s with
  | paths tokens =>
    cases heard
    exact ⟨rfl, h.manufacturers, h.descriptions, h.versions, same⟩
  | manufacturers tokens =>
    cases heard
    exact ⟨h.paths, rfl, h.descriptions, h.versions, same⟩
  | descriptions tokens =>
    cases heard
    exact ⟨h.paths, h.manufacturers, rfl, h.versions, same⟩
  | versions ranges =>
    cases heard
    exact ⟨h.paths, h.manufacturers, h.descriptions, rfl, same⟩
  | code name value =>
    obtain ⟨-, -, rfl⟩ := addCode_eq_ok_iff.mp heard
    have joined : ∀ space, (r.setPairs (r.pairs name.space ++ [(name.code, value)])
        name.space).pairs space =
          b.pairs space ++ ((Statement.code name value).pair? space).toList := by
      intro space
      rw [pairs_setPairs, Statement.pair?]
      split
      next here => rw [← here, h.pairs]; rfl
      · exact same space
    obtain ⟨mechanisms, keyTypes, kept⟩ :=
      r.setPairs_eq (r.pairs name.space ++ [(name.code, value)]) name.space
    rw [kept] at joined ⊢
    exact ⟨h.paths, h.manufacturers, h.descriptions, h.versions, joined⟩

/-- A name is in the block if its code is in the pairs. -/
theorem code_mem_iff {name : Name} (known : Block.Known b) (here : name ∈ Name.all) :
    name.code ∈ (b.pairs name.space).map (·.1) ↔ name ∈ b.names := by
  rw [Block.pairs_codes]
  constructor
  · intro h
    obtain ⟨n, hn, same⟩ := List.mem_map.mp h
    obtain ⟨earlier, space⟩ := List.mem_filter.mp hn
    obtain rfl := Name.eq_of_code_eq n (known n earlier) name here (by simpa using space) same
    exact earlier
  · intro h
    exact List.mem_map_of_mem (List.mem_filter.mpr ⟨h, by simp⟩)

/-- What is heard is what repeats nothing. -/
theorem IsFor.distinct_concat_iff (h : r.IsFor b) (known : Block.Known (b ++ [s])) :
    Block.Distinct (b ++ [s]) ↔ b.Distinct ∧ ∃ r', r.hear s = .ok r' := by
  cases s with
  | code name value =>
    have known : ∀ n ∈ b.names ++ [name], n ∈ Name.all := fun n hn =>
      known n (by rw [Block.names_concat]; exact hn)
    have fresh := code_mem_iff (fun n hn => known n (List.mem_append_left _ hn))
      (known name (by simp))
    have heard : (∃ r', r.addCode name value = .ok r') ↔
        name ∉ b.names ∧ value ∉ (b.pairs name.space).map (·.2) := by
      simp only [addCode_eq_ok_iff, exists_and_left, exists_eq, and_true, h.pairs, fresh]
    rw [Block.distinct_concat_code_iff, ← heard]
    rfl
  | _ =>
    rw [Block.distinct_concat_iff (fun _ => rfl) rfl]
    exact (and_iff_left ⟨_, rfl⟩).symm

/-- The rule that the statements make one after another. -/
def ofBlock (b : Block) : Except LineFault Rule := b.foldlM hear blank

theorem ofBlock_concat_eq_ok_iff :
    ofBlock (b ++ [s]) = .ok r' ↔ ∃ r, ofBlock b = .ok r ∧ r.hear s = .ok r' :=
  Except.foldlM_concat_eq_ok_iff

theorem isFor_of_ofBlock (h : ofBlock b = .ok r) : r.IsFor b := by
  induction b using List.reverseRecOn generalizing r with
  | nil => cases h; exact isFor_blank
  | append_singleton b s ih =>
    obtain ⟨before, made, heard⟩ := ofBlock_concat_eq_ok_iff.mp h
    exact (ih made).hear heard

/-- The statements make a rule just when none of them repeats a code. -/
theorem exists_ofBlock_iff (known : b.Known) : (∃ r, ofBlock b = .ok r) ↔ b.Distinct := by
  induction b using List.reverseRecOn with
  | nil => exact ⟨fun _ => ⟨.nil, fun _ => .nil⟩, fun _ => ⟨blank, rfl⟩⟩
  | append_singleton b s ih =>
    have ih := ih fun n hn => known n (by rw [Block.names_concat]; exact List.mem_append_left _ hn)
    constructor
    · rintro ⟨r', made⟩
      obtain ⟨r, made, heard⟩ := ofBlock_concat_eq_ok_iff.mp made
      exact ((isFor_of_ofBlock made).distinct_concat_iff known).mpr ⟨ih.mp ⟨r, made⟩, r', heard⟩
    · intro distinct
      have former : Block.Distinct b := by
        rw [Block.distinct_iff, Block.names_concat] at distinct
        simp only [Block.pairs_concat, List.map_append] at distinct
        exact ⟨distinct.1.of_append_left, fun space => (distinct.2 space).of_append_left⟩
      obtain ⟨r, made⟩ := ih.mpr former
      obtain ⟨-, r', heard⟩ := ((isFor_of_ofBlock made).distinct_concat_iff known).mp distinct
      exact ⟨r', ofBlock_concat_eq_ok_iff.mpr ⟨r, made, heard⟩⟩

/-- A block has one rule. -/
theorem IsFor.unique (h : r.IsFor b) (h' : r'.IsFor b) : r = r' := by
  obtain ⟨_, _, _, _, mechanisms, keyTypes⟩ := r
  obtain ⟨_, _, _, _, mechanisms', keyTypes'⟩ := r'
  congr 1
  · exact h.paths.trans h'.paths.symm
  · exact h.manufacturers.trans h'.manufacturers.symm
  · exact h.descriptions.trans h'.descriptions.symm
  · exact h.versions.trans h'.versions.symm
  · exact (h.pairs .mechanism).trans (h'.pairs .mechanism).symm
  · exact (h.pairs .keyType).trans (h'.pairs .keyType).symm

theorem ofBlock_eq_ok_iff (known : b.Known) : ofBlock b = .ok r ↔ b.Distinct ∧ r.IsFor b := by
  constructor
  · exact fun made => ⟨(exists_ofBlock_iff known).mp ⟨r, made⟩, isFor_of_ofBlock made⟩
  · rintro ⟨distinct, isFor⟩
    obtain ⟨r', made⟩ := (exists_ofBlock_iff known).mpr distinct
    obtain rfl := isFor.unique (isFor_of_ofBlock made)
    exact made

/-! ## The check at the end -/

theorem check_eq_ok_iff : r.check = .ok r' ↔
    r' = r ∧ (r.paths ≠ [] ∨ r.manufacturers ≠ [] ∨ r.descriptions ≠ []) := by
  have empty : (r.paths.isEmpty && r.manufacturers.isEmpty && r.descriptions.isEmpty) = true ↔
      ¬ (r.paths ≠ [] ∨ r.manufacturers ≠ [] ∨ r.descriptions ≠ []) := by
    simp [and_assoc]
  unfold check
  split
  next none => exact ⟨fun h => (by cases h), fun ⟨_, h⟩ => absurd h (empty.mp none)⟩
  next one =>
    constructor
    · intro h
      cases h
      exact ⟨rfl, not_not.mp fun h => one (empty.mpr h)⟩
    · rintro ⟨rfl, -⟩
      rfl

/-- The rules that stand up to the check are those of valid blocks. -/
theorem ofBlock_check_iff (known : b.Known) :
    ofBlock b = .ok r ∧ r.check = .ok r ↔ b.Valid ∧ r.IsFor b := by
  have selects (h : r.IsFor b) : (r.paths ≠ [] ∨ r.manufacturers ≠ [] ∨ r.descriptions ≠ []) ↔
      (b.last Statement.paths? ≠ [] ∨ b.last Statement.manufacturers? ≠ [] ∨
        b.last Statement.descriptions? ≠ []) := by
    rw [h.paths, h.manufacturers, h.descriptions]
    simp only [ne_eq, List.map_eq_nil_iff]
  rw [ofBlock_eq_ok_iff known, check_eq_ok_iff]
  constructor
  · rintro ⟨⟨distinct, isFor⟩, -, some_selector⟩
    exact ⟨⟨distinct, (selects isFor).mp some_selector⟩, isFor⟩
  · rintro ⟨valid, isFor⟩
    exact ⟨⟨valid.toDistinct, isFor⟩, rfl, (selects isFor).mpr valid.selects⟩

end Rule

end TokenMarshal.Vendor

/-
  TokenMarshal.Proofs.Vendor.Rules — vendor code files are read as they are written.

  Only the significant lines matter (`parse_eq_ok_iff_steps`). What one of them can do is
  said once (`step_eq_ok_iff`): open a block, close it after the check, or be a statement in
  it. So after any lines the reading stands for them (`HasRead`): whole stretches from mark
  to mark, each with its rule, and the lines of an open block. A line more keeps that
  (`HasRead.step`), and nothing else leads to it (`HasRead.exists_step`). Hence the reader
  accepts a text just when it is a file of valid blocks, and has one rule for each block in
  the order of the file (`parse_accepts_iff`).
-/
import TokenMarshal.Proofs.Vendor.Rule

namespace TokenMarshal.Vendor

open Text

/-! ## Lines that count -/

theorem Line.ofTrimmed_eq_blank_iff {line : List Char} :
    Line.ofTrimmed line = .blank ↔ ¬ IsSignificant line := by
  have silent : (line = [] ∨ line.head? = some '#') ↔ ¬ IsSignificant line := by
    rw [IsSignificant, ne_eq, ne_eq, ← not_or, not_not]
  rw [← silent, Line.ofTrimmed]
  split
  next h => exact ⟨fun _ => h, fun _ => rfl⟩
  next h =>
    refine ⟨fun e => ?_, fun e => absurd e h⟩
    split at e
    · cases e
    split at e
    · cases e
    split at e <;> cases e

theorem Line.ofTrimmed_eq_blockStart_iff {line : List Char} :
    Line.ofTrimmed line = .blockStart ↔ line = blockStartMark.toList := by
  refine ⟨fun h => ?_, fun h => by rw [h]; decide⟩
  unfold Line.ofTrimmed at h
  split at h
  · cases h
  split at h
  · assumption
  split at h
  · cases h
  split at h <;> cases h

theorem Line.ofTrimmed_eq_blockEnd_iff {line : List Char} :
    Line.ofTrimmed line = .blockEnd ↔ line = blockEndMark.toList := by
  refine ⟨fun h => ?_, fun h => by rw [h]; decide⟩
  unfold Line.ofTrimmed at h
  split at h
  · cases h
  split at h
  · cases h
  split at h
  · assumption
  split at h <;> cases h

theorem mem_significant {text line : List Char} (h : line ∈ significant text) :
    IsSignificant line ∧ IsTight line := by
  obtain ⟨trimmed, counts⟩ := List.mem_filter.mp h
  obtain ⟨raw, -, rfl⟩ := List.mem_map.mp trimmed
  exact ⟨of_decide_eq_true counts, isTight_trim raw⟩

/-! ## One line -/

namespace Reading

theorem step_eq_ok_iff {line : List Char} (counts : IsSignificant line) (tight : IsTight line)
    {r r' : Reading} : r.step (.ofTrimmed line) = .ok r' ↔
      (line = blockStartMark.toList ∧ r.current = none ∧ r' = ⟨r.closed, some .blank⟩) ∨
      (line = blockEndMark.toList ∧ ∃ rule, r.current = some rule ∧ rule.check = .ok rule ∧
        r' = ⟨r.closed ++ [rule], none⟩) ∨
      ∃ s, States line s ∧ ∃ rule rule', r.current = some rule ∧ rule.hear s = .ok rule' ∧
        r' = ⟨r.closed, some rule'⟩ := by
  obtain ⟨closed, current⟩ := r
  constructor
  · intro h
    cases is : Line.ofTrimmed line with
    | blank => exact absurd counts (Line.ofTrimmed_eq_blank_iff.mp is)
    | blockStart =>
      rw [is] at h
      cases current with
      | some _ => cases h
      | none => cases h; exact .inl ⟨Line.ofTrimmed_eq_blockStart_iff.mp is, rfl, rfl⟩
    | blockEnd =>
      rw [is] at h
      cases current with
      | none => cases h
      | some rule =>
        obtain ⟨checked, check, rfl⟩ := Except.map_eq_ok_iff.mp h
        obtain ⟨rfl, -⟩ := Rule.check_eq_ok_iff.mp check
        exact .inr (.inl ⟨Line.ofTrimmed_eq_blockEnd_iff.mp is, checked, rfl, check, rfl⟩)
    | bare =>
      rw [is] at h
      cases current <;> cases h
    | entry key value =>
      rw [is] at h
      cases current with
      | none => cases h
      | some rule =>
        obtain ⟨rule', set, rfl⟩ := Except.map_eq_ok_iff.mp h
        obtain ⟨s, written, heard⟩ := set_eq_ok_iff.mp set
        have entry := (ofTrimmed_eq_entry_iff counts tight).mp is
        exact .inr (.inr ⟨s, ⟨key, value, entry, written⟩, rule, rule', rfl, heard, rfl⟩)
  · rintro (⟨is, now, rfl⟩ | ⟨is, rule, now, check, rfl⟩ |
      ⟨s, ⟨key, value, entry, written⟩, rule, rule', now, heard, rfl⟩)
    · cases now
      rw [Line.ofTrimmed_eq_blockStart_iff.mpr is]
      rfl
    · cases now
      rw [Line.ofTrimmed_eq_blockEnd_iff.mpr is]
      exact Except.map_eq_ok_iff.mpr ⟨rule, check, rfl⟩
    · cases now
      rw [(ofTrimmed_eq_entry_iff counts tight).mpr entry]
      exact Except.map_eq_ok_iff.mpr ⟨rule', set_eq_ok_iff.mpr ⟨s, written, heard⟩, rfl⟩

/-! ## A run over lines -/

/-- The reading after the lines that count. -/
def after (r : Reading) (lines : List (List Char)) : Except LineFault Reading :=
  (lines.map Line.ofTrimmed).foldlM step r

theorem after_cons_eq_ok_iff {r r' : Reading} {line : List Char} {lines : List (List Char)} :
    r.after (line :: lines) = .ok r' ↔
      ∃ m, r.step (.ofTrimmed line) = .ok m ∧ m.after lines = .ok r' := by
  rw [after, List.map_cons, List.foldlM_cons, Except.bind_eq_ok_iff]
  rfl

theorem after_concat_eq_ok_iff {r r' : Reading} {line : List Char} {lines : List (List Char)} :
    r.after (lines ++ [line]) = .ok r' ↔
      ∃ m, r.after lines = .ok m ∧ m.step (.ofTrimmed line) = .ok r' := by
  rw [after, List.map_append, List.map_singleton, Except.foldlM_concat_eq_ok_iff]
  rfl

/-- A run goes by the lines that count, trimmed. -/
theorem run_eq_ok_iff {n : Nat} {r r' : Reading} {lines : List (List Char)} :
    run n r lines = .ok r' ↔ r.after ((lines.map trim).filter IsSignificant) = .ok r' := by
  induction lines generalizing n r with
  | nil =>
    constructor
    · intro h; cases h; rfl
    · intro h; cases h; rfl
  | cons line lines ih =>
    have goes : run n r (line :: lines) = .ok r' ↔
        ∃ m, r.step (.ofText line) = .ok m ∧ run (n + 1) m lines = .ok r' := by
      rw [run]
      split
      next m stepped => simp only [stepped, Except.ok.injEq, exists_eq_left']
      next fault stepped => simp [stepped]
    rw [goes, List.map_cons]
    by_cases counts : IsSignificant (trim line)
    · rw [List.filter_cons_of_pos (by simpa using counts), after_cons_eq_ok_iff]
      simp only [ih]
      rfl
    · have same : r.step (.ofText line) = .ok r := by
        rw [Line.ofText, Line.ofTrimmed_eq_blank_iff.mpr counts]
        rfl
      rw [List.filter_cons_of_neg (by simpa using counts)]
      simp only [same, ih]
      exact ⟨fun ⟨_, e, h⟩ => by cases e; exact h, fun h => ⟨r, rfl, h⟩⟩

end Reading

theorem Rules.parse_eq_ok_iff_steps {text : String} {rules : Rules} :
    Rules.parse text = .ok rules ↔
      Reading.start.after (significant text.toList) = .ok ⟨rules, none⟩ := by
  have lines : significant text.toList = ((Rules.lines text.toList).map trim).filter IsSignificant := by
    rw [significant, Rules.lines, split_eq_splitOn]
  rw [lines, ← Reading.run_eq_ok_iff (n := 1), Rules.parse]
  split
  next r run =>
    rw [run]
    obtain ⟨closed, current⟩ := r
    cases current with
    | none => exact ⟨fun h => (by cases h; rfl), fun h => (by cases h; rfl)⟩
    | some _ => exact ⟨fun h => (by cases h), fun h => (by cases h)⟩
  next run =>
    rw [run]
    exact ⟨fun h => (by cases h), fun h => (by cases h)⟩

/-! ## What a reading stands for -/

/-- Lines from one mark to the other that make the rule. -/
def IsRule (stretch : List (List Char)) (rule : Rule) : Prop :=
  ∃ body b, stretch = blockStartMark.toList :: body ++ [blockEndMark.toList] ∧
    List.Forall₂ States body b ∧ Rule.ofBlock b = .ok rule ∧ rule.check = .ok rule

/-- Lines since the last closing mark. -/
def IsOpen (tail : List (List Char)) : Option Rule → Prop
  | none => tail = []
  | some rule => ∃ body b, tail = blockStartMark.toList :: body ∧
      List.Forall₂ States body b ∧ Rule.ofBlock b = .ok rule

/-- The lines are stretches that make the closed rules, and those of the open block. -/
def Reading.HasRead (r : Reading) (lines : List (List Char)) : Prop :=
  ∃ stretches tail, lines = stretches.flatten ++ tail ∧
    List.Forall₂ IsRule stretches r.closed ∧ IsOpen tail r.current

theorem Reading.hasRead_start : Reading.start.HasRead [] := ⟨[], [], rfl, .nil, rfl⟩

section

variable {lines : List (List Char)} {line : List Char} {r : Reading}

/-- A line more opens a block, closes one, or is a statement of the open one. -/
theorem Reading.HasRead.step {m : Reading} (h : m.HasRead lines) (counts : IsSignificant line)
    (tight : IsTight line) (stepped : m.step (.ofTrimmed line) = .ok r) :
    r.HasRead (lines ++ [line]) := by
  obtain ⟨closed, current⟩ := m
  obtain ⟨stretches, tail, rfl, rules, here⟩ := h
  rcases (step_eq_ok_iff counts tight).mp stepped with ⟨rfl, now, rfl⟩ |
    ⟨rfl, rule, now, check, rfl⟩ | ⟨s, states, rule, rule', now, heard, rfl⟩
  · cases now
    obtain rfl : tail = [] := here
    exact ⟨stretches, [_], by simp, rules, [], [], rfl, .nil, rfl⟩
  · cases now
    obtain ⟨body, b, rfl, states, made⟩ := here
    have last : IsRule (blockStartMark.toList :: body ++ [blockEndMark.toList]) rule :=
      ⟨body, b, rfl, states, made, check⟩
    exact ⟨stretches ++ [_], [], by simp,
      Lists.forall₂_concat_iff.mpr ⟨closed, rule, rfl, rules, last⟩, rfl⟩
  · cases now
    obtain ⟨body, b, rfl, former, made⟩ := here
    exact ⟨stretches, blockStartMark.toList :: (body ++ [line]), by simp, rules,
      body ++ [line], b ++ [s], rfl, Lists.forall₂_concat_iff.mpr ⟨b, s, rfl, former, states⟩,
      Rule.ofBlock_concat_eq_ok_iff.mpr ⟨rule, made, heard⟩⟩

/-- Whatever stands for a line more came from such a step: the last line closes the last stretch,
opens a block, or is the last statement of the open one. -/
theorem Reading.HasRead.exists_step (h : r.HasRead (lines ++ [line])) (counts : IsSignificant line)
    (tight : IsTight line) :
    ∃ m : Reading, m.HasRead lines ∧ m.step (.ofTrimmed line) = .ok r := by
  obtain ⟨closed, current⟩ := r
  obtain ⟨stretches, tail, whole, rules, here⟩ := h
  simp only [step_eq_ok_iff counts tight]
  cases current with
  | none =>
    obtain rfl : tail = [] := here
    rw [List.append_nil] at whole
    cases stretches using List.reverseRecOn with
    | nil => cases List.concat_ne_nil _ _ whole
    | append_singleton stretches stretch =>
      obtain ⟨closed, rule, rfl, former, body, b, rfl, states, made, check⟩ :=
        Lists.forall₂_concat_iff.mp rules
      have ends : lines ++ [line] =
          (stretches.flatten ++ blockStartMark.toList :: body) ++ [blockEndMark.toList] := by
        simpa using whole
      obtain ⟨rfl, last⟩ := List.append_inj' ends rfl
      cases last
      exact ⟨⟨closed, some rule⟩, ⟨stretches, _, rfl, former, body, b, rfl, states, made⟩,
        .inr (.inl ⟨rfl, rule, rfl, check, rfl⟩)⟩
  | some rule =>
    obtain ⟨body, b, rfl, states, made⟩ := here
    cases body using List.reverseRecOn with
    | nil =>
      cases states
      cases made
      obtain ⟨rfl, last⟩ := List.append_inj' whole rfl
      cases last
      exact ⟨⟨closed, none⟩, ⟨stretches, [], by simp, rules, rfl⟩, .inl ⟨rfl, rfl, rfl⟩⟩
    | append_singleton body last_line =>
      obtain ⟨b, s, rfl, former, last_states⟩ := Lists.forall₂_concat_iff.mp states
      obtain ⟨before, made, heard⟩ := Rule.ofBlock_concat_eq_ok_iff.mp made
      have ends : lines ++ [line] =
          (stretches.flatten ++ blockStartMark.toList :: body) ++ [last_line] := by
        simpa using whole
      obtain ⟨rfl, last⟩ := List.append_inj' ends rfl
      cases last
      exact ⟨⟨closed, some before⟩, ⟨stretches, _, rfl, rules, body, b, rfl, former, made⟩,
        .inr (.inr ⟨s, last_states, before, rule, rfl, heard, rfl⟩)⟩

end

theorem Reading.after_eq_ok_iff {lines : List (List Char)}
    (significant : ∀ line ∈ lines, IsSignificant line ∧ IsTight line) {r : Reading} :
    start.after lines = .ok r ↔ r.HasRead lines := by
  induction lines using List.reverseRecOn generalizing r with
  | nil =>
    constructor
    · intro h
      cases h
      exact hasRead_start
    · obtain ⟨closed, current⟩ := r
      rintro ⟨stretches, tail, none, rules, here⟩
      obtain ⟨empty, rfl⟩ := List.append_eq_nil_iff.mp none.symm
      cases current with
      | some rule =>
        obtain ⟨_, _, more, -⟩ := here
        cases more
      | none =>
        cases rules with
        | nil => rfl
        | cons rule _ =>
          obtain ⟨_, _, rfl, -⟩ := rule
          cases empty
  | append_singleton lines line ih =>
    obtain ⟨counts, tight⟩ := significant line (by simp)
    have ih {m : Reading} : start.after lines = .ok m ↔ m.HasRead lines :=
      ih fun line h => significant line (List.mem_append_left _ h)
    rw [after_concat_eq_ok_iff]
    constructor
    · rintro ⟨m, read, stepped⟩
      exact (ih.mp read).step counts tight stepped
    · intro h
      obtain ⟨m, read, stepped⟩ := h.exists_step counts tight
      exact ⟨m, ih.mpr read, stepped⟩

/-! ## Files -/

theorem isRule_iff {stretch : List (List Char)} {rule : Rule} :
    IsRule stretch rule ↔ ∃ b, IsBlock stretch b ∧ rule.IsFor b := by
  constructor
  · rintro ⟨body, b, whole, states, made⟩
    obtain ⟨valid, isFor⟩ := (Rule.ofBlock_check_iff (Block.known_of_states states)).mp made
    exact ⟨b, ⟨body, whole, states, valid⟩, isFor⟩
  · rintro ⟨b, ⟨body, whole, states, valid⟩, isFor⟩
    have made := (Rule.ofBlock_check_iff (Block.known_of_states states)).mpr ⟨valid, isFor⟩
    exact ⟨body, b, whole, states, made⟩

theorem forall₂_isRule_iff {stretches : List (List (List Char))} {rules : Rules} :
    List.Forall₂ IsRule stretches rules ↔
      ∃ blocks, List.Forall₂ IsBlock stretches blocks ∧ List.Forall₂ Rule.IsFor rules blocks := by
  constructor
  · intro h
    induction h with
    | nil => exact ⟨[], .nil, .nil⟩
    | cons rule _ ih =>
      obtain ⟨b, block, isFor⟩ := isRule_iff.mp rule
      obtain ⟨blocks, each, rules⟩ := ih
      exact ⟨b :: blocks, .cons block each, .cons isFor rules⟩
  · rintro ⟨blocks, each, all⟩
    induction each generalizing rules with
    | nil =>
      cases all
      exact .nil
    | cons block _ ih =>
      cases all with
      | cons isFor all => exact .cons (isRule_iff.mpr ⟨_, block, isFor⟩) (ih all)

/-- A text has the rules that are for its blocks, one for each in the order of the file. -/
theorem Rules.parse_eq_ok_iff {text : String} {rules : Rules} :
    Rules.parse text = .ok rules ↔
      ∃ blocks, IsFile text blocks ∧ List.Forall₂ Rule.IsFor rules blocks := by
  rw [parse_eq_ok_iff_steps, Reading.after_eq_ok_iff fun line h => mem_significant h]
  constructor
  · rintro ⟨stretches, tail, whole, closed, here⟩
    obtain rfl : tail = [] := here
    rw [List.append_nil] at whole
    obtain ⟨blocks, each, isFor⟩ := forall₂_isRule_iff.mp closed
    exact ⟨blocks, ⟨stretches, whole, each⟩, isFor⟩
  · rintro ⟨blocks, ⟨stretches, whole, each⟩, isFor⟩
    exact ⟨stretches, [], by rw [List.append_nil, whole],
      forall₂_isRule_iff.mpr ⟨blocks, each, isFor⟩, rfl⟩

theorem IsBlock.exists_isFor {stretch : List (List Char)} {b : Block} (h : IsBlock stretch b) :
    ∃ rule : Rule, rule.IsFor b := by
  obtain ⟨body, -, states, valid⟩ := h
  obtain ⟨rule, made⟩ :=
    (Rule.exists_ofBlock_iff (Block.known_of_states states)).mpr valid.toDistinct
  exact ⟨rule, Rule.isFor_of_ofBlock made⟩

theorem exists_isFor_of_blocks {stretches : List (List (List Char))} {blocks : List Block}
    (each : List.Forall₂ IsBlock stretches blocks) :
    ∃ rules : Rules, List.Forall₂ Rule.IsFor rules blocks := by
  induction each with
  | nil => exact ⟨[], .nil⟩
  | cons block _ ih =>
    obtain ⟨rule, isFor⟩ := block.exists_isFor
    obtain ⟨rules, all⟩ := ih
    exact ⟨rule :: rules, .cons isFor all⟩

theorem IsFile.exists_isFor {text : String} {blocks : List Block} (h : IsFile text blocks) :
    ∃ rules : Rules, List.Forall₂ Rule.IsFor rules blocks := by
  obtain ⟨stretches, -, each⟩ := h
  exact exists_isFor_of_blocks each

/-- The reader accepts what is written as a file, and nothing else. -/
theorem Rules.parse_accepts_iff (text : String) :
    ((∃ rules, Rules.parse text = .ok rules) ↔ ∃ blocks, IsFile text blocks) ∧
    ∀ rules, Rules.parse text = .ok rules ↔
      ∃ blocks, IsFile text blocks ∧ List.Forall₂ Rule.IsFor rules blocks := by
  refine ⟨⟨?_, ?_⟩, fun rules => parse_eq_ok_iff⟩
  · rintro ⟨rules, parsed⟩
    obtain ⟨blocks, file, -⟩ := parse_eq_ok_iff.mp parsed
    exact ⟨blocks, file⟩
  · rintro ⟨blocks, file⟩
    obtain ⟨rules, isFor⟩ := file.exists_isFor
    exact ⟨rules, parse_eq_ok_iff.mpr ⟨blocks, file, isFor⟩⟩

example : Rules.parse ("<vendorcode>\nmodule.mid A : : b\nmodule.version 1.0- 2 . +5\n" ++
    "CKM_VENDOR_SM2 0x+1f\n</vendorcode>") = .ok [{
      manufacturers := ["a".toList, "b".toList]
      versions := [⟨⟨1, 0⟩, ⟨2, 5⟩⟩]
      mechanisms := [(0xFFFFF002, 0x1F)] }] := by
  decide +kernel

end TokenMarshal.Vendor

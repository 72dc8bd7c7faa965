/-
  TokenMarshal.Proofs.Vendor.Lines — a fault is that of the first line that is wrong.

  The lines of a text are told by themselves (`textLines`); the reader goes by them, trimmed
  (`run_lines`). What it takes in from some lines does not depend on what follows
  (`run_append_of_ok`), and where it stops, it stops whatever follows
  (`run_append_of_error`). So it gives up on a line just when it gets through all lines before
  that one and cannot take this one (`run_eq_error_iff`); the lines before it alone are then
  a text that has its rules, or lacks the end of its last block. A text fails without a line
  to blame just when it is a file whose last block is open (`parse_eq_unterminated_iff`).
-/
import TokenMarshal.Proofs.Vendor.Rules

namespace TokenMarshal.Vendor

open Text

/-! ## Lines of a text -/

/-- A line without the carriage return that may stand before its line break. -/
def withoutReturn (line : List Char) : List Char :=
  if line.getLast? = some '\r' then line.dropLast else line

/-- A line break ends a line, with a carriage return before it or without. What follows the last
line break is a line too, unless it is empty. -/
def textLines (text : String) : List (List Char) :=
  let pieces := text.toList.splitOn '\n'
  pieces.dropLast.map withoutReturn ++ pieces.getLast?.toList.filter (· ≠ [])

theorem trim_withoutReturn (line : List Char) : trim (withoutReturn line) = trim line := by
  unfold withoutReturn
  split
  next last =>
    have blank : IsGap ['\r'] := List.forall_mem_singleton.mpr rfl
    rw [← trim_append_gap blank line.dropLast, List.dropLast_append_getLast? _ last]
  · rfl

namespace Reading

/-! ## Runs over more lines -/

variable {n : Nat} {r m : Reading} {l l' : List (List Char)} {fault : RulesFault}

theorem run_append_of_ok (ran : run n r l = .ok m) (l' : List (List Char)) :
    run n r (l ++ l') = run (n + l.length) m l' := by
  induction l generalizing n r with
  | nil => cases ran; rfl
  | cons line l ih =>
    rw [run] at ran
    rw [List.cons_append, run]
    split at ran
    · rw [ih ran, List.length_cons, Nat.add_assoc, Nat.add_comm 1]
    · cases ran

theorem run_append_of_error (stopped : run n r l = .error fault) (l' : List (List Char)) :
    run n r (l ++ l') = .error fault := by
  induction l generalizing n r with
  | nil => cases stopped
  | cons line l ih =>
    rw [run] at stopped
    rw [List.cons_append, run]
    split at stopped
    · exact ih stopped
    · exact stopped

/-- A run stops at a line that it reaches and cannot take. -/
theorem run_eq_error_iff :
    run n r l = .error fault ↔ ∃ before line after m told, l = before ++ line :: after ∧
      run n r before = .ok m ∧ m.step (.ofText line) = .error told ∧
      fault = .atLine (n + before.length) told := by
  constructor
  · intro stopped
    induction l generalizing n r with
    | nil => cases stopped
    | cons line l ih =>
      rw [run] at stopped
      split at stopped
      next next stepped =>
        obtain ⟨before, bad, after, m, told, rfl, ran, step, rfl⟩ := ih stopped
        refine ⟨line :: before, bad, after, m, told, rfl, ?_, step, ?_⟩
        · rw [run, stepped]
          exact ran
        · rw [List.length_cons, Nat.add_assoc, Nat.add_comm 1]
      next told stepped =>
        cases stopped
        exact ⟨[], line, l, r, told, rfl, rfl, stepped, rfl⟩
  · rintro ⟨before, line, after, m, told, rfl, ran, step, rfl⟩
    rw [run_append_of_ok ran, run, step]

/-- A run goes by the lines as they are when trimmed. -/
theorem run_congr (same : l.map trim = l'.map trim) : run n r l = run n r l' := by
  induction l generalizing n r l' with
  | nil =>
    obtain rfl : l' = [] := List.map_eq_nil_iff.mp same.symm
    rfl
  | cons line l ih =>
    cases l' with
    | nil => cases same
    | cons line' l' =>
      obtain ⟨first, rest⟩ := List.cons.inj same
      have same_line : Line.ofText line = Line.ofText line' := congrArg Line.ofTrimmed first
      rw [run, run, same_line]
      split
      · exact ih rest
      · rfl

theorem run_concat_empty (n : Nat) (r : Reading) (l : List (List Char)) :
    run n r (l ++ [[]]) = run n r l := by
  cases ran : run n r l with
  | ok m => rw [run_append_of_ok ran]; rfl
  | error fault => exact run_append_of_error ran [[]]

theorem run_lines (n : Nat) (r : Reading) (text : String) :
    run n r (Rules.lines text.toList) = run n r (textLines text) := by
  rw [Rules.lines, split_eq_splitOn, textLines]
  rcases List.eq_nil_or_concat (text.toList.splitOn '\n') with none | ⟨pieces, last, split⟩
  · exact absurd none (List.splitOnP_ne_nil _ _)
  have returns : (pieces.map withoutReturn).map trim = pieces.map trim := by
    rw [List.map_map]
    exact List.map_congr_left fun line _ => trim_withoutReturn line
  rw [split, List.concat_eq_append]
  simp only [List.dropLast_concat, List.getLast?_concat, Option.toList_some]
  by_cases empty : last = []
  · subst empty
    rw [run_concat_empty, List.filter_cons_of_neg (by simp), List.filter_nil, List.append_nil]
    exact run_congr returns.symm
  · rw [List.filter_cons_of_pos (by simpa using empty), List.filter_nil]
    refine run_congr ?_
    rw [List.map_append, List.map_append, returns]

theorem exists_run_of_prefix (ran : run n r l = .ok m) (first : l' <+: l) :
    ∃ m', run n r l' = .ok m' := by
  obtain ⟨rest, rfl⟩ := first
  cases ran' : run n r l' with
  | ok m' => exact ⟨m', rfl⟩
  | error fault =>
    rw [run_append_of_error ran' rest] at ran
    cases ran

theorem finish_cases (m : Reading) :
    (∃ rules, m.finish = .ok rules) ∨ m.finish = .error .unterminated := by
  obtain ⟨closed, current⟩ := m
  cases current with
  | none => exact .inl ⟨closed, rfl⟩
  | some rule => exact .inr rfl

end Reading

/-! ## Texts -/

/-- Blocks one after another, and then one that lacks its end; each of its lines may stand there. -/
def IsOpenFile (text : String) : Prop :=
  ∃ stretches blocks body b,
    significant text.toList = stretches.flatten ++ blockStartMark.toList :: body ∧
    List.Forall₂ IsBlock stretches blocks ∧ List.Forall₂ States body b ∧ Block.Distinct b

namespace Rules

variable {text : String} {fault : RulesFault}

theorem parse_eq_finish {m : Reading} (ran : Reading.run 1 .start (textLines text) = .ok m) :
    parse text = m.finish := by
  rw [parse, Reading.run_lines, ran]

theorem parse_eq_error_of_run (stopped : Reading.run 1 .start (textLines text) = .error fault) :
    parse text = .error fault := by
  rw [parse, Reading.run_lines, stopped]

/-- A text all lines of which are taken has its rules, or lacks the end of its last block. -/
theorem parse_cases_of_run {m : Reading} (ran : Reading.run 1 .start (textLines text) = .ok m) :
    (∃ rules, parse text = .ok rules) ∨ parse text = .error .unterminated := by
  rw [parse_eq_finish ran]
  exact m.finish_cases

/-- The reader gives up on a line just when it takes all lines before and cannot take this one. -/
theorem parse_eq_atLine_iff {n : Nat} {told : LineFault} :
    parse text = .error (.atLine n told) ↔ ∃ before line after m,
      textLines text = before ++ line :: after ∧ Reading.run 1 .start before = .ok m ∧
      m.step (.ofText line) = .error told ∧ n = before.length + 1 := by
  constructor
  · intro failed
    cases ran : Reading.run 1 .start (textLines text) with
    | ok m =>
      rcases parse_cases_of_run ran with ⟨rules, other⟩ | other
      · cases failed.symm.trans other
      · cases failed.symm.trans other
    | error fault =>
      obtain ⟨before, line, after, m, told', split, taken, refused, rfl⟩ :=
        Reading.run_eq_error_iff.mp ran
      rw [parse_eq_error_of_run ran] at failed
      cases failed
      exact ⟨before, line, after, m, split, taken, refused, Nat.add_comm _ _⟩
  · rintro ⟨before, line, after, m, split, taken, refused, rfl⟩
    refine parse_eq_error_of_run (Reading.run_eq_error_iff.mpr ?_)
    exact ⟨before, line, after, m, told, split, taken, refused, by rw [Nat.add_comm]⟩

theorem parse_eq_unterminated_iff_run :
    parse text = .error .unterminated ↔
      ∃ closed rule, Reading.run 1 .start (textLines text) = .ok ⟨closed, some rule⟩ := by
  constructor
  · intro failed
    cases ran : Reading.run 1 .start (textLines text) with
    | ok m =>
      rw [parse_eq_finish ran] at failed
      obtain ⟨closed, current⟩ := m
      cases current with
      | none => cases failed
      | some rule => exact ⟨closed, rule, rfl⟩
    | error fault =>
      obtain ⟨_, _, _, _, _, -, -, -, rfl⟩ := Reading.run_eq_error_iff.mp ran
      rw [parse_eq_error_of_run ran] at failed
      cases failed
  · rintro ⟨closed, rule, ran⟩
    exact parse_eq_finish ran

/-- A text lacks the end of its last block just when it is blocks and then an open one. -/
theorem parse_eq_unterminated_iff : parse text = .error .unterminated ↔ IsOpenFile text := by
  have reached (closed : List Rule) (rule : Rule) :
      Reading.run 1 .start (textLines text) = .ok ⟨closed, some rule⟩ ↔
        Reading.HasRead ⟨closed, some rule⟩ (significant text.toList) := by
    rw [← Reading.run_lines, Reading.run_eq_ok_iff, lines, split_eq_splitOn]
    exact Reading.after_eq_ok_iff fun line h => mem_significant h
  simp only [parse_eq_unterminated_iff_run, reached]
  constructor
  · rintro ⟨closed, rule, stretches, tail, whole, rules, body, b, rfl, states, made⟩
    obtain ⟨blocks, each, -⟩ := forall₂_isRule_iff.mp rules
    have distinct := (Rule.exists_ofBlock_iff (Block.known_of_states states)).mp ⟨rule, made⟩
    exact ⟨stretches, blocks, body, b, whole, each, states, distinct⟩
  · rintro ⟨stretches, blocks, body, b, whole, each, states, distinct⟩
    obtain ⟨closed, isFor⟩ := exists_isFor_of_blocks each
    obtain ⟨rule, made⟩ := (Rule.exists_ofBlock_iff (Block.known_of_states states)).mpr distinct
    exact ⟨closed, rule, stretches, _, whole, forall₂_isRule_iff.mpr ⟨blocks, each, isFor⟩,
      body, b, rfl, states, made⟩

/-- All lines up to one that is blamed are in the text, and they alone decide what it is blamed
for. -/
theorem parse_eq_atLine_of_same_lines {n : Nat} {told : LineFault} {other : String}
    (failed : parse text = .error (.atLine n told))
    (same : (textLines other).take n = (textLines text).take n) :
    parse other = .error (.atLine n told) := by
  obtain ⟨before, line, after, m, split, taken, refused, rfl⟩ := parse_eq_atLine_iff.mp failed
  have up_to : (textLines text).take (before.length + 1) = before ++ [line] := by
    rw [split, List.take_append, List.take_of_length_le (Nat.le_succ _), Nat.add_sub_cancel_left]
    rfl
  refine parse_eq_atLine_iff.mpr ⟨before, line, (textLines other).drop (before.length + 1), m, ?_,
    taken, refused, rfl⟩
  rw [← List.singleton_append, ← List.append_assoc, ← up_to, ← same, List.take_append_drop]

/-- A text that fails does so at its first line that is wrong: so does every text with the same
lines up to that one, with the same fault, and the lines before it are a text that has its rules or
lacks the end of its last block. That end is all that a text lacks which fails at no line, and then
no line of it is wrong. -/
theorem parse_blames_first_line (text : String) (fault : RulesFault)
    (failed : parse text = .error fault) :
    (∃ n told, fault = .atLine n told ∧
      fault.message = "line " ++ Numeral.decimal n ++ ": " ++ told.message ∧
      1 ≤ n ∧ n ≤ (textLines text).length ∧
      (∀ other, (textLines other).take n = (textLines text).take n → parse other = .error fault) ∧
      ∀ start, textLines start = (textLines text).take (n - 1) →
        (∃ rules, parse start = .ok rules) ∨ parse start = .error .unterminated) ∨
    (fault = .unterminated ∧ fault.message = "unterminated vendor code block" ∧ IsOpenFile text ∧
      ∀ n start, textLines start = (textLines text).take n →
        (∃ rules, parse start = .ok rules) ∨ parse start = .error .unterminated) := by
  cases fault with
  | atLine n told =>
    obtain ⟨before, line, after, m, split, taken, refused, rfl⟩ := parse_eq_atLine_iff.mp failed
    refine .inl ⟨_, told, rfl, rfl, Nat.le_add_left 1 _, ?_, fun other same => ?_, fun start first => ?_⟩
    · rw [split, List.length_append, List.length_cons]
      omega
    · exact parse_eq_atLine_of_same_lines failed same
    · rw [Nat.add_sub_cancel, split, List.take_left] at first
      exact parse_cases_of_run (first ▸ taken)
  | unterminated =>
    obtain ⟨closed, rule, ran⟩ := parse_eq_unterminated_iff_run.mp failed
    refine .inr ⟨rfl, rfl, parse_eq_unterminated_iff.mp failed, fun n start first => ?_⟩
    obtain ⟨m, taken⟩ := Reading.exists_run_of_prefix ran (List.take_prefix n _)
    exact parse_cases_of_run (first ▸ taken)

/-- A value that stands twice in one space, on the eighth line; the same value in the other space
and the lines that do not count are passed. Without that line the block is open. -/
theorem parse_blames_first_line_of_value_twice :
    let start := "\n# sm\r\n<vendorcode>\r\nmodule.mid A\nCKM_VENDOR_SM2 1\n\nCKK_VENDOR_SM2 1\n"
    let text := start ++ "  CKM_VENDOR_SM3 0x1\nmodule.version x\n</vendorcode>"
    let fault := RulesFault.atLine 8 (.valueTaken 1 "CKM_VENDOR_SM3" "CKM_VENDOR_SM2")
    parse text = .error fault ∧ textLines start = (textLines text).take 7 ∧
    (∀ other, (textLines other).take 8 = (textLines text).take 8 → parse other = .error fault) ∧
    ((∃ rules, parse start = .ok rules) ∨ parse start = .error .unterminated) ∧
    parse start = .error .unterminated ∧ IsOpenFile start := by
  intro start text fault
  have failed : parse text = .error fault := by decide +kernel
  have first : textLines start = (textLines text).take 7 := by decide +kernel
  have lacking : parse start = .error .unterminated := by decide +kernel
  rcases parse_blames_first_line text fault failed with
    ⟨n, told, same, -, -, -, blamed, before⟩ | ⟨other, -⟩
  · obtain ⟨rfl, -⟩ := RulesFault.atLine.inj same
    rcases parse_blames_first_line start .unterminated lacking with
      ⟨_, _, other, -⟩ | ⟨-, -, open_block, -⟩
    · cases other
    · exact ⟨failed, first, blamed, before start first, lacking, open_block⟩
  · exact absurd other (by decide)

/-- What a block lacks as a whole is told at the line that ends it. -/
example : parse "<vendorcode>\nCKM_VENDOR_SM2 1\n</vendorcode>\nx" = .error (.atLine 3 .noSelector) := by
  decide +kernel

end Rules

end TokenMarshal.Vendor

/-
  TokenMarshal.Proofs.Vendor.Grammar — how vendor code files are written.

  The format is stated here by itself, from the outside in. A file is lines, of which those
  that are blank or start with a number sign say nothing; the others make up blocks
  (`IsFile`). A block stands between two marks, and each of its lines is a key, white space
  and a value, which together make a statement (`States`): tokens of a selector, ranges of
  versions, or the vendor's value for a known name. In one block no name stands twice and no
  two names of a space have the same value, and some selector by text has a token
  (`Block.Valid`).

  What the reader of a value accepts is what is written so, value by value
  (`readVersion_eq_ok_iff`, `readRanges_eq_ok_iff`, `readCode_eq_ok_iff`), and what it makes
  of a line of a block is what the line states (`ofTrimmed_eq_entry_iff`, `set_eq_ok_iff`).
-/
import TokenMarshal.Proofs.Except
import TokenMarshal.Proofs.Text.Blank
import TokenMarshal.Proofs.Text.Numeral
import TokenMarshal.Vendor.Rules

namespace TokenMarshal.Vendor

open Text

/-! ## Values -/

/-- A decimal number below 256, with white space around it or without. -/
def IsOctet (s : List Char) (n : UInt8) : Prop :=
  ∃ before digits after, IsGap before ∧ IsGap after ∧ s = before ++ digits ++ after ∧
    Numeral.Writes 10 digits n.toNat

def IsVersion (s : List Char) (v : Version) : Prop :=
  ∃ major minor, s = major ++ '.' :: minor ∧ IsOctet major v.major ∧ IsOctet minor v.minor

/-- One version, or two with a hyphen between them. -/
def IsRange (s : List Char) (r : VersionRange) : Prop :=
  IsVersion s r.low ∧ r.high = r.low ∨
    ∃ low high, s = low ++ '-' :: high ∧ IsVersion low r.low ∧ IsVersion high r.high

/-- A decimal number below `2 ^ 64`, or a hexadecimal one after its prefix. -/
def IsCode (s : List Char) (n : UInt64) : Prop :=
  Numeral.Writes 10 s n.toNat ∨
    ∃ x digits, (x = 'x' ∨ x = 'X') ∧ s = '0' :: x :: digits ∧ Numeral.Writes 16 digits n.toNat

/-- What stands between the colons, trimmed; blank tokens do not count. -/
def listed (s : List Char) : List (List Char) := ((s.splitOn ':').map trim).filter (· != [])

/-! ## Lines -/

/-- What a line of a block says. -/
inductive Statement where
  | paths (tokens : List (List Char))
  | manufacturers (tokens : List (List Char))
  | descriptions (tokens : List (List Char))
  | versions (ranges : List VersionRange)
  | code (name : Name) (value : UInt64)

/-- How a statement is written as a key and a value. -/
inductive Statement.Written : List Char → List Char → Statement → Prop
  | paths (value : List Char) : Written "module.path".toList value (.paths (listed value))
  | manufacturers (value : List Char) :
      Written "module.mid".toList value (.manufacturers (listed value))
  | descriptions (value : List Char) :
      Written "module.description".toList value (.descriptions (listed value))
  | versions {value : List Char} {ranges : List VersionRange} :
      List.Forall₂ IsRange (listed value) ranges →
      Written "module.version".toList value (.versions ranges)
  | code {name : Name} {value : List Char} {n : UInt64} : name ∈ Name.all → IsCode value n →
      Written name.name.toList value (.code name n)

/-- A key, white space and a value. -/
def IsEntry (line key value : List Char) : Prop :=
  ∃ gap, line = key ++ gap ++ value ∧ key ≠ [] ∧ (∀ c ∈ key, isBlank c = false) ∧
    gap ≠ [] ∧ IsGap gap ∧ value ≠ [] ∧ IsTight value

def States (line : List Char) (s : Statement) : Prop :=
  ∃ key value, IsEntry line key value ∧ s.Written key value

/-- The line counts: it is not blank and no comment. -/
def IsSignificant (line : List Char) : Prop := line ≠ [] ∧ line.head? ≠ some '#'

instance : DecidablePred IsSignificant := fun _ => inferInstanceAs (Decidable (_ ∧ _))

/-- The lines of a text that count, trimmed. -/
def significant (text : List Char) : List (List Char) :=
  ((text.splitOn '\n').map trim).filter IsSignificant

/-! ## Blocks -/

abbrev Block := List Statement

namespace Statement

def paths? : Statement → Option (List (List Char))
  | paths tokens => some tokens
  | _ => none

def manufacturers? : Statement → Option (List (List Char))
  | manufacturers tokens => some tokens
  | _ => none

def descriptions? : Statement → Option (List (List Char))
  | descriptions tokens => some tokens
  | _ => none

def versions? : Statement → Option (List VersionRange)
  | versions ranges => some ranges
  | _ => none

def name? : Statement → Option Name
  | code name _ => some name
  | _ => none

/-- The generic code and the vendor's value, for a name of the space. -/
def pair? (space : Space) : Statement → Option (UInt64 × UInt64)
  | code name value => if name.space = space then some (name.code, value) else none
  | _ => none

end Statement

namespace Block

/-- The last list of a kind in the block; nothing if there is none. -/
def last {α : Type} (pick : Statement → Option (List α)) (b : Block) : List α :=
  (b.filterMap pick).getLastD []

def names (b : Block) : List Name := b.filterMap Statement.name?

/-- The generic codes of a space with the vendor's values, in order. -/
def pairs (space : Space) (b : Block) : List (UInt64 × UInt64) := b.filterMap (Statement.pair? space)

/-- No name stands twice, and no value of names of one space. -/
structure Distinct (b : Block) : Prop where
  names : b.names.Nodup
  values : ∀ space, ((b.pairs space).map (·.2)).Nodup

structure Valid (b : Block) : Prop extends Distinct b where
  selects : b.last Statement.paths? ≠ [] ∨ b.last Statement.manufacturers? ≠ [] ∨
    b.last Statement.descriptions? ≠ []

end Block

/-- Lines from one mark to the other that state the block. -/
def IsBlock (lines : List (List Char)) (b : Block) : Prop :=
  ∃ body, lines = blockStartMark.toList :: body ++ [blockEndMark.toList] ∧
    List.Forall₂ States body b ∧ b.Valid

/-- The lines of a text that count are those of the blocks one after another. -/
def IsFile (text : String) (blocks : List Block) : Prop :=
  ∃ stretches, significant text.toList = stretches.flatten ∧ List.Forall₂ IsBlock stretches blocks

/-! ## Reading values -/

theorem ofNat_eq_iff {n : Nat} {k : UInt8} (h : n < 256) : UInt8.ofNat n = k ↔ n = k.toNat := by
  rw [← UInt8.toNat_inj, UInt8.toNat_ofNat_of_lt' h]

theorem readOctet?_eq_some_iff {s : List Char} {n : UInt8} : readOctet? s = some n ↔ IsOctet s n := by
  have number (digits : List Char) (m : Nat) :
      Numeral.read 10 256 digits = .ok m ↔ Numeral.Writes 10 digits m ∧ m < 256 :=
    Numeral.read_eq_ok_iff (by decide) (by decide)
  constructor
  · intro h
    unfold readOctet? at h
    split at h
    next m read =>
      obtain ⟨writes, small⟩ := (number _ m).mp read
      obtain ⟨-, before, after, hb, ha, whole⟩ := trim_eq_iff.mp (rfl : trim s = trim s)
      rw [(ofNat_eq_iff small).mp (Option.some.inj h)] at writes
      exact ⟨before, trim s, after, hb, ha, whole, writes⟩
    · cases h
  · rintro ⟨before, digits, after, hb, ha, rfl, writes⟩
    have core : trim (before ++ digits ++ after) = digits :=
      trim_eq_iff.mpr ⟨writes.isTight, before, after, hb, ha, rfl⟩
    rw [readOctet?, core, (number digits n.toNat).mpr ⟨writes, n.toNat_lt⟩]
    simp

/-- A number holds neither of the marks that stand between numbers. -/
theorem IsOctet.no_mark {s : List Char} {n : UInt8} (h : IsOctet s n) :
    ∀ c ∈ s, (c == '.') = false ∧ (c == '-') = false := by
  obtain ⟨before, digits, after, hb, ha, rfl, writes⟩ := h
  have gap {t : List Char} (ht : IsGap t) : ∀ c ∈ t, (c == '.') = false ∧ (c == '-') = false := by
    intro c hc
    have blank := ht c hc
    constructor <;> (rw [beq_eq_false_iff_ne]; rintro rfl; cases blank)
  intro c hc
  rcases List.mem_append.mp hc with hc | hc
  · rcases List.mem_append.mp hc with hc | hc
    · exact gap hb c hc
    · rcases writes.sign_or_digit c hc with rfl | digit
      · exact ⟨rfl, rfl⟩
      · constructor <;> (rw [beq_eq_false_iff_ne]; rintro rfl; cases digit)
  · exact gap ha c hc

theorem IsVersion.no_hyphen {s : List Char} {v : Version} (h : IsVersion s v) :
    ∀ c ∈ s, (c == '-') = false := by
  obtain ⟨major, minor, rfl, hmajor, hminor⟩ := h
  intro c hc
  rcases List.mem_append.mp hc with hc | hc
  · exact (hmajor.no_mark c hc).2
  · rcases List.mem_cons.mp hc with rfl | hc
    · rfl
    · exact (hminor.no_mark c hc).2

theorem readVersion_eq_ok_iff {s : List Char} {v : Version} :
    readVersion s = .ok v ↔ IsVersion s v := by
  constructor
  · intro h
    unfold readVersion at h
    split at h
    · cases h
    next major minor cut =>
      obtain ⟨c, whole, dot, -⟩ := cut?_eq_some_iff.mp cut
      obtain rfl : c = '.' := by simpa using dot
      split at h
      · cases h
      next a ha =>
        split at h
        · cases h
        next b hb =>
          cases h
          exact ⟨major, minor, whole, readOctet?_eq_some_iff.mp ha, readOctet?_eq_some_iff.mp hb⟩
  · rintro ⟨major, minor, rfl, hmajor, hminor⟩
    have cut : cut? (· == '.') (major ++ '.' :: minor) = some (major, minor) :=
      cut?_eq_some_iff.mpr ⟨'.', rfl, rfl, fun c hc => (hmajor.no_mark c hc).1⟩
    simp only [readVersion, cut, readOctet?_eq_some_iff.mpr hmajor,
      readOctet?_eq_some_iff.mpr hminor]

theorem readRange_eq_ok_iff {s : List Char} {r : VersionRange} :
    readRange s = .ok r ↔ IsRange s r := by
  constructor
  · intro h
    unfold readRange at h
    split at h
    next cut =>
      obtain ⟨v, hv, rfl⟩ := Except.map_eq_ok_iff.mp h
      exact .inl ⟨readVersion_eq_ok_iff.mp hv, rfl⟩
    next low high cut =>
      obtain ⟨c, whole, hyphen, -⟩ := cut?_eq_some_iff.mp cut
      obtain rfl : c = '-' := by simpa using hyphen
      obtain ⟨v, hv, h⟩ := Except.bind_eq_ok_iff.mp h
      obtain ⟨w, hw, h⟩ := Except.bind_eq_ok_iff.mp h
      cases h
      exact .inr ⟨low, high, whole, readVersion_eq_ok_iff.mp hv, readVersion_eq_ok_iff.mp hw⟩
  · rintro (⟨hv, one⟩ | ⟨low, high, rfl, hv, hw⟩)
    · have cut : cut? (· == '-') s = none := cut?_eq_none_iff.mpr hv.no_hyphen
      obtain ⟨v, w⟩ := r
      cases one
      simp only [readRange, cut, readVersion_eq_ok_iff.mpr hv]
      rfl
    · have cut : cut? (· == '-') (low ++ '-' :: high) = some (low, high) :=
        cut?_eq_some_iff.mpr ⟨'-', rfl, rfl, hv.no_hyphen⟩
      simp only [readRange, cut, readVersion_eq_ok_iff.mpr hv, readVersion_eq_ok_iff.mpr hw]
      rfl

theorem tokens_eq_listed (s : List Char) : tokens s = listed s := by
  rw [tokens, split_eq_splitOn, listed]

theorem readRanges_eq_ok_iff {s : List Char} {ranges : List VersionRange} :
    readRanges s = .ok ranges ↔ List.Forall₂ IsRange (listed s) ranges := by
  rw [readRanges, tokens_eq_listed, Except.mapM_eq_ok_iff]
  simp only [readRange_eq_ok_iff]

/-- A numeral below `2 ^ 64`, as a word. -/
theorem readWord_eq_ok_iff {base : Nat} (hb : 0 < base) {digits : List Char} {fault : LineFault}
    {n : UInt64} :
    (match Numeral.read base codeBound digits with
      | .ok n => Except.ok (UInt64.ofNat n)
      | .error _ => .error fault) = .ok n ↔ Numeral.Writes base digits n.toNat := by
  have number (m : Nat) :
      Numeral.read base codeBound digits = .ok m ↔ Numeral.Writes base digits m ∧ m < codeBound :=
    Numeral.read_eq_ok_iff hb (by decide)
  constructor
  · intro h
    split at h
    next m read =>
      obtain ⟨writes, small⟩ := (number m).mp read
      cases h
      rwa [UInt64.toNat_ofNat_of_lt' small]
    · cases h
  · intro writes
    rw [(number n.toNat).mpr ⟨writes, n.toNat_lt⟩]
    simp

/-- No decimal number has the prefix of a hexadecimal one. -/
theorem not_decimal_of_hex {x : Char} (hx : x = 'x' ∨ x = 'X') {digits : List Char} {n : Nat} :
    ¬ Numeral.Writes 10 ('0' :: x :: digits) n := by
  intro writes
  have := writes.sign_or_digit x (by simp)
  rcases hx with rfl | rfl
  · exact absurd this (by decide)
  · exact absurd this (by decide)

theorem readCode_eq_ok_iff {s : List Char} {n : UInt64} : readCode s = .ok n ↔ IsCode s n := by
  unfold readCode IsCode
  split
  next digits =>
    refine (readWord_eq_ok_iff (by decide)).trans ?_
    constructor
    · exact fun writes => .inr ⟨'X', digits, .inr rfl, rfl, writes⟩
    · rintro (writes | ⟨x, _, hx, e, writes⟩)
      · exact absurd writes (not_decimal_of_hex (.inr rfl))
      · cases e; exact writes
  next digits =>
    refine (readWord_eq_ok_iff (by decide)).trans ?_
    constructor
    · exact fun writes => .inr ⟨'x', digits, .inl rfl, rfl, writes⟩
    · rintro (writes | ⟨x, _, hx, e, writes⟩)
      · exact absurd writes (not_decimal_of_hex (.inl rfl))
      · cases e; exact writes
  next upper lower =>
    refine (readWord_eq_ok_iff (by decide)).trans ?_
    refine ⟨.inl, ?_⟩
    rintro (writes | ⟨x, digits, rfl | rfl, e, -⟩)
    · exact writes
    · exact (lower digits e).elim
    · exact (upper digits e).elim

/-! ## Reading lines -/

theorem lower_eq_nil_iff {s : List Char} : lower s = [] ↔ s = [] := by
  cases s with
  | nil => exact ⟨fun _ => rfl, fun _ => rfl⟩
  | cons c s =>
    have some_case : lowerChar c ≠ [] := by
      unfold lowerChar
      split
      · exact List.cons_ne_nil _ _
      · split <;> exact List.cons_ne_nil _ _
    simp only [lower, lowerAfter, List.append_eq_nil_iff, reduceCtorEq, iff_false, not_and]
    intro h
    split at h
    · cases h
    · exact absurd h some_case

theorem selector_eq_map_lower (s : List Char) : selector s = (listed s).map lower := by
  have kept : (fun t => lower t != []) = fun t : List Char => t != [] := by
    funext t
    rw [Bool.eq_iff_iff, bne_iff_ne, bne_iff_ne, ne_eq, ne_eq, lower_eq_nil_iff]
  calc selector s = (((s.splitOn ':').map trim).map lower).filter (· != []) := by
        rw [selector, split_eq_splitOn, List.map_map]
        rfl
    _ = (((s.splitOn ':').map trim).filter fun t => lower t != []).map lower := List.filter_map
    _ = (listed s).map lower := by rw [kept, listed]

namespace Name

theorem find?_eq_some_iff {s : String} {n : Name} : find? s = some n ↔ n ∈ all ∧ n.name = s := by
  constructor
  · intro h
    exact ⟨List.mem_of_find?_eq_some h, by simpa using List.find?_some h⟩
  · rintro ⟨known, rfl⟩
    have each : ∀ n ∈ all, find? n.name = some n := by decide
    exact each n known

/-- A code names one name of its space. -/
theorem eq_of_code_eq : ∀ n ∈ all, ∀ m ∈ all, n.space = m.space → n.code = m.code → n = m := by
  decide

theorem not_selector : ∀ n ∈ all, n.name ≠ "module.path" ∧ n.name ≠ "module.mid" ∧
    n.name ≠ "module.description" ∧ n.name ≠ "module.version" := by
  decide

end Name

/-- What a statement does to the rule that is being read. -/
def Rule.hear (r : Rule) : Statement → Except LineFault Rule
  | .paths tokens => .ok { r with paths := tokens.map lower }
  | .manufacturers tokens => .ok { r with manufacturers := tokens.map lower }
  | .descriptions tokens => .ok { r with descriptions := tokens.map lower }
  | .versions ranges => .ok { r with versions := ranges }
  | .code name value => r.addCode name value

theorem ofList_eq_iff {key : List Char} {s : String} : String.ofList key = s ↔ key = s.toList := by
  constructor
  · rintro rfl
    exact String.toList_ofList.symm
  · rintro rfl
    exact String.ofList_toList

theorem set_eq_ok_iff {r r' : Rule} {key value : List Char} :
    r.set key value = .ok r' ↔ ∃ s, Statement.Written key value s ∧ r.hear s = .ok r' := by
  constructor
  · intro h
    unfold Rule.set at h
    split at h
    next k =>
      rw [ofList_eq_iff.mp k]
      exact ⟨_, .paths value, by rw [Rule.hear, ← selector_eq_map_lower]; exact h⟩
    next k =>
      rw [ofList_eq_iff.mp k]
      exact ⟨_, .manufacturers value, by rw [Rule.hear, ← selector_eq_map_lower]; exact h⟩
    next k =>
      rw [ofList_eq_iff.mp k]
      exact ⟨_, .descriptions value, by rw [Rule.hear, ← selector_eq_map_lower]; exact h⟩
    next k =>
      obtain ⟨ranges, hr, h⟩ := Except.map_eq_ok_iff.mp h
      rw [ofList_eq_iff.mp k]
      exact ⟨_, .versions (readRanges_eq_ok_iff.mp hr), congrArg _ h⟩
    · obtain ⟨code, hc, h⟩ := Except.bind_eq_ok_iff.mp h
      split at h
      next n found =>
        obtain ⟨known, name⟩ := Name.find?_eq_some_iff.mp found
        rw [ofList_eq_iff.mp name.symm]
        exact ⟨_, .code known (readCode_eq_ok_iff.mp hc), h⟩
      · cases h
  · rintro ⟨s, written, h⟩
    cases written with
    | paths => rw [Rule.hear, ← selector_eq_map_lower] at h; exact h
    | manufacturers => rw [Rule.hear, ← selector_eq_map_lower] at h; exact h
    | descriptions => rw [Rule.hear, ← selector_eq_map_lower] at h; exact h
    | versions hr =>
      show (readRanges value).map _ = _
      rw [readRanges_eq_ok_iff.mpr hr]
      exact h
    | @code n _ _ known hc =>
      have word := Name.not_selector n known
      have found := Name.find?_eq_some_iff.mpr ⟨known, rfl⟩
      unfold Rule.set
      rw [String.ofList_toList]
      split
      next k => exact absurd k word.1
      next k => exact absurd k word.2.1
      next k => exact absurd k word.2.2.1
      next k => exact absurd k word.2.2.2
      · refine Except.bind_eq_ok_iff.mpr ⟨_, readCode_eq_ok_iff.mpr hc, ?_⟩
        rw [found]
        exact h

/-- A line with white space in it is neither mark. -/
theorem IsEntry.not_mark {line key value : List Char} (h : IsEntry line key value) :
    line ≠ blockStartMark.toList ∧ line ≠ blockEndMark.toList := by
  obtain ⟨gap, rfl, -, -, some_gap, blank, -⟩ := h
  obtain ⟨c, hc⟩ := List.exists_mem_of_ne_nil gap some_gap
  have inside : c ∈ key ++ gap ++ value := by simp [hc]
  have other {mark : List Char} (solid : mark.any isBlank = false) :
      key ++ gap ++ value ≠ mark := by
    rintro rfl
    exact absurd (blank c hc) (List.any_eq_false.mp solid c inside)
  exact ⟨other (by decide +kernel), other (by decide +kernel)⟩

theorem ofTrimmed_eq_entry_iff {line key value : List Char} (hl : IsSignificant line)
    (tight : IsTight line) : Line.ofTrimmed line = .entry key value ↔ IsEntry line key value := by
  have counts : ¬ (line = [] ∨ line.head? = some '#') := fun h => h.elim hl.1 hl.2
  constructor
  · intro h
    unfold Line.ofTrimmed at h
    rw [if_neg counts] at h
    split at h
    · cases h
    split at h
    · cases h
    split at h
    · cases h
    next key rest cut =>
      cases h
      obtain ⟨c, rfl, blank, word⟩ := cut?_eq_some_iff.mp cut
      obtain ⟨core, before, after, hb, ha, whole⟩ := trim_eq_iff.mp (rfl : trim rest = trim rest)
      have gap : IsGap (c :: before) := List.forall_mem_cons.mpr ⟨blank, hb⟩
      -- The line ends with no white space, so there is a value and nothing behind it.
      have line_eq : key ++ c :: rest = key ++ c :: before ++ trim rest ++ after :=
        calc key ++ c :: rest = key ++ c :: (before ++ trim rest ++ after) := by rw [← whole]
          _ = key ++ c :: before ++ trim rest ++ after := by simp
      rw [line_eq] at tight ⊢
      obtain rfl := tight.gap_eq_nil ha
      rw [List.append_nil] at tight ⊢
      refine ⟨c :: before, rfl, ?_, word, List.cons_ne_nil _ _, gap, ?_, core⟩
      · rintro rfl
        have := tight.1 c rfl
        rw [blank] at this
        cases this
      · intro empty
        rw [empty, List.append_nil] at tight
        cases tight.gap_eq_nil gap
  · intro h
    obtain ⟨start, stop⟩ := h.not_mark
    obtain ⟨gap, rfl, -, word, some_gap, blank, -, core⟩ := h
    obtain ⟨c, gap, rfl⟩ := List.exists_cons_of_ne_nil some_gap
    obtain ⟨hc, blank⟩ := List.forall_mem_cons.mp blank
    have cut : cut? isBlank (key ++ c :: gap ++ value) = some (key, gap ++ value) :=
      cut?_eq_some_iff.mpr ⟨c, by rw [List.append_assoc, List.cons_append], hc, word⟩
    have told : trim (gap ++ value) = value :=
      trim_eq_iff.mpr ⟨core, gap, [], blank, isGap_nil, by rw [List.append_nil]⟩
    rw [Line.ofTrimmed, if_neg counts, if_neg start, if_neg stop, cut]
    simp only [told]

end TokenMarshal.Vendor

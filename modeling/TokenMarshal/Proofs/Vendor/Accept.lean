/-
  TokenMarshal.Proofs.Vendor.Accept — which block a module gets.

  A block accepts a module (`Block.Accepts`) if each of its selectors that has tokens has one
  that occurs in the module's text, both in lower case, and if one of its version ranges, if
  it has any, holds the module's version. The rule of a block accepts the same modules
  (`Rule.IsFor.accepts_iff`), so the table of a module is that of the first block in the file
  that accepts it, and there is none just when no block does (`Rules.select_first`).

  Of a path the file name is looked at: in front of a name that is one, a directory makes no
  difference (`fileName_in_directory`).
-/
import TokenMarshal.Proofs.Vendor.Select

namespace TokenMarshal.Vendor

open Text

/-! ## File names -/

/-- A part of a path that is left out at its end: an empty one, or a dot. -/
def IsNoName (part : List Char) : Prop := part = [] ∨ part = ['.']

/-- The last part of the path that is not left out is this one, and not two dots. -/
def HasFileName (path name : List Char) : Prop :=
  ¬ IsNoName name ∧ name ≠ ['.', '.'] ∧
    ∃ before after, path.splitOn '/' = before ++ name :: after ∧ ∀ p ∈ after, IsNoName p

/-- The name of a file in the directory it is in. -/
def IsFileName (name : List Char) : Prop :=
  '/' ∉ name ∧ ¬ IsNoName name ∧ name ≠ ['.', '.']

theorem fileName?_eq_some_iff {path name : List Char} :
    fileName? path = some name ↔ HasFileName path name := by
  have skips (part : List Char) : (part == [] || part == ['.']) = true ↔ IsNoName part := by
    rw [Bool.or_eq_true, beq_iff_eq, beq_iff_eq, IsNoName]
  rw [HasFileName, ← split_eq_splitOn]
  constructor
  · intro h
    simp only [fileName?] at h
    split at h
    · cases h
    next last rest found =>
      split at h
      · cases h
      next not_above =>
        cases h
        obtain ⟨named, skipped, parts, all⟩ := Lists.dropWhile_eq_cons_iff.mp found
        refine ⟨mt (skips name).mpr (by simp only [named]; exact Bool.false_ne_true), not_above,
          rest.reverse, skipped.reverse, ?_,
          fun p hp => (skips p).mp (all p (List.mem_reverse.mp hp))⟩
        rw [List.reverse_eq_iff.mp parts]
        simp
  · rintro ⟨named, not_above, before, after, parts, all⟩
    have found : (split (· == '/') path).reverse.dropWhile (fun p => p == [] || p == ['.']) =
        name :: before.reverse :=
      Lists.dropWhile_eq_cons_iff.mpr ⟨Bool.eq_false_iff.mpr (mt (skips name).mp named),
        after.reverse, by rw [parts]; simp,
        fun p hp => (skips p).mpr (all p (List.mem_reverse.mp hp))⟩
    simp only [fileName?, found, if_neg not_above]

theorem HasFileName.fileName_eq {path name : List Char} (h : HasFileName path name) :
    fileName path = name := by
  rw [fileName, fileName?_eq_some_iff.mpr h, Option.getD_some]

theorem fileName_eq_self {path : List Char} (h : ∀ name, ¬ HasFileName path name) :
    fileName path = path := by
  have none_found : fileName? path = none :=
    Option.eq_none_iff_forall_ne_some.mpr fun name => mt fileName?_eq_some_iff.mp (h name)
  rw [fileName, none_found, Option.getD_none]

/-- A directory in front of a file name does not change it. -/
theorem fileName_in_directory {name : List Char} (h : IsFileName name) (directory : List Char) :
    fileName (directory ++ '/' :: name) = name ∧ fileName name = name := by
  obtain ⟨one_part, named, not_above⟩ := h
  have no_place : ∀ c ∈ name, (c == '/') = false := fun c hc =>
    beq_eq_false_iff_ne.mpr fun e => one_part (e ▸ hc)
  have last {path : List Char} {before : List (List Char)}
      (parts : split (· == '/') path = before ++ [name]) : fileName path = name :=
    HasFileName.fileName_eq ⟨named, not_above, before, [], by rw [← split_eq_splitOn, parts],
      fun _ h => absurd h List.not_mem_nil⟩
  exact ⟨last (split_append_cons rfl no_place directory),
    @last _ [] (split_of_no_place no_place)⟩

/-! ## Versions -/

/-- The major number decides, and the minor one where that is the same. -/
def Version.Le (v w : Version) : Prop :=
  v.major < w.major ∨ v.major = w.major ∧ v.minor ≤ w.minor

theorem Version.rank_le_rank_iff {v w : Version} : v.rank ≤ w.rank ↔ v.Le w := by
  have hv := v.minor.toNat_lt
  have hw := w.minor.toNat_lt
  rw [Le, UInt8.lt_iff_toNat_lt, ← UInt8.toNat_inj, UInt8.le_iff_toNat_le, rank, rank]
  omega

theorem VersionRange.contains_iff {r : VersionRange} {v : Version} :
    r.contains v = true ↔ r.low.Le v ∧ v.Le r.high := by
  rw [contains, Bool.and_eq_true, decide_eq_true_iff, decide_eq_true_iff,
    Version.rank_le_rank_iff, Version.rank_le_rank_iff]

/-! ## Blocks that accept a module -/

/-- If there are tokens, the lower case of one of them occurs in that of the text. -/
def Selects (tokens : List (List Char)) (text : List Char) : Prop :=
  tokens ≠ [] → ∃ t ∈ tokens, lower t <:+: lower text

structure Block.Accepts (b : Block) (id : Identity) : Prop where
  path : Selects (b.last Statement.paths?) (fileName id.path.toList)
  manufacturer : Selects (b.last Statement.manufacturers?) id.manufacturer.toList
  description : Selects (b.last Statement.descriptions?) id.description.toList
  version : b.last Statement.versions? ≠ [] →
    ∃ r ∈ b.last Statement.versions?, r.low.Le id.version ∧ id.version.Le r.high

/-- The maps of the pairs that the block gives in each space. -/
def Block.table (b : Block) : Table := ⟨.ofPairs (b.pairs .mechanism), .ofPairs (b.pairs .keyType)⟩

theorem Rule.meets_iff {tokens : List (List Char)} {text : List Char} :
    meets (tokens.map lower) text = true ↔ Selects tokens text := by
  rw [meets, Bool.or_eq_true, List.isEmpty_iff, List.map_eq_nil_iff, List.any_map, List.any_eq_true,
    Selects, ne_eq, imp_iff_not_or, not_not]
  simp only [Function.comp_apply, contains_iff]

theorem Rule.IsFor.accepts_iff {r : Rule} {b : Block} (h : r.IsFor b) {id : Identity} :
    r.accepts id = true ↔ b.Accepts id := by
  have version : (r.versions.isEmpty || r.versions.any (·.contains id.version)) = true ↔
      (b.last Statement.versions? ≠ [] →
        ∃ r ∈ b.last Statement.versions?, r.low.Le id.version ∧ id.version.Le r.high) := by
    rw [h.versions, Bool.or_eq_true, List.isEmpty_iff, List.any_eq_true, ne_eq, imp_iff_not_or,
      not_not]
    simp only [VersionRange.contains_iff]
  rw [accepts, Bool.and_eq_true, Bool.and_eq_true, Bool.and_eq_true, h.paths, h.manufacturers,
    h.descriptions, meets_iff, meets_iff, meets_iff, version]
  exact ⟨fun ⟨⟨⟨path, manufacturer⟩, description⟩, version⟩ =>
    ⟨path, manufacturer, description, version⟩, fun accepts =>
    ⟨⟨⟨accepts.path, accepts.manufacturer⟩, accepts.description⟩, accepts.version⟩⟩

theorem Rule.IsFor.table_eq {r : Rule} {b : Block} (h : r.IsFor b) : r.table = b.table := by
  have mechanisms : r.mechanisms = b.pairs .mechanism := h.pairs .mechanism
  have keyTypes : r.keyTypes = b.pairs .keyType := h.pairs .keyType
  rw [Rule.table, Block.table, mechanisms, keyTypes]

/-! ## The first block -/

/-- The block accepts the module and none before it does. -/
def IsFirst (id : Identity) (blocks : List Block) (b : Block) : Prop :=
  ∃ before after, blocks = before ++ b :: after ∧ b.Accepts id ∧ ∀ c ∈ before, ¬ c.Accepts id

theorem isFirst_cons_iff {id : Identity} {blocks : List Block} {b c : Block} :
    IsFirst id (c :: blocks) b ↔ c.Accepts id ∧ b = c ∨ ¬ c.Accepts id ∧ IsFirst id blocks b := by
  constructor
  · rintro ⟨before, after, split, accepts, others⟩
    cases before with
    | nil => cases split; exact .inl ⟨accepts, rfl⟩
    | cons d before =>
      cases split
      obtain ⟨other, others⟩ := List.forall_mem_cons.mp others
      exact .inr ⟨other, before, after, rfl, accepts, others⟩
  · rintro (⟨accepts, rfl⟩ | ⟨other, before, after, rfl, accepts, others⟩)
    · exact ⟨[], blocks, rfl, accepts, fun _ h => absurd h List.not_mem_nil⟩
    · exact ⟨c :: before, after, rfl, accepts, List.forall_mem_cons.mpr ⟨other, others⟩⟩

theorem Rules.select_cons (r : Rule) (rules : Rules) (id : Identity) :
    Rules.select (r :: rules) id = if r.accepts id then some r.table else rules.select id := by
  rw [Rules.select, List.find?_cons]
  cases r.accepts id <;> rfl

section

variable {rules : Rules} {blocks : List Block} {id : Identity}

theorem Rules.select_eq_some_iff (all : List.Forall₂ Rule.IsFor rules blocks) {table : Table} :
    rules.select id = some table ↔ ∃ b, IsFirst id blocks b ∧ table = b.table := by
  induction all with
  | nil =>
    refine ⟨fun h => (by cases h), ?_⟩
    rintro ⟨b, ⟨before, after, split, -⟩, -⟩
    cases before <;> cases split
  | @cons r b rules blocks isFor _ ih =>
    rw [select_cons, isFor.table_eq]
    simp only [isFirst_cons_iff]
    by_cases accepts : b.Accepts id
    · rw [if_pos (isFor.accepts_iff.mpr accepts), Option.some_inj, eq_comm]
      simp only [accepts, true_and, not_true, false_and, or_false, exists_eq_left]
    · rw [if_neg (mt isFor.accepts_iff.mp accepts), ih]
      simp only [accepts, false_and, not_false_eq_true, true_and, false_or]

theorem Rules.select_eq_none_iff (all : List.Forall₂ Rule.IsFor rules blocks) :
    rules.select id = none ↔ ∀ b ∈ blocks, ¬ b.Accepts id := by
  induction all with
  | nil => exact ⟨fun _ _ h => absurd h List.not_mem_nil, fun _ => rfl⟩
  | @cons r b rules blocks isFor _ ih =>
    rw [select_cons, List.forall_mem_cons]
    by_cases accepts : b.Accepts id
    · rw [if_pos (isFor.accepts_iff.mpr accepts)]
      exact ⟨fun h => (by cases h), fun h => absurd accepts h.1⟩
    · rw [if_neg (mt isFor.accepts_iff.mp accepts), ih]
      exact (and_iff_right accepts).symm

theorem Rules.select_eq_of_accepts_iff (all : List.Forall₂ Rule.IsFor rules blocks) {id' : Identity}
    (same : ∀ b : Block, b.Accepts id ↔ b.Accepts id') : rules.select id = rules.select id' := by
  induction all with
  | nil => rfl
  | @cons r b rules blocks isFor _ ih =>
    have both : r.accepts id = r.accepts id' :=
      Bool.eq_iff_iff.mpr (isFor.accepts_iff.trans ((same b).trans isFor.accepts_iff.symm))
    rw [select_cons, select_cons, both, ih]

end

/-- Each identity gets the table of the first block that accepts it, or none if no block does.
Of its path the file name counts, if it has one, and no directory in front. -/
theorem Rules.select_first {text : String} {rules : Rules} (parsed : parse text = .ok rules) :
    (∃ blocks, IsFile text blocks) ∧
    ∀ blocks, IsFile text blocks → ∀ id : Identity,
      (∀ table, rules.select id = some table ↔ ∃ b, IsFirst id blocks b ∧ table = b.table) ∧
      (rules.select id = none ↔ ∀ b ∈ blocks, ¬ b.Accepts id) ∧
      (∀ name, HasFileName id.path.toList name → fileName id.path.toList = name) ∧
      ((∀ name, ¬ HasFileName id.path.toList name) → fileName id.path.toList = id.path.toList) ∧
      ∀ directory file : String, IsFileName file.toList →
        (∀ b : Block, b.Accepts { id with path := directory ++ "/" ++ file } ↔
          b.Accepts { id with path := file }) ∧
        rules.select { id with path := directory ++ "/" ++ file } =
          rules.select { id with path := file } := by
  obtain ⟨blocks, file, -⟩ := parse_eq_ok_iff.mp parsed
  refine ⟨⟨blocks, file⟩, fun blocks file id => ?_⟩
  have all := isFor_of_parse parsed file
  refine ⟨fun table => select_eq_some_iff all, select_eq_none_iff all,
    fun _ => HasFileName.fileName_eq, fileName_eq_self, fun directory name named => ?_⟩
  have same : fileName (directory ++ "/" ++ name).toList = fileName name.toList := by
    obtain ⟨inside, alone⟩ := fileName_in_directory named directory.toList
    rw [alone, String.toList_append, String.toList_append, List.append_assoc]
    exact inside
  have accepts (b : Block) : b.Accepts { id with path := directory ++ "/" ++ name } ↔
      b.Accepts { id with path := name } := by
    constructor
    · intro h; exact ⟨same ▸ h.path, h.manufacturer, h.description, h.version⟩
    · intro h; exact ⟨same.symm ▸ h.path, h.manufacturer, h.description, h.version⟩
  exact ⟨accepts, select_eq_of_accepts_iff all accepts⟩

/-- The first of two blocks is for versions below the module's, and its line for manufacturers
has no token; the second names the file. -/
theorem Rules.select_first_of_two_blocks :
    let text := "<vendorcode>\nmodule.mid : :\nmodule.description Maker\n" ++
      "module.version 1.0 : 1.2-2.9\nCKM_VENDOR_SM2 0x1\n</vendorcode>\n" ++
      "<vendorcode>\nmodule.path Token:lib2\nmodule.version 2.10 - 3.0\nCKM_VENDOR_SM2 0x2\n" ++
      "</vendorcode>\n"
    let early : Rule := {
      descriptions := ["maker".toList]
      versions := [⟨⟨1, 0⟩, ⟨1, 0⟩⟩, ⟨⟨1, 2⟩, ⟨2, 9⟩⟩]
      mechanisms := [(0xFFFFF002, 1)] }
    let late : Rule := {
      paths := ["token".toList, "lib2".toList]
      versions := [⟨⟨2, 10⟩, ⟨3, 0⟩⟩]
      mechanisms := [(0xFFFFF002, 2)] }
    let id : Identity :=
      { path := "/opt/lib2/libTOKEN.so/.", description := "a maker", version := ⟨2, 10⟩ }
    parse text = .ok [early, late] ∧ select [early, late] id = some late.table ∧
      ∃ blocks b, IsFile text blocks ∧ IsFirst id blocks b ∧ late.table = b.table := by
  intro text early late id
  have parsed : parse text = .ok [early, late] := by decide +kernel
  have first : List.find? (·.accepts id) [early, late] = some late := by decide +kernel
  have selected : select [early, late] id = some late.table := by rw [select, first]; rfl
  obtain ⟨⟨blocks, file⟩, each⟩ := select_first parsed
  obtain ⟨b, isFirst, table⟩ := ((each blocks file id).1 late.table).mp selected
  exact ⟨parsed, selected, blocks, b, file, isFirst, table⟩

end TokenMarshal.Vendor

/-
  TokenMarshal.Proofs.Vendor.Select — the table of the block that a module selects.

  The rule that accepts a module is for a valid block, in which no code of a space repeats,
  so the maps that are made of its pairs have them all (`IsFor.space_table`). The table then
  says what the block says (`Table.Tells`): its entries are the block's pairs by ascending
  generic code, it translates each of them in both directions, and leaves every other code as
  it is. `select_tells` is that for every file and every module.
-/
import TokenMarshal.Proofs.Vendor.Rules

namespace TokenMarshal.Vendor

/-! ## Tables -/

/-- In the space the table has these pairs, translates them in both directions, and takes any
other code for itself. -/
structure Table.Tells (t : Table) (space : Space) (pairs : List (UInt64 × UInt64)) : Prop where
  entries_perm : (t.space space).entries.Perm pairs
  entries_sorted : (t.space space).entries.Pairwise fun a b => a.1 < b.1
  listed : ∀ generic vendor, (generic, vendor) ∈ pairs →
    t.translate .toVendor space generic = vendor ∧ t.translate .toGeneric space vendor = generic
  other_generic : ∀ code, code ∉ pairs.map (·.1) → t.translate .toVendor space code = code
  other_vendor : ∀ code, code ∉ pairs.map (·.2) → t.translate .toGeneric space code = code
  there_and_back : ∀ code,
    t.translate .toGeneric space (t.translate .toVendor space code) = code ↔
      code ∈ pairs.map (·.1) ∨ code ∉ pairs.map (·.2)
  back_and_there : ∀ code,
    t.translate .toVendor space (t.translate .toGeneric space code) = code ↔
      code ∈ pairs.map (·.2) ∨ code ∉ pairs.map (·.1)

theorem Table.tells_pairs (t : Table) (space : Space) : t.Tells space (t.space space).pairs where
  entries_perm := (t.space space).entries_perm
  entries_sorted := (t.space space).entries_sorted
  listed _ _ h := ⟨CodeMap.toVendor_of_mem h, CodeMap.toGeneric_of_mem h⟩
  other_generic _ h := CodeMap.toVendor_of_not_mem h
  other_vendor _ h := CodeMap.toGeneric_of_not_mem h
  there_and_back _ := CodeMap.toGeneric_toVendor_iff
  back_and_there _ := CodeMap.toVendor_toGeneric_iff

/-! ## The selected block -/

theorem Block.Distinct.generic_nodup {b : Block} (h : b.Distinct) (known : b.Known)
    (space : Space) : ((b.pairs space).map (·.1)).Nodup := by
  rw [Block.pairs_codes]
  refine List.Nodup.map_on ?_ (h.names.filter _)
  intro n hn m hm same
  obtain ⟨hn, here⟩ := List.mem_filter.mp hn
  obtain ⟨hm, there⟩ := List.mem_filter.mp hm
  simp only [decide_eq_true_eq] at here there
  exact Name.eq_of_code_eq n (known n hn) m (known m hm) (here.trans there.symm) same

/-- The maps are made of the pairs of their own space and leave none out. -/
theorem Rule.IsFor.space_table {r : Rule} {b : Block} (h : r.IsFor b) (known : b.Known)
    (distinct : b.Distinct) (space : Space) : (r.table.space space).pairs = b.pairs space := by
  have made : r.table.space space = .ofPairs (r.pairs space) := by cases space <;> rfl
  rw [made, h.pairs]
  exact CodeMap.pairs_ofPairs (distinct.generic_nodup known space) (distinct.values space)

theorem Rules.isFor_of_parse {text : String} {rules : Rules} {blocks : List Block}
    (parsed : parse text = .ok rules) (file : IsFile text blocks) :
    List.Forall₂ Rule.IsFor rules blocks := by
  obtain ⟨rules', isFor⟩ := file.exists_isFor
  obtain rfl : rules = rules' := by
    have := parse_eq_ok_iff.mpr ⟨blocks, file, isFor⟩
    rw [parsed] at this
    exact Except.ok.inj this
  exact isFor

theorem IsFile.valid_of_mem {text : String} {blocks : List Block} (h : IsFile text blocks)
    {b : Block} (hb : b ∈ blocks) : b.Valid ∧ b.Known := by
  obtain ⟨stretches, -, each⟩ := h
  clear text
  induction each with
  | nil => cases hb
  | cons block _ ih =>
    rcases List.mem_cons.mp hb with rfl | hb
    · obtain ⟨body, -, states, valid⟩ := block
      exact ⟨valid, Block.known_of_states states⟩
    · exact ih hb

/-- The table of a module is that of the block whose rule is the first to accept it. Each of
its maps is made of the pairs of its own space, and tells them all. -/
theorem Rules.select_tells {text : String} {rules : Rules} {id : Identity} {table : Table}
    (parsed : parse text = .ok rules) (selected : rules.select id = some table) :
    (∃ blocks, IsFile text blocks) ∧
    ∀ blocks, IsFile text blocks → ∃ block, blocks[rules.findIdx (·.accepts id)]? = some block ∧
      ∀ space, table.space space = .ofPairs (block.pairs space) ∧
        table.Tells space (block.pairs space) := by
  obtain ⟨blocks, file, -⟩ := parse_eq_ok_iff.mp parsed
  refine ⟨⟨blocks, file⟩, fun blocks file => ?_⟩
  obtain ⟨rule, first, rfl⟩ := Option.map_eq_some_iff.mp selected
  rw [List.find?_eq_getElem?_findIdx] at first
  obtain ⟨block, here, isFor⟩ := Lists.getElem?_of_forall₂ (isFor_of_parse parsed file) first
  obtain ⟨valid, known⟩ := file.valid_of_mem (List.mem_of_getElem? here)
  refine ⟨block, here, fun space => ⟨?_, ?_⟩⟩
  · rw [← isFor.pairs space]
    cases space <;> rfl
  · rw [← isFor.space_table known valid.toDistinct space]
    exact rule.table.tells_pairs space

/-- The second of two blocks, where a value is the generic code of another name, and the same
value stands in both spaces. -/
theorem Rules.select_tells_of_two_blocks :
    let text := "<vendorcode>\nmodule.mid Other\nCKM_VENDOR_SM2 0x1\n</vendorcode>\n" ++
      "# the token\n<vendorcode>\nmodule.path token\nCKM_VENDOR_SM3 0x80000105\n" ++
      "CKM_VENDOR_SM2 0xFFFFF003\nCKK_VENDOR_SM2 0xFFFFF003\n</vendorcode>\n"
    let other : Rule := { manufacturers := ["other".toList], mechanisms := [(0xFFFFF002, 1)] }
    let rule : Rule := {
      paths := ["token".toList]
      mechanisms := [(0xFFFFF005, 0x80000105), (0xFFFFF002, 0xFFFFF003)]
      keyTypes := [(0xFFFFF001, 0xFFFFF003)] }
    let id : Identity := { path := "/usr/lib/libToken.so", manufacturer := "Maker" }
    parse text = .ok [other, rule] ∧ select [other, rule] id = some rule.table ∧
      (∃ blocks, IsFile text blocks) ∧
      ∀ blocks, IsFile text blocks → ∃ block,
        blocks[List.findIdx (·.accepts id) [other, rule]]? = some block ∧
        ∀ space, rule.table.space space = .ofPairs (block.pairs space) ∧
          rule.table.Tells space (block.pairs space) := by
  intro text other rule id
  have parsed : parse text = .ok [other, rule] := by decide +kernel
  have first : List.find? (·.accepts id) [other, rule] = some rule := by decide +kernel
  have selected : select [other, rule] id = some rule.table := by rw [select, first]; rfl
  exact ⟨parsed, selected, select_tells parsed selected⟩

end TokenMarshal.Vendor

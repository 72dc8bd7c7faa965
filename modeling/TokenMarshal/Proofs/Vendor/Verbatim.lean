/-
  TokenMarshal.Proofs.Vendor.Verbatim — texts that hold a token as it is written.

  Token and text are put in lower case apart from each other. A token that has the same lower
  case wherever it stands, as each does that has no capital sigma, is found in every text that
  holds it (`meets_of_anchored`). Any other token is missed in some text that holds it, unless
  a token beside it is found there (`meets_verbatim_iff`). `finds_verbatim` is that for the
  selectors of every file; `misses_verbatim` is a name that is not found in a longer one.
-/
import TokenMarshal.Proofs.Text.Case
import TokenMarshal.Proofs.Vendor.Accept

namespace TokenMarshal.Vendor

open Text

theorem Rule.meets_of_anchored {tokens : List (List Char)} {m text : List Char}
    (listed : m ∈ tokens) (anchored : Anchored m) (here : m <:+: text) :
    meets (tokens.map lower) text = true :=
  meets_iff.mpr fun _ => ⟨m, listed, lower_infix_lower_iff.mpr anchored text here⟩

theorem Rule.meets_verbatim_iff {m : List Char} :
    (∀ text, m <:+: text → meets ([m].map lower) text = true) ↔ Anchored m := by
  have alone (text : List Char) : meets ([m].map lower) text = true ↔ lower m <:+: lower text := by
    rw [meets_iff, Selects]
    simp only [List.mem_singleton, exists_eq_left, ne_eq, List.cons_ne_nil, not_false_eq_true,
      true_implies]
  simp only [alone]
  exact lower_infix_lower_iff

/-- The selector accepts every text that holds one of the tokens that look the same wherever
they stand; if there is one token only, it accepts every text that holds it just in that case. -/
structure FindsVerbatim (selector tokens : List (List Char)) : Prop where
  anchored : ∀ m ∈ tokens, Anchored m → ∀ text, m <:+: text → Rule.meets selector text = true
  alone : ∀ m, tokens = [m] →
    ((∀ text, m <:+: text → Rule.meets selector text = true) ↔ Anchored m)

theorem findsVerbatim_map_lower (tokens : List (List Char)) :
    FindsVerbatim (tokens.map lower) tokens where
  anchored _ listed anchored _ here := Rule.meets_of_anchored listed anchored here
  alone _ only := by
    rw [only]
    exact Rule.meets_verbatim_iff

/-- So it is with both selectors by name, in each block of every file. -/
theorem Rules.finds_verbatim {text : String} {rules : Rules} (parsed : parse text = .ok rules) :
    (∃ blocks, IsFile text blocks) ∧
    (∀ blocks, IsFile text blocks → List.Forall₂ (fun (rule : Rule) (block : Block) =>
      FindsVerbatim rule.manufacturers (block.last Statement.manufacturers?) ∧
      FindsVerbatim rule.descriptions (block.last Statement.descriptions?)) rules blocks) ∧
    ∀ m, capitalSigma ∉ m → Anchored m := by
  obtain ⟨blocks, file, -⟩ := parse_eq_ok_iff.mp parsed
  refine ⟨⟨blocks, file⟩, fun blocks file => ?_, fun _ => anchored_of_no_sigma⟩
  refine (isFor_of_parse parsed file).imp fun rule block isFor => ?_
  rw [isFor.manufacturers, isFor.descriptions]
  exact ⟨findsVerbatim_map_lower _, findsVerbatim_map_lower _⟩

/-- The second of two tokens has a sigma, but inside a word. -/
theorem Rules.finds_verbatim_of_sigma_inside :
    let text := "<vendorcode>\nmodule.mid Other:ΒΑΣΗ\n</vendorcode>\n"
    let rule : Rule := { manufacturers := ["other".toList, "βαση".toList] }
    let block : Block := [.manufacturers ["Other".toList, "ΒΑΣΗ".toList]]
    parse text = .ok [rule] ∧ IsFile text [block] ∧
      "ΒΑΣΗ".toList <:+: "ΟΙ ΒΑΣΗΣ".toList ∧
      Rule.meets rule.manufacturers "ΟΙ ΒΑΣΗΣ".toList = true := by
  intro text rule block
  have parsed : parse text = .ok [rule] := by decide +kernel
  have line : "module.mid Other:ΒΑΣΗ".toList ∈ significant text.toList := by decide +kernel
  obtain ⟨counts, tight⟩ := mem_significant line
  have entry : IsEntry "module.mid Other:ΒΑΣΗ".toList "module.mid".toList "Other:ΒΑΣΗ".toList :=
    (ofTrimmed_eq_entry_iff counts tight).mp (by decide +kernel)
  have states : States "module.mid Other:ΒΑΣΗ".toList
      (.manufacturers ["Other".toList, "ΒΑΣΗ".toList]) := by
    have both : listed "Other:ΒΑΣΗ".toList = ["Other".toList, "ΒΑΣΗ".toList] := by decide +kernel
    exact ⟨_, _, entry, both ▸ .manufacturers _⟩
  have valid : block.Valid :=
    { names := List.nodup_nil, values := fun _ => List.nodup_nil
      selects := .inr (.inl (List.cons_ne_nil _ _)) }
  have file : IsFile text [block] :=
    ⟨[[blockStartMark.toList, "module.mid Other:ΒΑΣΗ".toList, blockEndMark.toList]],
      by decide +kernel, .cons ⟨[_], rfl, .cons states .nil, valid⟩ .nil⟩
  have here : "ΒΑΣΗ".toList <:+: "ΟΙ ΒΑΣΗΣ".toList := by decide +kernel
  obtain ⟨-, finds, -⟩ := finds_verbatim parsed
  obtain _ | ⟨⟨manufacturers, -⟩, _⟩ := finds [block] file
  have anchored : Anchored "ΒΑΣΗ".toList := by decide +kernel
  exact ⟨parsed, file, here, manufacturers.anchored _ (.tail _ (.head _)) anchored _ here⟩

/-- The token ends in a sigma, which is a final one by itself and no longer in a longer word. -/
theorem Rules.misses_verbatim :
    let text := "<vendorcode>\nmodule.mid ΑΣ\nCKM_VENDOR_SM2 0x1\n</vendorcode>\n"
    let rule : Rule := { manufacturers := ["ας".toList], mechanisms := [(0xFFFFF002, 1)] }
    let id : Identity := { manufacturer := "ΑΣΦΑΛΕΙΑ" }
    parse text = .ok [rule] ∧ "ΑΣ".toList <:+: id.manufacturer.toList ∧
      Rule.meets rule.manufacturers id.manufacturer.toList = false ∧ select [rule] id = none := by
  decide +kernel

end TokenMarshal.Vendor

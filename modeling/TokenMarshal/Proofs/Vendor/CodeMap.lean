/-
  TokenMarshal.Proofs.Vendor.CodeMap — a map of codes read in both directions.

  Each generic code and each vendor value stands in one pair at most, so a look-up on either
  side finds the pair (`toVendor_of_mem`, `toGeneric_of_mem`), and a code without a pair on
  that side stands for itself. Going to the vendor's codes and back changes nothing for a
  code that has a value, and for one that no pair has as its value, and nothing else comes
  back by itself (`toGeneric_toVendor_iff`): a code that is another one's value is lost. The
  way from the vendor's codes is the same (`toVendor_toGeneric_iff`). A map that is made of
  pairs among which no code of either side repeats has all of them (`pairs_ofPairs`).
-/
import Mathlib.Data.List.Induction
import TokenMarshal.Proofs.Lists
import TokenMarshal.Vendor.CodeMap

namespace TokenMarshal.Vendor.CodeMap

/-- Among elements with different keys, looking for a key finds its element. -/
theorem find?_of_mem {α : Type} {key : α → UInt64} {l : List α} (h : (l.map key).Nodup) {p : α}
    (hp : p ∈ l) : l.find? (fun q => key q == key p) = some p := by
  induction l with
  | nil => cases hp
  | cons q l ih =>
    rw [List.map_cons, List.nodup_cons] at h
    rcases List.mem_cons.mp hp with rfl | hp
    · rw [List.find?_cons_of_pos (by simp)]
    · have other : key q ≠ key p := fun e => h.1 (e ▸ List.mem_map_of_mem hp)
      rw [List.find?_cons_of_neg (by simpa using other)]
      exact ih h.2 hp

theorem find?_of_not_mem {α : Type} {key : α → UInt64} {l : List α} {code : UInt64}
    (h : code ∉ l.map key) : l.find? (fun q => key q == code) = none := by
  rw [List.find?_eq_none]
  intro q hq e
  exact h (List.mem_map.mpr ⟨q, hq, by simpa using e⟩)

variable {m : CodeMap} {code generic vendor : UInt64}

theorem toVendor_of_mem (h : (generic, vendor) ∈ m.pairs) : m.toVendor generic = vendor := by
  rw [toVendor, find?_of_mem m.generic_nodup h]
  rfl

theorem toGeneric_of_mem (h : (generic, vendor) ∈ m.pairs) : m.toGeneric vendor = generic := by
  rw [toGeneric, owner?, find?_of_mem m.vendor_nodup h]
  rfl

theorem toVendor_of_not_mem (h : code ∉ m.pairs.map (·.1)) : m.toVendor code = code := by
  rw [toVendor, find?_of_not_mem h]
  rfl

theorem toGeneric_of_not_mem (h : code ∉ m.pairs.map (·.2)) : m.toGeneric code = code := by
  rw [toGeneric, owner?, find?_of_not_mem h]
  rfl

/-- The code has a value, or it is no code's value. -/
def Reverts (m : CodeMap) (code : UInt64) : Prop :=
  code ∈ m.pairs.map (·.1) ∨ code ∉ m.pairs.map (·.2)

instance (m : CodeMap) : DecidablePred m.Reverts := fun _ => inferInstanceAs (Decidable (_ ∨ _))

theorem toGeneric_toVendor (h : m.Reverts code) : m.toGeneric (m.toVendor code) = code := by
  by_cases listed : code ∈ m.pairs.map (·.1)
  · obtain ⟨⟨generic, vendor⟩, hp, rfl⟩ := List.mem_map.mp listed
    rw [toVendor_of_mem hp, toGeneric_of_mem hp]
  · have free := h.resolve_left listed
    rw [toVendor_of_not_mem listed, toGeneric_of_not_mem free]

theorem toGeneric_toVendor_iff : m.toGeneric (m.toVendor code) = code ↔ m.Reverts code := by
  refine ⟨fun back => ?_, toGeneric_toVendor⟩
  by_contra lost
  obtain ⟨unlisted, taken⟩ := not_or.mp lost
  obtain ⟨⟨generic, vendor⟩, hp, rfl⟩ := List.mem_map.mp (not_not.mp taken)
  rw [toVendor_of_not_mem unlisted, toGeneric_of_mem hp] at back
  exact unlisted (back ▸ List.mem_map_of_mem hp)

theorem toVendor_toGeneric_iff : m.toVendor (m.toGeneric code) = code ↔
    code ∈ m.pairs.map (·.2) ∨ code ∉ m.pairs.map (·.1) := by
  by_cases taken : code ∈ m.pairs.map (·.2)
  · obtain ⟨⟨generic, vendor⟩, hp, rfl⟩ := List.mem_map.mp taken
    rw [toGeneric_of_mem hp, toVendor_of_mem hp]
    exact ⟨fun _ => .inl taken, fun _ => rfl⟩
  · rw [toGeneric_of_not_mem taken]
    constructor
    · intro same
      refine .inr fun listed => ?_
      obtain ⟨⟨generic, vendor⟩, hp, rfl⟩ := List.mem_map.mp listed
      rw [toVendor_of_mem hp] at same
      exact taken (same ▸ List.mem_map_of_mem hp)
    · exact fun h => toVendor_of_not_mem (h.resolve_left taken)

/-! ## Entries -/

theorem entries_perm (m : CodeMap) : m.entries.Perm m.pairs := List.mergeSort_perm _ _

theorem entries_sorted (m : CodeMap) : m.entries.Pairwise fun a b => a.1 < b.1 := by
  have generics : (m.entries.map (·.1)).Nodup :=
    (m.entries_perm.map (·.1)).nodup_iff.mpr m.generic_nodup
  have distinct : m.entries.Pairwise fun a b => a.1 ≠ b.1 := List.pairwise_map.mp generics
  have ordered : m.entries.Pairwise fun a b => decide (a.1 ≤ b.1) = true :=
    List.pairwise_mergeSort
      (fun a b c hab hbc => by
        simp only [decide_eq_true_eq] at hab hbc ⊢
        exact UInt64.le_trans hab hbc)
      (fun a b => by simpa using UInt64.le_total a.1 b.1) m.pairs
  exact ordered.imp₂ (fun a b le ne => UInt64.lt_of_le_of_ne (of_decide_eq_true le) ne) distinct

/-! ## Making a map -/

theorem owner?_eq_none_iff {pairs : List (UInt64 × UInt64)} :
    owner? pairs vendor = none ↔ vendor ∉ pairs.map (·.2) := by
  simp only [owner?, Option.map_eq_none_iff, List.find?_eq_none, beq_iff_eq, List.mem_map,
    not_exists, not_and]

theorem pairs_insert {p : UInt64 × UInt64} (fresh : p.1 ∉ m.pairs.map (·.1))
    (free : p.2 ∉ m.pairs.map (·.2)) : (m.insert p).pairs = m.pairs ++ [p] := by
  rw [insert, dif_pos ⟨fresh, free⟩]

theorem pairs_ofPairs {l : List (UInt64 × UInt64)} (generic : (l.map (·.1)).Nodup)
    (vendor : (l.map (·.2)).Nodup) : (ofPairs l).pairs = l := by
  induction l using List.reverseRecOn with
  | nil => rfl
  | append_singleton l p ih =>
    rw [List.map_append, List.map_singleton, Lists.nodup_concat_iff] at generic vendor
    have held := ih generic.1 vendor.1
    have last : ofPairs (l ++ [p]) = (ofPairs l).insert p := by
      rw [ofPairs, List.foldl_append]
      rfl
    rw [last, pairs_insert (by rw [held]; exact generic.2) (by rw [held]; exact vendor.2), held]

end TokenMarshal.Vendor.CodeMap

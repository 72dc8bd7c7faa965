/-
  TokenMarshal.Vendor.CodeMap — pairs of a generic code and a vendor's value for it.

  A map of one code space holds each generic code and each vendor value at most once, so it
  reads in both directions. A code that it does not hold stands for itself in either one. A
  map is made of pairs one after another, and passes over those that would repeat a code.
  That is what the package `bimap` documents of the map that the layer has from it.
-/
import TokenMarshal.Vendor.Name

namespace TokenMarshal.Vendor

structure CodeMap where
  pairs : List (UInt64 × UInt64)
  generic_nodup : (pairs.map (·.1)).Nodup
  vendor_nodup : (pairs.map (·.2)).Nodup

namespace CodeMap

def empty : CodeMap := ⟨[], List.nodup_nil, List.nodup_nil⟩

instance : Inhabited CodeMap := ⟨empty⟩

def owner? (pairs : List (UInt64 × UInt64)) (vendor : UInt64) : Option UInt64 :=
  (pairs.find? (·.2 == vendor)).map (·.1)

theorem nodup_concat {l : List UInt64} {a : UInt64} (hl : l.Nodup) (ha : a ∉ l) :
    (l ++ [a]).Nodup := by
  rw [List.nodup_append]
  refine ⟨hl, by simp, ?_⟩
  intro b hb c hc e
  simp only [List.mem_singleton] at hc
  exact ha (by rw [← hc, ← e]; exact hb)

/-- A pair joins the map at its end; one with a code that is there already does not. -/
def insert (m : CodeMap) (p : UInt64 × UInt64) : CodeMap :=
  if h : p.1 ∉ m.pairs.map (·.1) ∧ p.2 ∉ m.pairs.map (·.2) then {
    pairs := m.pairs ++ [p]
    generic_nodup := by rw [List.map_append]; exact nodup_concat m.generic_nodup h.1
    vendor_nodup := by rw [List.map_append]; exact nodup_concat m.vendor_nodup h.2 }
  else m

def ofPairs (pairs : List (UInt64 × UInt64)) : CodeMap := pairs.foldl insert empty

def toVendor (m : CodeMap) (code : UInt64) : UInt64 :=
  ((m.pairs.find? (·.1 == code)).map (·.2)).getD code

def toGeneric (m : CodeMap) (code : UInt64) : UInt64 := (owner? m.pairs code).getD code

def isEmpty (m : CodeMap) : Bool := m.pairs.isEmpty

/-- The pairs by ascending generic code. -/
def entries (m : CodeMap) : List (UInt64 × UInt64) :=
  m.pairs.mergeSort fun a b => decide (a.1 ≤ b.1)

end CodeMap

inductive Direction where
  | toGeneric
  | toVendor
  deriving DecidableEq, Repr

/-- The maps of both code spaces. -/
structure Table where
  mechanisms : CodeMap
  keyTypes : CodeMap

namespace Table

def empty : Table := ⟨.empty, .empty⟩

def space (t : Table) : Space → CodeMap
  | .mechanism => t.mechanisms
  | .keyType => t.keyTypes

def translate (t : Table) (dir : Direction) (space : Space) (code : UInt64) : UInt64 :=
  match dir with
  | .toGeneric => (t.space space).toGeneric code
  | .toVendor => (t.space space).toVendor code

def isEmpty (t : Table) : Bool := t.mechanisms.isEmpty && t.keyTypes.isEmpty

end Table

end TokenMarshal.Vendor

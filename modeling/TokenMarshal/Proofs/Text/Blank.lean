/-
  TokenMarshal.Proofs.Text.Blank — what trimming and cutting leave of a text.

  A trimmed text is the one stretch that has no white space at its ends and nothing but
  white space around it (`trim_eq_iff`). Cutting a text gives the two sides of the first
  place (`cut?_eq_some_iff`), or nothing when there is no place at all. `split` is the
  splitting of lists into what stands between the places (`split_eq_splitOn`); what follows
  the last place is its last piece (`split_append_cons`). To search for a text is to ask
  whether it is a contiguous stretch of the other (`contains_iff`).
-/
import Mathlib.Data.List.TakeWhile
import TokenMarshal.Text.Blank

namespace TokenMarshal.Text

/-- White space and nothing else. -/
def IsGap (s : List Char) : Prop := ∀ c ∈ s, isBlank c = true

/-- No white space at either end. -/
def IsTight (s : List Char) : Prop :=
  (∀ c ∈ s.head?, isBlank c = false) ∧ ∀ c ∈ s.getLast?, isBlank c = false

theorem isGap_nil : IsGap [] := fun _ h => (by cases h)

theorem IsGap.reverse {s : List Char} (h : IsGap s) : IsGap s.reverse :=
  fun c hc => h c (List.mem_reverse.mp hc)

/-- White space at the end of such a text is none at all. -/
theorem IsTight.gap_eq_nil {s gap : List Char} (h : IsTight (s ++ gap)) (hg : IsGap gap) :
    gap = [] := by
  cases last : gap.getLast? with
  | none => exact List.getLast?_eq_none_iff.mp last
  | some c =>
    have blank := hg c (List.mem_of_getLast? last)
    rw [h.2 c (by rw [List.getLast?_append, last]; rfl)] at blank
    cases blank

/-! ## Trimming -/

theorem dropWhile_gap_append {gap : List Char} (h : IsGap gap) (s : List Char) :
    (gap ++ s).dropWhile isBlank = s.dropWhile isBlank := by
  induction gap with
  | nil => rfl
  | cons c gap ih =>
    rw [List.cons_append, List.dropWhile_cons_of_pos (h c List.mem_cons_self)]
    exact ih fun d hd => h d (List.mem_cons_of_mem c hd)

theorem dropWhile_of_head {s : List Char} (h : ∀ c ∈ s.head?, isBlank c = false) :
    s.dropWhile isBlank = s := by
  cases s with
  | nil => rfl
  | cons c s => rw [List.dropWhile_cons_of_neg (by rw [h c rfl]; exact Bool.false_ne_true)]

theorem isGap_takeWhile (s : List Char) : IsGap (s.takeWhile isBlank) :=
  fun _ hc => List.mem_takeWhile_imp hc

theorem head?_dropWhile (s : List Char) : ∀ c ∈ (s.dropWhile isBlank).head?, isBlank c = false := by
  intro c hc
  have := List.head?_dropWhile_not isBlank s
  rw [Option.mem_def.mp hc] at this
  simpa using this

/-- What is before the last character that is no white space. -/
theorem trimEnd_append_gap (s : List Char) : ∃ after, IsGap after ∧ s = trimEnd s ++ after := by
  refine ⟨(s.reverse.takeWhile isBlank).reverse, (isGap_takeWhile _).reverse, ?_⟩
  rw [trimEnd, ← List.reverse_append, List.takeWhile_append_dropWhile, List.reverse_reverse]

theorem trimEnd_tight {s gap : List Char} (hs : IsTight s) (hg : IsGap gap) :
    trimEnd (s ++ gap) = s := by
  have last : ∀ c ∈ s.reverse.head?, isBlank c = false := by
    rw [List.head?_reverse]
    exact hs.2
  rw [trimEnd, List.reverse_append, dropWhile_gap_append hg.reverse, dropWhile_of_head last,
    List.reverse_reverse]

theorem isTight_trim (s : List Char) : IsTight (trim s) := by
  have last : ∀ c ∈ (trim s).getLast?, isBlank c = false := by
    rw [trim, trimEnd, List.getLast?_reverse]
    exact head?_dropWhile _
  refine ⟨?_, last⟩
  -- The end that is cut off is not the first character, unless nothing is left.
  obtain ⟨after, -, whole⟩ := trimEnd_append_gap (trimStart s)
  intro c hc
  apply head?_dropWhile s c
  show c ∈ (trimStart s).head?
  rw [whole, List.head?_append, Option.mem_def.mp (show c ∈ (trimEnd (trimStart s)).head? from hc)]
  rfl

theorem trim_eq_iff {s core : List Char} :
    trim s = core ↔
      IsTight core ∧ ∃ before after, IsGap before ∧ IsGap after ∧ s = before ++ core ++ after := by
  constructor
  · rintro rfl
    obtain ⟨after, gap, whole⟩ := trimEnd_append_gap (trimStart s)
    refine ⟨isTight_trim s, s.takeWhile isBlank, after, isGap_takeWhile s, gap, ?_⟩
    rw [List.append_assoc, trim, ← whole, trimStart, List.takeWhile_append_dropWhile]
  · rintro ⟨tight, before, after, hb, ha, rfl⟩
    rw [List.append_assoc, trim, trimStart, dropWhile_gap_append hb]
    cases core with
    | nil =>
      rw [List.nil_append, List.dropWhile_eq_nil_iff.mpr ha]
      rfl
    | cons c core =>
      rw [dropWhile_of_head (by simpa using tight.1 c rfl)]
      exact trimEnd_tight tight ha

theorem trim_append_gap {gap : List Char} (blank : IsGap gap) (s : List Char) :
    trim (s ++ gap) = trim s := by
  obtain ⟨tight, before, after, before_blank, after_blank, whole⟩ :=
    trim_eq_iff.mp (rfl : trim s = trim s)
  have blank_end : IsGap (after ++ gap) := fun c hc =>
    (List.mem_append.mp hc).elim (after_blank c) (blank c)
  refine trim_eq_iff.mpr ⟨tight, before, after ++ gap, before_blank, blank_end, ?_⟩
  rw [← List.append_assoc, ← whole]

/-! ## Cutting -/

theorem cut?_eq_none_iff {p : Char → Bool} {s : List Char} :
    cut? p s = none ↔ ∀ c ∈ s, p c = false := by
  induction s with
  | nil => exact ⟨fun _ c hc => (by cases hc), fun _ => rfl⟩
  | cons c s ih =>
    rw [cut?, List.forall_mem_cons]
    by_cases hc : p c = true
    · rw [if_pos hc]
      exact ⟨fun h => (by cases h), fun h => by rw [hc] at h; cases h.1⟩
    · rw [if_neg hc, Option.map_eq_none_iff, ih]
      exact ⟨fun h => ⟨by simpa using hc, h⟩, fun h => h.2⟩

theorem cut?_eq_some_iff {p : Char → Bool} {s a b : List Char} :
    cut? p s = some (a, b) ↔ ∃ c, s = a ++ c :: b ∧ p c = true ∧ ∀ x ∈ a, p x = false := by
  induction s generalizing a with
  | nil =>
    refine ⟨fun h => (by cases h), ?_⟩
    rintro ⟨c, h, -⟩
    cases a <;> cases h
  | cons x s ih =>
    rw [cut?]
    by_cases hx : p x = true
    · rw [if_pos hx]
      constructor
      · intro h
        cases h
        exact ⟨x, rfl, hx, fun _ hy => (by cases hy)⟩
      · rintro ⟨c, h, -, other⟩
        cases a with
        | nil => cases h; rfl
        | cons y a =>
          cases h
          have := other _ List.mem_cons_self
          rw [hx] at this
          cases this
    · rw [if_neg hx]
      constructor
      · intro h
        obtain ⟨⟨a', b'⟩, hr, e⟩ := Option.map_eq_some_iff.mp h
        cases e
        obtain ⟨c, rfl, hc, other⟩ := ih.mp hr
        refine ⟨c, rfl, hc, List.forall_mem_cons.mpr ⟨by simpa using hx, other⟩⟩
      · rintro ⟨c, h, hc, other⟩
        cases a with
        | nil => cases h; exact absurd hc hx
        | cons y a =>
          cases h
          rw [ih.mpr ⟨c, rfl, hc, fun z hz => other z (List.mem_cons_of_mem _ hz)⟩]
          rfl

theorem split_eq_splitOnP (p : Char → Bool) (s : List Char) : split p s = s.splitOnP p := by
  induction s with
  | nil => rfl
  | cons c s ih =>
    rw [split, List.splitOnP_cons_eq_if_modifyHead, ih]
    split
    · rfl
    · obtain ⟨w, ws, pieces⟩ := List.exists_cons_of_ne_nil (List.splitOnP_ne_nil p s)
      rw [pieces]
      rfl

theorem split_eq_splitOn (c : Char) (s : List Char) : split (· == c) s = s.splitOn c :=
  split_eq_splitOnP _ s

theorem split_of_no_place {p : Char → Bool} {s : List Char} (h : ∀ c ∈ s, p c = false) :
    split p s = [s] := by
  induction s with
  | nil => rfl
  | cons c s ih =>
    obtain ⟨hc, hs⟩ := List.forall_mem_cons.mp h
    rw [split, if_neg (by rw [hc]; exact Bool.false_ne_true), ih hs]

theorem split_append_cons {p : Char → Bool} {place : Char} (here : p place = true)
    {last : List Char} (h : ∀ c ∈ last, p c = false) (s : List Char) :
    split p (s ++ place :: last) = split p s ++ [last] := by
  induction s with
  | nil => simp only [List.nil_append, split, here, if_true, split_of_no_place h, List.singleton_append]
  | cons c s ih =>
    obtain ⟨w, ws, pieces⟩ : ∃ w ws, split p s = w :: ws :=
      List.exists_cons_of_ne_nil (by rw [split_eq_splitOnP]; exact List.splitOnP_ne_nil p s)
    simp only [List.cons_append, split, ih, pieces]
    split <;> rfl

/-! ## Searching -/

theorem contains_iff {w s : List Char} : contains w s = true ↔ w <:+: s := by
  induction s with
  | nil => rw [contains, List.isEmpty_iff, List.infix_nil]
  | cons c s ih => rw [contains, Bool.or_eq_true, ih, List.isPrefixOf_iff_prefix, List.infix_cons_iff]

end TokenMarshal.Text

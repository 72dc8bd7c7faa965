/-
  TokenMarshal.Proofs.Text.Case — the lower case of a stretch of a text.

  Of all characters only capital sigmas look around. `lowerBetween` is the lower case that a
  stretch has where it stands, and that of a text is put together from its stretches
  (`lower_append_append`). The form of a sigma is settled by the stretch it is in
  (`Settled`), or some single letter in front of the stretch or behind it changes it
  (`sigmaBetween_ne_of_not_settled`). So the lower case of a stretch occurs in that of every
  text around it just when all its sigmas are settled (`lower_infix_lower_iff`).
-/
import TokenMarshal.Proofs.Lists
import TokenMarshal.Text.Case

namespace TokenMarshal.Text

/-! ## Looking past characters -/

/-- Some character is not one that case ignores: looking does not go beyond this text. -/
def Decides (s : List Char) : Prop := ∃ c ∈ s, isCaseIgnorable c = false

-- Not by the instance for finite types, which would go through all characters.
instance : DecidablePred Decides := fun s => List.decidableBEx _ s

theorem meetsCased_append_of_decides {s : List Char} (h : Decides s) (t : List Char) :
    meetsCased (s ++ t) = meetsCased s := by
  induction s with
  | nil => obtain ⟨c, hc, -⟩ := h; cases hc
  | cons c s ih =>
    rw [meetsCased, meetsCased, List.cons_append]
    by_cases ignored : isCaseIgnorable c = true
    · have rest : Decides s := by
        obtain ⟨d, hd, kept⟩ := h
        rcases List.mem_cons.mp hd with rfl | hd
        · rw [ignored] at kept; cases kept
        · exact ⟨d, hd, kept⟩
      rw [List.dropWhile_cons_of_pos ignored, List.dropWhile_cons_of_pos ignored]
      exact ih rest
    · rw [List.dropWhile_cons_of_neg ignored, List.dropWhile_cons_of_neg ignored]

theorem meetsCased_append_of_not_decides {s : List Char} (h : ¬ Decides s) (t : List Char) :
    meetsCased (s ++ t) = meetsCased t := by
  have ignored : ∀ c ∈ s, isCaseIgnorable c = true := fun c hc =>
    Bool.of_not_eq_false fun kept => h ⟨c, hc, kept⟩
  rw [meetsCased, meetsCased, List.dropWhile_append_of_pos ignored]

theorem meetsCased_of_not_decides {s : List Char} (h : ¬ Decides s) : meetsCased s = false := by
  rw [← List.append_nil s, meetsCased_append_of_not_decides h]
  rfl

theorem decides_reverse_iff {s : List Char} : Decides s.reverse ↔ Decides s := by
  simp only [Decides, List.mem_reverse]

/-! ## A capital sigma -/

/-- The form it takes; `before` is the text in front of it, the nearest character first. -/
def sigmaBetween (before after : List Char) : Char :=
  if meetsCased before && !meetsCased after then finalSigma else smallSigma

/-- What is around the two texts makes no difference for a capital sigma between them. -/
def Settled (front back : List Char) : Prop :=
  meetsCased back = true ∨ Decides front ∧ (meetsCased front.reverse = false ∨ Decides back)

instance (front back : List Char) : Decidable (Settled front back) :=
  inferInstanceAs (Decidable (_ ∨ _ ∧ (_ ∨ _)))

section

variable {front back : List Char}

theorem Settled.sigmaBetween_eq (h : Settled front back) (before after : List Char) :
    sigmaBetween (front.reverse ++ before) (back ++ after) = sigmaBetween front.reverse back := by
  rcases h with cased | ⟨decides, apart | both⟩
  · have decides : Decides back := by
      by_contra ignored
      rw [meetsCased_of_not_decides ignored] at cased
      cases cased
    simp only [sigmaBetween, meetsCased_append_of_decides decides, cased, Bool.not_true,
      Bool.and_false]
  · simp only [sigmaBetween, meetsCased_append_of_decides (decides_reverse_iff.mpr decides), apart,
      Bool.false_and]
  · simp only [sigmaBetween, meetsCased_append_of_decides (decides_reverse_iff.mpr decides),
      meetsCased_append_of_decides both]

/-- There is a side on which every cased letter changes the form. -/
theorem sigmaBetween_ne_of_not_settled (h : ¬ Settled front back) :
    (∀ x, meetsCased [x] = true →
      sigmaBetween (front.reverse ++ [x]) back ≠ sigmaBetween front.reverse back) ∨
    ∀ x, meetsCased [x] = true →
      sigmaBetween front.reverse (back ++ [x]) ≠ sigmaBetween front.reverse back := by
  have differ : finalSigma ≠ smallSigma := by decide
  obtain ⟨last, open_side⟩ := not_or.mp h
  rw [Bool.not_eq_true] at last
  by_cases decides : Decides front
  · obtain ⟨meets, ignored⟩ := not_or.mp (not_and.mp open_side decides)
    rw [Bool.not_eq_false] at meets
    right
    intro x cased
    simpa [sigmaBetween, meetsCased_append_of_not_decides ignored, meets, last, cased] using
      differ.symm
  · have ignored := mt decides_reverse_iff.mp decides
    left
    intro x cased
    simpa [sigmaBetween, meetsCased_append_of_not_decides ignored,
      meetsCased_of_not_decides ignored, last, cased] using differ

end

/-! ## A stretch where it stands -/

/-- Lower-cases `s` between the texts; `before` is given from its end. -/
def lowerBetween (before after : List Char) : List Char → List Char
  | [] => []
  | c :: r =>
    (if c = capitalSigma then [sigmaBetween before (r ++ after)] else lowerChar c) ++
      lowerBetween (c :: before) after r

theorem lowerAfter_eq_lowerBetween (before s : List Char) :
    lowerAfter before s = lowerBetween before [] s := by
  induction s generalizing before with
  | nil => rfl
  | cons c s ih => rw [lowerAfter, lowerBetween, ih, List.append_nil, sigmaBetween]

theorem lower_eq_lowerBetween (s : List Char) : lower s = lowerBetween [] [] s :=
  lowerAfter_eq_lowerBetween [] s

theorem lowerBetween_append (before after s t : List Char) :
    lowerBetween before after (s ++ t) =
      lowerBetween before (t ++ after) s ++ lowerBetween (s.reverse ++ before) after t := by
  induction s generalizing before with
  | nil => rfl
  | cons c s ih =>
    simp only [List.cons_append, lowerBetween, ih, List.append_assoc, List.reverse_cons,
      List.nil_append]

theorem lower_append_append (a s b : List Char) :
    lower (a ++ s ++ b) =
      lowerBetween [] (s ++ b) a ++ lowerBetween a.reverse b s ++
        lowerBetween (a ++ s).reverse [] b := by
  rw [lower_eq_lowerBetween, lowerBetween_append, lowerBetween_append]
  simp only [List.append_nil]

/-- The length does not depend on the place. -/
theorem length_lowerBetween (before after s : List Char) :
    (lowerBetween before after s).length = (lower s).length := by
  rw [lower_eq_lowerBetween]
  suffices ∀ before' after', (lowerBetween before after s).length =
      (lowerBetween before' after' s).length from this [] []
  induction s generalizing before with
  | nil => exact fun _ _ => rfl
  | cons c s ih =>
    intro before' after'
    rw [lowerBetween, lowerBetween, List.length_append, List.length_append,
      ih (c :: before) (c :: before') after']
    split <;> rfl

theorem sigmaBetween_eq_of_lowerBetween_eq {before after before' after' front back : List Char}
    (h : lowerBetween before after (front ++ capitalSigma :: back) =
      lowerBetween before' after' (front ++ capitalSigma :: back)) :
    sigmaBetween (front.reverse ++ before) (back ++ after) =
      sigmaBetween (front.reverse ++ before') (back ++ after') := by
  rw [lowerBetween_append, lowerBetween_append] at h
  obtain ⟨-, rest⟩ := List.append_inj h (by rw [length_lowerBetween, length_lowerBetween])
  rw [lowerBetween, lowerBetween, if_pos rfl, if_pos rfl] at rest
  exact (List.cons.inj rest).1

/-! ## Stretches that look the same everywhere -/

/-- Each capital sigma of the text is settled by what else is in it. -/
def Anchored (m : List Char) : Prop :=
  ∀ front back, m = front ++ capitalSigma :: back → Settled front back

theorem anchored_iff_getElem? {m : List Char} :
    Anchored m ↔ ∀ i < m.length, m[i]? = some capitalSigma → Settled (m.take i) (m.drop (i + 1)) := by
  constructor
  · intro h i inside sigma
    refine h _ _ ?_
    rw [List.getElem?_eq_getElem inside, Option.some_inj] at sigma
    rw [← sigma, ← List.drop_eq_getElem_cons inside, List.take_append_drop]
  · rintro h front back rfl
    simpa using h front.length (by simp) (by simp)

instance : DecidablePred Anchored := fun _ => decidable_of_iff _ anchored_iff_getElem?.symm

theorem anchored_of_no_sigma {m : List Char} (h : capitalSigma ∉ m) : Anchored m := by
  rintro front back rfl
  exact absurd (List.mem_append_right front List.mem_cons_self) h

theorem Anchored.lowerBetween_eq {m : List Char} (h : Anchored m) (before after : List Char) :
    lowerBetween before after m = lower m := by
  rw [lower_eq_lowerBetween]
  suffices each : ∀ front s, m = front ++ s →
      lowerBetween (front.reverse ++ before) after s = lowerBetween front.reverse [] s from
    each [] m rfl
  intro front s
  induction s generalizing front with
  | nil => exact fun _ => rfl
  | cons c s ih =>
    intro whole
    have rest := ih (front ++ [c]) (by rw [whole, List.append_assoc, List.singleton_append])
    rw [List.reverse_concat] at rest
    rw [lowerBetween, lowerBetween, List.append_nil, ← List.cons_append, rest]
    split
    next sigma =>
      subst sigma
      rw [(h front s whole).sigmaBetween_eq]
    next => rfl

/-- A cased letter that is its own lower case, other than a given character. -/
theorem exists_other_letter (taken : Option Char) :
    ∃ x, taken ≠ some x ∧ meetsCased [x] = true ∧
      ∀ before after, lowerBetween before after [x] = [x] := by
  have own {x : Char} (other : x ≠ capitalSigma) (low : lowerChar x = [x]) (before after) :
      lowerBetween before after [x] = [x] := by
    rw [lowerBetween, if_neg other, low]
    rfl
  by_cases h : taken = some 'a'
  · exact ⟨'b', by rw [h]; decide, by decide +kernel, own (by decide) (by decide +kernel)⟩
  · exact ⟨'a', h, by decide +kernel, own (by decide) (by decide +kernel)⟩

/-- A letter that is no start of the lower case can be no part of an occurrence of it. -/
theorem exists_letter_in_front (m : List Char) : ∃ x, meetsCased [x] = true ∧
    (lower m <:+: lower (x :: m) → lower m = lowerBetween [x] [] m) := by
  obtain ⟨x, other, cased, own⟩ := exists_other_letter (lower m).head?
  have whole : lower (x :: m) = x :: lowerBetween [x] [] m := by
    rw [← List.singleton_append, lower_eq_lowerBetween, lowerBetween_append, own]
    rfl
  refine ⟨x, cased, fun occurs => ?_⟩
  rw [whole] at occurs
  exact (Lists.eq_or_head?_of_infix_cons occurs (length_lowerBetween _ _ _).symm).resolve_right other

theorem exists_letter_behind (m : List Char) : ∃ x, meetsCased [x] = true ∧
    (lower m <:+: lower (m ++ [x]) → lower m = lowerBetween [] [x] m) := by
  obtain ⟨x, other, cased, own⟩ := exists_other_letter (lower m).getLast?
  have whole : lower (m ++ [x]) = lowerBetween [] [x] m ++ [x] := by
    rw [lower_eq_lowerBetween, lowerBetween_append, own]
    rfl
  refine ⟨x, cased, fun occurs => ?_⟩
  rw [whole] at occurs
  exact (Lists.eq_or_getLast?_of_infix_concat occurs
    (length_lowerBetween _ _ _).symm).resolve_right other

theorem lower_infix_lower_iff {m : List Char} :
    (∀ s, m <:+: s → lower m <:+: lower s) ↔ Anchored m := by
  constructor
  · rintro h front back rfl
    by_contra open_sigma
    rcases sigmaBetween_ne_of_not_settled open_sigma with in_front | behind
    · obtain ⟨x, cased, same⟩ := exists_letter_in_front (front ++ capitalSigma :: back)
      have form := same (h _ (List.suffix_cons x _).isInfix)
      rw [lower_eq_lowerBetween] at form
      exact in_front x cased (by simpa using (sigmaBetween_eq_of_lowerBetween_eq form).symm)
    · obtain ⟨x, cased, same⟩ := exists_letter_behind (front ++ capitalSigma :: back)
      have form := same (h _ (List.prefix_append _ [x]).isInfix)
      rw [lower_eq_lowerBetween] at form
      exact behind x cased (by simpa using (sigmaBetween_eq_of_lowerBetween_eq form).symm)
  · rintro anchored s ⟨a, b, rfl⟩
    rw [lower_append_append, anchored.lowerBetween_eq]
    exact List.infix_append _ _ _

/-- A sigma inside a word stays one; at its end it is not final if the word goes on. -/
example : Anchored "ΒΑΣΗ".toList ∧ ¬ Anchored "ΑΣ".toList := by decide +kernel

end TokenMarshal.Text

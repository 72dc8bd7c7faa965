/-
  TokenMarshal.Proofs.Lists — lists that grow at the end or lose their start, and lists side
  by side.
-/
import Mathlib.Data.List.Dedup
import Mathlib.Data.List.Forall2
import Mathlib.Data.List.Nodup
import Mathlib.Data.List.TakeWhile

namespace TokenMarshal.Lists

variable {α β : Type}

theorem nodup_concat_iff {l : List α} {a : α} : (l ++ [a]).Nodup ↔ l.Nodup ∧ a ∉ l := by
  rw [← List.concat_eq_append, List.nodup_concat, and_comm]

theorem dedup_concat [DecidableEq α] (l : List α) (a : α) :
    (l ++ [a]).dedup = l.dedup.filter (· != a) ++ [a] := by
  induction l with
  | nil => rfl
  | cons b l ih =>
    rw [List.cons_append]
    by_cases again : b ∈ l
    · rw [List.dedup_cons_of_mem (List.mem_append_left _ again), List.dedup_cons_of_mem again, ih]
    · by_cases last : b = a
      · subst last
        rw [List.dedup_cons_of_mem (by simp), ih, List.dedup_cons_of_notMem again,
          List.filter_cons_of_neg (by simp)]
      · rw [List.dedup_cons_of_notMem (by simp [again, last]), ih, List.dedup_cons_of_notMem again,
          List.filter_cons_of_pos (by simpa using last), List.cons_append]

theorem dropWhile_eq_cons_iff {p : α → Bool} {l rest : List α} {a : α} :
    l.dropWhile p = a :: rest ↔
      p a = false ∧ ∃ skipped, l = skipped ++ a :: rest ∧ ∀ x ∈ skipped, p x = true := by
  constructor
  · intro h
    have kept := List.head?_dropWhile_not p l
    rw [h] at kept
    exact ⟨kept, l.takeWhile p, by rw [← h, List.takeWhile_append_dropWhile],
      fun _ => List.mem_takeWhile_imp⟩
  · rintro ⟨kept, skipped, rfl, all⟩
    rw [List.dropWhile_append_of_pos all,
      List.dropWhile_cons_of_neg (by rw [kept]; exact Bool.false_ne_true)]

/-- A stretch of a list that is one longer leaves out its first entry or starts with it. -/
theorem eq_or_head?_of_infix_cons {l t : List α} {a : α} (h : l <:+: a :: t)
    (same : l.length = t.length) : l = t ∨ l.head? = some a := by
  rcases List.infix_cons_iff.mp h with start | inside
  · rcases List.prefix_cons_iff.mp start with rfl | ⟨r, rfl, -⟩
    · exact .inl (List.length_eq_zero_iff.mp same.symm).symm
    · exact .inr rfl
  · exact .inl (inside.eq_of_length same)

theorem eq_or_getLast?_of_infix_concat {l t : List α} {a : α} (h : l <:+: t ++ [a])
    (same : l.length = t.length) : l = t ∨ l.getLast? = some a := by
  rw [← List.reverse_infix, List.reverse_concat] at h
  rw [← List.reverse_inj, ← List.head?_reverse]
  exact eq_or_head?_of_infix_cons h (by rw [List.length_reverse, List.length_reverse, same])

theorem forall₂_concat_iff {R : α → β → Prop} {l : List α} {a : α} {l' : List β} :
    List.Forall₂ R (l ++ [a]) l' ↔ ∃ t b, l' = t ++ [b] ∧ List.Forall₂ R l t ∧ R a b := by
  constructor
  · intro h
    rw [← List.forall₂_reverse_iff, List.reverse_concat, List.forall₂_cons_left_iff] at h
    obtain ⟨b, t, hab, ht, e⟩ := h
    refine ⟨t.reverse, b, ?_, ?_, hab⟩
    · rw [← List.reverse_cons, ← e, List.reverse_reverse]
    · rwa [← List.forall₂_reverse_iff, List.reverse_reverse]
  · rintro ⟨t, b, rfl, h, hab⟩
    exact List.rel_append h (.cons hab .nil)

theorem getElem?_of_forall₂ {R : α → β → Prop} {l : List α} {l' : List β}
    (h : List.Forall₂ R l l') {i : Nat} {a : α} (ha : l[i]? = some a) :
    ∃ b, l'[i]? = some b ∧ R a b := by
  induction h generalizing i with
  | nil => cases ha
  | cons hr _ ih =>
    cases i with
    | zero => cases ha; exact ⟨_, rfl, hr⟩
    | succ i => exact ih ha

theorem forall₂_trans {γ : Type} {R : α → β → Prop} {S : β → γ → Prop} {T : α → γ → Prop} {l : List α}
    {l' : List β} {l'' : List γ} (h : List.Forall₂ R l l') (h' : List.Forall₂ S l' l'')
    (both : ∀ a b c, R a b → S b c → T a c) : List.Forall₂ T l l'' := by
  induction h generalizing l'' with
  | nil => cases h'; exact .nil
  | cons first _ ih =>
    cases h' with
    | cons second rest => exact .cons (both _ _ _ first second) (ih rest)

theorem forall_mem_of_forall₂ {R : α → β → Prop} {p : β → Prop} {l : List α} {l' : List β}
    (h : List.Forall₂ R l l') (each : ∀ a b, R a b → p b) : ∀ b ∈ l', p b := by
  induction h with
  | nil => exact fun b hb => absurd hb List.not_mem_nil
  | cons first _ ih => exact List.forall_mem_cons.mpr ⟨each _ _ first, ih⟩

theorem map_eq_of_forall₂ {γ : Type} {f : β → γ} {g : α → γ} {l : List α} {l' : List β}
    (h : List.Forall₂ (fun a b => f b = g a) l l') : l'.map f = l.map g := by
  induction h with
  | nil => rfl
  | cons first _ ih => rw [List.map_cons, List.map_cons, first, ih]

theorem zipWith_eq_of_forall₂ {γ : Type} {f : α → β → γ} {g : α → γ} {l : List α} {l' : List β}
    (h : List.Forall₂ (fun a b => f a b = g a) l l') : List.zipWith f l l' = l.map g := by
  induction h with
  | nil => rfl
  | cons first _ ih => rw [List.zipWith_cons_cons, List.map_cons, first, ih]

/-- Two functions that leave out the same elements pick the same list just when they agree on each
element. -/
theorem filterMap_eq_iff {f g : α → Option β} {l : List α} (same : ∀ a, f a = none ↔ g a = none) :
    l.filterMap f = l.filterMap g ↔ ∀ a ∈ l, f a = g a := by
  refine ⟨fun h => ?_, List.filterMap_congr⟩
  induction l with
  | nil => intro a ha; cases ha
  | cons a l ih =>
    rw [List.forall_mem_cons]
    cases hf : f a with
    | none =>
      have hg := (same a).mp hf
      rw [List.filterMap_cons_none hf, List.filterMap_cons_none hg] at h
      exact ⟨hg.symm, ih h⟩
    | some b =>
      obtain ⟨c, hg⟩ := Option.ne_none_iff_exists'.mp fun hg => by
        rw [(same a).mpr hg] at hf
        cases hf
      rw [List.filterMap_cons_some hf, List.filterMap_cons_some hg] at h
      obtain ⟨rfl, rest⟩ := List.cons.inj h
      exact ⟨hg.symm, ih rest⟩

end TokenMarshal.Lists

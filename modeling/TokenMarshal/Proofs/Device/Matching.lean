/-
  TokenMarshal.Proofs.Device.Matching — devices that no read and no creation tells apart.

  Two devices match by a relation of their states if related states give the same answers to a
  read and to a creation, and stay related (`Matches`). Then all that is fetched through them
  is the same, however many calls it takes (`Matches.fetchOne`, `Matches.fetchAll`).

  - `matches_logged`: a device matches itself with its calls written down.
  - `matches_logged_later`: what was written down before makes no difference.
  - `Memoryless.matches`: a device whose answers hang on the arguments of a call alone matches
    itself from any two states, and the calls written down are the same.
-/
import TokenMarshal.Device.Fetch

namespace TokenMarshal.Device

open Marshal Text

variable {σ τ α : Type}

/-- The same result, and states that are related. -/
def Same (R : σ → τ → Prop) (a : α × σ) (b : α × τ) : Prop := a.1 = b.1 ∧ R a.2 b.2

structure Matches (R : σ → τ → Prop) (d : Device σ) (d' : Device τ) : Prop where
  read : ∀ {st st'}, R st st' → ∀ session object fields,
    Same R (d.read session object fields st) (d'.read session object fields st')
  create : ∀ {st st'}, R st st' → ∀ session fields,
    Same R (d.create session fields st) (d'.create session fields st')

/-! ## What is fetched -/

namespace Matches

variable {R : σ → τ → Prop} {d : Device σ} {d' : Device τ} {st : σ} {st' : τ}

theorem readOne (h : Matches R d d') (related : R st st') (e : Encoding) (session : SessionHandle)
    (object : ObjectHandle) (code : AttributeCode) :
    Same R (d.readOne e session object code st) (d'.readOne e session object code st') := by
  have call := h.read related session object [.request code]
  unfold Device.readOne
  generalize d.read session object [.request code] st = a at call ⊢
  generalize d'.read session object [.request code] st' = b at call ⊢
  obtain ⟨⟨rv, fields⟩, after⟩ := a
  obtain ⟨_, after'⟩ := b
  obtain ⟨rfl, related⟩ := call
  simp only
  split
  · exact ⟨rfl, related⟩
  · exact ⟨rfl, related⟩

theorem fetchOne (h : Matches R d d') (related : R st st') (e : Encoding) (session : SessionHandle)
    (object : ObjectHandle) (code : AttributeCode) :
    Same R (d.fetchOne e session object code st) (d'.fetchOne e session object code st') := by
  have reading := h.readOne related e session object code
  unfold Device.fetchOne
  generalize d.readOne e session object code st = one at reading ⊢
  generalize d'.readOne e session object code st' = other at reading ⊢
  obtain ⟨⟨a, fault⟩, after⟩ := one
  obtain ⟨_, after'⟩ := other
  obtain ⟨rfl, related⟩ := reading
  cases fault with
  | none => exact ⟨rfl, related⟩
  | some fault => exact ⟨rfl, related⟩

theorem readEach (h : Matches R d d') (related : R st st') (e : Encoding) (session : SessionHandle)
    (object : ObjectHandle) (codes : List AttributeCode) :
    Same R (d.readEach e session object codes st) (d'.readEach e session object codes st') := by
  induction codes generalizing st st' with
  | nil => exact ⟨rfl, related⟩
  | cons code codes ih =>
    obtain ⟨first, related⟩ := h.readOne related e session object code
    obtain ⟨rest, related⟩ := ih related
    refine ⟨?_, related⟩
    simp only [Device.readEach, first, rest]

theorem fetchEach (h : Matches R d d') (related : R st st') (e : Encoding) (session : SessionHandle)
    (object : ObjectHandle) (codes : List AttributeCode) :
    Same R (d.fetchEach e session object codes st) (d'.fetchEach e session object codes st') := by
  obtain ⟨readings, related⟩ := h.readEach related e session object codes
  exact ⟨congrArg gather readings, related⟩

theorem fetchAll (h : Matches R d d') (related : R st st') (e : Encoding) (session : SessionHandle)
    (object : ObjectHandle) (codes : List AttributeCode) :
    Same R (d.fetchAll e session object codes st) (d'.fetchAll e session object codes st') := by
  unfold Device.fetchAll
  by_cases many : 1 < codes.length
  · rw [if_pos many, if_pos many]
    have call := h.read related session object (codes.map .request)
    generalize d.read session object (codes.map .request) st = a at call ⊢
    generalize d'.read session object (codes.map .request) st' = b at call ⊢
    obtain ⟨⟨rv, fields⟩, after⟩ := a
    obtain ⟨_, after'⟩ := b
    obtain ⟨rfl, related⟩ := call
    simp only
    split
    · exact ⟨rfl, related⟩
    · exact h.fetchEach related e session object codes
  · rw [if_neg many, if_neg many]
    exact h.fetchEach related e session object codes

end Matches

/-! ## Calls written down -/

theorem matches_logged (d : Device σ) :
    Matches (fun st (s : σ × List Call) => st = s.1) d d.logged where
  read := by
    intro st s same session object fields
    subst same
    exact ⟨rfl, rfl⟩
  create := by
    intro st s same session fields
    subst same
    unfold create logged
    cases d.create? with
    | none => exact ⟨rfl, rfl⟩
    | some f => exact ⟨rfl, rfl⟩

theorem matches_logged_later (d : Device σ) (before : List Call) :
    Matches (fun s s' : σ × List Call => s.1 = s'.1 ∧ s'.2 = before ++ s.2) d.logged d.logged where
  read := by
    intro s s' same session object fields
    obtain ⟨st, log⟩ := s
    obtain ⟨_, _⟩ := s'
    obtain ⟨rfl, rfl⟩ := same
    exact ⟨rfl, rfl, List.append_assoc ..⟩
  create := by
    intro s s' same session fields
    obtain ⟨st, log⟩ := s
    obtain ⟨_, _⟩ := s'
    obtain ⟨rfl, rfl⟩ := same
    unfold create logged
    cases d.create? with
    | none => exact ⟨rfl, rfl, rfl⟩
    | some f => exact ⟨rfl, rfl, List.append_assoc ..⟩

/-- The answers of a device hang on the arguments of a call alone. -/
structure Memoryless (d : Device σ) : Prop where
  read : ∀ session object fields st st',
    (d.read session object fields st).1 = (d.read session object fields st').1
  create : ∀ session fields st st', (d.create session fields st).1 = (d.create session fields st').1

theorem Memoryless.matches {d : Device σ} (h : d.Memoryless) :
    Matches (fun s s' : σ × List Call => s.2 = s'.2) d.logged d.logged where
  read := by
    intro s s' same session object fields
    obtain ⟨st, log⟩ := s
    obtain ⟨st', _⟩ := s'
    obtain rfl := same
    exact ⟨h.read session object fields st st', rfl⟩
  create := by
    intro s s' same session fields
    obtain ⟨st, log⟩ := s
    obtain ⟨st', _⟩ := s'
    obtain rfl := same
    have answer := h.create session fields st st'
    unfold Device.create at answer
    unfold Device.create logged
    cases make : d.create? with
    | none => exact ⟨rfl, rfl⟩
    | some f =>
      simp only [make] at answer
      exact ⟨answer, rfl⟩

end TokenMarshal.Device

/-
  TokenMarshal.Proofs.Session.Recency — parameters are not read again while they are cached.

  The keys of a cache stand in the order of use. A request that makes the parameters of a key
  known, by putting them there or having them from there, moves that key to the front, and a full
  cache then loses its last key (`keys_of_known`); nothing else but closing changes the order
  (`keys_of_unknown`). So a key that was used stands behind those alone that were used since
  (`Behind`), and it goes only when they are as many as the cache has room for (`Behind.use`).

  One request keeps that (`behind_answer`), and so does a run (`behind_run`). A session reads the
  parameters of a key itself only when the cache does not hold it, therefore not before the
  session was closed or that many other keys were used (`params_reread_after_others`).
-/
import Mathlib.Data.Finset.Card
import Mathlib.Data.Finset.Option
import TokenMarshal.Proofs.Session.Desk
import TokenMarshal.Proofs.Session.Lookup

namespace TokenMarshal

open Marshal Device Session

variable {σ : Type}

/-! ## The order of use -/

namespace Cache

/-- The keys in the order of use, the latest first. -/
def keys (c : Cache) : List ObjectHandle := c.entries.map (·.1)

/-- A key stands in the list, and the keys before it differ from each other and are among `others`,
without itself. -/
def Behind (object : ObjectHandle) (others : Finset ObjectHandle) (l : List ObjectHandle) : Prop :=
  ∃ newer older, l = newer ++ object :: older ∧ newer.Nodup ∧ ∀ p ∈ newer, p ∈ others.erase object

/-- The keys once one was used; a cache keeps the first, as many as it has room for. -/
def moved (p : ObjectHandle) (l : List ObjectHandle) : List ObjectHandle := p :: l.filter (· != p)

theorem keys_without (c : Cache) (object : ObjectHandle) :
    (c.without object).map (·.1) = c.keys.filter (· != object) := by
  rw [keys, without, List.filter_map]
  rfl

theorem keys_put (c : Cache) (object : ObjectHandle) (params : List UInt8) :
    (c.put object params).keys = (moved object c.keys).take c.capacity := by
  show (((object, params) :: c.without object).take c.capacity).map (·.1) = _
  rw [List.map_take, List.map_cons, keys_without, moved]

theorem keys_get {c : Cache} {object : ObjectHandle} {params : List UInt8}
    (found : c.find? object = some params) : (c.get object).2.keys = moved object c.keys := by
  simp only [get, found]
  exact congrArg (object :: ·) (c.keys_without object)

theorem find?_ne_none {c : Cache} {object : ObjectHandle} (here : object ∈ c.keys) :
    c.find? object ≠ none := by
  obtain ⟨entry, inside, rfl⟩ := List.mem_map.mp here
  simp only [find?, ne_eq, Option.map_eq_none_iff, List.find?_eq_none]
  intro missing
  exact missing entry inside (beq_self_eq_true _)

variable {object p : ObjectHandle} {others : Finset ObjectHandle} {l : List ObjectHandle}

theorem Behind.mem (h : Behind object others l) : object ∈ l := by
  obtain ⟨newer, older, rfl, -⟩ := h
  exact List.mem_append_right newer List.mem_cons_self

/-- The key used last is behind no other. -/
theorem behind_moved (object : ObjectHandle) (others : Finset ObjectHandle) (l : List ObjectHandle)
    (n : Nat) : Behind object others ((moved object l).take n) ∨ n = 0 := by
  cases n with
  | zero => exact .inr rfl
  | succ n => exact .inl ⟨[], _, rfl, List.nodup_nil, fun p here => absurd here List.not_mem_nil⟩

/-- Another use leaves a key behind those used, unless they are too many. -/
theorem Behind.use (h : Behind object others l) (p : ObjectHandle) (n : Nat) :
    Behind object (insert p others) ((moved p l).take n) ∨
      n ≤ ((insert p others).erase object).card := by
  obtain ⟨newer, older, rfl, different, known⟩ := h
  by_cases again : p = object
  · subst again
    rcases behind_moved p (insert p others) (newer ++ p :: older) n with first | rfl
    · exact .inl first
    · exact .inr (Nat.zero_le _)
  · let newer' := p :: newer.filter (· != p)
    have split : moved p (newer ++ object :: older) =
        newer' ++ object :: older.filter (· != p) := by
      have stays : (object != p) = true := bne_iff_ne.mpr (Ne.symm again)
      simp [moved, newer', List.filter_append, stays]
    have different' : newer'.Nodup :=
      List.nodup_cons.mpr ⟨by simp [List.mem_filter], different.filter _⟩
    have known' : ∀ q ∈ newer', q ∈ (insert p others).erase object := by
      intro q here
      rcases List.mem_cons.mp here with rfl | here
      · exact Finset.mem_erase.mpr ⟨again, Finset.mem_insert_self q others⟩
      · exact Finset.erase_subset_erase object (Finset.subset_insert p others)
          (known q (List.mem_of_mem_filter here))
    rw [split]
    by_cases room : newer'.length < n
    · left
      refine ⟨newer', (older.filter (· != p)).take (n - newer'.length - 1), ?_, different', known'⟩
      rw [List.take_append, List.take_of_length_le room.le,
        List.take_cons (Nat.sub_pos_of_lt room)]
    · right
      have fits : newer'.toFinset ⊆ (insert p others).erase object :=
        fun q here => known' q (List.mem_toFinset.mp here)
      calc n ≤ newer'.length := Nat.le_of_not_lt room
        _ = newer'.toFinset.card := (List.toFinset_card_of_nodup different').symm
        _ ≤ ((insert p others).erase object).card := Finset.card_le_card fits

end Cache

/-! ## One request -/

namespace Session

/-- A look-up that makes parameters known is a use of their key. -/
theorem Lookup.keys_cache {object : ObjectHandle} {c : Cache} {w : Lookup} {b : List UInt8}
    (fits : w.Fits object c) (known : w.params? = some b) :
    ∃ n, c.capacity ≤ n ∧ (w.cache object c).keys = (Cache.moved object c.keys).take n := by
  cases w with
  | given params => exact ⟨c.capacity, Nat.le_refl _, c.keys_put object params⟩
  | cached params =>
    -- A hit takes no room, so nothing is cut off whatever the capacity is.
    refine ⟨c.capacity + (Cache.moved object c.keys).length, Nat.le_add_right _ _, ?_⟩
    rw [List.take_of_length_le (Nat.le_add_left _ _)]
    exact Cache.keys_get fits
  | read params =>
    cases known
    exact ⟨c.capacity, Nat.le_refl _, c.keys_put object b⟩

variable {d : Device σ} {m : Module} {session : SessionHandle} {s : State σ} {r : Request}
  {object p : ObjectHandle} {others : Finset ObjectHandle}

/-- The key whose parameters a request makes known: it puts them into the cache, or has them from
there. -/
def madeKnown (d : Device σ) (m : Module) (session : SessionHandle) (s : State σ) (r : Request) :
    Option ObjectHandle :=
  (lookup d m session s r).bind fun (object, w) => w.params?.map fun _ => object

theorem keys_of_known (known : madeKnown d m session s r = some p) :
    ∃ n, s.cache.capacity ≤ n ∧
      (answer d m session s r).2.cache.keys = (Cache.moved p s.cache.keys).take n := by
  obtain ⟨⟨key, w⟩, looked, found⟩ := Option.bind_eq_some_iff.mp known
  obtain ⟨params, has, rfl⟩ := Option.map_eq_some_iff.mp found
  have kept : r ≠ .close := by
    intro close
    subst close
    cases looked
  rw [cache_answer d m session s r kept, looked]
  exact Lookup.keys_cache (fits_lookup looked) has

theorem keys_of_unknown (kept : r ≠ .close) (unknown : madeKnown d m session s r = none) :
    (answer d m session s r).2.cache.keys = s.cache.keys := by
  rw [cache_answer d m session s r kept]
  rw [madeKnown] at unknown
  cases looked : lookup d m session s r with
  | none => rfl
  | some found =>
    rw [looked] at unknown
    exact congrArg Cache.keys (Lookup.cache_of_unknown (Option.map_eq_none_iff.mp unknown))

theorem capacity_answer (r : Request) :
    (answer d m session s r).2.cache.capacity = s.cache.capacity := by
  by_cases closed : r = .close
  · subst closed
    rfl
  · rw [cache_answer d m session s r closed]
    cases lookup d m session s r with
    | none => rfl
    | some looked => exact Lookup.capacity_cache looked.2

/-- A request leaves a key behind those made known, unless they are too many. -/
theorem behind_answer (d : Device σ) (m : Module) (session : SessionHandle) (s : State σ)
    (kept : r ≠ .close) (h : Cache.Behind object others s.cache.keys) :
    Cache.Behind object (others ∪ (madeKnown d m session s r).toFinset)
        (answer d m session s r).2.cache.keys ∨
      s.cache.capacity ≤ ((others ∪ (madeKnown d m session s r).toFinset).erase object).card := by
  cases known : madeKnown d m session s r with
  | none =>
    rw [keys_of_unknown kept known, Option.toFinset_none, Finset.union_empty]
    exact .inl h
  | some p =>
    obtain ⟨n, room, keys⟩ := keys_of_known known
    rw [keys, Option.toFinset_some, Finset.union_comm, ← Finset.insert_eq]
    rcases h.use p n with behind | many
    · exact .inl behind
    · exact .inr (Nat.le_trans room many)

/-- The key that a request makes known is then behind no other. -/
theorem behind_of_known (known : madeKnown d m session s r = some object) :
    Cache.Behind object ∅ (answer d m session s r).2.cache.keys ∨ s.cache.capacity = 0 := by
  obtain ⟨n, room, keys⟩ := keys_of_known known
  rw [keys]
  rcases Cache.behind_moved object ∅ s.cache.keys n with first | rfl
  · exact .inl first
  · exact .inr (Nat.le_zero.mp room)

end Session

/-! ## A run -/

namespace Desk

/-- The look-up that session `i` would make for a request. -/
def lookupAt (d : Device σ) (k : Desk σ) (i : Nat) (r : Request) : Option (ObjectHandle × Lookup) :=
  k.sessions[i]?.bind fun o => lookup d k.module o.handle ⟨k.device, k.flags, o.cache⟩ r

def madeKnownAt (d : Device σ) (k : Desk σ) (i : Nat) (r : Request) : Option ObjectHandle :=
  k.sessions[i]?.bind fun o => madeKnown d k.module o.handle ⟨k.device, k.flags, o.cache⟩ r

/-- The keys whose parameters a run makes known to session `i`. -/
def madeKnownIn (d : Device σ) (i : Nat) : Desk σ → List (Nat × Request) → Finset ObjectHandle
  | _, [] => ∅
  | k, (j, r) :: rest =>
    (if j = i then (madeKnownAt d k i r).toFinset else ∅) ∪ madeKnownIn d i (ask d k j r).2 rest

variable {d : Device σ} {i : Nat} {object : ObjectHandle}

/-- A run that does not close a session leaves a key of it behind those made known, unless they
are too many. -/
theorem behind_run (k : Desk σ) (o : OpenSession) (others : Finset ObjectHandle)
    (here : k.sessions[i]? = some o) (h : Cache.Behind object others o.cache.keys)
    (l : List (Nat × Request)) (kept : (i, .close) ∉ l) :
    (∃ last, (run d k l).2.sessions[i]? = some last ∧
      Cache.Behind object (others ∪ madeKnownIn d i k l) last.cache.keys) ∨
    o.cache.capacity ≤ ((others ∪ madeKnownIn d i k l).erase object).card := by
  induction l generalizing k o others with
  | nil => exact .inl ⟨o, here, by rwa [madeKnownIn, Finset.union_empty]⟩
  | cons request l ih =>
    obtain ⟨j, r⟩ := request
    have later : (i, .close) ∉ l := fun close => kept (List.mem_cons_of_mem _ close)
    by_cases mine : j = i
    · subst mine
      have not_close : r ≠ .close := fun close => kept (close ▸ List.mem_cons_self)
      have own : madeKnownAt d k j r =
          madeKnown d k.module o.handle ⟨k.device, k.flags, o.cache⟩ r := by
        rw [madeKnownAt, here, Option.bind_some]
      have first := behind_answer d k.module o.handle ⟨k.device, k.flags, o.cache⟩ not_close h
      rw [madeKnownIn, if_pos rfl, own, ← Finset.union_assoc]
      rcases first with behind | many
      · have rest := ih _ _ _ (sessions_ask_self here r) behind later
        rwa [capacity_answer] at rest
      · right
        refine Nat.le_trans many (Finset.card_le_card ?_)
        exact Finset.erase_subset_erase object Finset.subset_union_left
    · rw [madeKnownIn, if_neg mine, Finset.empty_union]
      exact ih _ o _ ((sessions_ask_of_ne mine r).trans here) h later

/-- Parameters are not read again while they should be cached. What a request but closing does to
the cache, and the call that it makes besides those that it is for, is up to its look-up. Take a
request that makes the parameters of a key known to a session, and a later one for which the
session reads them itself. In between the session was closed, or the parameters of as many other
keys as its cache has room for were made known to it. -/
theorem params_reread_after_others (d : Device σ) :
    (∀ (m : Module) (session : SessionHandle) (s : State σ) (r : Request), r ≠ .close →
      (answer d m session s r).2.cache =
        (lookup d m session s r).elim s.cache (fun (object, w) => w.cache object s.cache) ∧
      (answer d.logged m session ⟨(s.device, []), s.flags, s.cache⟩ r).2.device.2 =
        (asked d.logged m session r (s.device, [])).2 ++
          (lookup d m session s r).elim [] fun (object, w) => w.calls session object) ∧
    ∀ (k : Desk σ) (i : Nat) (o : OpenSession) (object : ObjectHandle) (r r' : Request)
      (between : List (Nat × Request)) (params : Option (List UInt8)),
      k.sessions[i]? = some o →
      madeKnownAt d k i r = some object →
      lookupAt d (run d k ((i, r) :: between)).2 i r' = some (object, .read params) →
      (i, .close) ∈ between ∨
        o.cache.capacity ≤ ((madeKnownIn d i (ask d k i r).2 between).erase object).card := by
  refine ⟨?_, ?_⟩
  · intro m session s r kept
    exact ⟨cache_answer d m session s r kept, calls_answer d m session s r kept⟩
  · intro k i o object r r' between params here known again
    by_cases closed : (i, .close) ∈ between
    · exact .inl closed
    right
    rw [madeKnownAt, here, Option.bind_some] at known
    rcases behind_of_known known with first | none_fits
    · rcases behind_run _ _ ∅ (sessions_ask_self here r) first between closed with
        ⟨last, here', behind⟩ | many
      · have reads : lookupAt d (run d (ask d k i r).2 between).2 i r' =
            some (object, .read params) := again
        rw [lookupAt, here', Option.bind_some] at reads
        exact absurd (fits_lookup reads) (Cache.find?_ne_none behind.mem)
      · rwa [Finset.empty_union, capacity_answer] at many
    · exact none_fits ▸ Nat.zero_le _

/-- A cache of two entries, in which the key is used again by a hit, and then loses its place to one
that comes with a point and one that a signature is made with. -/
theorem params_reread_after_others_of_three_keys :
    let t := Simulated.Token.ofObjects
      ([31, 32, 33].map fun object => (object, Simulated.bareKey))
    let m : Module := { Simulated.plainModule with adaptive := true, cacheSize := 2 }
    let k := opened m () [1, 2]
    let between : List (Nat × Request) := [(1, .ecParams 31), (0, .fetchAll 32 [0x180, 0x11]),
      (0, .cached 31), (0, .fetchOne 32 0x181), (1, .close),
      (0, .fixSignature 33 0x1041 Simulated.derSignature)]
    (madeKnownAt t.constant k 0 (.ecParams 31) = some 31 ∧
      lookupAt t.constant (run t.constant k ((0, .ecParams 31) :: between)).2 0
        (.fetchOne 31 0x181) = some (31, .read (some Curve.secp256r1.der))) ∧
    2 ≤ ((madeKnownIn t.constant 0 (ask t.constant k 0 (.ecParams 31)).2 between).erase
      31).card := by
  intro t m k between
  have known : madeKnownAt t.constant k 0 (.ecParams 31) = some 31 := by decide +kernel
  have again : lookupAt t.constant (run t.constant k ((0, .ecParams 31) :: between)).2 0
      (.fetchOne 31 0x181) = some (31, .read (some Curve.secp256r1.der)) := by decide +kernel
  have others := (params_reread_after_others t.constant).2 k 0 ⟨1, ⟨2, []⟩⟩ 31 (.ecParams 31)
    (.fetchOne 31 0x181) between (some Curve.secp256r1.der) rfl known again
  refine ⟨⟨known, again⟩, others.resolve_left ?_⟩
  simp [between]

end Desk

end TokenMarshal

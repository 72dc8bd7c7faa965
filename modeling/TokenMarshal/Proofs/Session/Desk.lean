/-
  TokenMarshal.Proofs.Session.Desk — a run of requests does not show the caches.

  Sessions are opened with empty caches (`opened_eq`). What one request keeps a run keeps:
  the caches are coherent (`sound_run`), and two desks whose flags and handles agree go on to
  agree and give the same answers (`alike_run`), since sessions that differ in their caches
  show the same. `run_hides_cache` gathers this for every run from sessions just opened: the
  caches are bounded and hold what the token holds, a look-up of parameters is as good as a
  read, and with caches of another capacity every answer is the same.
-/
import TokenMarshal.Proofs.Session.Coherence

namespace TokenMarshal.Desk

open Marshal Session

variable {σ : Type} {d : Device σ} {m : Module}
  {reply : ObjectHandle → AttributeCode → Content}
  {status : SessionHandle → ObjectHandle → List AttributeCode → ReturnCode}

/-- Sessions opened one after another. -/
def opened (m : Module) (device : σ) (handles : List SessionHandle) : Desk σ :=
  handles.foldl (fun k handle => (k.openSession handle).2) (start m device)

theorem foldl_openSession (handles : List SessionHandle) (k : Desk σ)
    (room : 0 < k.module.cacheSize) :
    handles.foldl (fun k handle => (k.openSession handle).2) k =
      { k with sessions := k.sessions ++ handles.map fun handle =>
          ⟨handle, ⟨k.module.cacheSize, []⟩⟩ } := by
  induction handles generalizing k with
  | nil => simp
  | cons handle handles ih =>
    have first : (k.openSession handle).2 =
        { k with sessions := k.sessions ++ [⟨handle, ⟨k.module.cacheSize, []⟩⟩] } := by
      rw [openSession, Cache.new, if_neg (Nat.ne_of_gt room)]
    have rest := ih (k.openSession handle).2 (by rw [first]; exact room)
    rw [List.foldl_cons, rest, first]
    simp

theorem opened_eq (m : Module) (device : σ) (handles : List SessionHandle) (room : 0 < m.cacheSize) :
    opened m device handles =
      ⟨m, device, .initial, handles.map fun handle => ⟨handle, ⟨m.cacheSize, []⟩⟩⟩ :=
  foldl_openSession handles (start m device) room

/-! ## What a run keeps -/

/-- Every cache is coherent. -/
def Sound (reply : ObjectHandle → AttributeCode → Content) (k : Desk σ) : Prop :=
  ∀ o ∈ k.sessions, o.cache.Coherent (paramsIn reply) k.module.cacheSize

theorem sound_opened (reply : ObjectHandle → AttributeCode → Content) (m : Module) (device : σ)
    (handles : List SessionHandle) (room : 0 < m.cacheSize) :
    Sound reply (opened m device handles) := by
  rw [opened_eq m device handles room]
  intro o here
  obtain ⟨handle, -, rfl⟩ := List.mem_map.mp here
  exact .empty

variable {k : Desk σ}

theorem ask_of_none {i : Nat} (missing : k.sessions[i]? = none) (r : Request) :
    ask d k i r = (none, k) := by
  rw [ask, missing]

theorem ask_of_some {i : Nat} {o : OpenSession} (here : k.sessions[i]? = some o) (r : Request) :
    ask d k i r =
      let a := answer d k.module o.handle ⟨k.device, k.flags, o.cache⟩ r
      (some a.1, { k with
        device := a.2.device
        flags := a.2.flags
        sessions := k.sessions.set i { o with cache := a.2.cache } }) := by
  rw [ask, here]

theorem sessions_ask_self {i : Nat} {o : OpenSession} (here : k.sessions[i]? = some o) (r : Request) :
    (ask d k i r).2.sessions[i]? = some
      { o with cache := (answer d k.module o.handle ⟨k.device, k.flags, o.cache⟩ r).2.cache } := by
  obtain ⟨inside, -⟩ := List.getElem?_eq_some_iff.mp here
  rw [ask_of_some here]
  exact List.getElem?_set_self inside

theorem sessions_ask_of_ne {i j : Nat} (other : j ≠ i) (r : Request) :
    (ask d k j r).2.sessions[i]? = k.sessions[i]? := by
  unfold ask
  split
  · rfl
  · exact List.getElem?_set_ne other

theorem module_ask (i : Nat) (r : Request) : (ask d k i r).2.module = k.module := by
  unfold ask
  split <;> rfl

theorem handles_ask (i : Nat) (r : Request) :
    (ask d k i r).2.sessions.map (·.handle) = k.sessions.map (·.handle) := by
  cases here : k.sessions[i]? with
  | none => rw [ask_of_none here]
  | some o =>
    obtain ⟨inside, rfl⟩ := List.getElem?_eq_some_iff.mp here
    have inside' : i < (k.sessions.map (·.handle)).length := by rwa [List.length_map]
    have same : k.sessions[i].handle = (k.sessions.map (·.handle))[i] := by rw [List.getElem_map]
    rw [ask_of_some here, List.map_set, same, List.set_getElem_self]

theorem sound_ask (h : d.Repeats reply status) (sound : Sound reply k) (i : Nat) (r : Request) :
    Sound reply (ask d k i r).2 := by
  unfold ask
  split
  · exact sound
  next o here =>
    intro o' here'
    rcases List.mem_or_eq_of_mem_set here' with kept | rfl
    · exact sound o' kept
    · exact coherent_answer k.module o.handle (s := ⟨k.device, k.flags, o.cache⟩) h
        (sound o (List.mem_of_getElem? here)) r

theorem handles_run (k : Desk σ) (l : List (Nat × Request)) :
    (run d k l).2.sessions.map (·.handle) = k.sessions.map (·.handle) := by
  induction l generalizing k with
  | nil => rfl
  | cons request l ih => exact (ih _).trans (handles_ask _ _)

theorem module_run (k : Desk σ) (l : List (Nat × Request)) : (run d k l).2.module = k.module := by
  induction l generalizing k with
  | nil => rfl
  | cons request l ih => exact (ih _).trans (module_ask _ _)

theorem sound_run (h : d.Repeats reply status) (sound : Sound reply k)
    (l : List (Nat × Request)) : Sound reply (run d k l).2 := by
  induction l generalizing k with
  | nil => exact sound
  | cons request l ih => exact ih (sound_ask h sound _ _)

/-- While its cache is coherent a session gives the parameters that a read would. -/
theorem ask_ecParams (h : d.Repeats reply status) (sound : Sound reply k) {i : Nat}
    {o : OpenSession} (here : k.sessions[i]? = some o) (object : ObjectHandle) (st : σ) :
    (ask d k i (.ecParams object)).1 =
      some (.params (directParams? d k.module.encoding o.handle object st)) := by
  have coherent := sound o (List.mem_of_getElem? here)
  have own := shown_ecParams k.module o.handle object (s := ⟨k.device, k.flags, o.cache⟩) h coherent
  rw [ask, here, directParams?_eq h, ← (Prod.mk.inj own).1]
  rfl

/-! ## Two desks -/

/-- Desks with the same sessions, which may differ in their caches and devices. -/
structure Alike (k k' : Desk σ) : Prop where
  module : k'.module = { k.module with cacheSize := k'.module.cacheSize }
  flags : k.flags = k'.flags
  handles : k.sessions.map (·.handle) = k'.sessions.map (·.handle)

variable {k' : Desk σ}

theorem alike_ask (h : d.Repeats reply status) (sound : Sound reply k) (sound' : Sound reply k')
    (alike : Alike k k') (i : Nat) (r : Request) :
    Alike (ask d k i r).2 (ask d k' i r).2 ∧
      (r.isPlain = true → (ask d k i r).1 = (ask d k' i r).1) := by
  have handles : (ask d k i r).2.sessions.map (·.handle) =
      (ask d k' i r).2.sessions.map (·.handle) := by
    rw [handles_ask, handles_ask, alike.handles]
  have modules : (ask d k' i r).2.module =
      { (ask d k i r).2.module with cacheSize := (ask d k' i r).2.module.cacheSize } := by
    rw [module_ask, module_ask]
    exact alike.module
  have handle := congrArg (·[i]?) alike.handles
  simp only [List.getElem?_map] at handle
  cases here : k.sessions[i]? with
  | none =>
    have missing : k'.sessions[i]? = none := by
      rwa [here, Option.map_none, eq_comm, Option.map_eq_none_iff] at handle
    rw [ask_of_none here, ask_of_none missing]
    exact ⟨alike, fun _ => rfl⟩
  | some o =>
    rw [here, Option.map_some, eq_comm] at handle
    obtain ⟨o', here', handle⟩ := Option.map_eq_some_iff.mp handle
    have same := shown_answer k.module o.handle h ⟨k.device, k.flags, o.cache⟩
      ⟨k'.device, k'.flags, o'.cache⟩
      (sound o (List.mem_of_getElem? here)) (sound' o' (List.mem_of_getElem? here'))
      alike.flags r
    -- The capacity is in the module, which no session asks for it.
    have as_first (s : State σ) :
        answer d k'.module o'.handle s r = answer d k.module o.handle s r := by
      rw [alike.module, answer_cacheSize, handle]
    rw [ask_of_some here, ask_of_some here'] at handles modules ⊢
    refine ⟨⟨modules, ?_, handles⟩, fun plain => ?_⟩
    · simp only [as_first]
      exact same.1
    · simp only [as_first]
      exact congrArg some (same.2 plain)

theorem alike_run (h : d.Repeats reply status) (sound : Sound reply k) (sound' : Sound reply k')
    (alike : Alike k k') (l : List (Nat × Request)) :
    (run d k l).2.flags = (run d k' l).2.flags ∧
    ∀ (j i : Nat) (r : Request), l[j]? = some (i, r) → r.isPlain = true →
      ∃ a, (run d k l).1[j]? = some a ∧ (run d k' l).1[j]? = some a := by
  induction l generalizing k k' with
  | nil => exact ⟨alike.flags, fun j i r here => by cases here⟩
  | cons request l ih =>
    obtain ⟨i, r⟩ := request
    obtain ⟨alike, same⟩ := alike_ask h sound sound' alike i r
    obtain ⟨flags, later⟩ := ih (sound_ask h sound i r) (sound_ask h sound' i r) alike
    refine ⟨flags, fun j i' r' here plain => ?_⟩
    cases j with
    | zero =>
      cases here
      exact ⟨_, rfl, congrArg some (same plain).symm⟩
    | succ j => exact later j i' r' here plain

/-- Sessions over a token that repeats itself do not show their caches. However they are used,
each cache stays within its capacity and holds the parameters that the token gives, and a
session gives the parameters that a read would; and with caches of another capacity, above
none, every answer that does not itself tell of the cache is the same. -/
theorem run_hides_cache (d : Device σ) (reply : ObjectHandle → AttributeCode → Content)
    (status : SessionHandle → ObjectHandle → List AttributeCode → ReturnCode)
    (h : d.Repeats reply status) (m : Module) (capacity : Nat) (room : 0 < m.cacheSize)
    (room' : 0 < capacity) (handles : List SessionHandle) (st st' : σ)
    (l : List (Nat × Request)) :
    let one := run d (opened m st handles) l
    let other := run d (opened { m with cacheSize := capacity } st' handles) l
    let k := one.2
    k.sessions.map (·.handle) = handles ∧
    (∀ o ∈ k.sessions, o.cache.size ≤ m.cacheSize ∧ ∀ object params,
      (object, params) ∈ o.cache.entries →
        reply object AttributeCode.ecParams = .payload params) ∧
    (∀ (i : Nat) o object, k.sessions[i]? = some o → (ask d k i (.ecParams object)).1 =
      some (.params (directParams? d m.encoding o.handle object k.device))) ∧
    k.flags = other.2.flags ∧
    ∀ (j i : Nat) (r : Request), l[j]? = some (i, r) → r.isPlain = true →
      ∃ a, one.1[j]? = some a ∧ other.1[j]? = some a := by
  let m' : Module := { m with cacheSize := capacity }
  have start := opened_eq m st handles room
  have start' := opened_eq m' st' handles room'
  have sound := sound_opened reply m st handles room
  have sound' := sound_opened reply m' st' handles room'
  have alike : Alike (opened m st handles) (opened m' st' handles) := by
    rw [start, start']
    exact ⟨rfl, rfl, by simp⟩
  have last := sound_run h sound l
  have module : (run d (opened m st handles) l).2.module = m := by
    rw [module_run, start]
  refine ⟨?_, ?_, ?_, alike_run h sound sound' alike l⟩
  · rw [handles_run, start, List.map_map]
    exact List.map_id handles
  · intro o here
    have coherent := last o here
    rw [module] at coherent
    exact ⟨coherent.bounded, fun object params entry =>
      paramsIn_eq_some_iff.mp (coherent.entries (object, params) entry)⟩
  · intro i o object here
    rw [ask_ecParams h last here, module]

/-- Two sessions and two keys, of which a cache of one entry holds the last only, over a token
that fails every call for several attributes. -/
theorem run_hides_cache_of_two_keys :
    let t : Simulated.Token := { Simulated.twoKeys with batch := some 5 }
    let reply := fun object code => (t.replyTo object code).2.content
    let m : Module := { Simulated.plainModule with adaptive := true, cacheSize := 1 }
    let l : List (Nat × Request) := [(0, .fetchAll 31 [0x180, 0x181]), (0, .ecParams 32),
      (1, .fetchAll 32 [0x11, 0x180, 0x181]), (0, .cached 31), (0, .fetchOne 31 0x181),
      (1, .fixSignature 31 0x1041 Simulated.derSignature), (0, .close), (0, .ecParams 31)]
    (∀ o ∈ (run t.constant (opened m () [1, 2]) l).2.sessions, o.cache.size ≤ m.cacheSize ∧
      ∀ object params, (object, params) ∈ o.cache.entries →
        reply object AttributeCode.ecParams = .payload params) ∧
    ∀ (j i : Nat) (r : Request), l[j]? = some (i, r) → r.isPlain = true →
      ∃ a, (run t.constant (opened m () [1, 2]) l).1[j]? = some a ∧
        (run t.constant (opened { m with cacheSize := 3 } () [1, 2]) l).1[j]? = some a := by
  intro t reply m l
  obtain ⟨-, caches, -, -, answers⟩ := run_hides_cache t.constant reply _ t.constant_repeats m 3
    (by decide) (by decide) [1, 2] () () l
  exact ⟨caches, answers⟩

end TokenMarshal.Desk

/-
  TokenMarshal.Proofs.Config.Discovery — where the settings are looked for, and where not.

  The environment names the document, or it gives places, of which the first with a file is to
  be taken: those of its two directories, where they are set, and the system's (`places`,
  `discovered?`). What is done instead is to look at the first of these places and at no other
  (`find?_of_not_named`). The two agree just when the document is named, or is at the first
  place, or nowhere (`find?_eq_discovered?_iff`); settings at a later place are not found, and
  the defaults are loaded in their stead (`find?_passes_over_home`). None of this depends on
  the directory of the system that a build has.
-/
import Mathlib.Control.Monad.Basic
import TokenMarshal.Config.Load
import TokenMarshal.Simulated.FileTree

namespace TokenMarshal.Config

open Text

/-- The places where the document may stand when the environment does not name it, in order. -/
def places (env : Environment) (system : String := systemDirectory) : List String :=
  ((setText? env.xdgConfigHome).map (· ++ "/" ++ fileName)).toList ++
    ((setText? env.home).map (· ++ "/.config/" ++ fileName)).toList ++
    [system ++ "/" ++ fileName]

/-- The document that the environment names, else the first place where there is a file. -/
def discovered? (env : Environment) (files : Files) (system : String := systemDirectory) :
    Option String :=
  match setText? env.conf with
  | some path => some path
  | none => (places env system).find? files.isFile

/-- The environment has the last word on the vendor code file. -/
def withVendorCode (env : Environment) (c : Config) : Config :=
  match setText? env.vendorCode with
  | some path => { c with vendorFile := some path }
  | none => c

/-- The settings of the document at a place, and the defaults without one. -/
def loadFrom (env : Environment) (files : Files) (place : Option String) : Except Fault Config :=
  (place.elim (.ok {}) (ofFile files)).map (withVendorCode env)

theorem load_eq_loadFrom (env : Environment) (files : Files) (system : String) :
    load env files system = loadFrom env files (find? env files system) := by
  unfold load loadFrom
  cases find? env files system <;> rfl

theorem head?_places (env : Environment) (system : String) :
    (places env system).head? = some (defaultPlace env system) := by
  unfold places defaultPlace
  cases setText? env.xdgConfigHome with
  | some dir => rfl
  | none => cases setText? env.home <;> rfl

section

variable {env : Environment} {files : Files} {system : String}

theorem find?_of_named {path : String} (named : setText? env.conf = some path) :
    find? env files system = some path := by
  rw [find?, named]

theorem discovered?_of_named {path : String} (named : setText? env.conf = some path) :
    discovered? env files system = some path := by
  rw [discovered?, named]

theorem find?_of_not_named (unnamed : setText? env.conf = none) :
    find? env files system = (places env system).head?.filter files.isFile := by
  rw [find?, unnamed, head?_places]
  rfl

theorem discovered?_of_not_named (unnamed : setText? env.conf = none) :
    discovered? env files system = (places env system).find? files.isFile := by
  rw [discovered?, unnamed]

/-- Looking at the first place alone is as good as looking at all of them just when there is a file
at the first, or at none. -/
theorem head?_filter_eq_find?_iff (p : String → Bool) (l : List String) :
    l.head?.filter p = l.find? p ↔ (∃ a, l.head? = some a ∧ p a = true) ∨ ∀ a ∈ l, p a = false := by
  cases l with
  | nil => simp
  | cons a l =>
    cases here : p a with
    | true => simp [here]
    | false =>
      rw [List.head?_cons, Option.filter_some, here, List.find?_cons_of_neg (by simp [here]), eq_comm]
      simp [here]

theorem find?_eq_discovered?_iff :
    find? env files system = discovered? env files system ↔
      (∃ path, setText? env.conf = some path) ∨
      (∃ place, (places env system).head? = some place ∧ files.isFile place = true) ∨
      ∀ place ∈ places env system, files.isFile place = false := by
  cases named : setText? env.conf with
  | some path => simp [find?_of_named named, discovered?_of_named named]
  | none =>
    rw [find?_of_not_named named, discovered?_of_not_named named, head?_filter_eq_find?_iff]
    simp

/-- What is found is not the wrong document. -/
theorem discovered?_of_find? {path : String} (found : find? env files system = some path) :
    discovered? env files system = some path := by
  cases named : setText? env.conf with
  | some path' => rw [discovered?_of_named named, ← find?_of_named named, found]
  | none =>
    rw [find?_of_not_named named] at found
    obtain ⟨first, is_file⟩ := Option.filter_eq_some_iff.mp found
    rw [← found, ← find?_of_not_named named]
    exact (find?_eq_discovered?_iff.mpr (.inr (.inl ⟨path, first, is_file⟩))).symm

end

/-- The document that the environment names is the one; where it names none, it is looked for at the
first place only. So what is found is what the places give in order, but that is all found just when
there is no need to go on after the first; and the settings that are loaded are those of the document
that was found, the defaults if none was. -/
theorem find?_looks_at_first_place (env : Environment) (files : Files) (system : String) :
    (∀ path, setText? env.conf = some path → find? env files system = some path) ∧
    (setText? env.conf = none →
      find? env files system = (places env system).head?.filter files.isFile) ∧
    (∀ path, find? env files system = some path → discovered? env files system = some path) ∧
    (find? env files system = discovered? env files system ↔
      (∃ path, setText? env.conf = some path) ∨
      (∃ place, (places env system).head? = some place ∧ files.isFile place = true) ∨
      ∀ place ∈ places env system, files.isFile place = false) ∧
    load env files system = loadFrom env files (find? env files system) :=
  ⟨fun _ named => find?_of_named named, find?_of_not_named, fun _ => discovered?_of_find?,
    find?_eq_discovered?_iff, load_eq_loadFrom env files system⟩

/-- Without a directory for settings the document is looked for under the home directory, and found
there. -/
theorem find?_looks_at_first_place_of_home :
    let env : Environment := { home := some (Utf8.encode "/h".toList) }
    let files : Files := ⟨(· == "/h/.config/ckbridge/ckbridge.conf"), fun _ => .error .notText⟩
    setText? env.conf = none ∧
    find? env files = (places env).head?.filter files.isFile ∧
    find? env files = some "/h/.config/ckbridge/ckbridge.conf" ∧
    discovered? env files = some "/h/.config/ckbridge/ckbridge.conf" ∧
    load env files = .error (.unreadable .notText) := by
  intro env files
  have found : find? env files = some "/h/.config/ckbridge/ckbridge.conf" := by decide +kernel
  obtain ⟨-, first, given, -, loaded⟩ := find?_looks_at_first_place env files systemDirectory
  refine ⟨rfl, first rfl, found, given _ found, ?_⟩
  rw [loaded, found]
  rfl

/-- A directory for settings in which there are none hides those under the home directory. -/
theorem find?_passes_over_home :
    let env : Environment :=
      { xdgConfigHome := some (Utf8.encode "/x".toList), home := some (Utf8.encode "/h".toList) }
    let document := Utf8.encode "[fixups]\nadaptive = false\n".toList
    let files := Simulated.FileTree.files
      ⟨[(Simulated.FileTree.names "/h/.config/ckbridge/ckbridge.conf", .file document)]⟩
    discovered? env files = some "/h/.config/ckbridge/ckbridge.conf" ∧
    loadFrom env files (discovered? env files) = .ok { adaptive := false } ∧
    find? env files = none ∧ load env files = .ok {} := by
  intro env document files
  have given : discovered? env files = some "/h/.config/ckbridge/ckbridge.conf" := by decide +kernel
  have found : find? env files = none := by decide +kernel
  have settings : ofFile files "/h/.config/ckbridge/ckbridge.conf" = .ok { adaptive := false } := by
    decide +kernel
  refine ⟨given, ?_, found, ?_⟩
  · rw [given, loadFrom, Option.elim_some, settings]
    rfl
  · rw [load_eq_loadFrom, found]
    rfl

end TokenMarshal.Config

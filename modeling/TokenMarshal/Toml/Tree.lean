/-
  TokenMarshal.Toml.Tree — what a TOML document says, and how its tables come about.

  A table is made in one of four ways: under a header of its own, above the header of
  another table, above the last part of a dotted key, or inline. What may be added to it
  later hangs on that: a header goes on with a table that only stood above another header;
  a dotted key goes on with tables that dotted keys made; nothing goes on with an inline
  table. `within` walks down to a table, making the ones that are missing.
-/

namespace TokenMarshal.Toml

inductive Origin where
  | header
  | above
  | dotted
  | inline
  deriving DecidableEq, Repr

inductive Tree where
  | text (s : String)
  | integer (n : Int)
  /-- A float; its value is of no use here. -/
  | float
  | boolean (b : Bool)
  /-- A date, a time or both. -/
  | moment
  | array (l : List Tree)
  | table (origin : Origin) (entries : List (String × Tree))
  /-- Tables under repeated headers, in order. -/
  | tables (l : List (List (String × Tree)))

abbrev Entries := List (String × Tree)

namespace Entries

def get? (es : Entries) (key : String) : Option Tree := (es.find? (·.1 == key)).map (·.2)

def put (es : Entries) (key : String) (t : Tree) : Entries :=
  if es.any (·.1 == key) then es.map fun e => if e.1 == key then (key, t) else e
  else es ++ [(key, t)]

end Entries

/-- A table while it is open. -/
structure Table where
  origin : Origin
  entries : Entries

/-- Changes the table at the end of a path below `t`. -/
def within (dotted : Bool) (f : Table → Option Table) : List String → Table → Option Table
  | [], t => f t
  | key :: path, t =>
    match t.entries.get? key with
    | none => do
      let sub ← within dotted f path ⟨if dotted then .dotted else .above, []⟩
      pure { t with entries := t.entries.put key (.table sub.origin sub.entries) }
    | some (.table origin es) =>
      if origin = .inline ∨ (dotted ∧ origin = .header) then none
      else do
        let sub ← within dotted f path ⟨origin, es⟩
        pure { t with entries := t.entries.put key (.table sub.origin sub.entries) }
    | some (.tables l) =>
      match l.getLast? with
      | none => none
      | some es => do
        let sub ← within dotted f path ⟨.header, es⟩
        pure { t with entries := t.entries.put key (.tables (l.dropLast ++ [sub.entries])) }
    | some _ => none

/-- Sets the value of a key, dotted or not, that has none. A dotted key ends in a table that
dotted keys made. -/
def setKey (path : List String) (key : String) (v : Tree) (t : Table) : Option Table :=
  within true (fun t =>
    if (t.origin == .dotted) == path.isEmpty ∨ (t.entries.get? key).isSome then none
    else some { t with entries := t.entries.put key v }) path t

/-- Opens the table of a header. -/
def openTable (path : List String) (key : String) (t : Table) : Option Table :=
  within false (fun t =>
    match t.entries.get? key with
    | none => some { t with entries := t.entries.put key (.table .header []) }
    | some (.table .above es) => some { t with entries := t.entries.put key (.table .header es) }
    | some _ => none) path t

/-- Opens a further table of a repeated header. -/
def openNext (path : List String) (key : String) (t : Table) : Option Table :=
  within false (fun t =>
    match t.entries.get? key with
    | none => some { t with entries := t.entries.put key (.tables [[]]) }
    | some (.tables l) => some { t with entries := t.entries.put key (.tables (l ++ [[]])) }
    | some _ => none) path t

end TokenMarshal.Toml

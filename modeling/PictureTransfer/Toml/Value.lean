import PictureTransfer.Toml.Moment

/-!
# Values of a settings file

Keys hold values; a value may be a table of keys again.  Tables come to be in
several ways, and which way decides what may be added to them later: a key
with dots adds to tables that such keys made, a header to tables that headers
only passed through, and nothing to a table that is written as a value.

* `insert_nil` — what a key without dots adds to a table that lacks it.
-/

namespace PictureTransfer.Toml

/-- How a table came to be. -/
inductive Origin where
  /-- By a header of its own. -/
  | header
  /-- On the way to the table of a header. -/
  | passed
  /-- On the way to the last part of a key with dots. -/
  | dotted
  deriving DecidableEq, Repr

/-- A value.  No setting is a float or a moment, so these carry nothing. -/
inductive Value where
  | text (text : String)
  | integer (n : Int)
  | float
  | boolean (b : Bool)
  | moment
  | array (items : List Value)
  /-- A table that is written as a value. -/
  | record (entries : List (String × Value))
  | table (origin : Origin) (entries : List (String × Value))
  /-- The tables of a header that may be repeated. -/
  | tables (items : List (List (String × Value)))

/-- The keys of a table with their values, in the order of their
appearance. -/
abbrev Entries := List (String × Value)

namespace Entries

/-- The value of a key. -/
def get? (entries : Entries) (key : String) : Option Value := List.lookup key entries

/-- Changes the value of a key, or gives it one. -/
def alter (key : String) (change : Option Value → Option Value) :
    Entries → Option Entries
  | [] => (change none).map fun value => [(key, value)]
  | (k, value) :: rest =>
      if k = key then (change (some value)).map fun value => (k, value) :: rest
      else (alter key change rest).map ((k, value) :: ·)

/-- Changes the entries of the table at the end of a path.  Tables that are
missing on the way are made with the origin given; a key with dots may not
enter a table that has a header. -/
def descend (origin : Origin) (change : Origin → Entries → Option Entries) :
    Origin → List String → Entries → Option Entries
  | here, [], entries => change here entries
  | _, key :: path, entries =>
      entries.alter key fun
        | none => (descend origin change origin path []).map (.table origin)
        | some (.table o inner) =>
            if origin = .dotted ∧ o = .header then none
            else (descend origin change o path inner).map (.table o)
        | some (.tables items) => do
            let last ← items.getLast?
            let last ← descend origin change .header path last
            pure (.tables (items.dropLast ++ [last]))
        | some _ => none

/-- Adds a key that is not there yet. -/
def add (key : String) (value : Value) (entries : Entries) : Option Entries :=
  entries.alter key fun
    | none => some value
    | some _ => none

/-- Adds a value behind a key with dots, `path` being all but its last part.
The table it goes into has to be one that such keys made. -/
def insert (path : List String) (key : String) (value : Value) (entries : Entries) :
    Option Entries :=
  entries.descend .dotted
    (fun origin inner =>
      if origin = .dotted ↔ path = [] then none else inner.add key value)
    .header path

/-- Opens the table of a header, which must be new or only passed through so
far. -/
def openTable (path : List String) (key : String) (entries : Entries) : Option Entries :=
  entries.descend .passed
    (fun _ inner => inner.alter key fun
      | none => some (.table .header [])
      | some (.table .passed found) => some (.table .header found)
      | some _ => none)
    .header path

/-- Opens a further table of a header that may be repeated. -/
def openNext (path : List String) (key : String) (entries : Entries) : Option Entries :=
  entries.descend .passed
    (fun _ inner => inner.alter key fun
      | none => some (.tables [[]])
      | some (.tables items) => some (.tables (items ++ [[]]))
      | some _ => none)
    .header path

theorem insert_nil (key : String) (value : Value) (entries : Entries) :
    entries.insert [] key value = entries.add key value := by
  simp [insert, descend]

theorem add_eq_append {key : String} {entries : Entries}
    (h : ∀ entry ∈ entries, entry.1 ≠ key) (value : Value) :
    entries.add key value = some (entries ++ [(key, value)]) := by
  induction entries with
  | nil => rfl
  | cons entry rest ih =>
      have hne : entry.1 ≠ key := h entry List.mem_cons_self
      have hrest := ih fun e he => h e (List.mem_cons_of_mem _ he)
      simp only [add] at hrest
      simp [add, alter, hne, hrest]

end Entries

end PictureTransfer.Toml

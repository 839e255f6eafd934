/-
This file holds TOML values and the tables of a document while it is read. A table remembers how it
came to be, because only some tables may be opened again: one that a header opened may not, one that
only stood on the way to another may once, and one that dotted names made may only be extended by
dotted names.
-/

import ApplicationLedger.Number.Binary64

namespace ApplicationLedger

/-- A TOML value. -/
inductive Toml where
  | string (value : String)
  | integer (value : Int)
  | real (value : Binary64)
  | notANumber
  | boolean (value : Bool)
  /-- A date, a time of day or both, as written. -/
  | moment (written : String)
  | array (items : List Toml)
  | table (members : List (String × Toml))
  deriving Inhabited, Repr

namespace Toml

/-- How a table of a document came to be. -/
inductive Origin where
  /-- It was opened by a header of its own. -/
  | header
  /-- It stands on the way to a table with a header. -/
  | implied
  /-- It stands on the way to a value with a dotted name. -/
  | dotted
  deriving DecidableEq, Repr

/-- What a name of a table stands for while a document is read. -/
inductive Entry where
  | value (value : Toml)
  | table (origin : Origin) (members : List (String × Entry))
  /-- The tables of an array, each opened by a header. -/
  | tables (items : List (List (String × Entry)))
  deriving Inhabited

/-- The members of a table, in the order they were written. -/
abbrev Members := List (String × Entry)

/-- Changes what a name stands for, or gives a new name its meaning at the end. -/
def Members.alter (name : String) (change : Option Entry → Option Entry) :
    Members → Option Members
  | [] => do some [(name, ← change none)]
  | (other, entry) :: rest =>
    if other = name then do some ((name, ← change (some entry)) :: rest)
    else do some ((other, entry) :: (← alter name change rest))

/-- Changes the last of some tables. -/
def changeLast (change : Members → Option Members) :
    List Members → Option (List Members)
  | [] => none
  | [last] => do some [← change last]
  | first :: rest => do some (first :: (← changeLast change rest))

/-- Changes what the name at the end of a path stands for. Tables that are missing on the way are
implied by it; of an array of tables the way leads into the last one. -/
def Members.alterPath (change : Option Entry → Option Entry) :
    List String → Members → Option Members
  | [], _ => none
  | [name], members => members.alter name change
  | name :: rest, members =>
    members.alter name fun
      | none => do some (.table .implied (← alterPath change rest []))
      | some (.table origin inner) => do some (.table origin (← alterPath change rest inner))
      | some (.tables items) => do some (.tables (← changeLast (alterPath change rest) items))
      | some (.value _) => none

/-- Opens a table by a header. -/
def Members.openTable (path : List String) (members : Members) : Option Members :=
  members.alterPath (fun
    | none => some (.table .header [])
    | some (.table .implied inner) => some (.table .header inner)
    | some _ => none) path

/-- Opens one more table of an array by a header. -/
def Members.openItem (path : List String) (members : Members) : Option Members :=
  members.alterPath (fun
    | none => some (.tables [[]])
    | some (.tables items) => some (.tables (items ++ [[]]))
    | some _ => none) path

/-- Gives a dotted name its value, from a table on. The table that holds the value is the one where
the name starts, or one that dotted names made; no table with a header stands between. -/
def Members.assign (value : Toml) : (mayHold : Bool) → List String → Members → Option Members
  | _, [], _ => none
  | mayHold, [name], members =>
    if mayHold then
      members.alter name fun
        | none => some (.value value)
        | some _ => none
    else none
  | _, name :: rest, members =>
    members.alter name fun
      | none => do some (.table .dotted (← assign value true rest []))
      | some (.table .dotted inner) => do some (.table .dotted (← assign value true rest inner))
      | some (.table .implied inner) => do
        some (.table .implied (← assign value false rest inner))
      | some (.tables items) => do some (.tables (← changeLast (assign value false rest) items))
      | some _ => none

/-- Gives a dotted name its value in the table that a header opened; the empty path is the document
itself. -/
def Members.assignBelow (header path : List String) (value : Toml) (members : Members) :
    Option Members :=
  if header.isEmpty then members.assign value true path
  else
    members.alterPath (fun
      | some (.table origin inner) => do
        some (.table origin (← Members.assign value true path inner))
      | some (.tables items) => do
        some (.tables (← changeLast (Members.assign value true path) items))
      | _ => none) header

mutual

/-- What an entry comes to when nothing more is read. -/
def Entry.finished : Entry → Toml
  | .value value => value
  | .table _ members => .table (finishedMembers members)
  | .tables items => .array (finishedItems items)

/-- The members of a finished table. -/
def finishedMembers : List (String × Entry) → List (String × Toml)
  | [] => []
  | (name, entry) :: rest => (name, entry.finished) :: finishedMembers rest

/-- The tables of a finished array. -/
def finishedItems : List (List (String × Entry)) → List Toml
  | [] => []
  | item :: rest => .table (finishedMembers item) :: finishedItems rest

end

end Toml

end ApplicationLedger

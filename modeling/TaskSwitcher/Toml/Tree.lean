import TaskSwitcher.Value

/-!
# The tables of a document

A document in TOML builds one tree out of headers and entries that may come in any order. How a table
came into being decides what may still be added to it: a header opens a table once, a table that only
lies on the way to another one may still get a header of its own, and a dotted key extends only tables
that dotted keys have made. Anything else would define something twice and is refused.
-/

namespace TaskSwitcher.Toml

/-- How a table came into being. -/
inductive Origin where
  /-- It has a header of its own, or is the document itself. -/
  | header
  /-- It lies on the way to the table of some header. -/
  | passage
  /-- It was made by a dotted key. -/
  | dotted
deriving DecidableEq

/-- A part of a document. -/
inductive Node where
  /-- A finished value, to which nothing can be added. -/
  | leaf (value : Value)
  | table (origin : Origin) (entries : List (String × Node))
  /-- The tables of repeated headers, in order. -/
  | tables (rows : List (List (String × Node)))

/-- The named parts of a table. -/
abbrev Entries := List (String × Node)

/-- The entries with the part of one name replaced. A change may refuse. -/
def Entries.alter (name : String) (change : Option Node → Option Node) : Entries → Option Entries
  | [] => (change none).map fun node => [(name, node)]
  | entry :: rest =>
      if entry.1 = name then (change (some entry.2)).map fun node => (name, node) :: rest
      else (Entries.alter name change rest).map (entry :: ·)

/-- Changes the table at the end of a path. Tables that are missing on the way are made with the origin
`made`; of repeated tables the last is meant. -/
def Entries.descend (made : Origin) (change : Origin → Entries → Option Entries) :
    List String → Origin → Entries → Option Entries
  | [], origin, entries => change origin entries
  | name :: path, _, entries =>
      entries.alter name fun
        | none => (Entries.descend made change path made []).map (.table made)
        | some (.leaf _) => none
        | some (.table origin inner) =>
            if made = .dotted ∧ origin = .header then none
            else (Entries.descend made change path origin inner).map (.table origin)
        | some (.tables rows) =>
            match rows.reverse with
            | [] => none
            | row :: before =>
                (Entries.descend made change path .header row).map fun row =>
                  .tables (before.reverse ++ [row])

/-- Adds a value under a dotted key, whose last part is `name`. -/
def Entries.addValue (path : List String) (name : String) (value : Value) (entries : Entries) :
    Option Entries :=
  entries.descend .dotted
    (fun origin inner =>
      if (origin = .dotted) = path.isEmpty then none
      else inner.alter name fun
        | none => some (.leaf value)
        | some _ => none)
    path .header

/-- Opens the table of a header. -/
def Entries.openTable (path : List String) (name : String) (entries : Entries) : Option Entries :=
  entries.descend .passage
    (fun _ inner => inner.alter name fun
      | none => some (.table .header [])
      | some (.table .passage content) => some (.table .header content)
      | some _ => none)
    path .header

/-- Opens one more table of a repeated header. -/
def Entries.addRow (path : List String) (name : String) (entries : Entries) : Option Entries :=
  entries.descend .passage
    (fun _ inner => inner.alter name fun
      | none => some (.tables [[]])
      | some (.tables rows) => some (.tables (rows ++ [[]]))
      | some _ => none)
    path .header

/-- Adds a value under a dotted key to the table of the header `header`. -/
def Entries.addWithin (header path : List String) (name : String) (value : Value)
    (entries : Entries) : Option Entries :=
  entries.descend .passage (fun _ inner => inner.addValue path name value) header .header

mutual

/-- The value that a part of a document stands for. -/
def Node.value : Node → Value
  | .leaf value => value
  | .table _ entries => .record (Entries.values entries)
  | .tables rows => .list (Entries.rowValues rows)

/-- The values that the parts of a table stand for. -/
def Entries.values : List (String × Node) → List (String × Value)
  | [] => []
  | (name, node) :: rest => (name, Node.value node) :: Entries.values rest

/-- The values that the tables of repeated headers stand for. -/
def Entries.rowValues : List (List (String × Node)) → List Value
  | [] => []
  | row :: rest => .record (Entries.values row) :: Entries.rowValues rest

end

end TaskSwitcher.Toml

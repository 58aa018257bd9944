import ClientMigration.Value.Basic

/-! # Tables of TOML

A document grows by headers and by keys with points. Each table remembers how it came about, because a table
is defined only once. -/

namespace ClientMigration.Toml

/-- How a table came about: on the way to another one, by keys with points in one section of the document,
    or by a header of its own. -/
inductive Origin where
  | passing
  | keys (sectionNumber : Nat)
  | header
deriving DecidableEq, Repr

/-- A part of a document: a value for good, a table, or a list of tables of which the last one grows. -/
inductive Node where
  | leaf (v : Value)
  | table (origin : Origin) (entries : List (String × Node))
  | tables (earlier : List Value) (last : List (String × Node))

abbrev Entries := List (String × Node)

mutual

/-- The value of a part. -/
def Node.toValue : Node → Value
  | .leaf v => v
  | .table _ entries => .object (fieldsOf entries)
  | .tables earlier last => .list (earlier ++ [.object (fieldsOf last)])

/-- The fields of a table. -/
def fieldsOf : List (String × Node) → List (String × Value)
  | [] => []
  | (k, n) :: rest => (k, n.toValue) :: fieldsOf rest

end

namespace Entries

/-- The entries with one changed. -/
def replace (k : String) (n : Node) (entries : Entries) : Entries :=
  entries.map fun e => if e.1 = k then (k, n) else e

/-- The entries with those of the table at a path changed; tables on the way are made. -/
def within (change : Entries → Option Entries) : List String → Entries → Option Entries
  | [], entries => change entries
  | k :: path, entries =>
    match entries.lookup k with
    | none => (within change path []).map fun inner => entries ++ [(k, .table .passing inner)]
    | some (.table origin inner) =>
      (within change path inner).map fun inner => entries.replace k (.table origin inner)
    | some (.tables earlier last) =>
      (within change path last).map fun last => entries.replace k (.tables earlier last)
    | some (.leaf _) => none

/-- The entries with a table that a header opens. -/
def openTable (k : String) (entries : Entries) : Option Entries :=
  match entries.lookup k with
  | none => some (entries ++ [(k, .table .header [])])
  | some (.table .passing inner) => some (entries.replace k (.table .header inner))
  | some _ => none

/-- The entries with one more table in a list of tables. -/
def addTable (k : String) (entries : Entries) : Option Entries :=
  match entries.lookup k with
  | none => some (entries ++ [(k, .tables [] [])])
  | some (.tables earlier last) => some (entries.replace k (.tables (earlier ++ [.object (fieldsOf last)]) []))
  | some _ => none

/-- The entries with a value at a path. The tables on the way are those that keys of the same section made,
    or that have no definition yet. -/
def put (sectionNumber : Nat) (v : Value) : List String → Entries → Option Entries
  | [], _ => none
  | [k], entries => if (entries.lookup k).isSome then none else some (entries ++ [(k, .leaf v)])
  | k :: path, entries =>
    match entries.lookup k with
    | none => (put sectionNumber v path []).map fun inner => entries ++ [(k, .table (.keys sectionNumber) inner)]
    | some (.table origin inner) =>
      if origin = .passing ∨ origin = .keys sectionNumber then
        (put sectionNumber v path inner).map fun inner => entries.replace k (.table (.keys sectionNumber) inner)
      else none
    | some _ => none

end Entries

end ClientMigration.Toml

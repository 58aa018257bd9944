import ClientMigration.Fault
import ClientMigration.Signature

/-! # Catalogs

A catalog lists signatures in the order of registration, one for each idiom. It is refused if an idiom
comes twice or a recipe's edits are not listed in strictly increasing order. -/

namespace ClientMigration

structure Catalog where
  entries : List Signature
deriving DecidableEq, Repr

namespace Catalog

/-- Every number is greater than the one before it. -/
def strictlyIncreasing : List Int → Bool
  | a :: b :: rest => decide (a < b) && strictlyIncreasing (b :: rest)
  | _ => true

/-- The failure of a recipe whose edits are out of order, which is reported with their orders. -/
def recipeFailure? (r : Recipe) : Option Failure :=
  let orders := r.edits.map (·.order)
  if strictlyIncreasing orders then none
  else some (.reporting (.list (orders.map .ofInt)) (.unorderedEdits r.name orders))

/-- The failure of a signature after the given idioms; a repeated idiom comes before failures of its
    recipes. -/
def entryFailure? (seen : List Idiom) (s : Signature) : Option Failure :=
  if seen.contains s.idiom then some (.fault (.duplicateIdiom s.idiom)) else s.recipes.findSome? recipeFailure?

/-- The failure of the first signature that has one. -/
def firstFailure? (seen : List Idiom) : List Signature → Option Failure
  | [] => none
  | s :: rest =>
    match entryFailure? seen s with
    | some f => some f
    | none => firstFailure? (s.idiom :: seen) rest

/-- The catalog of a consistent list of signatures. -/
def ofList (entries : List Signature) : Except Failure Catalog :=
  match firstFailure? [] entries with
  | some f => .error f
  | none => .ok ⟨entries⟩

/-- The signature of an idiom. -/
def get? (c : Catalog) (i : Idiom) : Option Signature := c.entries.find? (·.idiom == i)

/-- The signature of the idiom with a name in any letter case, with surrounding blanks. -/
def named? (c : Catalog) (name : String) : Option Signature := (Idiom.parse? name).bind c.get?

/-- The first recipe of a name, in the order of registration. -/
def recipe? (c : Catalog) (name : String) : Option Recipe :=
  (c.entries.flatMap (·.recipes)).find? (·.name == name)

def idioms (c : Catalog) : List Idiom := c.entries.map (·.idiom)

end Catalog

end ClientMigration

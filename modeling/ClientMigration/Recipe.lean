import ClientMigration.Dialect
import ClientMigration.Value.Basic

/-! # Recipes

An edit looks for a literal text and puts another in its place. A recipe is an ordered list of edits that
turns one idiom into its form in the target library. -/

namespace ClientMigration

/-- What an edit does with its target. -/
inductive EditAction where
  | replace
  | add
  | remove
  | modify
  | wrap
deriving DecidableEq, Repr, Inhabited

namespace EditAction

def name : EditAction → String
  | .replace => "replace"
  | .add => "add"
  | .remove => "remove"
  | .modify => "modify"
  | .wrap => "wrap"

def all : List EditAction := [.replace, .add, .remove, .modify, .wrap]

def ofName? (s : String) : Option EditAction := all.find? (·.name == s)

end EditAction

structure Edit where
  order : Int
  action : EditAction
  target : String
  newCode : String
  explanation : String
  keepComments : Bool := true
deriving DecidableEq, Repr

namespace Edit

/-- The text that takes the place of the target. -/
def replacement (e : Edit) : String :=
  match e.action with
  | .remove => ""
  | .add => e.target ++ e.newCode
  | .replace | .modify | .wrap => e.newCode

def toValue (e : Edit) : Value :=
  .object [("order", .ofInt e.order), ("action", .str e.action.name), ("target", .str e.target),
    ("new_code", .str e.newCode), ("explanation", .str e.explanation), ("preserve_comments", .bool e.keepComments)]

end Edit

structure Recipe where
  name : String
  description : String
  dialects : List Dialect
  edits : List Edit
  risks : List String
  validation : List String
deriving DecidableEq, Repr

namespace Recipe

def appliesTo (r : Recipe) (d : Dialect) : Bool := r.dialects.contains d

/-- The edits by ascending order; equal orders keep their places. -/
def ordered (r : Recipe) : List Edit := r.edits.mergeSort fun a b => a.order ≤ b.order

/-- The recipe of an idiom that has none of its own: it edits nothing. -/
def fallback : Recipe := ⟨"default-conversion", "Default conversion strategy", [], [], [], []⟩

def toValue (r : Recipe) : Value :=
  .object [("name", .str r.name), ("description", .str r.description),
    ("applicability", .texts (r.dialects.map (·.name))), ("steps", .list (r.ordered.map (·.toValue))),
    ("risks", .texts r.risks), ("validation", .texts r.validation)]

end Recipe

end ClientMigration

import ClientMigration.Catalog.Builtin
import ClientMigration.CommandLine.Workspace

/-! # The command that lists the catalog -/

namespace ClientMigration.CommandLine

structure ListIdioms where
  dialect : Option String
  json : Bool
deriving DecidableEq, Repr

namespace ListIdioms

def synopsis : Synopsis := ⟨some "patterns", "[OPTIONS]"⟩

def options : List OptionSpec := [dialectOption, jsonOption, helpOption]

def ofWords (w : Words) : Except UsageFault ListIdioms := do
  Check.all w [] w.rest
  return ⟨w.value? dialectOption, w.has jsonOption⟩

/-- The dialects to show: the one asked for, or all. -/
def dialects (q : ListIdioms) : Except Fault (List Dialect) :=
  match q.dialect with
  | none => .ok Dialect.all
  | some name => if name.isEmpty then .ok Dialect.all else (readDialect name).map ([·])

def recipeLine (r : Recipe) : String :=
  "      -> " ++ r.name ++ " (" ++ String.intercalate ", " (r.dialects.map (·.name)) ++ s!", {r.edits.length} steps)"

/-- The lines that show a signature. -/
def signatureLines (ds : List Dialect) (s : Signature) : List String :=
  ["  [" ++ s.idiom.name ++ "] " ++ s.rating.name] ++
  ds.flatMap (fun d => (s.patternsFor d).map fun p => "      " ++ d.name ++ ": " ++ p.text) ++
  s.recipes.map recipeLine ++ [""]

def toValue (ds : List Dialect) (entries : List Signature) : Value :=
  .object [("patterns", .list (entries.map fun s => s.toValueWith (ds.map fun d => (d, s.patternsFor d)))),
    ("total", .ofNat entries.length)]

def run (q : ListIdioms) (c : Context) : Step Ending :=
  match q.dialects with
  | .error f => .ofFailure c.console (.fault f)
  | .ok ds => do
    let entries := Catalog.builtin.entries
    if q.json then Step.print (Json.indented (toValue ds entries))
    else Step.printAll (entries.flatMap (signatureLines ds))
    return .success

end ListIdioms

end ClientMigration.CommandLine

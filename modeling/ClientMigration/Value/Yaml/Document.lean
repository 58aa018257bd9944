import ClientMigration.Value.Yaml.Node
import ClientMigration.Value.Yaml.Plain

/-! # YAML documents

A document stands for a value. A mapping may take in the entries of others, under a key for merging; its
own entries go before those. -/

namespace ClientMigration.Yaml

/-- The plain scalar that, as a key, merges other mappings into one. -/
def mergeMark : String := "<<"

/-- The plain scalar that stands for a default value, which is no value of its own. -/
def defaultMark : String := "="

/-- The value of a scalar with a tag. -/
def taggedValue (tag text : String) : Except Trouble Value :=
  if tag = standard "str" then .ok (.str text)
  else if tag = standard "null" then .ok .null
  else if tag = standard "bool" then do return .bool (← truthOf text)
  else if tag = standard "int" then do return .num (.int (← intOf text.toList))
  else if tag = standard "float" then do return .num (.float (← floatOf text.toList))
  else if tag = standard "timestamp" then
    match momentOf false text.toList with
    | some m => momentValue m
    | none => .error .malformed
  else .error .malformed

/-- The tags that scalars may have. -/
def scalarTags : List String := ["str", "null", "bool", "int", "float", "timestamp"].map standard

/-- Whether a key merges mappings. -/
def isMergeKey : Node → Bool
  | .plain text => text == mergeMark
  | .scalar tag _ => tag == standard "merge"
  | .sequence tag _ | .mapping tag _ => tag == some (standard "merge")

/-- Whether a key stands for a default value. -/
def isDefaultKey : Node → Bool
  | .plain text => text == defaultMark
  | .scalar tag _ => tag == standard "value"
  | .sequence tag _ | .mapping tag _ => tag == some (standard "value")

mutual

/-- The text of a scalar; a mapping with a default value may take its place. -/
def scalarText : Node → Except Trouble String
  | .plain text | .scalar _ text => .ok text
  | .sequence _ _ => .error .malformed
  | .mapping _ entries => defaultText entries

/-- The text of the first default value among some entries. -/
def defaultText : List (Node × Node) → Except Trouble String
  | [] => .error .malformed
  | (k, v) :: rest => if isDefaultKey k then scalarText v else defaultText rest

end

/-- Collections are no keys. -/
def checkKey (v : Value) : Except Trouble Value :=
  match v with
  | .list _ | .object _ | .mapping _ => .error .malformed
  | v => .ok v

/-- The entries of a mapping: those merged into it, and its own. -/
structure Entries where
  merged : List (Value × Value) := []
  own : List (Value × Value) := []

def Entries.all (es : Entries) : List (Value × Value) := es.merged ++ es.own

mutual

/-- The value of a node. -/
def valueOfNode : Node → Except Trouble Value
  | .plain text => if text = mergeMark ∨ text = defaultMark then .error .malformed else plainValue text
  | .scalar tag text => taggedValue tag text
  | .sequence tag items => do
    if tag.all (· == standard "seq") then return .list (← valuesOfNodes items) else throw .malformed
  | .mapping tag entries => do
    match tag.filter scalarTags.contains with
    | some t => taggedValue t (← defaultText entries)
    | none =>
      if tag.all (· == standard "map") then return Value.ofEntries (← entriesOf entries).all else throw .malformed

def valuesOfNodes : List Node → Except Trouble (List Value)
  | [] => .ok []
  | n :: ns => do return (← valueOfNode n) :: (← valuesOfNodes ns)

/-- The value of a key; the mark of a default stands for itself there. -/
def keyOfNode : Node → Except Trouble Value
  | .plain text => if text = defaultMark then .ok (.str text) else do checkKey (← plainValue text)
  | .scalar tag text =>
    if tag = standard "value" then .ok (.str text) else do checkKey (← taggedValue tag text)
  | _ => .error .malformed

/-- The values of the entries of a mapping. -/
def entriesOf : List (Node × Node) → Except Trouble Entries
  | [] => .ok {}
  | (k, v) :: rest => do
    if isMergeKey k then
      let found ← mergedBy v
      let es ← entriesOf rest
      return { es with merged := found ++ es.merged }
    else
      let entry := (← keyOfNode k, ← valueOfNode v)
      let es ← entriesOf rest
      return { es with own := entry :: es.own }

/-- The entries that a mapping, or each of several, brings in by merging. Of several, the first goes before
    the others. -/
def mergedBy : Node → Except Trouble (List (Value × Value))
  | .mapping _ entries => do return (← entriesOf entries).all
  | .sequence _ items => do return (← mergedByEach items).reverse.flatten
  | _ => .error .malformed

def mergedByEach : List Node → Except Trouble (List (List (Value × Value)))
  | [] => .ok []
  | .mapping _ entries :: ns => do return (← entriesOf entries).all :: (← mergedByEach ns)
  | _ :: _ => .error .malformed

end

/-- The characters that a document may hold. -/
def isAllowed (c : Char) : Bool :=
  let n := c.toNat
  n == 0x09 || n == 0x0A || n == 0x0D || (0x20 ≤ n && n ≤ 0x7E) || n == 0x85 || (0xA0 ≤ n && n ≤ 0xFFFD) ||
  0x10000 ≤ n

/-- The value that a document writes; null for an empty one. -/
def read (s : String) : Except Trouble Value := do
  let cs := s.toList
  if !cs.all isAllowed then throw .malformed
  match ← document (← tokens cs) with
  | none => return .null
  | some n => valueOfNode n

end ClientMigration.Yaml

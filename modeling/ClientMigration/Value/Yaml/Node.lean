import ClientMigration.Value.Yaml.Token

/-! # Nodes of YAML

The tokens of a document make a tree of scalars, sequences and mappings. A node may have a tag, which says
what it stands for; an anchor gives it a name, and an alias stands for the node of a name. -/

namespace ClientMigration.Yaml

inductive Node where
  | plain (text : String)
  | scalar (tag : String) (text : String)
  | sequence (tag : Option String) (items : List Node)
  | mapping (tag : Option String) (entries : List (Node × Node))
deriving Inhabited

/-- What the tags of the language itself begin with. -/
def standardStem : String := "tag:yaml.org,2002:"

/-- A tag of the language itself. -/
def standard (name : String) : String := standardStem ++ name

/-- A node that is left out. -/
def Node.absent : Node := .plain ""

/-- What is left to read: the tokens, the nodes that have names, and the handles of tags. -/
structure Feed where
  tokens : List Token
  anchors : List (String × Node) := []
  handles : List (String × String) := [("!", "!"), ("!!", standardStem)]

namespace Feed

def peek (f : Feed) : Option Token := f.tokens.head?

def next (f : Feed) : Feed := { f with tokens := f.tokens.tail }

/-- Whether the next token is one of some. -/
def at? (f : Feed) (ts : List Token) : Bool := f.peek.any ts.contains

/-- The feed behind a token, which must come next. -/
def expect (f : Feed) (t : Token) : Except Trouble Feed :=
  if f.peek = some t then .ok f.next else .error .malformed

def name (f : Feed) (anchor : Option String) (n : Node) : Except Trouble Feed :=
  match anchor with
  | none => .ok f
  | some a => if (f.anchors.lookup a).isSome then .error .malformed else .ok { f with anchors := (a, n) :: f.anchors }

/-- The whole tag of a handle and a suffix. -/
def wholeTag (f : Feed) (handle : Option String) (suffix : String) : Except Trouble String :=
  match handle with
  | none => .ok suffix
  | some h =>
    match f.handles.lookup h with
    | some stem => .ok (stem ++ suffix)
    | none => .error .malformed

end Feed

/-- What stands before a node. -/
structure Properties where
  anchor : Option String := none
  tag : Option String := none

namespace Properties

/-- The tag, unless it says nothing. -/
def specific? (p : Properties) : Option String := p.tag.filter (· != "!")

def none? (p : Properties) : Bool := p.anchor.isNone && p.tag.isNone

/-- An anchor and a tag, in either order, one of each at most. -/
def read (f : Feed) : Except Trouble (Properties × Feed) :=
  match f.tokens with
  | .anchor a :: .tag h s :: rest => do return (⟨some a, some (← f.wholeTag h s)⟩, { f with tokens := rest })
  | .tag h s :: .anchor a :: rest => do return (⟨some a, some (← f.wholeTag h s)⟩, { f with tokens := rest })
  | .anchor a :: rest => .ok (⟨some a, none⟩, { f with tokens := rest })
  | .tag h s :: rest => do return (⟨none, some (← f.wholeTag h s)⟩, { f with tokens := rest })
  | _ => .ok ({}, f)

/-- A scalar with these properties. Without a tag, one in quotes is a text, and a plain one is what its form
    says. -/
def scalar (p : Properties) (text : String) (plain : Bool) : Node :=
  match p.specific? with
  | some t => .scalar t text
  | none => if plain || p.tag.isSome then .plain text else .scalar (standard "str") text

end Properties

/-- Where a node may stand: in a flow collection, in a block, or at a key or value of a block mapping, where
    a sequence needs no indentation of its own. -/
inductive Setting where
  | flow
  | block
  | entry
deriving DecidableEq, Repr

mutual

/-- The node that comes next. -/
def node : (fuel : Nat) → Setting → Feed → Except Trouble (Node × Feed)
  | 0, _, _ => .error .malformed
  | fuel + 1, setting, f =>
    match f.peek with
    | some (.alias a) =>
      match f.anchors.lookup a with
      | some n => .ok (n, f.next)
      | none => .error .malformed
    | _ => do
      let (p, f) ← Properties.read f
      let (n, g) ← content fuel setting p f
      return (n, ← g.name p.anchor n)

/-- The content of a node with its properties. -/
def content : (fuel : Nat) → Setting → Properties → Feed → Except Trouble (Node × Feed)
  | 0, _, _, _ => .error .malformed
  | fuel + 1, setting, p, f =>
    match f.peek with
    | some (.scalar text plain) => .ok (p.scalar text plain, f.next)
    | some .flowSequence => do
      let (items, f) ← flowItems fuel true f.next
      return (.sequence p.specific? items, f)
    | some .flowMapping => do
      let (entries, f) ← flowEntries fuel true f.next
      return (.mapping p.specific? entries, f)
    | some .blockEntry =>
      if setting = .entry then do
        let (items, f) ← blockItems fuel false f
        return (.sequence p.specific? items, f)
      else empty p f
    | some .blockSequence =>
      if setting = .flow then empty p f
      else do
        let (items, f) ← blockItems fuel true f.next
        return (.sequence p.specific? items, ← f.expect .blockEnd)
    | some .blockMapping =>
      if setting = .flow then empty p f
      else do
        let (entries, f) ← blockEntries fuel f.next
        return (.mapping p.specific? entries, ← f.expect .blockEnd)
    | _ => empty p f

/-- A node without content, which needs a property. -/
def empty (p : Properties) (f : Feed) : Except Trouble (Node × Feed) :=
  if p.none? then .error .malformed else .ok (p.scalar "" true, f)

/-- The items of a block sequence, which may stand at the indentation of its parent. -/
def blockItems : (fuel : Nat) → (indented : Bool) → Feed → Except Trouble (List Node × Feed)
  | 0, _, _ => .error .malformed
  | fuel + 1, indented, f =>
    if f.peek ≠ some .blockEntry then .ok ([], f)
    else do
      let f := f.next
      let ends := if indented then [Token.blockEntry, .blockEnd] else [.blockEntry, .key, .value, .blockEnd]
      let (n, f) ← if f.at? ends then pure (Node.absent, f) else node fuel .block f
      let (ns, f) ← blockItems fuel indented f
      return (n :: ns, f)

/-- The entries of a block mapping. -/
def blockEntries : (fuel : Nat) → Feed → Except Trouble (List (Node × Node) × Feed)
  | 0, _ => .error .malformed
  | fuel + 1, f =>
    if f.peek ≠ some .key then .ok ([], f)
    else do
      let (k, f) ← nodeUnless fuel .entry [.key, .value, .blockEnd] f.next
      let (v, f) ← valueOf fuel .entry [.key, .value, .blockEnd] f
      let (entries, f) ← blockEntries fuel f
      return ((k, v) :: entries, f)

/-- The node that comes next, or an absent one before some tokens. -/
def nodeUnless : (fuel : Nat) → Setting → List Token → Feed → Except Trouble (Node × Feed)
  | 0, _, _, _ => .error .malformed
  | fuel + 1, setting, ends, f => if f.at? ends then .ok (Node.absent, f) else node fuel setting f

/-- The value of an entry, absent without a colon. -/
def valueOf : (fuel : Nat) → Setting → List Token → Feed → Except Trouble (Node × Feed)
  | 0, _, _, _ => .error .malformed
  | fuel + 1, setting, ends, f =>
    if f.peek = some .value then nodeUnless fuel setting ends f.next else .ok (Node.absent, f)

/-- The items of a flow sequence up to its closing bracket. An item with a key is a mapping of one entry. -/
def flowItems : (fuel : Nat) → (first : Bool) → Feed → Except Trouble (List Node × Feed)
  | 0, _, _ => .error .malformed
  | fuel + 1, first, f =>
    if f.peek = some .flowSequenceEnd then .ok ([], f.next)
    else do
      let f ← if first then pure f else f.expect .flowEntry
      if f.peek = some .flowSequenceEnd then return ([], f.next)
      let (n, f) ←
        if f.peek = some .key then do
          let (k, f) ← nodeUnless fuel .flow [.value, .flowEntry, .flowSequenceEnd] f.next
          let (v, f) ← valueOf fuel .flow [.flowEntry, .flowSequenceEnd] f
          pure (Node.mapping none [(k, v)], f)
        else node fuel .flow f
      let (ns, f) ← flowItems fuel false f
      return (n :: ns, f)

/-- The entries of a flow mapping up to its closing brace. An entry without a key has no value. -/
def flowEntries : (fuel : Nat) → (first : Bool) → Feed → Except Trouble (List (Node × Node) × Feed)
  | 0, _, _ => .error .malformed
  | fuel + 1, first, f =>
    if f.peek = some .flowMappingEnd then .ok ([], f.next)
    else do
      let f ← if first then pure f else f.expect .flowEntry
      if f.peek = some .flowMappingEnd then return ([], f.next)
      let (entry, f) ←
        if f.peek = some .key then do
          let (k, f) ← nodeUnless fuel .flow [.value, .flowEntry, .flowMappingEnd] f.next
          let (v, f) ← valueOf fuel .flow [.flowEntry, .flowMappingEnd] f
          pure ((k, v), f)
        else do
          let (k, f) ← node fuel .flow f
          pure ((k, Node.absent), f)
      let (entries, f) ← flowEntries fuel false f
      return (entry :: entries, f)

end

/-! ### Documents -/

/-- The feed behind the directives of a document, with the handles that they give. -/
def directives : (version : Bool) → (handles : List (String × String)) → List Token →
    Except Trouble (List (String × String) × List Token)
  | version, handles, .directive d :: rest =>
    match d with
    | .version major => if version ∨ major ≠ 1 then .error .malformed else directives true handles rest
    | .handle name stem =>
      if (handles.lookup name).isSome then .error .malformed else directives version ((name, stem) :: handles) rest
    | .other => directives version handles rest
  | _, handles, ts => .ok (handles, ts)

/-- Whether a token begins or ends a document. -/
def Token.bounds : Token → Bool
  | .directive _ | .documentStart | .documentEnd => true
  | _ => false

/-- The node of a document that begins with a mark, behind its directives. -/
def markedDocument (fuel : Nat) (ts : List Token) : Except Trouble (Node × Feed) := do
  let (handles, rest) ← directives false [] ts
  let f ← Feed.expect { tokens := rest, handles := handles ++ ({ tokens := [] } : Feed).handles } .documentStart
  if f.tokens.head?.all Token.bounds then return (.absent, f) else node fuel .block f

/-- The one node of a stream of tokens; none if there is none. -/
def document (ts : List Token) : Except Trouble (Option Node) := do
  let fuel := 4 * ts.length + 4
  match ts with
  | [] => return none
  | t :: _ =>
    let (n, f) ←
      match t with
      | .directive _ | .documentStart => markedDocument fuel ts
      | _ => node fuel .block { tokens := ts }
    if f.tokens.all (· == .documentEnd) then return some n else throw .malformed

end ClientMigration.Yaml

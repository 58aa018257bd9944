import ClientMigration.Regex.CharSet

/-! # Regular expressions

Expressions over sets of characters with anchors, repetition, numbered groups, and looks at what lies
ahead or behind. Matching tries the alternatives in the order written and the longer repetition first,
unless the shorter one is asked for, and answers with the first way through that the rest of the match
accepts. -/

namespace ClientMigration

/-- A place between two characters. The end of the text may stand before one final newline. -/
inductive Anchor where
  | start
  | lineStart
  | finish
  | lineEnd
  | textEnd
  | boundary (wanted : Bool)
  | asciiBoundary (wanted : Bool)
deriving DecidableEq, Repr

inductive Regex where
  | empty
  | set (s : CharSet)
  | anchor (a : Anchor)
  | seq (first second : Regex)
  | alt (first second : Regex)
  /-- As many turns as possible, fewer if the rest of the match needs it. -/
  | many (inner : Regex) (least : Nat) (most : Option Nat)
  /-- As few turns as possible, more if the rest of the match needs it. -/
  | few (inner : Regex) (least : Nat) (most : Option Nat)
  /-- As many turns as possible, each taken for good. -/
  | firm (inner : Regex) (least : Nat) (most : Option Nat)
  | group (index : Nat) (inner : Regex)
  /-- The first way through the inner expression, taken for good. -/
  | once (inner : Regex)
  /-- Whether the inner expression matches from so many characters back on; nothing is passed. -/
  | look (back : Nat) (wanted : Bool) (inner : Regex)
  /-- What a group holds, once more. -/
  | again (index : Nat) (fold : CaseFolding)
  /-- One of two expressions, by whether a group holds anything. -/
  | provided (index : Nat) (yes no : Regex)
deriving DecidableEq, Repr, Inhabited

/-- A place in a text: how many characters lie before it, these from the nearest on, and what follows. -/
structure Cursor where
  position : Nat
  before : List Char
  rest : List Char
deriving DecidableEq, Repr

namespace Cursor

def ofText (text : List Char) : Cursor := ⟨0, [], text⟩

def previous (c : Cursor) : Option Char := c.before.head?

/-- The place so many characters back. -/
def back? (c : Cursor) (n : Nat) : Option Cursor :=
  if n ≤ c.position then some ⟨c.position - n, c.before.drop n, (c.before.take n).reverse ++ c.rest⟩ else none

/-- The place so many characters ahead. -/
def ahead (c : Cursor) (n : Nat) : Cursor := ⟨c.position + n, (c.rest.take n).reverse ++ c.before, c.rest.drop n⟩

/-- The places from the first one to the end of the text. -/
def placesFrom (position : Nat) (before : List Char) : List Char → List Cursor
  | [] => [⟨position, before, []⟩]
  | c :: cs => ⟨position, before, c :: cs⟩ :: placesFrom (position + 1) (c :: before) cs

/-- Every place of a text, in order. -/
def places (text : List Char) : List Cursor := placesFrom 0 [] text

/-- Whether one of the two characters beside the place is of a class and the other is not. In an empty text
    no place is between two classes, nor is it within one. -/
def between (c : Cursor) (p : Char → Bool) (wanted : Bool) : Bool :=
  (c.previous.isSome || !c.rest.isEmpty) && (c.previous.any p != c.rest.head?.any p) == wanted

end Cursor

/-- A letter, a digit or the underscore, in ASCII. -/
def isAsciiWord (c : Char) : Bool := c.isAlphanum || c == '_'

/-- Whether an anchor holds at a place. -/
def Anchor.holds (c : Cursor) : Anchor → Bool
  | .start => c.position == 0
  | .lineStart => c.previous.all (· == '\n')
  | .finish => c.rest == [] || c.rest == ['\n']
  | .lineEnd => c.rest.head?.all (· == '\n')
  | .textEnd => c.rest == []
  | .boundary wanted => c.between Text.isWord wanted
  | .asciiBoundary wanted => c.between isAsciiWord wanted

/-- A match on its way: the place reached, and what the groups hold, the latest first. -/
structure Progress where
  cursor : Cursor
  groups : List (Nat × List Char)
deriving DecidableEq, Repr

namespace Regex

/-- A way to match: from a progress, through the rest of the match, to an answer. -/
abbrev Way (α : Type) := Progress → (Progress → Option α) → Option α

/-- So many turns, one after the other. -/
def turns {α : Type} (way : Way α) : Nat → Way α
  | 0, p, k => k p
  | n + 1, p, k => way p fun q => turns way n q k

/-- Up to so many further turns, as many as possible first; one that does not move on is the last. -/
def furtherTurns {α : Type} (way : Way α) : Nat → Way α
  | 0, p, k => k p
  | n + 1, p, k =>
    (way p fun q => if p.cursor.position < q.cursor.position then furtherTurns way n q k else k q).orElse
      fun _ => k p

/-- Up to so many further turns, as few as possible first; one that does not move on is the last. -/
def fewTurns {α : Type} (way : Way α) : Nat → Way α
  | 0, p, k => k p
  | n + 1, p, k =>
    (k p).orElse fun _ =>
      way p fun q => if p.cursor.position < q.cursor.position then fewTurns way n q k else k q

/-- So many turns, each taken for good. -/
def firmTurns (turn : Progress → Option Progress) : Nat → Progress → Option Progress
  | 0, p => some p
  | n + 1, p => (turn p).bind (firmTurns turn n)

/-- Up to so many further turns, each taken for good; one that does not move on is the last. -/
def furtherFirmTurns (turn : Progress → Option Progress) : Nat → Progress → Progress
  | 0, p => p
  | n + 1, p =>
    match turn p with
    | none => p
    | some q => if p.cursor.position < q.cursor.position then furtherFirmTurns turn n q else q

/-- How many turns beyond the least there may be: as many as characters ahead, and one that does not move on. -/
def roomFor (least : Nat) (most : Option Nat) (p : Progress) : Nat :=
  let room := p.cursor.rest.length + 1
  match most with
  | none => room
  | some m => min (m - least) room

/-- The first way through the expression and the rest of the match. -/
def run : Regex → {α : Type} → Way α
  | .empty, _, p, k => k p
  | .set s, _, p, k =>
    match p.cursor.rest with
    | [] => none
    | c :: cs => if s.has c then k { p with cursor := ⟨p.cursor.position + 1, c :: p.cursor.before, cs⟩ } else none
  | .anchor a, _, p, k => if a.holds p.cursor then k p else none
  | .seq a b, _, p, k => a.run p fun q => b.run q k
  | .alt a b, _, p, k => (a.run p k).orElse fun _ => b.run p k
  | .many r least most, _, p, k =>
    turns r.run least p fun q => furtherTurns r.run (roomFor least most q) q k
  | .few r least most, _, p, k =>
    turns r.run least p fun q => fewTurns r.run (roomFor least most q) q k
  | .firm r least most, _, p, k =>
    (firmTurns (fun q => r.run q some) least p).bind fun q =>
      k (furtherFirmTurns (fun q => r.run q some) (roomFor least most q) q)
  | .group i r, _, p, k =>
    r.run p fun q =>
      let held := p.cursor.rest.take (q.cursor.position - p.cursor.position)
      k { q with groups := (i, held) :: q.groups }
  | .once r, _, p, k => (r.run p some).bind k
  | .look back wanted r, _, p, k =>
    match (p.cursor.back? back).bind fun c => r.run { p with cursor := c } some with
    | some q => if wanted then k { p with groups := q.groups } else none
    | none => if wanted then none else k p
  | .again i fold, _, p, k =>
    match p.groups.lookup i with
    | none => none
    | some held =>
      let next := p.cursor.rest.take held.length
      if next.map fold.key = held.map fold.key then k { p with cursor := p.cursor.ahead held.length } else none
  | .provided i yes no, _, p, k => if (p.groups.lookup i).isSome then yes.run p k else no.run p k

/-- What a match found: its length and what its groups hold. -/
structure Hit where
  length : Nat
  groups : List (Nat × List Char)
deriving DecidableEq, Repr

/-- What the group holds, if it took part in the match. -/
def Hit.group? (h : Hit) (i : Nat) : Option (List Char) := h.groups.lookup i

/-- The match that starts at a place. -/
def matchAt? (r : Regex) (c : Cursor) : Option Hit :=
  r.run ⟨c, []⟩ fun p => some ⟨p.cursor.position - c.position, p.groups⟩

/-- The match that starts leftmost. -/
def search? (r : Regex) (text : List Char) : Option Hit := (Cursor.places text).findSome? r.matchAt?

/-- Whether the expression matches somewhere in the text. -/
def matches? (r : Regex) (text : List Char) : Bool := (r.search? text).isSome

/-- The matches from the given places on, where `skip` places are inside the last match. -/
def hitsFrom (r : Regex) : (skip : Nat) → List Cursor → List Hit
  | _, [] => []
  | skip + 1, _ :: cs => hitsFrom r skip cs
  | 0, c :: cs =>
    match r.matchAt? c with
    | none => hitsFrom r 0 cs
    | some h => h :: hitsFrom r (h.length - 1) cs

/-- The matches from left to right, without overlap. -/
def hits (r : Regex) (text : List Char) : List Hit := hitsFrom r 0 (Cursor.places text)

/-- What the first group holds in each match. -/
def captures (r : Regex) (text : List Char) : List String :=
  (r.hits text).map fun h => String.ofList ((h.group? 1).getD [])

/-! ### Building expressions -/

def char (c : Char) : Regex := .set (.of [.range c c])

def word : Regex := .set (.of [.named .word false])

def blank : Regex := .set (.of [.named .blank false])

/-- Any character but the given ones. -/
def noneOf (cs : List Char) : Regex := .set (.allBut (cs.map fun c => .range c c))

def oneOf (cs : List Char) : Regex := .set (.of (cs.map fun c => .range c c))

/-- Any character but a newline. -/
def anyChar : Regex := noneOf ['\n']

def star (r : Regex) : Regex := .many r 0 none

def plus (r : Regex) : Regex := .many r 1 none

def optional (r : Regex) : Regex := .many r 0 (some 1)

/-- The expressions one after the other. -/
def sequence (rs : List Regex) : Regex := rs.foldr .seq .empty

/-- The first of the expressions that matches; one must be given. -/
def choice : List Regex → Regex
  | [] => .set (.of [])
  | [r] => r
  | r :: rs => .alt r (choice rs)

/-- The text itself. -/
def literal (s : String) : Regex := sequence (s.toList.map char)

/-- The characters that have a meaning of their own in a pattern. -/
def isSpecial (c : Char) : Bool :=
  ['\\', '.', '^', '$', '*', '+', '?', '\x7b', '\x7d', '[', ']', '|', '(', ')'].contains c

/-- The pattern that stands for the text itself. -/
def escape (s : String) : String :=
  String.ofList (s.toList.flatMap fun c => if isSpecial c then ['\\', c] else [c])

end Regex

end ClientMigration

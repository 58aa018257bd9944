import ClientMigration.CommandLine.Display
import ClientMigration.CommandLine.Style

/-! # Markup

Messages are written in markup. A tag stands in brackets and opens a style, or closes one after a slash; a slash alone
closes the last. Backslashes in front of a tag come in pairs, each a backslash, and one left over takes the tag for
text. Only what is no tag is shown. -/

namespace ClientMigration.CommandLine

namespace Markup

structure Tag where
  name : String
  parameters : Option String := none
deriving DecidableEq, Repr

namespace Tag

/-- The tag of what stands between its brackets. -/
def ofText (cs : List Char) : Tag :=
  let name := cs.takeWhile (· != '=')
  match cs.drop name.length with
  | [] => ⟨String.ofList name, none⟩
  | _ :: parameters => ⟨String.ofList name, some (String.ofList parameters)⟩

def markup (t : Tag) : String := "[" ++ t.name ++ (t.parameters.map ("=" ++ ·)).getD "" ++ "]"

/-- The name behind the slash, if the tag closes a style. -/
def closed? (t : Tag) : Option String :=
  match t.name.toList with
  | '/' :: name => some (Text.strip (String.ofList name))
  | _ => none

end Tag

/-- Why a text in markup cannot be shown. -/
inductive Flaw where
  | integer (f : Style.IntegerFault)
  | unmatched (t : Tag) (position : Nat)
  | nothingOpen (position : Nat)
  | argument (message : String)
deriving DecidableEq, Repr

def Flaw.message : Flaw → String
  | .integer f => f.message
  | .unmatched t position => "closing tag '" ++ t.markup ++ s!"' at position {position} doesn't match any open tag"
  | .nothingOpen position => s!"closing tag '[/]' at position {position} has nothing to close"
  | .argument message => message

/-! ### Pieces -/

/-- A piece of a text in markup: text that is shown, or a tag with its position. -/
inductive Piece where
  | text (cs : List Char)
  | tag (position : Nat) (t : Tag)
deriving DecidableEq, Repr

def startsTag (c : Char) : Bool := 'a' ≤ c && c ≤ 'z' || ['#', '/', '@'].contains c

/-- What stands between the brackets of a tag at the front of a text. -/
def tagText? : List Char → Option (List Char)
  | '[' :: c :: cs =>
    let inside := cs.takeWhile fun d => d != '[' && d != ']'
    if startsTag c && (cs.drop inside.length).head? == some ']' then some (c :: inside) else none
  | _ => none

/-- The pieces of a text from a position on, where `skip` characters of a tag are still to be passed. So many
    backslashes stand in front, and the plain text before them. -/
def pieces : (position skip backslashes : Nat) → (plain : List Char) → List Char → List Piece
  | _, _, n, plain, [] => [.text (plain ++ List.replicate n '\\')]
  | position, skip + 1, n, plain, _ :: cs => pieces (position + 1) skip n plain cs
  | position, 0, n, plain, c :: cs =>
    if c = '\\' then pieces (position + 1) 0 (n + 1) plain cs
    else
      match tagText? (c :: cs) with
      | some inside =>
        [.text plain, .text (List.replicate (n / 2) '\\'),
          if n % 2 = 0 then .tag position (.ofText inside) else .text ('[' :: inside ++ [']'])] ++
        pieces (position + 1) (inside.length + 1) 0 [] cs
      | none =>
        -- A backslash in front of a bracket that begins no tag is left out.
        let kept := if c = '[' then n - 1 else n
        pieces (position + 1) 0 0 (plain ++ List.replicate kept '\\' ++ [c]) cs

end Markup

/-! ### Consoles -/

/-- What shows messages: how it puts characters for their codes, which stand between colons, and why it takes no
    arguments for a tag that is a handler. -/
structure Console where
  emoji : List Char → List Char
  emoji_eq_self : ∀ cs, ':' ∉ cs → emoji cs = cs
  argumentFault? : String → Option String

namespace Console
open Markup

/-- A console without codes, where handlers take any arguments. -/
def plain : Console := ⟨id, fun _ _ => rfl, fun _ => none⟩

/-- The fault of the arguments of a tag, which are looked at when it is closed. -/
def tagFault? (k : Console) (t : Tag) : Option String :=
  if t.name.toList.head? == some '@' then (t.parameters.filter (!·.isEmpty)).bind k.argumentFault? else none

/-- The tags that stay open when one is closed. -/
def close (k : Console) (t : Tag) (others : List Tag) : Except Flaw (List Tag) :=
  match k.tagFault? t with
  | some message => .error (.argument message)
  | none => .ok others

/-- The open tags, the last one first, after one more tag. -/
def follow (k : Console) (opened : List Tag) (position : Nat) (t : Tag) : Except Flaw (List Tag) := do
  match t.closed? with
  | none => return { t with name := ← (Style.normal t.name).mapError .integer } :: opened
  | some name =>
    if name.isEmpty then
      match opened with
      | [] => throw (.nothingOpen position)
      | o :: others => k.close o others
    else
      let name ← (Style.normal name).mapError .integer
      match opened.find? (·.name == name) with
      | none => throw (.unmatched t position)
      | some o => k.close o (opened.eraseP (·.name == name))

/-- What is shown of pieces, where some tags are open. -/
def showPieces (k : Console) : (opened : List Tag) → List Piece → Except Flaw (List Char)
  | _, [] => .ok []
  | opened, .text cs :: ps => (k.showPieces opened ps).map (k.emoji cs ++ ·)
  | opened, .tag position t :: ps => do k.showPieces (← k.follow opened position t) ps

/-- A text in markup as it is shown. -/
def render (k : Console) (markup : String) : Except Flaw String :=
  (k.showPieces [] (pieces 0 0 0 [] markup.toList)).map fun cs => Display.message (String.ofList cs)

end Console

/-! ### Messages -/

namespace Markup

/-- A text in a style. -/
def styled (style text : String) : String := "[" ++ style ++ "]" ++ text ++ "[/" ++ style ++ "]"

def failed (message : String) : String := styled "red" "Error:" ++ " " ++ message

def warned (message : String) : String := styled "yellow" "Warning:" ++ " " ++ message

def succeeded (message : String) : String := styled "green" message

end Markup

end ClientMigration.CommandLine

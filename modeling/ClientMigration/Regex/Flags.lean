import ClientMigration.Regex.CharSet

/-! # Flags of patterns

How a pattern is read and how its characters are compared. -/

namespace ClientMigration.Regex

/-- Which flags are on. A pattern asks for its classes in ASCII or, expressly, in all of Unicode. -/
structure Flags where
  ignoreCase : Bool := false
  multiline : Bool := false
  dotAll : Bool := false
  spaced : Bool := false
  ascii : Bool := false
  unicode : Bool := false
  template : Bool := false
deriving DecidableEq, Repr

namespace Flags

/-- How the case of letters is folded. -/
def fold (f : Flags) : CaseFolding := if !f.ignoreCase then .exact else if f.ascii then .ascii else .full

def isLetter (c : Char) : Bool := ['i', 'L', 'm', 's', 'x', 'a', 't', 'u'].contains c

/-- The flags with the one of a letter. -/
def withLetter (f : Flags) (letter : Char) : Flags :=
  match letter with
  | 'i' => { f with ignoreCase := true }
  | 'm' => { f with multiline := true }
  | 's' => { f with dotAll := true }
  | 'x' => { f with spaced := true }
  | 'a' => { f with ascii := true }
  | 't' => { f with template := true }
  | _ => { f with unicode := true }

/-- The flags that are on in one or the other. -/
def join (f g : Flags) : Flags where
  ignoreCase := f.ignoreCase || g.ignoreCase
  multiline := f.multiline || g.multiline
  dotAll := f.dotAll || g.dotAll
  spaced := f.spaced || g.spaced
  ascii := f.ascii || g.ascii
  unicode := f.unicode || g.unicode
  template := f.template || g.template

/-- Whether a flag that may be switched off is on in both. -/
def meet (f g : Flags) : Bool :=
  (f.ignoreCase && g.ignoreCase) || (f.multiline && g.multiline) || (f.dotAll && g.dotAll) || (f.spaced && g.spaced)

/-- The flags after some are switched on and others off. ASCII and Unicode replace each other. -/
def change (f on off : Flags) : Flags :=
  let kept := if on.ascii || on.unicode then { f with ascii := false, unicode := false } else f
  let all := kept.join on
  { all with
    ignoreCase := all.ignoreCase && !off.ignoreCase
    multiline := all.multiline && !off.multiline
    dotAll := all.dotAll && !off.dotAll
    spaced := all.spaced && !off.spaced }

end Flags

end ClientMigration.Regex

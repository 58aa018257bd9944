import ClientMigration.Regex.Fault
import ClientMigration.Regex.Flags
import ClientMigration.Regex.Width

/-! # Patterns half read

The state in which a pattern is read from left to right, and the steps that take characters off it. -/

namespace ClientMigration.Regex

/-- What is left of a pattern, and what is known of the groups read so far: how many were opened, the widths
    of those that are closed, and their names. Inside a look behind, groups from `lookFrom` on are its own.
    Conditions on groups that may still come are kept with their positions. -/
structure Draft where
  rest : List Char
  position : Nat := 0
  flags : Flags := {}
  opened : Nat := 0
  closed : List (Nat × Width) := []
  names : List (String × Nat) := []
  lookFrom : Option Nat := none
  conditions : List (Nat × Nat) := []
  repeats : Bool := false
  looseLook : Bool := false

abbrev Reading := StateT Draft (Except RegexError)

namespace Reading

/-- Refuse the pattern, for something so many characters back. -/
def refuse {α : Type} (f : RegexFault) (back : Nat) : Reading α := do
  throw { fault := f, position := (← get).position - back }

def refuseAt {α : Type} (f : RegexFault) (position : Nat) : Reading α :=
  throw { fault := f, position := position }

/-- The next character, or a backslash with the character behind it. -/
def peek : Reading (Option (List Char)) := do
  match (← get).rest with
  | [] => return none
  | ['\\'] => return none
  | '\\' :: c :: _ => return some ['\\', c]
  | c :: _ => return some [c]

/-- Whether a character comes next. -/
def isNext (c : Char) : Reading Bool := do return (← peek) == some [c]

/-- Pass so many characters. No pattern ends in a backslash alone. -/
def pass (n : Nat) : Reading Unit := do
  modify fun d => { d with rest := d.rest.drop n, position := d.position + n }
  if (← get).rest = ['\\'] then refuse .lastBackslash 0

/-- Take what comes next. -/
def take : Reading (Option (List Char)) := do
  match ← peek with
  | none => return none
  | some t => do
    pass t.length
    return some t

/-- Take a character if it comes next. -/
def accept (c : Char) : Reading Bool := do
  if ← isNext c then
    pass 1
    return true
  else return false

/-- Take up to so many characters of a class. -/
def takeUpTo (n : Nat) (p : Char → Bool) : Reading (List Char) := do
  let found := ((← get).rest.take n).takeWhile p
  if !found.isEmpty then pass found.length
  return found

/-- Take a name up to the character that closes it, behind what was taken of it. -/
def takeName (closing : Char) (what : String) : (fuel : Nat) → (taken : List Char) → Reading String
  | 0, taken => return String.ofList taken
  | fuel + 1, taken => do
    match ← take with
    | none => if taken.isEmpty then refuse (.missingWord what) 0 else refuse (.openWord closing) taken.length
    | some t =>
      if t ≠ [closing] then takeName closing what fuel (taken ++ t)
      else if taken.isEmpty then refuse (.missingWord what) 1
      else return String.ofList taken

/-- A name of some kind, up to the character that closes it. -/
def name (closing : Char) (what : String) : Reading String := do
  takeName closing what ((← get).rest.length + 1) []

end Reading

end ClientMigration.Regex

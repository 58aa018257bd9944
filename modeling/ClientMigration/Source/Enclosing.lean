import ClientMigration.Regex.Basic

/-! # Enclosing declarations

Each line of code lies under the class and the function that were declared last at or above it. One pass
down the lines carries both names along. -/

namespace ClientMigration.Enclosing
open Regex

/-- A keyword with the blanks behind it. -/
def keyword (s : String) : Regex := .seq (literal s) (plus blank)

/-- The declaration of a class, at the start of a line. -/
def classDeclaration : Regex :=
  sequence [.anchor .start, star blank, optional (keyword "export"), optional (keyword "default"),
    optional (keyword "abstract"), keyword "class", .group 1 (plus word)]

/-- Parameters between parentheses, without a closing one among them. -/
def parameters : Regex := sequence [char '(', star (noneOf [')']), char ')']

/-- A function declared by its keyword. -/
def namedFunction : Regex :=
  sequence [choice [.anchor .start, blank], optional (keyword "async"), literal "function", star blank,
    optional (char '*'), star blank, .group 1 (plus word), star blank, char '(']

/-- A method with its body, at the start of a line. -/
def methodBody : Regex :=
  sequence [.anchor .start, star blank,
    star (choice [keyword "public", keyword "private", keyword "protected", keyword "static"]),
    optional (keyword "async"), .group 2 (plus word), star blank, parameters, star blank,
    optional (.seq (char ':') (star (noneOf ['\x7b']))), char '\x7b']

/-- A variable that holds a function. -/
def functionVariable : Regex :=
  sequence [choice [literal "const", literal "let", literal "var"], plus blank, .group 3 (plus word),
    star blank, char '=', star blank, optional (keyword "async"),
    choice [.seq (literal "function") (.anchor (.boundary true)),
      sequence [parameters, star blank, literal "=>"],
      sequence [plus word, star blank, literal "=>"]]]

def functionDeclaration : Regex := choice [namedFunction, methodBody, functionVariable]

/-- The words that look like a function's name in front of parentheses and are none. -/
def notFunctions : List String := ["if", "for", "while", "switch", "catch", "return", "function"]

/-- The name of the class that a line declares. -/
def declaredClass? (line : List Char) : Option String :=
  (classDeclaration.search? line).map fun h => String.ofList ((h.group? 1).getD [])

/-- The name in the leftmost declaration of a function on a line. -/
def declaredName? (line : List Char) : Option String :=
  (functionDeclaration.search? line).bind fun h =>
    ([1, 2, 3].findSome? fun i => (h.group? i).filter (!·.isEmpty)).map String.ofList

/-- The name of the function that a line declares. -/
def declaredFunction? (line : List Char) : Option String :=
  (declaredName? line).filter (!notFunctions.contains ·)

end ClientMigration.Enclosing

namespace ClientMigration

/-- The class and the function around a line. -/
structure Enclosing where
  className : Option String := none
  functionName : Option String := none
deriving DecidableEq, Repr, Inhabited

namespace Enclosing

/-- The names after a line, from those before it. -/
def next (e : Enclosing) (line : List Char) : Enclosing where
  className := (declaredClass? line).or e.className
  functionName := (declaredFunction? line).or e.functionName

/-- The names at each line, from those above the first. -/
def along (e : Enclosing) : List (List Char) → List Enclosing
  | [] => []
  | line :: rest => e.next line :: (e.next line).along rest

/-- The class and the function around each of the lines. -/
def ofLines (lines : List String) : List Enclosing := along {} (lines.map (·.toList))

end Enclosing

end ClientMigration

import ClientMigration.Regex.Basic
import ClientMigration.Value.Basic

/-! # Snippets

What is read off a piece of code: the methods it calls, the variables it declares, the packages it
imports, and the control flow it takes part in. -/

namespace ClientMigration.Snippet
open Regex

/-- A call of a method: a point, a name, an opening parenthesis. -/
def methodCall : Regex := sequence [char '.', .group 1 (plus word), char '(']

/-- A declaration of a variable. -/
def variableDeclaration : Regex :=
  sequence [choice [literal "const", literal "let", literal "var"], plus blank, .group 1 (plus word)]

def quotes : List Char := ['\'', '"']

/-- A text between quotes, which may differ. -/
def quotedName : Regex := sequence [oneOf quotes, .group 1 (plus (noneOf quotes)), oneOf quotes]

/-- An import of a package on one line. -/
def importFrom : Regex := sequence [literal "import", star anyChar, literal "from", plus blank, quotedName]

/-- A package required by a call. -/
def requireCall : Regex := sequence [literal "require(", quotedName, char ')']

/-- One of some words, standing alone. -/
def anyWord (words : List String) : Regex :=
  sequence [.anchor (.boundary true), choice (words.map literal), .anchor (.boundary true)]

/-- The names of called methods, each once, by first occurrence. -/
def methods (code : List Char) : List String := (methodCall.captures code).eraseDups

/-- The names of declared variables, in the order of the code. -/
def declared (code : List Char) : List String := variableDeclaration.captures code

/-- The packages imported, then those required, each once. -/
def dependencies (code : List Char) : List String :=
  (importFrom.captures code ++ requireCall.captures code).eraseDups

end ClientMigration.Snippet

namespace ClientMigration

/-- The control flow that a snippet takes part in, and the class and function around it. -/
structure Surroundings where
  asynchronous : Bool := false
  errorHandling : Bool := false
  loop : Bool := false
  conditional : Bool := false
  className : Option String := none
  functionName : Option String := none
deriving DecidableEq, Repr

namespace Surroundings

/-- The surroundings that a snippet shows, within a class and a function. -/
def ofCode (code : List Char) (className functionName : Option String) : Surroundings where
  asynchronous := (Snippet.anyWord ["async", "await"]).matches? code
  errorHandling := (Snippet.anyWord ["try", "catch", "throw"]).matches? code
  loop := (Snippet.anyWord ["for", "while", "forEach"]).matches? code
  conditional := (Snippet.anyWord ["if", "else", "switch"]).matches? code
  className := className
  functionName := functionName

def toValue (s : Surroundings) : Value :=
  .object [("async_context", .bool s.asynchronous), ("error_handling", .bool s.errorHandling),
    ("loop_context", .bool s.loop), ("conditional_context", .bool s.conditional),
    ("class_name", .ofText? s.className), ("method_name", .ofText? s.functionName)]

end Surroundings

end ClientMigration

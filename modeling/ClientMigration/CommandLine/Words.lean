import ClientMigration.CommandLine.Usage

/-! # Words of a command line

Words that begin with a hyphen name options: a long name with two hyphens, whose value follows an equals
sign or is the next word, or a cluster of letters with one hyphen, where a value is the rest of the cluster
or the next word. Two hyphens alone end the options. -/

namespace ClientMigration.CommandLine

structure OptionSpec where
  names : List String
  takesValue : Bool
deriving DecidableEq, Repr

namespace OptionSpec

/-- The option as it is shown to people. -/
def shown (o : OptionSpec) : String := String.intercalate " / " (o.names.map fun n => "'" ++ n ++ "'")

def flag (name : String) : OptionSpec := ⟨[name], false⟩

def named? (specs : List OptionSpec) (name : String) : Option OptionSpec := specs.find? (·.names.contains name)

end OptionSpec

/-- An option of a command line with its value, if it takes one. -/
structure Given where
  option : OptionSpec
  value : Option String
deriving DecidableEq, Repr

/-- An option, by the name used for it, whose value is the next word. -/
structure Pending where
  name : String
  option : OptionSpec
deriving DecidableEq, Repr

/-- The options of a command line in order, and its other words. -/
structure Words where
  given : List Given
  rest : List String
deriving DecidableEq, Repr

namespace Words

def has (w : Words) (o : OptionSpec) : Bool := w.given.any (·.option == o)

/-- The value of an option; of several, the last. -/
def value? (w : Words) (o : OptionSpec) : Option String :=
  (w.given.reverse.find? (·.option == o)).bind (·.value)

/-- The options that a word with two hyphens gives. -/
def readLong (specs : List OptionSpec) (word : String) : Except UsageFault (List Given × Option Pending) :=
  let name := String.ofList (word.toList.takeWhile (· != '='))
  let attached :=
    match word.toList.dropWhile (· != '=') with
    | [] => none
    | _ :: value => some (String.ofList value)
  match OptionSpec.named? specs name, attached with
  | none, _ => .error (.noSuchOption name)
  | some o, none => .ok (if o.takesValue then ([], some ⟨name, o⟩) else ([⟨o, none⟩], none))
  | some o, some value => if o.takesValue then .ok ([⟨o, some value⟩], none) else .error (.takesNoValue name)

/-- The options that a cluster of letters gives. -/
def readCluster (specs : List OptionSpec) : List Char → Except UsageFault (List Given × Option Pending)
  | [] => .ok ([], none)
  | c :: more =>
    let name := String.ofList ['-', c]
    match OptionSpec.named? specs name with
    | none => .error (.noSuchOption name)
    | some o =>
      if o.takesValue then
        .ok (if more.isEmpty then ([], some ⟨name, o⟩) else ([⟨o, some (String.ofList more)⟩], none))
      else do
        let (given, pending) ← readCluster specs more
        return (⟨o, none⟩ :: given, pending)

/-- The options that a word gives; none if it is not one of options. -/
def readOption? (specs : List OptionSpec) (word : String) :
    Option (Except UsageFault (List Given × Option Pending)) :=
  match word.toList with
  | '-' :: '-' :: _ => some (readLong specs word)
  | '-' :: c :: more => some (readCluster specs (c :: more))
  | _ => none

/-- The words of a command line. Without `mixed`, the first word that gives no option ends the options. -/
def read (specs : List OptionSpec) (mixed : Bool) : (pending : Option Pending) → List String → Except UsageFault Words
  | none, [] => .ok ⟨[], []⟩
  | some p, [] => .error (.needsValue p.name)
  | some p, word :: words => do
    let w ← read specs mixed none words
    return ⟨⟨p.option, some word⟩ :: w.given, w.rest⟩
  | none, word :: words =>
    if word = "--" then .ok ⟨[], words⟩
    else
      match readOption? specs word with
      | some found => do
        let (given, pending) ← found
        let w ← read specs mixed pending words
        return ⟨given ++ w.given, w.rest⟩
      | none =>
        if mixed then do
          let w ← read specs mixed none words
          return ⟨w.given, word :: w.rest⟩
        else .ok ⟨[], word :: words⟩

end Words

/-! ### Checks

The options that are given are checked first, in the order of the command line, then the arguments, then
the options left out. -/

/-- What a check of an option, or of an argument, has found. -/
structure Check where
  option : Option OptionSpec
  fault : Option UsageFault

namespace Check

/-- The checks in the order in which they are reported. -/
def ordered (w : Words) (checks : List Check) : List Check :=
  let asked := (w.given.map (·.option)).eraseDups
  asked.flatMap (fun o => checks.filter (·.option == some o)) ++ checks.filter (·.option.isNone) ++
  checks.filter fun c => c.option.any fun o => !asked.contains o

/-- Passes if no check has found a fault and no word is left over. -/
def all (w : Words) (checks : List Check) (extra : List String) : Except UsageFault Unit :=
  match (ordered w checks).findSome? (·.fault) with
  | some f => .error f
  | none => if extra.isEmpty then .ok () else .error (.extraWords extra)

end Check

end ClientMigration.CommandLine

import ClientMigration.Number.Numeral
import ClientMigration.Settings.Basic

/-! # Reading settings

Settings are read from the sections of a document. Every setting is checked, and all problems are
reported together, in the order of the settings. -/

namespace ClientMigration.Settings

/-- What is wrong with a setting. -/
inductive Defect where
  | notAString
  | notASection
  | notAnInteger
  | unreadableInteger
  | integerTooLarge
  | fractional
  | notFinite
  | notANumber
  | unreadableNumber
  | tooSmall
  | notAbove
  | tooLarge
  | shares (total : Number)
deriving DecidableEq, Repr

/-- The keyword of a defect. -/
def Defect.keyword : Defect → String
  | .notAString => "string_type"
  | .notASection => "model_type"
  | .notAnInteger => "int_type"
  | .unreadableInteger => "int_parsing"
  | .integerTooLarge => "int_parsing_size"
  | .fractional => "int_from_float"
  | .notFinite => "finite_number"
  | .notANumber => "float_type"
  | .unreadableNumber => "float_parsing"
  | .tooSmall => "greater_than_equal"
  | .notAbove => "greater_than"
  | .tooLarge => "less_than_equal"
  | .shares _ => "value_error"

/-- What is said of a defect that concerns several settings together. -/
def Defect.message? : Defect → Option String
  | .shares total => some ("Value error, Effort shares must sum to 1.0, got " ++ total.text)
  | _ => none

/-- A defect and the setting that has it. -/
structure Objection where
  place : List String
  defect : Defect
deriving DecidableEq, Repr

def Objection.toValue (o : Objection) : Value :=
  .object ([("loc", .texts o.place), ("type", .str o.defect.keyword)] ++
    match o.defect.message? with
    | some m => [("msg", .str m)]
    | none => [])

/-! ### Single settings -/

/-- The string that a value is. -/
def asString : Value → Except Defect String
  | .str s => .ok s
  | _ => .error .notAString

/-- The integers that a floating-point setting may stand for lie within this distance of zero. -/
def wordLimit : Int := 9223372036854775808

/-- The integer that a floating-point number is. -/
def wholeOf (x : Binary64) : Except Defect Int :=
  match x.truncate? with
  | none => .error .notFinite
  | some i =>
    if !x.isIntegral then .error .fractional
    else if -wordLimit < i ∧ i < wordLimit then .ok i
    else .error .integerTooLarge

/-- The integer that a value stands for: a number without a fraction, a truth value, or a text. -/
def asInt : Value → Except Defect Int
  | .num (.int i) => .ok i
  | .num (.float x) => wholeOf x
  | .bool b => .ok (if b then 1 else 0)
  | .str s =>
    (settingInt s).mapError fun
      | .unreadable => .unreadableInteger
      | .tooLong => .integerTooLarge
  | _ => .error .notAnInteger

/-- The floating-point number that a value stands for: a number, a truth value, or a text. -/
def asNumber : Value → Except Defect Number
  | .num (.int i) => if (Number.int i).beyondRange then .error .notANumber else .ok (.float (.ofInt i))
  | .num (.float x) => .ok (.float x)
  | .bool b => .ok (.float (.ofInt (if b then 1 else 0)))
  | .str s =>
    match settingFloat? s with
    | some x => .ok (.float x)
    | none => .error .unreadableNumber
  | _ => .error .notANumber

/-- An integer that is not negative. -/
def asCount (v : Value) : Except Defect Nat := do
  let i ← asInt v
  if i < 0 then .error .tooSmall else .ok i.toNat

/-- A number between zero and one. -/
def asShare (v : Value) : Except Defect Number := do
  let x ← asNumber v
  if (Number.decimal 10 1).less x then .error .tooLarge
  else if x.less (.decimal 0 1) then .error .tooSmall
  else .ok x

/-- A number above zero. -/
def asPositive (v : Value) : Except Defect Number := do
  let x ← asNumber v
  if x.atMost (.decimal 0 1) then .error .notAbove else .ok x

/-! ### Sections -/

/-- Reading that goes on after a defect, and collects the objections. -/
abbrev Check := StateM (List Objection)

def complain (o : Objection) : Check Unit := modify (· ++ [o])

/-- A setting of a section; its default if it is absent or has a defect. -/
def setting {α : Type} (place : List String) (fields : List (String × Value)) (key : String) (default : α)
    (read : Value → Except Defect α) : Check α := do
  match fields.lookup key with
  | none => return default
  | some v =>
    match read v with
    | .ok a => return a
    | .error d =>
      complain ⟨place ++ [key], d⟩
      return default

def Scanner.read (place : List String) (fs : List (String × Value)) : Check Scanner := do
  let d : Scanner := {}
  return {
    contextBefore := ← setting place fs "context_before" d.contextBefore asCount
    contextAfter := ← setting place fs "context_after" d.contextAfter asCount
    relevance := ← setting place fs "relevance_pattern" d.relevance asString }

def Scoring.read (place : List String) (fs : List (String × Value)) : Check Scoring := do
  let d : Scoring := {}
  return {
    base := ← setting place fs "base_confidence" d.base asNumber
    perSighting := ← setting place fs "occurrence_weight" d.perSighting asNumber
    sightingCap := ← setting place fs "occurrence_cap" d.sightingCap asNumber
    contextBonus := ← setting place fs "context_bonus" d.contextBonus asNumber
    threshold := ← setting place fs "min_confidence" d.threshold asShare }

def Complexity.read (place : List String) (fs : List (String × Value)) : Check Complexity := do
  let d : Complexity := {}
  return {
    simple := ← setting place fs "simple_weight" d.simple asNumber
    moderate := ← setting place fs "moderate_weight" d.moderate asNumber
    complex := ← setting place fs "complex_weight" d.complex asNumber
    perSighting := ← setting place fs "occurrence_weight" d.perSighting asNumber
    sizeDivisor := ← setting place fs "size_divisor" d.sizeDivisor asPositive
    sizeCap := ← setting place fs "size_cap" d.sizeCap asNumber
    density := ← setting place fs "density_weight" d.density asNumber
    maxScore := ← setting place fs "max_score" d.maxScore asNumber
    mediumAt := ← setting place fs "medium_at" d.mediumAt asNumber
    highAt := ← setting place fs "high_at" d.highAt asNumber
    veryHighAt := ← setting place fs "very_high_at" d.veryHighAt asNumber }

/-- The shares make one, up to a rounding error. -/
def Effort.balanced (e : Effort) : Bool :=
  !(Number.decimal 1 9).less (e.shareTotal - .decimal 10 1).abs

/-- The shares are checked together only if every setting of the section is sound. -/
def Effort.read (place : List String) (fs : List (String × Value)) : Check Effort := do
  let d : Effort := {}
  let before := (← get).length
  let e : Effort := {
    lowBase := ← setting place fs "low_base_hours" d.lowBase asNumber
    mediumBase := ← setting place fs "medium_base_hours" d.mediumBase asNumber
    highBase := ← setting place fs "high_base_hours" d.highBase asNumber
    veryHighBase := ← setting place fs "very_high_base_hours" d.veryHighBase asNumber
    simple := ← setting place fs "simple_pattern_hours" d.simple asNumber
    moderate := ← setting place fs "moderate_pattern_hours" d.moderate asNumber
    complex := ← setting place fs "complex_pattern_hours" d.complex asNumber
    analysisShare := ← setting place fs "analysis_share" d.analysisShare asNumber
    conversionShare := ← setting place fs "conversion_share" d.conversionShare asNumber
    testingShare := ← setting place fs "testing_share" d.testingShare asNumber
    validationShare := ← setting place fs "validation_share" d.validationShare asNumber
    documentationShare := ← setting place fs "documentation_share" d.documentationShare asNumber
    confidence := ← setting place fs "confidence" d.confidence asShare }
  if (← get).length = before ∧ !e.balanced then complain ⟨place, .shares e.shareTotal⟩
  return e

def Conversion.read (place : List String) (fs : List (String × Value)) : Check Conversion := do
  let d : Conversion := {}
  return {
    base := ← setting place fs "base_confidence" d.base asNumber
    complexPenalty := ← setting place fs "complex_pattern_penalty" d.complexPenalty asNumber
    renameBonus := ← setting place fs "rename_bonus" d.renameBonus asNumber
    skippedPenalty := ← setting place fs "skipped_step_penalty" d.skippedPenalty asNumber
    least := ← setting place fs "min_confidence" d.least asNumber
    most := ← setting place fs "max_confidence" d.most asNumber }

def Plan.read (place : List String) (fs : List (String × Value)) : Check Plan := do
  let d : Plan := {}
  return {
    defaultHours := ← setting place fs "default_plan_hours" d.defaultHours asInt
    optimizationHours := ← setting place fs "optimization_hours" d.optimizationHours asInt
    phaseEstimate := ← setting place fs "phase_estimate" d.phaseEstimate asString
    targetPackage := ← setting place fs "target_package" d.targetPackage asString }

/-- A section of a document; its defaults if it is absent or no object. -/
def readSection {α : Type} (fields : List (String × Value)) (key : String) (default : α)
    (read : List String → List (String × Value) → Check α) : Check α := do
  match fields.lookup key with
  | none => return default
  | some (.object fs) => read [key] fs
  | some _ =>
    complain ⟨[key], .notASection⟩
    return default

def readAll (fs : List (String × Value)) : Check Settings := do
  return {
    version := ← setting [] fs "version" "1.0" asString
    scanner := ← readSection fs "scanner" {} Scanner.read
    scoring := ← readSection fs "scoring" {} Scoring.read
    complexity := ← readSection fs "complexity" {} Complexity.read
    effort := ← readSection fs "effort" {} Effort.read
    conversion := ← readSection fs "conversion" {} Conversion.read
    plan := ← readSection fs "plan" {} Plan.read }

/-- What was read, if there is nothing to object. -/
def settle {α : Type} (c : Check α) : Except (List Objection) α :=
  let (a, objections) := c.run []
  if objections.isEmpty then .ok a else .error objections

/-- The settings of a document. -/
def read (fields : List (String × Value)) : Except (List Objection) Settings := settle (readAll fields)

/-! ### Settings as data -/

def toValue (s : Settings) : Value :=
  .object [
    ("version", .str s.version),
    ("scanner", .object [("context_before", .ofNat s.scanner.contextBefore),
      ("context_after", .ofNat s.scanner.contextAfter), ("relevance_pattern", .str s.scanner.relevance)]),
    ("scoring", .object [("base_confidence", .num s.scoring.base), ("occurrence_weight", .num s.scoring.perSighting),
      ("occurrence_cap", .num s.scoring.sightingCap), ("context_bonus", .num s.scoring.contextBonus),
      ("min_confidence", .num s.scoring.threshold)]),
    ("complexity", .object [("simple_weight", .num s.complexity.simple), ("moderate_weight", .num s.complexity.moderate),
      ("complex_weight", .num s.complexity.complex), ("occurrence_weight", .num s.complexity.perSighting),
      ("size_divisor", .num s.complexity.sizeDivisor), ("size_cap", .num s.complexity.sizeCap),
      ("density_weight", .num s.complexity.density), ("max_score", .num s.complexity.maxScore),
      ("medium_at", .num s.complexity.mediumAt), ("high_at", .num s.complexity.highAt),
      ("very_high_at", .num s.complexity.veryHighAt)]),
    ("effort", .object [("low_base_hours", .num s.effort.lowBase), ("medium_base_hours", .num s.effort.mediumBase),
      ("high_base_hours", .num s.effort.highBase), ("very_high_base_hours", .num s.effort.veryHighBase),
      ("simple_pattern_hours", .num s.effort.simple), ("moderate_pattern_hours", .num s.effort.moderate),
      ("complex_pattern_hours", .num s.effort.complex), ("analysis_share", .num s.effort.analysisShare),
      ("conversion_share", .num s.effort.conversionShare), ("testing_share", .num s.effort.testingShare),
      ("validation_share", .num s.effort.validationShare), ("documentation_share", .num s.effort.documentationShare),
      ("confidence", .num s.effort.confidence)]),
    ("conversion", .object [("base_confidence", .num s.conversion.base),
      ("complex_pattern_penalty", .num s.conversion.complexPenalty), ("rename_bonus", .num s.conversion.renameBonus),
      ("skipped_step_penalty", .num s.conversion.skippedPenalty), ("min_confidence", .num s.conversion.least),
      ("max_confidence", .num s.conversion.most)]),
    ("plan", .object [("default_plan_hours", .ofInt s.plan.defaultHours),
      ("optimization_hours", .ofInt s.plan.optimizationHours), ("phase_estimate", .str s.plan.phaseEstimate),
      ("target_package", .str s.plan.targetPackage)])]

end ClientMigration.Settings

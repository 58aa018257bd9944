import ClientMigration.Fault

/-! # Tallies

What became of a batch of files: those done, those skipped with a reason, and the problems met. The gravest
problem decides how the batch ends; without one, a skipped file makes it a partial success. -/

namespace ClientMigration

structure SkippedFile where
  path : String
  reason : String
deriving DecidableEq, Repr

def SkippedFile.toValue (s : SkippedFile) : Value := .object [("path", .str s.path), ("reason", .str s.reason)]

structure Tally where
  processed : List String := []
  skipped : List SkippedFile := []
  problems : List Problem := []

namespace Tally

def addProcessed (t : Tally) (path : String) : Tally := { t with processed := t.processed ++ [path] }

def addSkipped (t : Tally) (path reason : String) : Tally := { t with skipped := t.skipped ++ [⟨path, reason⟩] }

def addProblem (t : Tally) (p : Problem) : Tally := { t with problems := t.problems ++ [p] }

/-- Whether some problem ends a run so. -/
def hasEnding (t : Tally) (e : Ending) : Bool := t.problems.any (·.kind.ending == e)

def success (t : Tally) : Bool := !t.hasEnding .fatal

def ending (t : Tally) : Ending :=
  if t.hasEnding .fatal then .fatal
  else if t.hasEnding .inputFault then .inputFault
  else if !t.skipped.isEmpty || !t.problems.isEmpty then .partialSuccess
  else .success

def toValue (t : Tally) : Value :=
  .object [("success", .bool t.success), ("exit_code", .ofNat t.ending.code),
    ("processed", .ofNat t.processed.length), ("skipped", .ofNat t.skipped.length),
    ("errors", .list (t.problems.map (·.toValue))), ("skipped_files", .list (t.skipped.map (·.toValue)))]

end Tally

end ClientMigration

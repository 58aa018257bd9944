import ClientMigration.Analysis

/-! # Batches

Work on many items at once. Each item is started and finished by its place, at most so many at a time as
there are permits; what it yields goes to its own place, so that the order of the events cannot be told
from the results. -/

namespace ClientMigration

/-- The work on the item at a place starts or finishes. -/
inductive BatchEvent where
  | start (place : Nat)
  | finish (place : Nat)
deriving DecidableEq, Repr

/-- The items not started, those in flight, and the results so far. -/
structure Batch (β : Type) where
  waiting : List Nat
  inFlight : List Nat
  results : List (Option β)
deriving DecidableEq, Repr

namespace Batch

variable {α β : Type}

/-- At least one item may be in flight. -/
def permits (concurrency : Int) : Nat := (max 1 concurrency).toNat

/-- Before anything is started. -/
def initial (count : Nat) : Batch β := ⟨List.range count, [], List.replicate count none⟩

/-- The batch after an event, if the event can happen: an item starts if it waits and a permit is free, and
    finishes if it is in flight. -/
def step (work : α → β) (items : List α) (permits : Nat) (b : Batch β) : BatchEvent → Option (Batch β)
  | .start i =>
    if i ∈ b.waiting ∧ b.inFlight.length < permits then
      some { b with waiting := b.waiting.erase i, inFlight := i :: b.inFlight }
    else none
  | .finish i =>
    if i ∈ b.inFlight then
      some { b with inFlight := b.inFlight.erase i, results := b.results.set i ((items[i]?).map work) }
    else none

/-- The batch after a schedule of events. -/
def run (work : α → β) (items : List α) (permits : Nat) (schedule : List BatchEvent) : Option (Batch β) :=
  schedule.foldlM (step work items permits) (initial items.length)

/-- Nothing waits or is in flight. -/
def isDone (b : Batch β) : Bool := b.waiting.isEmpty && b.inFlight.isEmpty

/-- The results in the order of the items. -/
def collected (b : Batch β) : List β := b.results.filterMap id

/-- The schedule that finishes each item before it starts the next. -/
def inTurn (count : Nat) : List BatchEvent := (List.range count).flatMap fun i => [.start i, .finish i]

end Batch

/-- A named text to analyse. -/
structure SourceUnit where
  name : String
  source : String
  dialect : Dialect
deriving DecidableEq, Repr

/-- The analyses of some units, in their order. -/
def Detector.analyzeUnits (t : Detector) (units : List SourceUnit) (concurrency : Int) : List Analysis :=
  let work (u : SourceUnit) := t.analyze u.source u.dialect
  ((Batch.run work units (Batch.permits concurrency) (Batch.inTurn units.length)).map (·.collected)).getD []

end ClientMigration

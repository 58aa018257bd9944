import ClientMigration.Regex.Basic

/-! # Widths of expressions

How many characters an expression takes at least and at most. A look behind needs an expression of one
width. -/

namespace ClientMigration.Regex

/-- The least and the greatest number of characters; none for no bound. -/
structure Width where
  least : Nat
  most : Option Nat
deriving DecidableEq, Repr

namespace Width

def fixed (n : Nat) : Width := ⟨n, some n⟩

/-- One after the other. -/
def plus (a b : Width) : Width := ⟨a.least + b.least, do return (← a.most) + (← b.most)⟩

/-- One or the other. -/
def either (a b : Width) : Width := ⟨min a.least b.least, do return max (← a.most) (← b.most)⟩

/-- So many turns. -/
def times (w : Width) (least : Nat) (most : Option Nat) : Width :=
  ⟨w.least * least,
    if w.most = some 0 ∨ most = some 0 then some 0 else do return (← w.most) * (← most)⟩

/-- The one width, if there is only one. -/
def single? (w : Width) : Option Nat := if w.most = some w.least then some w.least else none

end Width

/-- The width of an expression, where those of groups are known. -/
def width (groups : List (Nat × Width)) : Regex → Width
  | .empty | .anchor _ | .look .. => .fixed 0
  | .set _ => .fixed 1
  | .seq a b => (a.width groups).plus (b.width groups)
  | .alt a b => (a.width groups).either (b.width groups)
  | .many r least most | .few r least most | .firm r least most => (r.width groups).times least most
  | .group _ r | .once r => r.width groups
  | .again i _ => (groups.lookup i).getD (.fixed 0)
  | .provided _ yes no => (yes.width groups).either (no.width groups)

end ClientMigration.Regex

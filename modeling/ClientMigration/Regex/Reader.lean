import ClientMigration.Regex.Escape

/-! # Reading patterns

A pattern is read from left to right into an expression. It is refused with the reason and the position at
which it goes wrong. -/

namespace ClientMigration

namespace Regex

open Reading

/-! ### Repetition -/

/-- No expression is repeated so often. -/
def repetitionLimit : Nat := 4294967295

/-- The number that some digits write; none for no digits. -/
def numberOf (ds : List Char) : Option Nat := if ds.isEmpty then none else some (numberIn 10 ds)

/-- The bounds between braces, from behind the opening one, and the count of characters up to the closing
    one. What is no pair of bounds stands for itself. -/
def bounds? (cs : List Char) : Option (Option Nat × Option Nat × Nat) :=
  let low := cs.takeWhile Char.isDigit
  match cs.drop low.length with
  | '\x7d' :: _ => if low.isEmpty then none else some (numberOf low, numberOf low, low.length + 1)
  | ',' :: rest =>
    let high := rest.takeWhile Char.isDigit
    match rest.drop high.length with
    | '\x7d' :: _ => some (numberOf low, numberOf high, low.length + high.length + 2)
    | _ => none
  | _ => none

/-- What is asked of a repetition by the mark that begins with a character; none if the brace stands for
    itself. -/
def repetition? (c : Char) : Reading (Option (Nat × Option Nat)) := do
  match c with
  | '?' => return some (0, some 1)
  | '*' => return some (0, none)
  | '+' => return some (1, none)
  | _ =>
    match bounds? (← get).rest with
    | none => return none
    | some (low, high, n) =>
      let start := (← get).position
      pass n
      if low.any (repetitionLimit ≤ ·) || high.any (repetitionLimit ≤ ·) then refuse .tooManyTimes 0
      if high.any (· < low.getD 0) then refuseAt .crossedBounds start
      return some (low.getD 0, high)

/-- Whether an item can be repeated: anchors and repetitions cannot. -/
inductive Repeatable where
  | yes
  | anchor
  | repeated
deriving DecidableEq, Repr

/-- An item of a sequence. -/
structure Item where
  regex : Regex
  repeatable : Repeatable := .yes

/-- The item repeated as the mark at a position asks, and the marks behind it. -/
def repeatItem (item : Option Item) (position : Nat) (least : Nat) (most : Option Nat) : Reading Item := do
  match item with
  | none => refuseAt .nothingToRepeat position
  | some item =>
    if item.repeatable = .anchor then refuseAt .nothingToRepeat position
    if item.repeatable = .repeated then refuseAt .repeatedRepeat position
    modify fun d => { d with repeats := true }
    if ← accept '?' then return ⟨.few item.regex least most, .repeated⟩
    else if ← accept '+' then return ⟨.firm item.regex least most, .repeated⟩
    else return ⟨.many item.regex least most, .repeated⟩

/-! ### References -/

/-- Inside a look behind, only groups from outside may be referred to. -/
def checkLook (i : Nat) : Reading Unit := do
  match (← get).lookFrom with
  | none => return ()
  | some own =>
    if ((← get).closed.lookup i).isNone then refuse .groupStillOpen 0
    if own ≤ i then refuse .groupOfSameLook 0

/-- A reference to a group, which must be closed; it is written in so many characters. -/
def reference (f : Flags) (i length : Nat) : Reading Regex := do
  if ((← get).closed.lookup i).isNone then refuse .groupStillOpen length
  checkLook i
  return .again i f.fold

/-- The reference or the octal character of digits behind a backslash, the first of which is not zero. -/
def numbered (f : Flags) (c : Char) : Reading Regex := do
  let second ← takeUpTo 1 Char.isDigit
  let ds := c :: second
  let third ← if ds.length = 2 ∧ ds.all isOctalDigit then takeUpTo 1 isOctalDigit else pure []
  if !third.isEmpty then
    let d ← octalChar (ds ++ third)
    return .set { complement := false, items := [.range d d], fold := f.fold }
  let i := numberIn 10 ds
  if i ≤ (← get).opened then reference f i (ds.length + 1) else refuse (.noSuchGroup i) ds.length

/-- Whether a text is a name of a group. -/
def isName (s : String) : Bool :=
  match s.toList with
  | [] => false
  | c :: cs => Text.isWord c && (Text.digitValue? c).isNone && cs.all Text.isWord

/-- A name up to the character that closes it. -/
def groupName (closing : Char) : Reading String := do
  let name ← Reading.name closing "group name"
  if !isName name then refuse (.badName name) (name.length + 1)
  return name

/-- The group of a name, which was just read. -/
def groupNamed (name : String) : Reading Nat := do
  match (← get).names.lookup name with
  | some i => return i
  | none => refuse (.noSuchName name) (name.length + 1)

/-- The group that a condition is about, by its name or its number. -/
def conditionGroup : Reading Nat := do
  let name ← Reading.name ')' "group name"
  if isName name then groupNamed name
  else
    let ds := name.toList
    if !ds.all Char.isDigit then refuse (.badName name) (ds.length + 1)
    let i := numberIn 10 ds
    if i = 0 then refuse .badGroupNumber (ds.length + 1)
    modify fun d => { d with conditions := d.conditions ++ [(i, d.position - ds.length - 1)] }
    return i

/-! ### Flags -/

/-- What is said of a character among flags that is none. -/
def flagFault (t : List Char) (missing : String) : RegexFault :=
  .flags (if t.all Text.isWord && !t.any Text.isDigit && t ≠ ['_'] then "unknown flag" else missing)

/-- The flags that are switched on, up to the character that ends them. -/
def flagsOn : (fuel : Nat) → Flags → Char → Reading (Flags × Char)
  | 0, g, c => return (g, c)
  | fuel + 1, g, c => do
    if c = 'L' then refuse (.flags "bad inline flags: cannot use 'L' flag with a str pattern") 0
    let g := g.withLetter c
    if g.ascii && g.unicode then refuse (.flags "bad inline flags: flags 'a', 'u' and 'L' are incompatible") 0
    match ← take with
    | none => refuse (.flags "missing -, : or )") 0
    | some t =>
      match t with
      | [d] =>
        if [')', '-', ':'].contains d then return (g, d)
        else if Flags.isLetter d then flagsOn fuel g d
        else refuse (flagFault t "missing -, : or )") t.length
      | _ => refuse (flagFault t "missing -, : or )") t.length

/-- The flags that are switched off, up to the colon that ends them. -/
def flagsOff : (fuel : Nat) → Flags → Char → Reading Flags
  | 0, g, _ => return g
  | fuel + 1, g, c => do
    if ['L', 'a', 'u'].contains c then
      refuse (.flags "bad inline flags: cannot turn off flags 'a', 'u' and 'L'") 0
    let g := g.withLetter c
    match ← take with
    | none => refuse (.flags "missing :") 0
    | some [':'] => return g
    | some t =>
      match t with
      | [d] => if Flags.isLetter d then flagsOff fuel g d else refuse (flagFault t "missing :") t.length
      | _ => refuse (flagFault t "missing :") t.length

/-- The flags that begin with a character: those for the whole pattern, or the changes for a group. -/
def flagsFrom (c : Char) : Reading (Flags × Option Flags) := do
  let fuel := (← get).rest.length + 1
  let (on, ending) ← if c = '-' then pure ({}, '-') else flagsOn fuel {} c
  if ending = ')' then return (on, none)
  if on.template then refuse (.flags "bad inline flags: cannot turn on global flag") 1
  let off ←
    if ending = '-' then do
      match ← take with
      | none => refuse (.flags "missing flag") 0
      | some t =>
        match t with
        | [d] => if Flags.isLetter d then flagsOff fuel {} d else refuse (flagFault t "missing flag") t.length
        | _ => refuse (flagFault t "missing flag") t.length
    else pure {}
  if off.template then refuse (.flags "bad inline flags: cannot turn off global flag") 1
  if on.meet off then refuse (.flags "bad inline flags: flag turned on and off") 1
  return (on, some off)

/-! ### Expressions -/

/-- The expression of one character. -/
def charItem (f : Flags) (c : Char) : Item :=
  ⟨.set { complement := false, items := [.range c c], fold := f.fold }, .yes⟩

/-- The item that an escape outside a set stands for. -/
def escapedItem (f : Flags) (c : Char) : Reading Item := do
  match c with
  | 'b' => return ⟨.anchor (if f.ascii then .asciiBoundary true else .boundary true), .anchor⟩
  | 'B' => return ⟨.anchor (if f.ascii then .asciiBoundary false else .boundary false), .anchor⟩
  | 'A' => return ⟨.anchor .start, .anchor⟩
  | 'Z' => return ⟨.anchor .textEnd, .anchor⟩
  | _ =>
    match classLetter? f c with
    | some is => return ⟨.set { complement := false, items := is, fold := f.fold }, .yes⟩
    | none =>
      if c = '0' then
        let more ← takeUpTo 2 isOctalDigit
        return charItem f (Char.ofNat (numberIn 8 more))
      else if c.isDigit then return ⟨← numbered f c, .yes⟩
      else return charItem f (← escapedChar c)

/-- A comment that was opened at a position, up to the parenthesis that closes it. -/
def skipComment (start : Nat) : (fuel : Nat) → Reading Unit
  | 0 => refuseAt .openComment start
  | fuel + 1 => do
    match ← take with
    | none => refuseAt .openComment start
    | some [')'] => return ()
    | some _ => skipComment start fuel

/-- The rest of a line of a spaced pattern. -/
def skipRemark : (fuel : Nat) → Reading Unit
  | 0 => return ()
  | fuel + 1 => do
    match ← take with
    | none | some ['\n'] => return ()
    | some _ => skipRemark fuel

/-- The blanks that a spaced pattern may have. -/
def isPatternBlank (c : Char) : Bool := [' ', '\t', '\n', '\r', '\x0b', '\x0c'].contains c

/-- The parenthesis that closes a group, opened at a position. -/
def closeGroup (start : Nat) : Reading Unit := do
  if !(← accept ')') then refuseAt .openGroup start

/-- A new group, with a name if it has one. -/
def openGroup (name : Option String) : Reading Nat := do
  let i := (← get).opened + 1
  modify fun d => { d with opened := i }
  match name with
  | none => return i
  | some n =>
    match (← get).names.lookup n with
    | some old => refuse (.nameTaken n i old) (n.length + 1)
    | none => do
      modify fun d => { d with names := (n, i) :: d.names }
      return i

mutual

/-- The alternatives up to the end of a group or of the pattern. -/
def alternatives : (fuel : Nat) → (top : Bool) → Flags → Reading Regex
  | 0, _, _ => return .empty
  | fuel + 1, top, f => do
    let first ← branch fuel top f []
    return choice (first :: (← moreAlternatives fuel top f))
termination_by structural fuel => fuel

/-- The alternatives behind a bar, if one comes next. -/
def moreAlternatives : (fuel : Nat) → (top : Bool) → Flags → Reading (List Regex)
  | 0, _, _ => return []
  | fuel + 1, top, f => do
    if !(← accept '|') then return []
    let whole := (← get).flags
    let f := if top then whole else f
    let next ← branch fuel false f []
    return next :: (← moreAlternatives fuel top f)
termination_by structural fuel => fuel

/-- A sequence of items, the last of them first, up to a bar or the end of its group. In the first one of a
    pattern, flags for the whole pattern may stand before the items. -/
def branch : (fuel : Nat) → (first : Bool) → Flags → (items : List Item) → Reading Regex
  | 0, _, _, _ => return .empty
  | fuel + 1, first, f, items => do
    let draft ← get
    let f := if first then draft.flags else f
    let position := draft.position
    match ← peek with
    | none | some ['|'] | some [')'] => return sequence (items.reverse.map (·.regex))
    | some t => do
      pass t.length
      let add (item : Item) : Reading Regex := branch fuel first f (item :: items)
      match t with
      | ['\\', c] => add (← escapedItem f c)
      | ['.'] =>
        add ⟨if f.dotAll then .set (.allBut []) else anyChar, .yes⟩
      | ['^'] => add ⟨.anchor (if f.multiline then .lineStart else .start), .anchor⟩
      | ['$'] => add ⟨.anchor (if f.multiline then .lineEnd else .finish), .anchor⟩
      | ['['] => add ⟨← setAt f position, .yes⟩
      | ['('] => do
        match ← groupAt fuel (first && items.isEmpty) f position with
        | none => branch fuel first f items
        | some r => add ⟨r, .yes⟩
      | [c] =>
        if f.spaced && isPatternBlank c then branch fuel first f items
        else if f.spaced && c == '#' then do
          skipRemark ((← get).rest.length + 1)
          branch fuel first f items
        else if ['?', '*', '+', '\x7b'].contains c then do
          match ← repetition? c with
          | none => add (charItem f c)
          | some (least, most) =>
            let item ← repeatItem items.head? position least most
            branch fuel first f (item :: items.tail)
        else add (charItem f c)
      | _ => branch fuel first f items
termination_by structural fuel => fuel

/-- The group that was opened at a position; none for a comment, or flags for the whole pattern. -/
def groupAt : (fuel : Nat) → (mayFlag : Bool) → Flags → (start : Nat) → Reading (Option Regex)
  | 0, _, _, _ => return none
  | fuel + 1, mayFlag, f, start => do
    if !(← accept '?') then return some (← captured fuel none f start)
    match ← take with
    | none => refuse .unexpectedEnd 0
    | some t =>
      match t with
      | [':'] => return some (← plainGroup fuel f start)
      | ['>'] => return some (.once (← plainGroup fuel f start))
      | ['#'] => do
        skipComment start ((← get).rest.length + 1)
        return none
      | ['='] => return some (.look 0 true (← plainGroup fuel f start))
      | ['!'] => return some (.look 0 false (← plainGroup fuel f start))
      | ['<'] =>
        match ← take with
        | none => refuse .unexpectedEnd 0
        | some ['='] => return some (← lookBehind fuel true f start)
        | some ['!'] => return some (← lookBehind fuel false f start)
        | some u => refuse (.unknownExtension ("<" ++ String.ofList u)) (u.length + 2)
      | ['P'] =>
        if ← accept '<' then
          let name ← groupName '>'
          return some (← captured fuel (some name) f start)
        else if ← accept '=' then
          let name ← groupName ')'
          return some (← reference f (← groupNamed name) (name.length + 1))
        else
          match ← take with
          | none => refuse .unexpectedEnd 0
          | some u => refuse (.unknownExtension ("P" ++ String.ofList u)) (u.length + 2)
      | ['('] => return some (← conditional fuel f start)
      | [c] =>
        if Flags.isLetter c || c == '-' then
          match ← flagsFrom c with
          | (on, none) => do
            if !mayFlag then refuseAt .lateFlags start
            modify fun d => { d with flags := d.flags.join on }
            return none
          | (on, some off) => return some (← plainGroup fuel (f.change on off) start)
        else refuse (.unknownExtension (String.ofList t)) (t.length + 1)
      | _ => refuse (.unknownExtension (String.ofList t)) (t.length + 1)
termination_by structural fuel => fuel

/-- The inside of a group and the parenthesis that closes it. -/
def plainGroup : (fuel : Nat) → Flags → (start : Nat) → Reading Regex
  | 0, _, _ => return .empty
  | fuel + 1, f, start => do
    let r ← alternatives fuel false f
    closeGroup start
    return r
termination_by structural fuel => fuel

/-- A group with a number, and perhaps a name. -/
def captured : (fuel : Nat) → Option String → Flags → (start : Nat) → Reading Regex
  | 0, _, _, _ => return .empty
  | fuel + 1, name, f, start => do
    let i ← openGroup name
    let r ← plainGroup fuel f start
    modify fun d => { d with closed := (i, r.width d.closed) :: d.closed }
    return .group i r
termination_by structural fuel => fuel

/-- A look behind, whose expression should have one width. -/
def lookBehind : (fuel : Nat) → (wanted : Bool) → Flags → (start : Nat) → Reading Regex
  | 0, _, _, _ => return .empty
  | fuel + 1, wanted, f, start => do
    let outer := (← get).lookFrom
    modify fun d => { d with lookFrom := outer.or (some (d.opened + 1)) }
    let r ← alternatives fuel false f
    modify fun d => { d with lookFrom := outer }
    closeGroup start
    match (r.width (← get).closed).single? with
    | some n => return .look n wanted r
    | none => do
      modify fun d => { d with looseLook := true }
      return .look 0 wanted r
termination_by structural fuel => fuel

/-- Two expressions, one for the case that a group holds something. -/
def conditional : (fuel : Nat) → Flags → (start : Nat) → Reading Regex
  | 0, _, _ => return .empty
  | fuel + 1, f, start => do
    let i ← conditionGroup
    checkLook i
    let yes ← branch fuel false f []
    let no ←
      if ← accept '|' then do
        let no ← branch fuel false f []
        if ← isNext '|' then refuse .thirdBranch 0
        pure no
      else pure .empty
    closeGroup start
    return .provided i yes no
termination_by structural fuel => fuel

end

/-- The expression of a whole pattern. -/
def whole : Reading Regex := do
  if (← get).rest = ['\\'] then refuse .lastBackslash 0
  let r ← alternatives (8 * (← get).rest.length + 8) true {}
  if (← get).flags.ascii && (← get).flags.unicode then refuse .mixedFlags 0
  if ← isNext ')' then refuse .strayClose 0
  let d ← get
  match d.conditions.find? fun c => d.opened < c.1 with
  | some (i, position) => refuseAt (.noSuchGroup i) position
  | none =>
    if d.flags.template && d.repeats then refuse .barredRepetition 0
    else if d.looseLook then refuse .looseLook 0
    else return r

/-- The expression that a pattern writes. -/
def read (pattern : String) : Except RegexError Regex :=
  let cs := pattern.toList
  match (whole.run { rest := cs }) with
  | .ok (r, _) => .ok r
  | .error e => .error (e.inPattern cs)

end Regex

/-- An expression with the pattern that writes it. -/
structure Pattern where
  text : String
  regex : Regex
deriving DecidableEq, Repr

/-- The pattern written by a text. -/
def Pattern.read (text : String) : Except RegexError Pattern := do return ⟨text, ← Regex.read text⟩

/-- The pattern that stands for a text itself. -/
def Pattern.literal (s : String) : Pattern := ⟨Regex.escape s, Regex.literal s⟩

def Pattern.matches? (p : Pattern) (line : String) : Bool := p.regex.matches? line.toList

end ClientMigration

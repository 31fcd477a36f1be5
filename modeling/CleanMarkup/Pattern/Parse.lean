import CleanMarkup.Pattern.Bracket
import CleanMarkup.Pattern.Expr
import CleanMarkup.Pattern.Group

/-!
# Reading patterns

A pattern is read from left to right with the groups that are still open kept in a list, nearest
first. It is refused if it is nested too deeply or would take too much room.
-/

namespace CleanMarkup

namespace Pattern

/-- An expression that has been read, how deeply it is nested, and whether it may be repeated. -/
structure Piece where
  expr : Expr
  depth : Nat
  repeatable : Bool := true

/-- The part of a group that has been read. Pieces and branches come newest first. -/
structure Branches where
  earlier : List Piece := []
  pieces : List Piece := []

/-- A group that is still open: what was read before it, and the flags to go back to. -/
structure OpenGroup where
  flags : Flags
  before : Branches

/-- How far a pattern has been read. -/
structure Progress where
  flags : Flags := {}
  current : Branches := {}
  outer : List OpenGroup := []
  names : List Text := []

namespace Branches

/-- With one more piece. -/
def add (b : Branches) (p : Piece) : Branches := { b with pieces := p :: b.pieces }

/-- The pieces of the current branch as one. -/
def branch (b : Branches) : Piece :=
  let deepest := (b.pieces.map (·.depth)).foldl max 0
  { expr := Expr.ofList (b.pieces.reverse.map (·.expr))
    depth := if b.pieces.length ≤ 1 then deepest else deepest + 1 }

/-- Ends the current branch and starts the next. -/
def split (b : Branches) : Branches := { earlier := b.branch :: b.earlier, pieces := [] }

/-- All branches as one piece. -/
def whole (b : Branches) : Piece :=
  let last := b.branch
  { expr := Expr.choice (b.earlier.map (·.expr)) last.expr
    depth := if b.earlier.isEmpty then last.depth
      else (b.earlier.map (·.depth)).foldl max last.depth + 1 }

/-- Repeats the latest piece. -/
def repeatLast (b : Branches) (low : Nat) (high : Option Nat) : Except Fault Branches :=
  match b.pieces with
  | p :: ps =>
    if p.repeatable then
      .ok { b with pieces := { expr := .rep low high p.expr, depth := p.depth + 1 } :: ps }
    else .error .nothingToRepeat
  | [] => .error .nothingToRepeat

end Branches

namespace Progress

/-- With one more expression. -/
def add (p : Progress) (e : Expr) (depth : Nat) : Progress :=
  { p with current := p.current.add { expr := e, depth } }

/-- With one more set of characters. -/
def addSet (p : Progress) (k : CharClass) : Progress := p.add (.one k) 0

/-- With one more character, in any case where case does not matter. -/
def addChar (p : Progress) (c : Char) : Progress := p.addSet (p.flags.fold (.one c))

/-- With what an escape says. -/
def addItem (p : Progress) : Item → Progress
  | .literal c => p.addChar c
  | .set k => p.addSet k
  | .look l => p.add (.look l) 0

/-- Follows the head of a group: changes the flags, or opens the group. -/
def follow (p : Progress) : GroupHead → Except Fault Progress
  | .switch changes =>
    .ok { p with
      flags := p.flags.change changes
      current := p.current.add { expr := .empty, depth := 0, repeatable := false } }
  | .group changes name =>
    if name.any p.names.contains then .error .groupName
    else .ok { p with
      flags := p.flags.change changes
      current := {}
      outer := ⟨p.flags, p.current⟩ :: p.outer
      names := name.toList ++ p.names }

/-- Closes the nearest group. -/
def closeGroup (p : Progress) : Except Fault Progress :=
  match p.outer with
  | [] => .error .unopenedGroup
  | g :: outer =>
    let whole := p.current.whole
    .ok { p with
      flags := g.flags
      current := g.before.add { expr := whole.expr, depth := whole.depth + 1 }
      outer }

/-- Repeats the latest piece. -/
def repeatLast (p : Progress) (low : Nat) (high : Option Nat) : Except Fault Progress := do
  .ok { p with current := ← p.current.repeatLast low high }

/-- Any character, or any within a line. -/
def addDot (p : Progress) : Except Fault Progress :=
  if !p.flags.unicode then .error .notText
  else .ok (p.addSet (if p.flags.dotAll then .everything else .withinLine p.flags.crlf))

/-- The start of the text, or of a line. -/
def addStart (p : Progress) : Progress :=
  p.add (.look (if p.flags.multiLine then .lineStart p.flags.crlf else .textStart)) 0

/-- The end of the text, or of a line. -/
def addEnd (p : Progress) : Progress :=
  p.add (.look (if p.flags.multiLine then .lineEnd p.flags.crlf else .textEnd)) 0

end Progress

/-- The question mark after a repetition asks for the fewest, which changes nothing about what
matches. -/
def skipLazy (s : Text) : Rest s := .drop (if s.head? == some '?' then 1 else 0) s

/-- Reads what starts with the character `c`. -/
def readPiece (p : Progress) (c : Char) (s : Text) : Read Progress s :=
  let here (p : Progress) : Read Progress s := .ok (p, .all s)
  let repeated (low : Nat) (high : Option Nat) : Read Progress s := do
    return (← p.repeatLast low high, skipLazy s)
  match c with
  | '(' => do
    let (head, t) ← groupHead p.flags s
    return (← p.follow head, t)
  | ')' => p.closeGroup >>= here
  | '|' => here { p with current := p.current.split }
  | '[' => do
    let (b, t) ← openBracket p.flags s
    onward t do
      let (n, u) ← bracket p.flags b [] t.1
      return (p.add (.one n.set) n.depth, u)
  | '?' => repeated 0 (some 1)
  | '*' => repeated 0 none
  | '+' => repeated 1 none
  | '\x7b' => do
    let ((low, high), t) ← counts p.flags s
    let u := t.trans (skip p.flags t.1)
    return (← p.repeatLast low high, u.trans (skipLazy u.1))
  | '\\' => do
    let (item, t) ← escape p.flags s
    return (p.addItem item, t)
  | '.' => p.addDot >>= here
  | '^' => here p.addStart
  | '$' => here p.addEnd
  | c => here (p.addChar c)

/-- Reads on to the end of the pattern. -/
def readOn (p : Progress) (s : Text) : Except Fault Progress :=
  match skip p.flags s with
  | ⟨[], _⟩ => .ok p
  | ⟨c :: r, h⟩ => do
    let (p, t) ← readPiece p c r
    let onwards : Shorter s := .behind h t
    readOn p onwards.1
termination_by s.length
decreasing_by exact onwards.2

/-- How deeply a pattern may be nested. -/
def depthLimit : Nat := 250

/-- Reads a whole pattern. -/
def parse (s : Text) : Except Fault Expr := do
  let p ← readOn {} s
  let whole := p.current.whole
  if !p.outer.isEmpty then .error .unclosed
  else if depthLimit < whole.depth then .error .depth
  else if Expr.sizeLimit < whole.expr.size then .error .size
  else .ok whole.expr

end Pattern

end CleanMarkup

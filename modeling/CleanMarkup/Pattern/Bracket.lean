import CleanMarkup.Pattern.Escape

/-!
# Bracketed classes

A class in square brackets lists characters, ranges, escapes, named sets and further classes. Two
lists may be joined by `&&`, `--` and `~~`, from left to right; each list and the whole are taken
with the partners of letter case before a leading `^` negates them.
-/

namespace CleanMarkup

namespace Pattern

/-- The operators between lists of a class. -/
inductive Joint
  | inter | diff | symmDiff

/-- The class that two lists make. -/
def Joint.join : Joint → CharClass → CharClass → CharClass
  | inter => .inter
  | diff => .diff
  | symmDiff => .symmDiff

/-- A set and how deeply its classes and lists are nested. -/
structure Nested where
  set : CharClass
  depth : Nat

/-- A class that is still open. -/
structure Bracket where
  negate : Bool
  /-- What stands to the left of the latest operator. -/
  left : Option (Joint × Nested)
  /-- The members of the current list, newest first. -/
  members : List Nested

namespace Bracket

/-- With one more member. -/
def add (b : Bracket) (k : CharClass) (depth : Nat) : Bracket :=
  { b with members := ⟨k, depth⟩ :: b.members }

/-- All that stands before the next operator or the end. -/
def combined (f : Flags) (b : Bracket) : Nested :=
  let deepest := (b.members.map (·.depth)).foldl max 0
  let list : Nested :=
    { set := CharClass.ofList (b.members.reverse.map (·.set))
      depth := if b.members.length ≤ 1 then deepest else deepest + 1 }
  match b.left with
  | none => list
  | some (joint, left) =>
    { set := joint.join (f.fold left.set) (f.fold list.set)
      depth := max left.depth list.depth + 1 }

/-- Starts a new list after an operator. -/
def operate (f : Flags) (b : Bracket) (joint : Joint) : Bracket :=
  { b with left := some (joint, b.combined f), members := [] }

/-- The class that the closing bracket ends. Without Unicode it must stay within ASCII. -/
def close (f : Flags) (b : Bracket) : Except Fault Nested :=
  let all := b.combined f
  let set := CharClass.negated b.negate (f.fold all.set)
  if !f.unicode && set.has '\x80' then .error .notText else .ok ⟨set, all.depth + 1⟩

end Bracket

/-- The hyphens at the start of a class, which stand for themselves. -/
def leadingHyphens (f : Flags) (b : Bracket) (s : Text) : Read Bracket s :=
  match skip f s with
  | ⟨[], _⟩ => .error .unclosed
  | ⟨c :: r, h⟩ =>
    if c = '-' then onward (.behind h) (leadingHyphens f (b.add (.one '-') 0) r)
    else .ok (b, ⟨c :: r, h⟩)
termination_by s.length
decreasing_by exact h

/-- Reads the start of a class after its bracket: `^` negates it, then hyphens and, where there
are none, a closing bracket stand for themselves. -/
def openBracket (f : Flags) (s : Text) : Read Bracket s :=
  let (negate, start) : Bool × Rest s := match skip f s with
    | ⟨'^' :: _, h⟩ => (true, .behind h)
    | t => (false, t)
  onward start do
    let (b, t) ← leadingHyphens f ⟨negate, none, []⟩ start.1
    match b.members, t with
    | [], ⟨']' :: _, h⟩ => return (b.add (.one ']') 0, .behind h)
    | _, t => return (b, t)

/-- Reads a set such as `[:alpha:]` or `[:^alpha:]` after its first bracket, if one stands here. -/
def posixSet? (f : Flags) (s : Text) : Option (CharClass × Rest s) :=
  match s with
  | ':' :: r =>
    let negate := r.head? == some '^'
    let start := Rest.drop (if negate then 1 else 0) r
    let name := start.1.takeWhile (· != ':')
    let close := Rest.dropWhile (· != ':') start.1
    if [':', ']'].isPrefixOf close.1 then
      (CharClass.ofPosixName? (String.ofList name)).map fun k =>
        (.negated negate (f.fold k),
          .trans (.tail _ r) (start.trans (close.trans (.drop 2 close.1))))
    else none
  | _ => none

/-- Reads a character or an escape in a class. -/
def bracketItem (f : Flags) (c : Char) (s : Text) : Read Item s :=
  if c = '\\' then escape f s else .ok (.literal c, .all s)

/-- The character that decides whether a hyphen before `s` makes a range: the next one that is
not layout. -/
def afterHyphen (f : Flags) (s : Text) : Option Char :=
  if f.layout then
    match s.dropWhile isBlank with
    | '#' :: r => (r.dropWhile isBlank).head?
    | t => t.head?
  else s.head?

/-- A character as a member. Without Unicode it must be one of ASCII. -/
def member (f : Flags) (c : Char) : Except Fault Char :=
  if !f.unicode && 128 ≤ c.toNat then .error .notText else .ok c

/-- The range between two items. -/
def rangeOf (f : Flags) : Item → Item → Except Fault CharClass
  | .literal low, .literal high => do
    let low ← member f low
    let high ← member f high
    if high < low then .error .range else .ok (.range low high)
  | _, _ => .error .range

/-- An item as a member on its own. -/
def single (f : Flags) : Item → Except Fault CharClass
  | .literal c => do .ok (.one (← member f c))
  | .set k => .ok k
  | .look _ => .error .classItem

/-- Reads a member that starts with `c`: a range, or a single character or set. -/
def bracketMember (f : Flags) (c : Char) (s : Text) : Read CharClass s := do
  let (first, t) ← bracketItem f c s
  onward t <| match skip f t.1 with
  | ⟨[], _⟩ => .error .unclosed
  | ⟨d :: r, h⟩ =>
    if d = '-' && afterHyphen f r != some ']' && afterHyphen f r != some '-' then
      onward (.behind h) <| match skip f r with
      | ⟨[], _⟩ => .error .unclosed
      | ⟨e :: u, hu⟩ => onward (.behind hu) do
        let (last, v) ← bracketItem f e u
        return (← rangeOf f first last, v)
    else do return (← single f first, .all t.1)

/-- Reads a class on to its closing bracket. `outer` are the classes around it, nearest first. -/
def bracket (f : Flags) (b : Bracket) (outer : List Bracket) (s : Text) : Read Nested s :=
  match skip f s with
  | ⟨[], _⟩ => .error .unclosed
  | ⟨c :: r, h⟩ =>
    let readOn (b : Bracket) (outer : List Bracket) (t : Rest r) : Read Nested s :=
      onward (.trans (.behind h) t) (bracket f b outer t.1)
    let afterNext : Rest r := .drop 1 r
    if c = '[' then
      match posixSet? f r with
      | some (k, t) => readOn (b.add k 0) outer t
      | none => do
        let (inner, t) ← openBracket f r
        readOn inner (b :: outer) t
    else if c = ']' then do
      let n ← b.close f
      match outer with
      | [] => .ok (n, .behind h)
      | up :: outer => readOn (up.add n.set n.depth) outer (.all r)
    else if c = '&' && r.head? == some '&' then readOn (b.operate f .inter) outer afterNext
    else if c = '-' && r.head? == some '-' then readOn (b.operate f .diff) outer afterNext
    else if c = '~' && r.head? == some '~' then readOn (b.operate f .symmDiff) outer afterNext
    else do
      let (k, t) ← bracketMember f c r
      readOn (b.add k 0) outer t
termination_by s.length
decreasing_by exact Nat.lt_of_lt_of_le (Nat.lt_succ_of_le t.2) h

end Pattern

end CleanMarkup

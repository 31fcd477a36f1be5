import CleanMarkup.Pattern.CharClass

/-!
# Search by marked trees

A pattern is a tree whose leaves are sets of characters. While a text is read, a leaf is marked
when some way to match from an earlier place has just consumed a character there. `shift` moves
the marks over one character, `finished` says that a match ends here, and `passable` that the
tree matches the empty text here. A search starts a match at every place, so it takes one pass.
-/

namespace CleanMarkup

namespace Pattern

/-- A place in a text: the characters next to it. -/
structure Place where
  before : Option Char
  after : Option Char

/-- A condition on a place. -/
inductive Look
  | textStart | textEnd
  | lineStart (crlf : Bool) | lineEnd (crlf : Bool)
  | edge (ascii negate : Bool)
  | wordStart (ascii half : Bool) | wordEnd (ascii half : Bool)

/-- The place satisfies the condition. -/
def Look.holds (p : Place) : Look → Bool
  | textStart => p.before.isNone
  | textEnd => p.after.isNone
  | lineStart false => p.before.all (· == '\n')
  | lineStart true =>
    p.before.all fun c => c == '\n' || (c == '\r' && p.after != some '\n')
  | lineEnd false => p.after.all (· == '\n')
  | lineEnd true =>
    p.after.all fun c => c == '\r' || (c == '\n' && p.before != some '\r')
  | edge ascii negate => (inWord ascii p.before != inWord ascii p.after) != negate
  | wordStart ascii half => !inWord ascii p.before && (half || inWord ascii p.after)
  | wordEnd ascii half => (half || inWord ascii p.before) && !inWord ascii p.after
where
  /-- There is a character, and it belongs to a word. -/
  inWord (ascii : Bool) (c : Option Char) : Bool := c.any (if ascii then isAsciiWord else isWord)

/-- A pattern in the form that is searched for. -/
inductive Tree
  | empty
  | look (l : Look)
  | leaf (marked : Bool) (k : CharClass)
  | seq (a b : Tree)
  | alt (a b : Tree)
  | star (a : Tree)

namespace Tree

/-- The tree matches the empty text at the place. -/
def passable (p : Place) : Tree → Bool
  | empty => true
  | look l => l.holds p
  | leaf _ _ => false
  | seq a b => a.passable p && b.passable p
  | alt a b => a.passable p || b.passable p
  | star _ => true

/-- Some match that has begun ends at the place. -/
def finished (p : Place) : Tree → Bool
  | empty => false
  | look _ => false
  | leaf marked _ => marked
  | seq a b => (a.finished p && b.passable p) || b.finished p
  | alt a b => a.finished p || b.finished p
  | star a => a.finished p

/-- The marks after the character `c` at the place; `enter` says that a match may begin the tree
here. -/
def shift (p : Place) (c : Char) (enter : Bool) : Tree → Tree
  | empty => empty
  | look l => look l
  | leaf _ k => leaf (enter && k.has c) k
  | seq a b =>
    seq (a.shift p c enter) (b.shift p c ((enter && a.passable p) || a.finished p))
  | alt a b => alt (a.shift p c enter) (b.shift p c enter)
  | star a => star (a.shift p c (enter || a.finished p))

/-- A match begins and ends somewhere in the text that is left, or has begun and ends there. -/
def foundIn (t : Tree) (before : Option Char) : Text → Bool
  | [] => t.finished ⟨before, none⟩ || t.passable ⟨before, none⟩
  | c :: r =>
    let p : Place := ⟨before, some c⟩
    t.finished p || t.passable p || (t.shift p c true).foundIn (some c) r

end Tree

end Pattern

end CleanMarkup

import CleanMarkup.Pattern.Tree

/-!
# Expressions

What a written pattern says, with its flags applied and its repetitions still counted. An
expression becomes a tree by writing every repetition out, and `size` says, before that is done,
how much room the result takes.
-/

namespace CleanMarkup

namespace Pattern

/-- A pattern as it is read. -/
inductive Expr
  | empty
  | look (l : Look)
  | one (k : CharClass)
  | seq (a b : Expr)
  | alt (a b : Expr)
  | rep (low : Nat) (high : Option Nat) (a : Expr)

namespace Expr

/-- The expressions one after another. -/
def ofList (es : List Expr) : Expr := es.foldr seq empty

/-- One of the expressions: the earlier ones, newest first, or the last. -/
def choice (earlier : List Expr) (last : Expr) : Expr := earlier.foldl (fun e b => alt b e) last

/-- The expression matches no text but the empty one. -/
def isZeroWidth : Expr → Bool
  | empty => true
  | look _ => true
  | one _ => false
  | seq a b => a.isZeroWidth && b.isZeroWidth
  | alt a b => a.isZeroWidth && b.isZeroWidth
  | rep _ high a => high == some 0 || a.isZeroWidth

/-- `n` copies of a tree and then another one. -/
def copies (n : Nat) (t last : Tree) : Tree := n.repeat (Tree.seq t) last

/-- At most `n` copies of a tree. -/
def upTo (n : Nat) (t : Tree) : Tree :=
  n.repeat (fun rest => Tree.alt (Tree.seq t rest) Tree.empty) Tree.empty

/-- The expression with its repetitions written out. More than one repetition of an expression
without width says no more than one. -/
def toTree : Expr → Tree
  | empty => .empty
  | look l => .look l
  | one k => .leaf false k
  | seq a b => .seq a.toTree b.toTree
  | alt a b => .alt a.toTree b.toTree
  | rep low high a =>
    if a.isZeroWidth then (if low = 0 then .empty else a.toTree)
    else match high with
      | none => copies low a.toTree (.star a.toTree)
      | some high => copies low a.toTree (upTo (high - low) a.toTree)

/-- About how many bytes a set takes: 32 for each byte of a character, else an automaton over
UTF-8. -/
def classSize : CharClass → Nat
  | .one c => 32 * c.utf8Size
  | k => 32 + (if k.isAsciiOnly then 8 else 60) * k.ranges

/-- About how many bytes the written-out expression takes. -/
def size : Expr → Nat
  | empty | look _ => 32
  | one k => classSize k
  | seq a b => a.size + b.size
  | alt a b => a.size + b.size + 36
  | rep low high a =>
    if high = some 0 then 32
    else if a.isZeroWidth then a.size + 40
    else match high with
      | none => max low 1 * a.size + 40
      | some high => low * a.size + (high - low) * (a.size + 40) + 32

/-- The room that a pattern may take. -/
def sizeLimit : Nat := 10 * 1024 * 1024

end Expr

end Pattern

end CleanMarkup

import CleanMarkup.Pattern.Layout
import CleanMarkup.Pattern.Property
import CleanMarkup.Pattern.Tree

/-!
# Escapes

What may follow a backslash: a punctuation character that stands for itself, a letter that stands
for a control, a code point, a set of characters, or a condition on the place.
-/

namespace CleanMarkup

namespace Pattern

/-- What an escape says. -/
inductive Item
  | literal (c : Char)
  | set (k : CharClass)
  | look (l : Look)

/-- A set under the flags: with the partners of letter case where case does not matter. -/
def Flags.fold (f : Flags) (k : CharClass) : CharClass :=
  if f.anyCase then (if f.unicode then .anyCase k else .anyAsciiCase k) else k

/-- The characters that mean something in patterns. -/
def isMeta (c : Char) : Bool :=
  ['\\', '.', '+', '*', '?', '(', ')', '|', '[', ']', '\x7b', '\x7d', '^', '$', '#', '&', '-',
    '~'].contains c

/-- The characters that a backslash turns into themselves: those of ASCII that are neither
letters nor digits nor angle brackets. -/
def isEscapable (c : Char) : Bool :=
  isMeta c || (c.toNat < 128 && !(c.isAlphanum || c == '<' || c == '>'))

/-- The controls that letters stand for. -/
def controlOf? (c : Char) : Option Char :=
  match c with
  | 'a' => some '\x07'
  | 'f' => some '\x0c'
  | 't' => some '\t'
  | 'n' => some '\n'
  | 'r' => some '\r'
  | 'v' => some '\x0b'
  | _ => none

/-- Reads `n` hexadecimal digits on from a value. -/
def hexDigits (f : Flags) : (n value : Nat) → (s : Text) → Read Nat s
  | 0, value, s => .ok (value, .all s)
  | n + 1, value, s =>
    match skip f s with
    | ⟨[], _⟩ => .error .codePoint
    | ⟨c :: r, h⟩ =>
      match Text.hexDigit? c with
      | none => .error .codePoint
      | some d => onward (.behind h) (hexDigits f n (16 * value + d) r)

/-- The character of a code point. Without Unicode, a byte beyond ASCII is no text. -/
def codePoint (f : Flags) (isByte : Bool) (n : Nat) : Except Fault Item :=
  if !n.isValidChar then .error .codePoint
  else if !f.unicode && isByte && 128 ≤ n && n < 256 then .error .notText
  else .ok (.literal (Char.ofNat n))

/-- Reads the code point after `x`, `u` or `U`: in braces, or as that many digits. -/
def hexEscape (f : Flags) (isByte : Bool) (digits : Nat) (s : Text) : Read Item s :=
  match skip f s with
  | ⟨[], _⟩ => .error .codePoint
  | ⟨c :: r, h⟩ =>
    if c = '\x7b' then onward (.behind h) do
      let (cs, t) ← braced f r
      if cs.isEmpty || cs.any (Text.hexDigit? · |>.isNone) then .error .codePoint
      else return (← codePoint f isByte (Text.hexValue cs), t)
    else onward ⟨c :: r, h⟩ do
      let (n, t) ← hexDigits f digits 0 (c :: r)
      return (← codePoint f isByte n, t)

/-- Reads the name of a property: one letter, or a text in braces. -/
def propertyEscape (f : Flags) (negate : Bool) (s : Text) : Read Item s :=
  match skip f s with
  | ⟨[], _⟩ => .error .property
  | ⟨c :: r, h⟩ =>
    if !f.unicode then .error .notText
    else if c = '\x7b' then onward (.behind h) do
      let (cs, t) ← braced f r
      match propertyOf? cs with
      | none => .error .property
      | some k => return (.set (.negated negate (f.fold k)), t)
    else match propertyNamed? [c] with
      | none => .error .property
      | some k => .ok (.set (.negated negate (f.fold k)), .behind h)

/-- The sets that `d`, `s` and `w` stand for. Without Unicode they are those of ASCII, and their
complements are no text. -/
def letterSet (f : Flags) (negate : Bool) (unicode ascii : CharClass) : Except Fault Item :=
  if f.unicode then .ok (.set (.negated negate unicode))
  else if negate then .error .notText
  else .ok (.set ascii)

/-- Letters and hyphens with layout between them, and the rest. -/
def edgeName (f : Flags) (s : Text) : Text × Rest s :=
  match skip f s with
  | ⟨[], _⟩ => ([], .nothing s)
  | ⟨c :: r, h⟩ =>
    if c.isAlpha || c == '-' then
      let (cs, t) := edgeName f r
      (c :: cs, .trans (.behind h) t)
    else ([], ⟨c :: r, h⟩)
termination_by s.length
decreasing_by exact h

/-- The edge that goes by a name. -/
def edgeNamed? (ascii : Bool) (name : Text) : Option Look :=
  match String.ofList name with
  | "start" => some (.wordStart ascii false)
  | "end" => some (.wordEnd ascii false)
  | "start-half" => some (.wordStart ascii true)
  | "end-half" => some (.wordEnd ascii true)
  | _ => none

/-- Reads what follows `\b`: the name of an edge in braces, if a letter or a hyphen follows the
brace, else nothing. -/
def edgeEscape (f : Flags) (s : Text) : Read Item s :=
  let plain : Item := .look (.edge (!f.unicode) false)
  match s with
  | '\x7b' :: r =>
    match edgeName f r with
    | ([], ⟨[], _⟩) => .error .unclosed
    | ([], _) => .ok (plain, .all ('\x7b' :: r))
    | (name, ⟨'\x7d' :: _, h⟩) =>
      match edgeNamed? (!f.unicode) name with
      | some look => .ok (.look look, .trans (.tail _ r) (.behind h))
      | none => .error .escape
    | _ => .error .unclosed
  | s => .ok (plain, .all s)

/-- Reads what follows a backslash. -/
def escape (f : Flags) (s : Text) : Read Item s :=
  match s with
  | [] => .error .escape
  | c :: r =>
    let here (i : Item) : Read Item (c :: r) := .ok (i, .tail c r)
    let after (x : Read Item r) : Read Item (c :: r) := onward (.tail c r) x
    let ascii := !f.unicode
    match c with
    | 'x' => after (hexEscape f true 2 r)
    | 'u' => after (hexEscape f false 4 r)
    | 'U' => after (hexEscape f false 8 r)
    | 'p' => after (propertyEscape f false r)
    | 'P' => after (propertyEscape f true r)
    | 'd' => letterSet f false .decimal (.range '0' '9') >>= here
    | 'D' => letterSet f true .decimal (.range '0' '9') >>= here
    | 's' => letterSet f false .blank .asciiBlank >>= here
    | 'S' => letterSet f true .blank .asciiBlank >>= here
    | 'w' => letterSet f false .word .asciiWord >>= here
    | 'W' => letterSet f true .word .asciiWord >>= here
    | 'A' => here (.look .textStart)
    | 'z' => here (.look .textEnd)
    | 'b' => after (edgeEscape f r)
    | 'B' => here (.look (.edge ascii true))
    | '<' => here (.look (.wordStart ascii false))
    | '>' => here (.look (.wordEnd ascii false))
    | c =>
      match controlOf? c with
      | some d => here (.literal d)
      | none => if isEscapable c then here (.literal c) else .error .escape

end Pattern

end CleanMarkup

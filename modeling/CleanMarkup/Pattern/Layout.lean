import CleanMarkup.Pattern.Error
import CleanMarkup.Text.Words

/-!
# Flags and layout

Flags are switched on and off by `(?i)`, for the rest of the group, or by `(?i:…)` for a group of
their own. Under the `x` flag, blanks and comments in a pattern are layout and are skipped.
-/

namespace CleanMarkup

namespace Pattern

/-- The flags that are in force. -/
structure Flags where
  anyCase : Bool := false
  multiLine : Bool := false
  dotAll : Bool := false
  unicode : Bool := true
  crlf : Bool := false
  layout : Bool := false

namespace Flags

/-- Switches the flag that goes by a letter. Greed changes nothing about what matches. -/
def set (f : Flags) (letter : Char) (on : Bool) : Flags :=
  match letter with
  | 'i' => { f with anyCase := on }
  | 'm' => { f with multiLine := on }
  | 's' => { f with dotAll := on }
  | 'u' => { f with unicode := on }
  | 'R' => { f with crlf := on }
  | 'x' => { f with layout := on }
  | _ => f

/-- The letters of all flags. -/
def letters : List Char := ['i', 'm', 's', 'u', 'R', 'x', 'U']

end Flags

/-- Skips blanks, and comments from `#` to the end of the line. -/
def skipLayout (s : Text) : Rest s :=
  match s with
  | [] => .nothing []
  | c :: r =>
    if isBlank c then .trans (.tail c r) (skipLayout r)
    else if c = '#' then
      let line := Rest.dropThrough (· != '\n') r
      .trans (.tail c r) (line.trans (skipLayout line.1))
    else .all (c :: r)
termination_by s.length
decreasing_by
  · exact Nat.lt_succ_self _
  · exact Nat.lt_succ_of_le line.2

/-- Skips layout where the flag is on. -/
def skip (f : Flags) (s : Text) : Rest s := if f.layout then skipLayout s else .all s

/-- A piece of a pattern that has been read, and the rest of the pattern. -/
abbrev Read (β : Type) (s : Text) := Except Fault (β × Rest s)

/-- What is read from a rest of `s`, read from `s`. -/
def onward {β : Type} {s : Text} (t : Rest s) (x : Read β t.1) : Read β s :=
  x.map fun (b, u) => (b, t.trans u)

/-- The characters up to a closing brace, layout left out, and what follows the brace. -/
def braced (f : Flags) (s : Text) : Read Text s :=
  match skip f s with
  | ⟨[], _⟩ => .error .unclosed
  | ⟨c :: r, h⟩ =>
    if c = '\x7d' then .ok ([], .behind h)
    else onward (.behind h) ((braced f r).map fun (cs, t) => (c :: cs, t))
termination_by s.length
decreasing_by exact h

end Pattern

end CleanMarkup

import CleanMarkup.Pattern.Layout
import CleanMarkup.Unicode.Category
import CleanMarkup.Unicode.Property

/-!
# Groups and repetition counts

The pieces of a pattern that are read around its characters: the head of a group after its
parenthesis, and the counts of a repetition after its brace.
-/

namespace CleanMarkup

namespace Pattern

/-- What the head of a group says: flags for the rest of the group around it, or a group with
flags of its own and perhaps a name. -/
inductive GroupHead
  | switch (changes : List (Char × Bool))
  | group (changes : List (Char × Bool)) (name : Option Text)

/-- The flags after changes, the earliest of which come last. -/
def Flags.change (f : Flags) (changes : List (Char × Bool)) : Flags :=
  changes.foldr (fun (letter, on) f => f.set letter on) f

/-- Letters that a name may start with. -/
def isNameStart (c : Char) : Bool := c == '_' || Property.alphabetic.has c

/-- Characters that a name may go on with. -/
def isNameChar (c : Char) : Bool :=
  isNameStart c || c == '.' || c == '[' || c == ']' || Category.decimalNumber.has c ||
    Category.letterNumber.has c || Category.otherNumber.has c

/-- Reads the flags of a group up to its colon or parenthesis. `on` says that no hyphen has been
read, `hyphen` that the latest character was one. -/
def groupFlags (on hyphen : Bool) (changes : List (Char × Bool)) : (s : Text) → Read GroupHead s
  | [] => .error .unclosed
  | ':' :: r => if hyphen then .error .flag else .ok (.group changes none, .tail _ r)
  | ')' :: r =>
    if hyphen then .error .flag
    else if changes.isEmpty then .error .nothingToRepeat
    else .ok (.switch changes, .tail _ r)
  | '-' :: r =>
    if on then onward (.tail _ r) (groupFlags false true changes r) else .error .flag
  | c :: r =>
    if Flags.letters.contains c && !(changes.map (·.1)).contains c then
      onward (.tail c r) (groupFlags on false ((c, on) :: changes) r)
    else .error .flag

/-- Reads the name of a group up to its angle bracket. -/
def groupName (s : Text) : Read GroupHead s :=
  match s.takeWhile (· != '>') with
  | c :: cs =>
    if s.contains '>' && isNameStart c && cs.all isNameChar then
      .ok (.group [] (some (c :: cs)), .dropThrough (· != '>') s)
    else .error .groupName
  | [] => .error .groupName

/-- Reads the head of a group after its parenthesis. -/
def groupHead (f : Flags) (s : Text) : Read GroupHead s :=
  let start := skip f s
  onward start <| match start.1 with
  | '?' :: '=' :: _ | '?' :: '!' :: _ => .error .lookAround
  | '?' :: '<' :: '=' :: _ | '?' :: '<' :: '!' :: _ => .error .lookAround
  | '?' :: 'P' :: '<' :: r =>
    onward (.trans (.tail _ _) (.trans (.tail _ _) (.tail _ r))) (groupName r)
  | '?' :: '<' :: r => onward (.trans (.tail _ _) (.tail _ r)) (groupName r)
  | '?' :: r => onward (.tail _ r) (groupFlags true false [] r)
  | r => .ok (.group [] none, .all r)

/-- Digits with layout between them, and the rest. -/
def digitRun (f : Flags) (s : Text) : Text × Rest s :=
  match s with
  | [] => ([], .nothing [])
  | c :: r =>
    if Text.isDigit c then
      let t := skip f r
      let (cs, u) := digitRun f t.1
      (c :: cs, .trans (.tail c r) (t.trans u))
    else ([], .all (c :: r))
termination_by s.length
decreasing_by exact Nat.lt_succ_of_le t.2

/-- The bound that counts have to stay below. -/
def countBound : Nat := 4294967296

/-- Reads a count, with blanks around it. -/
def count (f : Flags) (s : Text) : Read Nat s :=
  let start := Rest.dropWhile isBlank s
  let (digits, t) := digitRun f start.1
  let n := Text.decimalValue digits
  if digits.isEmpty || countBound ≤ n then .error .repetitionCount
  else .ok (n, start.trans (t.trans (.dropWhile isBlank t.1)))

/-- Reads the counts of a repetition after its brace: a number, a number and a comma, or two
numbers with a comma between them. -/
def counts (f : Flags) (s : Text) : Read (Nat × Option Nat) s :=
  let start := skip f s
  onward start do
    let (low, t) ← count f start.1
    onward t <| match t.1 with
    | '\x7d' :: r => .ok ((low, some low), .tail _ r)
    | ',' :: r => onward (.tail _ r) <| match skip f r with
      | ⟨'\x7d' :: _, h⟩ => .ok ((low, none), .behind h)
      | u => onward u do
        match ← count f u.1 with
        | (high, ⟨'\x7d' :: _, h⟩) =>
          if high < low then .error .repetitionCount else .ok ((low, some high), .behind h)
        | _ => .error .unclosed
    | _ => .error .unclosed

end Pattern

end CleanMarkup

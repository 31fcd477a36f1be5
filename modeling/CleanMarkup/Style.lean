import CleanMarkup.Event
import CleanMarkup.Text.Entity
import CleanMarkup.Unicode.Word

/-!
# Styles

A style is a list of declarations. One is dropped if its value holds markup or escapes, calls a
function that runs code, leaves a `url(` open, or refers to an address that does not pass the
check. The others are written as `name:value;`.
-/

namespace CleanMarkup

/-- A declaration: a name in lower case, and a trimmed value. -/
structure Declaration where
  name : Text
  value : Text
  deriving DecidableEq

/-- The characters of the names of declarations. -/
def isPropertyChar (c : Char) : Bool :=
  ('a' ≤ c && c ≤ 'z') || ('A' ≤ c && c ≤ 'Z') || ('0' ≤ c && c ≤ '9') || c == '_' || c == '-'

namespace Declaration

/-- The value that follows a colon. Blanks in front of it are skipped, except that the last of
them is the value where a semicolon or the end follows. -/
def valueAfterColon? (s : Text) : Option Text :=
  match s.dropWhile isBlank with
  | [] => if s.isEmpty then none else some []
  | ';' :: _ => if s.head? = some ';' then none else some []
  | c :: r => some (Text.trim (c :: r.takeWhile (· != ';')))

/-- Reads on by one run of name characters, which begins a declaration if a colon and a value
follow. -/
def next : Reader (Option Declaration)
  | [] => none
  | c :: r =>
    if isPropertyChar c then
      let name := c :: r.takeWhile isPropertyChar
      let rest := Rest.dropWhile isPropertyChar r
      match Rest.dropWhile isBlank rest.1 with
      | ⟨':' :: s, h⟩ =>
        match valueAfterColon? s with
        | some value =>
          some (some ⟨Text.asciiLower name, value⟩,
            .ofTail c (rest.trans (.trans (.behind h) (.dropThrough (· != ';') s))))
        | none => some (none, .ofTail c rest)
      | _ => some (none, .ofTail c rest)
    else some (none, .ofTail c (.dropWhile (!isPropertyChar ·) r))

/-- The declarations of a style, in order. -/
def all (style : Text) : List Declaration := (next.all style).filterMap id

end Declaration

namespace Style

/-- A letter in lower case; the long s counts as an s. -/
def plainLetter (c : Char) : Char := if c = 'ſ' then 's' else c.toLower

/-- What follows a word at the start of a text, whatever its case. -/
def afterWord? : (word s : Text) → Option (Rest s)
  | [], s => some (.all s)
  | w :: ws, c :: r =>
    if plainLetter c = w then (afterWord? ws r).map (.trans (.tail c r)) else none
  | _ :: _, [] => none

/-- What follows the parenthesis of a call at the start of a text. -/
def afterCall? (function s : Text) : Option (Rest s) :=
  match afterWord? function s with
  | none => none
  | some t =>
    match Rest.dropWhile isBlank t.1 with
    | ⟨'(' :: _, h⟩ => some (t.trans (.behind h))
    | _ => none

/-- The functions that run code. -/
def codeFunctions : List Text := ["expression", "eval", "javascript"].map String.toList

/-- A function that runs code is called somewhere. -/
def callsCode : Text → Bool
  | [] => false
  | c :: r => codeFunctions.any (fun f => (afterCall? f (c :: r)).isSome) || callsCode r

/-- What follows `url(` at the start of `c :: r`, where no word character stands before it. -/
def afterUrl? (before : Option Char) (c : Char) (r : Text) : Option (Rest r) :=
  if before.any isWord then none
  else if plainLetter c = 'u' then afterCall? "rl".toList r
  else none

/-- How many references are opened, in a text that follows `before`, on top of `n`. -/
def openedFrom (before : Option Char) (n : Nat) : Text → Nat
  | [] => n
  | c :: r => openedFrom (some c) (if (afterUrl? before c r).isSome then n + 1 else n) r

/-- A single or double quote. -/
def isQuote (c : Char) : Bool := c == '\'' || c == '"'

/-- The address that stands in the parentheses of a reference, perhaps in quotes. -/
def addressIn (content : Text) : Text :=
  let inner := match Text.trimStart content with
    | [] => []
    | c :: r => if isQuote c then r else c :: r
  let inner := Text.trimEnd inner
  Text.trim (if inner.getLast?.any isQuote then inner.dropLast else inner)

/-- The addresses of the closed references in a text that follows `before`, after those `found`
before (newest first). -/
def addressesFrom (before : Option Char) (found : List Text) (s : Text) : List Text :=
  match s with
  | [] => found.reverse
  | c :: r =>
    match afterUrl? before c r with
    | none => addressesFrom (some c) found r
    | some inside =>
      if inside.1.contains ')' then
        let address := addressIn (inside.1.takeWhile (· != ')'))
        let rest := inside.trans (.dropThrough (· != ')') inside.1)
        addressesFrom (some ')') (address :: found) rest.1
      else found.reverse
termination_by s.length
decreasing_by
  · exact Nat.lt_succ_self _
  · exact Nat.lt_succ_of_le rest.2

/-- The number of references that are opened. -/
def opened (s : Text) : Nat := openedFrom none 0 s

/-- The addresses of the references that are closed. -/
def addresses (s : Text) : List Text := addressesFrom none [] s

/-- Checks addresses one by one until one does not pass. -/
def checkAll (check : UrlCheck) (schemes : List Text) : List Text → Bool × List Event
  | [] => (true, [])
  | a :: rest =>
    let answer := check a schemes
    if answer then
      let (passed, events) := checkAll check schemes rest
      (passed, .asked a schemes answer :: events)
    else (false, [.asked a schemes answer])

/-- What is wrong with the value of a declaration, if anything, and the checks that were made. -/
def judge (check : UrlCheck) (schemes : List Text) (value : Text) :
    Option StyleFault × List Event :=
  if value.any fun c => c == '<' || c == '>' || c == '\\' then (some .markupOrEscape, [])
  else if callsCode value then (some .forbiddenFunction, [])
  else if opened value ≠ (addresses value).length then (some .unterminatedUrl, [])
  else
    let (passed, events) := checkAll check schemes (addresses value)
    (if passed then none else some .invalidUrl, events)

/-- What becomes of one declaration: its text, or a violation. -/
def filterDeclaration (check : UrlCheck) (schemes : List Text) (tag : Text) (d : Declaration) :
    Text × List Event :=
  match judge check schemes d.value with
  | (none, events) => (d.name ++ ':' :: d.value.encodeStyle ++ [';'], events)
  | (some fault, events) =>
    ([], events ++ [.declarationDropped d.name d.value fault,
      .violation (tag ++ " style ".toList ++ d.value)])

/-- The declarations of a style that may stand. -/
def filter (check : UrlCheck) (schemes : List Text) (tag style : Text) : Text × List Event :=
  let judged := (Declaration.all style).map (filterDeclaration check schemes tag)
  (judged.flatMap (·.1), judged.flatMap (·.2))

end Style

end CleanMarkup

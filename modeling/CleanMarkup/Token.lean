import CleanMarkup.Span
import CleanMarkup.Text.Quoted
import CleanMarkup.Text.Words

/-!
# Tokens

A span is read as a comment, an opening tag, a closing tag or text. A tag has a name of ASCII
letters, digits and underscores, and ends in `>`; what does not have the shape of a tag is text.
-/

namespace CleanMarkup

/-- A span that has been read. Names are in lower case; `raw` is the span. -/
inductive Token
  | comment (raw : Text)
  | opening (name body : Text) (selfClosing : Bool) (raw : Text)
  | closing (name raw : Text)
  | text (raw : Text)
  deriving DecidableEq

/-- The characters of tag names. -/
def isTagChar (c : Char) : Bool :=
  ('a' ≤ c && c ≤ 'z') || ('A' ≤ c && c ≤ 'Z') || ('0' ≤ c && c ≤ '9') || c == '_'

namespace Token

/-- The text of a tag without its closing bracket, if that is the only `>` and stands at the
end. -/
def bracketed? (s : Text) : Option Text :=
  let body := s.takeWhile (· != '>')
  if s.dropWhile (· != '>') = ['>'] then some body else none

/-- Reads the inside of an opening tag: its name and its body, which is empty or starts with a
blank or a slash. -/
def openingParts? (inside : Text) : Option (Text × Text) :=
  let name := inside.takeWhile isTagChar
  let body := inside.dropWhile isTagChar
  if name.isEmpty then none
  else match body with
    | [] => some (name, body)
    | c :: _ => if isBlank c || c == '/' then some (name, body) else none

/-- Reads the inside of a closing tag after its slash: its name, which only blanks may follow. -/
def closingName? (inside : Text) : Option Text :=
  let name := inside.takeWhile isTagChar
  if !name.isEmpty && (inside.dropWhile isTagChar).all isBlank then some name else none

/-- Reads a span. -/
def ofSpan (s : Text) : Token :=
  if Span.commentOpen.isPrefixOf s then .comment s
  else match s with
    | '<' :: '/' :: r =>
      match (bracketed? r).bind closingName? with
      | some name => .closing name.asciiLower s
      | none => .text s
    | '<' :: r =>
      match (bracketed? r).bind openingParts? with
      | some (name, body) => .opening name.asciiLower body (body.trimEnd.getLast? == some '/') s
      | none => .text s
    | _ => .text s

/-- A token as the log shows it. -/
def describe : Token → Text
  | .comment raw => "Comment(".toList ++ raw.quoted ++ ")".toList
  | .opening name body selfClosing raw =>
    "OpenTag \x7b name: ".toList ++ name.quoted ++ ", body: ".toList ++ body.quoted ++
      ", self_closing: ".toList ++ (if selfClosing then "true" else "false").toList ++
      ", raw: ".toList ++ raw.quoted ++ " \x7d".toList
  | .closing name raw =>
    "CloseTag \x7b name: ".toList ++ name.quoted ++ ", raw: ".toList ++ raw.quoted ++
      " \x7d".toList
  | .text raw => "Text(".toList ++ raw.quoted ++ ")".toList

end Token

/-- The tokens of a text, in order. -/
def tokens (s : Text) : List Token := (spans s).map Token.ofSpan

end CleanMarkup

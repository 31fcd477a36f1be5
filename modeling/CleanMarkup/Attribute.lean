import CleanMarkup.Style

/-!
# Attributes

The attributes of a tag are the pairs `name="value"` in its body. Each falls under the first rule
that applies to it, which says whether it is kept, and with which value.
-/

namespace CleanMarkup

/-- An attribute: its name in lower case, and what stands between its quotes. -/
structure Attribute where
  name : Text
  value : Text
  deriving DecidableEq

/-- The characters of the names of attributes. -/
def isAttributeChar (c : Char) : Bool :=
  ('a' ≤ c && c ≤ 'z') || ('A' ≤ c && c ≤ 'Z') || ('0' ≤ c && c ≤ '9') || c == '_' ||
    c == ':' || c == '-'

namespace Attribute

/-- Reads on by one run of name characters, which begins an attribute if an equals sign and a
value in double quotes follow. -/
def next : Reader (Option Attribute)
  | [] => none
  | c :: r =>
    if isAttributeChar c then
      let name := c :: r.takeWhile isAttributeChar
      let rest := Rest.dropWhile isAttributeChar r
      match Rest.dropWhile isBlank rest.1 with
      | ⟨'=' :: s, h⟩ =>
        match Rest.dropWhile isBlank s with
        | ⟨'"' :: t, hs⟩ =>
          match Rest.dropWhile (· != '"') t with
          | ⟨_ :: _, ht⟩ =>
            some (some ⟨Text.asciiLower name, t.takeWhile (· != '"')⟩,
              .ofTail c (rest.trans (.trans (.behind h) (.trans (.behind hs) (.behind ht)))))
          | _ => some (none, .ofTail c rest)
        | _ => some (none, .ofTail c rest)
      | _ => some (none, .ofTail c rest)
    else some (none, .ofTail c (.dropWhile (!isAttributeChar ·) r))

/-- The attributes in the body of a tag, in order. -/
def all (body : Text) : List Attribute := (next.all body).filterMap id

end Attribute

namespace Rule

/-- The rules in the order in which they are tried. -/
def ordered : List Rule :=
  [anchorAddress, mediaSource, strayAddress, dimension, style, eventHandler, other]

/-- The rule applies to an attribute of a tag. -/
def applies (tag attr : Text) : Rule → Bool
  | anchorAddress => tag == "a".toList && attr == "href".toList
  | mediaSource => (tag == "img".toList || tag == "embed".toList) && attr == "src".toList
  | strayAddress => attr == "href".toList || attr == "src".toList
  | dimension => attr == "width".toList || attr == "height".toList
  | style => attr == "style".toList
  | eventHandler => "on".toList.isPrefixOf attr
  | other => true

/-- What the rule does. -/
def action : Rule → Action
  | anchorAddress => .requireUrl
  | mediaSource => .requireUrl
  | strayAddress => .drop
  | dimension => .requireDimension
  | style => .filterStyle
  | eventHandler => .drop
  | other => .keep

/-- What the rule is called. -/
def label : Rule → Text
  | anchorAddress => "anchor href".toList
  | mediaSource => "media src".toList
  | strayAddress => "stray url".toList
  | dimension => "dimension".toList
  | style => "style".toList
  | eventHandler => "event handler".toList
  | other => "default".toList

/-- The first rule that applies. -/
def of (tag attr : Text) : Rule := (ordered.find? (applies tag attr)).getD other

end Rule

/-- Digits of ASCII, at least one, and perhaps a percent sign. -/
def isDimension (s : Text) : Bool :=
  let digits := s.takeWhile Text.isDigit
  !digits.isEmpty && (s.drop digits.length == [] || s.drop digits.length == ['%'])

/-- What attributes are judged by. -/
structure AttributeFilter where
  check : UrlCheck
  schemes : List Text
  mailLinks : Bool

/-- What is left of attributes. -/
structure Kept where
  /-- The attributes as they follow the name of the tag. -/
  rendered : Text := []
  /-- Some address has passed. -/
  foundUrl : Bool := false
  events : List Event := []
  deriving DecidableEq

namespace Kept

/-- All of them in order. -/
def concat (ks : List Kept) : Kept :=
  { rendered := ks.flatMap (·.rendered)
    foundUrl := ks.any (·.foundUrl)
    events := ks.flatMap (·.events) }

end Kept

namespace AttributeFilter

variable (f : AttributeFilter)

/-- The address whose check decides about a mail address: the domain as a web address. -/
def mailAddress? (value : Text) : Option Text :=
  match value.dropWhile (· != '@') with
  | _ :: domain =>
    if Text.asciiLower (value.take 7) == "mailto:".toList then
      some ("http://www.".toList ++ domain)
    else none
  | [] => none

/-- The value passes as an address of a tag: as it is or, in a link, as a mail address. -/
def accepts (tag value : Text) : Bool × List Event :=
  let answer := f.check value f.schemes
  let asked : Event := .asked value f.schemes answer
  if answer then (true, [asked])
  else if f.mailLinks && tag == "a".toList then
    match mailAddress? value with
    | some address =>
      let http := ["http".toList]
      let answer := f.check address http
      (answer, [asked, .asked address http answer])
    | none => (false, [asked])
  else (false, [asked])

/-- An attribute as it is written in a tag. -/
def write (name value : Text) : Text := ' ' :: name ++ '=' :: '"' :: value ++ ['"']

/-- What is left of one attribute. A value that is no address stays behind empty. -/
def filterOne (tag : Text) (a : Attribute) : Kept :=
  let rule := Rule.of tag a.name
  let ruled : Event := .ruled tag a.name rule
  let dropped : Event := .violation (tag ++ ' ' :: a.name ++ ' ' :: a.value)
  match rule.action with
  | .requireUrl =>
    match f.accepts tag a.value with
    | (true, events) =>
      { rendered := write a.name a.value.encodeAttribute, foundUrl := true
        events := ruled :: events }
    | (false, events) =>
      { rendered := write a.name []
        events := ruled :: events ++ [.violation (a.name ++ ' ' :: a.value)] }
  | .requireDimension =>
    if isDimension a.value then { rendered := write a.name a.value, events := [ruled] }
    else { events := [ruled, dropped] }
  | .filterStyle =>
    let (clean, events) := Style.filter f.check f.schemes tag a.value
    { rendered := write a.name clean, events := ruled :: events }
  | .drop => { events := [ruled, dropped] }
  | .keep => { rendered := write a.name a.value.encodeAttribute, events := [ruled] }

/-- What is left of the attributes in the body of a tag. -/
def filter (tag body : Text) : Kept :=
  Kept.concat ((Attribute.all body).map (f.filterOne tag))

end AttributeFilter

end CleanMarkup

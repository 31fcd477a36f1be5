import CleanMarkup.Attribute
import CleanMarkup.OpenTags
import CleanMarkup.Policy
import CleanMarkup.Settings

/-!
# Cleaning

A cleaner goes over the tokens of its input once. It keeps the accepted tags that are open and, in
the content of a forbidden script or style, the name whose end it waits for; each token gives
events. At the end all open tags are closed. The report of the events is what cleaning yields.
-/

namespace CleanMarkup

/-- What cleaning goes by. -/
structure Cleaner where
  policy : Policy
  settings : Settings
  check : UrlCheck

/-- What is remembered between tokens. -/
structure Situation where
  openTags : OpenTags := {}
  /-- The forbidden element whose content is being left out. -/
  skipping : Option Text := none
  deriving DecidableEq

/-- Markup that goes to both outputs. -/
def markup (s : Text) : List Event := [.html s, .val s]

/-- The text begins with a closing tag of this name, whatever follows the name. -/
def closesRawText (name s : Text) : Bool :=
  match s with
  | '<' :: '/' :: r =>
    Text.asciiLower (r.take name.length) == name &&
      (r.drop name.length).head?.all fun c => isBlank c || c == '>' || c == '/'
  | _ => false

namespace Cleaner

variable (c : Cleaner)

/-- The filter for attributes. -/
def attributeFilter : AttributeFilter :=
  { check := c.check, schemes := c.settings.schemes, mailLinks := c.settings.mailLinks }

/-- A comment is stored, with its end if that is missing, and never shown. -/
def comment (raw : Text) : List Event :=
  let closed := if "-->".toList.isSuffixOf raw then raw else raw ++ "-->".toList
  [.val closed, .violation closed]

/-- Text is shown with its quotes and brackets as entities, and stored as it is. -/
def plainText (raw : Text) : List Event := [.val raw, .html raw.encode, .text raw.encode]

/-- A tag of no known name is shown and stored as text. -/
def unknownTag (raw : Text) : List Event := .violation raw :: markup raw.encode

/-- An accepted tag as it is written: a tag that closes itself is closed at once, and keeps its
slash if it has no end. -/
def writeOpening (name rendered : Text) (selfClosing : Bool) : Text :=
  let start := '<' :: name ++ rendered
  if !selfClosing then start ++ ['>']
  else if isVoid name then start ++ ['/', '>']
  else start ++ '>' :: '<' :: '/' :: name ++ ['>']

/-- A closing tag as it is written. -/
def writeClosing (name : Text) : Text := '<' :: '/' :: name ++ ['>']

/-- Meets an opening tag. -/
def opening (s : Situation) (name body : Text) (selfClosing : Bool) (raw : Text) :
    Situation × List Event :=
  match c.policy.classify name with
  | .forbidden =>
    ({ s with skipping := if !selfClosing && isRawText name then some name else s.skipping },
      [.violation ('<' :: name ++ ['>'])])
  | .unknown => (s, unknownTag raw)
  | .allowed =>
    if (requiredAncestor? name).any (!s.openTags.contains ·) then
      (s, [.violation ('<' :: name ++ ['>'])])
    else
      let kept := c.attributeFilter.filter name body
      if requiresUrl name && !kept.foundUrl then (s, kept.events ++ [.suppressed name])
      else
        (if selfClosing || isVoid name then s else { s with openTags := s.openTags.push name },
          kept.events ++ markup (writeOpening name kept.rendered selfClosing))

/-- Meets a closing tag. One that closes nothing is dropped silently. -/
def closing (s : Situation) (name raw : Text) : Situation × List Event :=
  if isVoid name then (s, [.violation raw])
  else match c.policy.classify name with
    | .forbidden => (s, [.violation ('/' :: name)])
    | .unknown => (s, unknownTag raw)
    | .allowed =>
      match s.openTags.closeThrough? name with
      | none => (s, [])
      | some (closed, rest) => ({ s with openTags := rest }, markup (closed.flatMap writeClosing))

/-- Meets a token outside content that is left out. -/
def meet (s : Situation) : Token → Situation × List Event
  | .comment raw => (s, comment raw)
  | .opening name body selfClosing raw => c.opening s name body selfClosing raw
  | .closing name raw => c.closing s name raw
  | .text raw => (s, plainText raw)

/-- Meets a token. Content is left out up to the closing tag of its element, which is met like any
other, or to a text that begins like one, which counts as one. -/
def step (s : Situation) (t : Token) : Situation × List Event :=
  let (s, events) := match s.skipping with
    | none => c.meet s t
    | some skipped =>
      match t with
      | .closing name _ =>
        if name = skipped then c.meet { s with skipping := none } t else (s, [])
      | .text raw =>
        if closesRawText skipped raw then
          ({ s with skipping := none }, [.violation ('/' :: skipped)])
        else (s, [])
      | .comment _ | .opening _ _ _ _ => (s, [])
  (s, .token t :: events)

/-- What is put out at the end: closing tags for all that is open. -/
def ending (s : Situation) : List Event :=
  let (closed, _) := s.openTags.popMany s.openTags.names.length
  closed.flatMap fun name => markup (writeClosing name)

/-- Meets tokens one after the other, after some events. -/
def goOn (s : Situation) (before : Array Event) (ts : List Token) : Situation × Array Event :=
  ts.foldl (fun (s, es) t =>
    let (s, new) := c.step s t
    (s, es ++ new)) (s, before)

theorem goOn_cons (s : Situation) (before : Array Event) (t : Token) (ts : List Token) :
    c.goOn s before (t :: ts) = c.goOn (c.step s t).1 (before ++ (c.step s t).2) ts := rfl

theorem goOn_append (s : Situation) (before : Array Event) (ts us : List Token) :
    c.goOn s before (ts ++ us) =
      c.goOn (c.goOn s before ts).1 (c.goOn s before ts).2 us := List.foldl_append

/-- All that happens while a text is cleaned. -/
def events (input : Text) : List Event :=
  let (s, es) := c.goOn {} #[] (tokens input)
  es.toList ++ ending s

/-- Cleans a text. -/
def clean (input : Text) : Report :=
  ((Report.fresh c.settings.limit).after (c.events input)).finalize

end Cleaner

end CleanMarkup

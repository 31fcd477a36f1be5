import CleanMarkup.Report
import CleanMarkup.Token

/-!
# Events

Cleaning is a sequence of events: a token is met, an attribute is judged, an address is checked,
markup or text is put out, a violation is found. The report is what the events leave behind, in
order (`Report.after_append`).
-/

namespace CleanMarkup

/-- The check of an address against a list of schemes. -/
abbrev UrlCheck := Text → List Text → Bool

/-- Why a declaration of a style is dropped. -/
inductive StyleFault
  | markupOrEscape | forbiddenFunction | unterminatedUrl | invalidUrl
  deriving DecidableEq

/-- The fault in words. -/
def StyleFault.words : StyleFault → Text
  | .markupOrEscape => "markup or escape".toList
  | .forbiddenFunction => "forbidden function".toList
  | .unterminatedUrl => "unterminated url".toList
  | .invalidUrl => "invalid url".toList

/-- What happens to an attribute. -/
inductive Action
  /-- The value must be an address that passes the check. -/
  | requireUrl
  /-- The value must be digits, perhaps with a percent sign. -/
  | requireDimension
  /-- The value is a style, whose declarations are judged one by one. -/
  | filterStyle
  /-- The attribute is dropped. -/
  | drop
  /-- The attribute is kept. -/
  | keep
  deriving DecidableEq

/-- The rules for attributes. -/
inductive Rule
  | anchorAddress | mediaSource | strayAddress | dimension | style | eventHandler | other
  deriving DecidableEq

/-- Something that happens while markup is cleaned. -/
inductive Event
  /-- A token is met. -/
  | token (t : Token)
  /-- An attribute of a tag falls under a rule. -/
  | ruled (tag attr : Text) (rule : Rule)
  /-- An address is checked. -/
  | asked (candidate : Text) (schemes : List Text) (answer : Bool)
  /-- A declaration of a style is dropped. -/
  | declarationDropped (name value : Text) (fault : StyleFault)
  /-- A tag is left out for want of an address. -/
  | suppressed (tag : Text)
  /-- Markup to show is put out. -/
  | html (s : Text)
  /-- Text is put out. -/
  | text (s : Text)
  /-- Markup to store is put out. -/
  | val (s : Text)
  /-- A violation is found. -/
  | violation (v : Text)
  deriving DecidableEq

namespace Report

/-- What an event adds to the report. -/
def note (r : Report) : Event → Report
  | .html s => r.addHtml s
  | .text s => r.addText s
  | .val s => r.addVal s
  | .violation v => r.addViolation v
  | .token _ | .ruled _ _ _ | .asked _ _ _ | .declarationDropped _ _ _ | .suppressed _ => r

/-- The report after some events. -/
def after (r : Report) (es : List Event) : Report := es.foldl note r

theorem after_append (r : Report) (es fs : List Event) :
    r.after (es ++ fs) = (r.after es).after fs := List.foldl_append

end Report

end CleanMarkup

import CleanMarkup.Pattern
import CleanMarkup.SetupError
import CleanMarkup.Unicode.Lowercase

/-!
# Policies

A policy says by two patterns which tag names are allowed and which are forbidden; the forbidden
ones win. Tags without an end, tags whose content is code, and the tables that rows and cells
belong in are the same for every policy.
-/

namespace CleanMarkup

/-- How a policy treats a tag. -/
inductive TagClass
  | forbidden | allowed | unknown
  deriving DecidableEq

/-- Which tags may stand. -/
structure Policy where
  allowed : Pattern
  forbidden : Pattern

namespace Policy

/-- Compiles the two patterns, the allowed one first. -/
def ofPatterns (allowed forbidden : Text) : Except SetupError Policy := do
  .ok {
    allowed := ← (Pattern.compile allowed).mapError (.badPattern .allowed)
    forbidden := ← (Pattern.compile forbidden).mapError (.badPattern .forbidden) }

/-- The policy of two lists of names, which are compared as a whole and in lower case. -/
def ofNames (allowed forbidden : List Text) : Except SetupError Policy :=
  ofPatterns (Pattern.oneOf (allowed.map Text.lower)) (Pattern.oneOf (forbidden.map Text.lower))

/-- The class of a tag name in lower case. -/
def classify (p : Policy) (name : Text) : TagClass :=
  if p.forbidden.foundIn name then .forbidden
  else if p.allowed.foundIn name then .allowed
  else .unknown

/-- The names that are allowed where no policy is given. -/
def standardAllowed : List Text :=
  ["b", "p", "i", "s", "a", "img", "table", "thead", "tbody", "tfoot", "tr", "th", "td", "dd",
    "dl", "dt", "em", "h1", "h2", "h3", "h4", "h5", "h6", "li", "ul", "ol", "span", "div",
    "strike", "strong", "sub", "sup", "pre", "del", "code", "blockquote", "kbd", "br", "hr",
    "area", "map", "object", "embed", "param", "link", "form", "small", "big"].map String.toList

/-- The names that are forbidden where no policy is given. -/
def standardForbidden : List Text :=
  ["script", "object", "embed", "link", "style", "form", "input"].map String.toList

/-- The pattern that matches nothing. -/
def nothing : Pattern := { source := Pattern.oneOf [], tree := .leaf false .nothing }

/-- The policy where none is given. -/
def standard : Policy :=
  match ofNames standardAllowed standardForbidden with
  | .ok p => p
  | .error _ => { allowed := nothing, forbidden := nothing }

end Policy

/-- Tags without an end. -/
def isVoid (name : Text) : Bool := ["img", "br", "hr"].any (name == ·.toList)

/-- Tags whose content is code; where they are forbidden it goes with them. -/
def isRawText (name : Text) : Bool := ["script", "style"].any (name == ·.toList)

/-- Tags that stand only with an address that has been checked. -/
def requiresUrl (name : Text) : Bool := ["a", "img", "embed"].any (name == ·.toList)

/-- The tag that must be open around this one. -/
def requiredAncestor? (name : Text) : Option Text :=
  if ["thead", "tbody", "tfoot", "tr"].any (name == ·.toList) then some "table".toList
  else if ["td", "th"].any (name == ·.toList) then some "tr".toList
  else none

end CleanMarkup

import CleanMarkup.Pattern.Parse

/-!
# Patterns

A pattern is compiled from its source once and then searched for in texts, anywhere in them
unless its anchors say otherwise.
-/

namespace CleanMarkup

/-- A compiled pattern and what it was compiled from. -/
structure Pattern where
  source : Text
  tree : Pattern.Tree

namespace Pattern

/-- Compiles a pattern. -/
def compile (source : Text) : Except Fault Pattern := do
  .ok { source, tree := (← parse source).toTree }

/-- The pattern matches some part of the text. -/
def foundIn (p : Pattern) (s : Text) : Bool := p.tree.foundIn none s

/-- The source of a pattern that matches exactly the text, wherever it is put into another. -/
def escaped (s : Text) : Text := s.flatMap fun c => if isMeta c then ['\\', c] else [c]

/-- The source of a pattern that matches exactly the given texts as wholes. With no text it matches
nothing. -/
def oneOf (names : List Text) : Text :=
  if names.isEmpty then "[^\\s\\S]".toList
  else "^(?:".toList ++ Text.join ['|'] (names.map escaped) ++ ")$".toList

end Pattern

end CleanMarkup

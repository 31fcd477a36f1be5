import CleanMarkup.Tally

/-!
# Open tags

The accepted tags that are open, innermost first, with a count of each name so that asking whether
a name is open does not walk the list.
-/

namespace CleanMarkup

/-- The open tags. -/
structure OpenTags where
  /-- Their names, innermost first. -/
  names : List Text := []
  /-- How many tags of each name are open. -/
  counts : Tally := {}
  deriving DecidableEq

namespace OpenTags

/-- Opens a tag inside all others. -/
def push (t : OpenTags) (name : Text) : OpenTags :=
  { names := name :: t.names, counts := t.counts.increment name }

/-- Some tag of this name is open. -/
def contains (t : OpenTags) (name : Text) : Bool := t.counts.has name

/-- How many tags have to be closed to close the innermost one of this name. -/
def depthOf? (t : OpenTags) (name : Text) : Option Nat :=
  if t.contains name then (t.names.findIdx? (· = name)).map (· + 1) else none

/-- Closes the innermost tag. -/
def pop? (t : OpenTags) : Option (Text × OpenTags) :=
  match t.names with
  | [] => none
  | name :: names => some (name, { names, counts := t.counts.decrement name })

/-- Closes `n` tags, whose names come after those `closed` before (newest first). -/
def popOnto (closed : List Text) : Nat → OpenTags → List Text × OpenTags
  | 0, t => (closed.reverse, t)
  | n + 1, t =>
    match t.pop? with
    | none => (closed.reverse, t)
    | some (name, t) => popOnto (name :: closed) n t

/-- Closes `n` tags: their names, innermost first, and what stays open. -/
def popMany (n : Nat) (t : OpenTags) : List Text × OpenTags := popOnto [] n t

/-- Closes all tags up to the innermost one of this name, if there is one. -/
def closeThrough? (t : OpenTags) (name : Text) : Option (List Text × OpenTags) :=
  (t.depthOf? name).map fun n => popMany n t

end OpenTags

end CleanMarkup

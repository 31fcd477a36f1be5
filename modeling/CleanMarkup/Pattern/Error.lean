/-!
# What can be wrong with a pattern
-/

namespace CleanMarkup

namespace Pattern

/-- Why a pattern does not compile. -/
inductive Fault
  /-- A group or a class, or the counts of a repetition, are not closed. -/
  | unclosed
  /-- A parenthesis closes nothing. -/
  | unopenedGroup
  /-- A group has no name, a name with other characters than names have, or one given before. -/
  | groupName
  /-- A flag is unknown, is given twice, or a hyphen has nothing to negate. -/
  | flag
  /-- Conditions on the text around a match are not supported. -/
  | lookAround
  /-- There is nothing to repeat. -/
  | nothingToRepeat
  /-- The counts of a repetition are no numbers, too large, or in the wrong order. -/
  | repetitionCount
  /-- A backslash stands before a character that needs no escape and has no meaning with one. -/
  | escape
  /-- An escape does not write a character by its code point. -/
  | codePoint
  /-- No set of characters goes by this name. -/
  | property
  /-- The ends of a range are in the wrong order, or one of them is no character. -/
  | range
  /-- A class holds something that is no character and no set of characters. -/
  | classItem
  /-- The pattern could match bytes that are not text. -/
  | notText
  /-- Groups, classes and repetitions are nested too deeply. -/
  | depth
  /-- The pattern takes too much room. -/
  | size
  deriving DecidableEq

end Pattern

end CleanMarkup

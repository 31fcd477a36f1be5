import CleanMarkup.Text.Words
import CleanMarkup.Unicode.Category
import CleanMarkup.Unicode.Property

/-!
# Word characters

Letters, marks, decimal digits, connector punctuation and the joining controls make up words; a
word edge is a place with such a character on one side only.
-/

namespace CleanMarkup

/-- The word characters of ASCII: letters, digits and the underscore. -/
def isAsciiWord (c : Char) : Bool :=
  ('a' ≤ c && c ≤ 'z') || ('A' ≤ c && c ≤ 'Z') || ('0' ≤ c && c ≤ '9') || c == '_'

/-- Word characters. -/
def isWord (c : Char) : Bool :=
  if c.toNat < 128 then isAsciiWord c
  else Property.alphabetic.has c || Category.isMark c || Category.decimalNumber.has c ||
    Category.connectorPunctuation.has c || Property.joinControl.has c

/-- The decimal digits of all scripts. -/
def isDecimal (c : Char) : Bool :=
  if c.toNat < 128 then Text.isDigit c else Category.decimalNumber.has c

end CleanMarkup

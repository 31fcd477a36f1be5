import CleanMarkup.Unicode.Category
import CleanMarkup.Unicode.Property

/-!
# Quoted text

A text in double quotes on one line, as reports and error messages show it: the quote, the
backslash and the common controls are escaped by a backslash, and what would not be seen on its
own is written by its code point.
-/

namespace CleanMarkup

namespace Text

/-- Extends the character before it, or has no printed form. -/
def needsCodePoint (c : Char) : Bool :=
  if c.toNat < 128 then c.toNat < 32 || c.toNat = 127
  else Property.graphemeExtend.has c || Category.isUnprintable c

/-- A character as it stands between the quotes. -/
def quoteChar (c : Char) : Text :=
  match c with
  | '"' => ['\\', '"']
  | '\\' => ['\\', '\\']
  | '\n' => ['\\', 'n']
  | '\r' => ['\\', 'r']
  | '\t' => ['\\', 't']
  | '\x00' => ['\\', '0']
  | c => if needsCodePoint c then ['\\', 'u', '\x7b'] ++ ofHex c.toNat ++ ['\x7d'] else [c]

/-- The text in double quotes. -/
def quoted (s : Text) : Text := '"' :: s.flatMap quoteChar ++ ['"']

/-- A list of texts, each in quotes, in square brackets. -/
def quotedList (ss : List Text) : Text := '[' :: join [',', ' '] (ss.map quoted) ++ [']']

end Text

end CleanMarkup

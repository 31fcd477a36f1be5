/-!
# Text

All markup is handled as a list of characters, so that positions, lengths and cuts count
characters and every scanner is a function on lists.
-/

namespace CleanMarkup

/-- A text is the list of its characters. -/
abbrev Text := List Char

namespace Text

/-- The offset of the first occurrence of `marker`, counted from `offset`. -/
def findFrom (marker : Text) (offset : Nat) : Text → Option Nat
  | [] => if marker.isEmpty then some offset else none
  | c :: r => if marker.isPrefixOf (c :: r) then some offset else findFrom marker (offset + 1) r

/-- The offset of the first occurrence of `marker` in a text. -/
def find? (marker s : Text) : Option Nat := findFrom marker 0 s

/-- `marker` occurs somewhere in the text. -/
def includes (s marker : Text) : Bool := (find? marker s).isSome

/-- The parts before and after the first occurrence of `marker`. -/
def splitOnce? (marker s : Text) : Option (Text × Text) :=
  (find? marker s).map fun i => (s.take i, s.drop (i + marker.length))

/-- The parts of a text between the characters that satisfy `p`: always one part more than there
are such characters. -/
def splitAt (p : Char → Bool) (s : Text) : List Text :=
  let last := s.foldl (fun (parts, part) c =>
    if p c then (part.reverse :: parts, []) else (parts, c :: part)) (([] : List Text), ([] : Text))
  (last.2.reverse :: last.1).reverse

/-- The texts one after another, with `separator` between neighbours. -/
def join (separator : Text) (parts : List Text) : Text := (parts.intersperse separator).flatten

/-- All characters are those of ASCII. -/
def isAscii (s : Text) : Bool := s.all (·.toNat < 128)

/-- Upper-case letters of ASCII become lower-case; all else stays. -/
def asciiLower (s : Text) : Text := s.map Char.toLower

/-- Equal up to the case of ASCII letters. -/
def sameIgnoringCase (s t : Text) : Bool := s.asciiLower == t.asciiLower

/-- Decimal digits of ASCII. -/
def isDigit (c : Char) : Bool := '0' ≤ c && c ≤ '9'

/-- The number that a text of decimal digits writes. -/
def decimalValue (s : Text) : Nat := s.foldl (fun n c => 10 * n + (c.toNat - 48)) 0

/-- The value of a hexadecimal digit. -/
def hexDigit? (c : Char) : Option Nat :=
  if '0' ≤ c && c ≤ '9' then some (c.toNat - 48)
  else if 'a' ≤ c && c ≤ 'f' then some (c.toNat - 87)
  else if 'A' ≤ c && c ≤ 'F' then some (c.toNat - 55)
  else none

/-- The number that a text of hexadecimal digits writes; other characters count as zero. -/
def hexValue (s : Text) : Nat := s.foldl (fun n c => 16 * n + (hexDigit? c).getD 0) 0

/-- A number in lower-case hexadecimal, without leading zeros. -/
def ofHex (n : Nat) : Text := Nat.toDigits 16 n

/-- A number in decimal. -/
def ofNat (n : Nat) : Text := Nat.toDigits 10 n

end Text

end CleanMarkup

import CleanMarkup.Text.Reader

/-!
# Blanks and words

Blanks are the characters with the White_Space property. Trimming takes them off the ends of a
text, and the words are its maximal runs without one.
-/

namespace CleanMarkup

/-- The White_Space property. -/
def isBlank (c : Char) : Bool :=
  c == ' ' || (9 ≤ c.toNat && c.toNat ≤ 13) || c.toNat == 0x85 || c.toNat == 0xA0 ||
    c.toNat == 0x1680 || (0x2000 ≤ c.toNat && c.toNat ≤ 0x200A) || c.toNat == 0x2028 ||
    c.toNat == 0x2029 || c.toNat == 0x202F || c.toNat == 0x205F || c.toNat == 0x3000

namespace Text

/-- Without the blanks at the start. -/
def trimStart (s : Text) : Text := s.dropWhile isBlank

/-- Without the blanks at the end. -/
def trimEnd (s : Text) : Text := (s.reverse.dropWhile isBlank).reverse

/-- Without the blanks at either end. -/
def trim (s : Text) : Text := s.trimStart.trimEnd

/-- The first word of a text and what follows it. -/
def firstWord : Reader Text := fun s =>
  match Rest.dropWhile isBlank s with
  | ⟨[], _⟩ => none
  | ⟨c :: r, h⟩ =>
    some (c :: r.takeWhile (!isBlank ·), .behind h (Rest.dropWhile (!isBlank ·) r))

/-- The maximal runs without a blank, in order. -/
def words (s : Text) : List Text := firstWord.all s

/-- The words with single spaces between them. -/
def collapseBlanks (s : Text) : Text := join [' '] s.words

end Text

end CleanMarkup

import CleanMarkup.Text.Basic

/-!
# Entities

Quotes and angle brackets are written as entities. The ampersand stays, so a text without quotes
and brackets is its own encoding (`encode_eq_self`), and encoding an encoded text changes
nothing.
-/

namespace CleanMarkup

/-- Quotes and angle brackets, the characters that are written as entities. -/
def isMarkupChar (c : Char) : Bool := c == '"' || c == '\'' || c == '<' || c == '>'

/-- The entity of a quote or bracket; any other character stands for itself. -/
def entity (c : Char) : Text :=
  match c with
  | '"' => ['&', 'q', 'u', 'o', 't', ';']
  | '\'' => ['&', '#', '3', '9', ';']
  | '<' => ['&', 'l', 't', ';']
  | '>' => ['&', 'g', 't', ';']
  | c => [c]

/-- Line feed, carriage return and form feed. -/
def isLineBreak (c : Char) : Bool := c == '\n' || c == '\r' || c == '\x0c'

namespace Text

/-- Writes every quote and bracket as its entity. -/
def encode (s : Text) : Text := s.flatMap entity

/-- Every line break becomes a space. -/
def unbreak (s : Text) : Text := s.map fun c => if isLineBreak c then ' ' else c

/-- A value as it stands between the double quotes of an attribute. -/
def encodeAttribute (s : Text) : Text := s.unbreak.encode

/-- A value as it stands in a `style` attribute: a double quote becomes a single one, because the
semicolon of an entity would end the declaration. -/
def encodeStyle (s : Text) : Text := s.unbreak.map fun c => if c = '"' then '\'' else c

theorem encode_append (s t : Text) : (s ++ t).encode = s.encode ++ t.encode :=
  List.flatMap_append

end Text

theorem entity_of_not_isMarkupChar {c : Char} (h : isMarkupChar c = false) : entity c = [c] := by
  unfold entity
  split <;> simp_all [isMarkupChar]

theorem Text.encode_eq_self : ∀ {s : Text}, (∀ c ∈ s, isMarkupChar c = false) → s.encode = s
  | [], _ => rfl
  | c :: s, h => by
    have hs := Text.encode_eq_self (s := s) fun d hd => h d (List.mem_cons_of_mem _ hd)
    rw [Text.encode] at hs ⊢
    rw [List.flatMap_cons, entity_of_not_isMarkupChar (h c List.mem_cons_self), hs]
    rfl

end CleanMarkup

import CleanMarkup.Host.Mapping
import CleanMarkup.Host.Punycode
import CleanMarkup.Unicode.Bidi
import CleanMarkup.Unicode.Category
import CleanMarkup.Unicode.Joining

/-!
# Domain names

A domain name is mapped and cut into labels at the dots. Labels in Punycode are read and must be
what mapping makes of them; labels beyond ASCII must not start with a mark, must use joiners where
they join, and, if any of them runs from right to left, must keep to one direction each.
-/

namespace CleanMarkup

namespace Host

/-- Characters of ASCII that no domain name may hold. -/
def isDenied (c : Char) : Bool :=
  c.toNat ≤ 32 || c.toNat == 127 ||
    ['%', '#', '/', ':', '<', '>', '?', '@', '[', '\\', ']', '^', '|'].contains c

/-- How long a label in Punycode may be, its mark aside. -/
def maxEncodedLength : Nat := 2000

/-- How long a label may be that has to be written in Punycode. -/
def maxPlainLength : Nat := 1000

/-- A mapped label in the characters that it stands for. -/
def readLabel? (label : Text) : Option Text :=
  if label.any isDenied then none
  else match label with
    | 'x' :: 'n' :: '-' :: '-' :: encoded =>
      if !Text.isAscii encoded || encoded.getLast? == some '-' || encoded.isEmpty ||
          maxEncodedLength < encoded.length then none
      else (Punycode.decode? encoded).filter fun plain =>
        isMapped plain && !plain.any fun c => isDenied c || c == '.'
    | label =>
      if !Text.isAscii label && maxPlainLength < label.length then none else some label

/-- The combining class of the signs that suppress a vowel. -/
def viramaClass : Nat := 9

/-- The joiners in a label stand where they join: after a virama or, for the non-joiner, between
characters of a cursive script that would connect. What stands before comes nearest first. -/
def joinersFit (before : Text) : Text → Bool
  | [] => true
  | c :: r =>
    let afterVirama := before.head?.any (Normalization.combiningClass · == viramaClass)
    let connects :=
      (before.dropWhile Joining.transparent.has).head?.any Joining.joinsAfter.has &&
        (r.dropWhile Joining.transparent.has).head?.any Joining.joinsBefore.has
    let fits :=
      if c == '\u200d' then afterVirama
      else if c == '\u200c' then afterVirama || connects
      else true
    fits && joinersFit (c :: before) r

/-- A label beyond ASCII does not start with a mark, and its joiners fit. -/
def isWellFormedLabel (label : Text) : Bool :=
  Text.isAscii label || (!label.head?.any Category.isMark && joinersFit [] label)

/-- The character makes its name a name of both directions. -/
def runsRightToLeft (c : Char) : Bool :=
  match Direction.ofChar c with
  | .right | .arabicLetter | .arabicNumber => true
  | _ => false

/-- The classes that may stand in any label. -/
def isCommon : Direction → Bool
  | .europeanNumber | .europeanSeparator | .commonSeparator | .europeanTerminator
  | .otherNeutral | .boundaryNeutral | .mark => true
  | _ => false

/-- A label keeps to one direction: that of its first character, to which its last character other
than marks belongs. From right to left, digits are European or Arabic but not both. -/
def keepsDirection (label : Text) : Bool :=
  let classes := label.map Direction.ofChar
  let last := (classes.reverse.dropWhile (· = .mark)).head?
  match classes.head? with
  | none => true
  | some .left =>
    classes.all (fun d => d = .left || isCommon d) &&
      last.any fun d => d = .left || d = .europeanNumber
  | some .right | some .arabicLetter =>
    classes.all (fun d => d = .right || d = .arabicLetter || d = .arabicNumber || isCommon d) &&
      (last.any fun d =>
        d = .right || d = .arabicLetter || d = .arabicNumber || d = .europeanNumber) &&
      !(classes.contains .europeanNumber && classes.contains .arabicNumber)
  | some _ => false

/-- A name in the characters that it stands for, if it is a domain name. -/
def domain? (s : Text) : Option Text := do
  let mapped ← map? s
  let labels ← (Text.splitAt (· == '.') mapped).mapM readLabel?
  let bothWays := labels.any (·.any runsRightToLeft)
  if labels.all fun l => isWellFormedLabel l && (!bothWays || keepsDirection l) then
    some (Text.join ['.'] labels)
  else none

end Host

end CleanMarkup

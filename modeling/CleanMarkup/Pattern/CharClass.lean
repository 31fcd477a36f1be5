import CleanMarkup.Unicode.Folding
import CleanMarkup.Unicode.Word

/-!
# Character classes

The sets of characters that a pattern can name, closed under union, intersection, difference,
complement and the partners of letter case. Membership is `CharClass.has`.
-/

namespace CleanMarkup

/-- A set of characters. -/
inductive CharClass
  | nothing
  | one (c : Char)
  | range (low high : Char)
  | table (t : RunTable)
  | word
  | decimal
  | blank
  | union (a b : CharClass)
  | inter (a b : CharClass)
  | diff (a b : CharClass)
  | symmDiff (a b : CharClass)
  | complement (a : CharClass)
  | anyCase (a : CharClass)
  | anyAsciiCase (a : CharClass)

namespace CharClass

/-- The character is in the set. -/
def has : CharClass → Char → Bool
  | nothing, _ => false
  | one d, c => c == d
  | range low high, c => low ≤ c && c ≤ high
  | table t, c => t.has c
  | word, c => isWord c
  | decimal, c => isDecimal c
  | blank, c => isBlank c
  | union a b, c => a.has c || b.has c
  | inter a b, c => a.has c && b.has c
  | diff a b, c => a.has c && !b.has c
  | symmDiff a b, c => a.has c != b.has c
  | complement a, c => !a.has c
  | anyCase a, c => (Folding.orbit c).any a.has
  | anyAsciiCase a, c => (Folding.asciiOrbit c).any a.has

/-- The union of several sets. -/
def ofList (ks : List CharClass) : CharClass := ks.foldr union nothing

/-- The set, or its complement. -/
def negated (negate : Bool) (k : CharClass) : CharClass := if negate then complement k else k

/-- All characters. -/
def everything : CharClass := complement nothing

/-- Every character but the line feed, and but the carriage return where that breaks lines too. -/
def withinLine (crlf : Bool) : CharClass :=
  complement (if crlf then union (one '\n') (one '\r') else one '\n')

/-- The word characters of ASCII. -/
def asciiWord : CharClass :=
  ofList [range 'a' 'z', range 'A' 'Z', range '0' '9', one '_']

/-- The blanks of ASCII. -/
def asciiBlank : CharClass := union (range '\t' '\r') (one ' ')

/-- The sets that are named inside square brackets, such as `[:alpha:]`. -/
def ofPosixName? (name : String) : Option CharClass :=
  let lower := range 'a' 'z'
  let upper := range 'A' 'Z'
  let digit := range '0' '9'
  match name with
  | "alnum" => some (ofList [lower, upper, digit])
  | "alpha" => some (union lower upper)
  | "ascii" => some (range '\x00' '\x7f')
  | "blank" => some (union (one '\t') (one ' '))
  | "cntrl" => some (union (range '\x00' '\x1f') (one '\x7f'))
  | "digit" => some digit
  | "graph" => some (range '!' '~')
  | "lower" => some lower
  | "print" => some (range ' ' '~')
  | "punct" => some (ofList [range '!' '/', range ':' '@', range '[' '\x60', range '\x7b' '~'])
  | "space" => some asciiBlank
  | "upper" => some upper
  | "word" => some asciiWord
  | "xdigit" => some (ofList [digit, range 'A' 'F', range 'a' 'f'])
  | _ => none

/-- The set holds characters of ASCII only. -/
def isAsciiOnly : CharClass → Bool
  | nothing => true
  | one c => c.toNat < 128
  | range _ high => high.toNat < 128
  | table _ | word | decimal | blank | complement _ => false
  | union a b => a.isAsciiOnly && b.isAsciiOnly
  | inter a b => a.isAsciiOnly || b.isAsciiOnly
  | diff a _ => a.isAsciiOnly
  | symmDiff a b => a.isAsciiOnly && b.isAsciiOnly
  | anyCase a => a.isAsciiOnly
  | anyAsciiCase a => a.isAsciiOnly

/-- About how many ranges of code points make up the set. -/
def ranges : CharClass → Nat
  | nothing => 0
  | one _ | range _ _ => 1
  | table t =>
    (t.runs.map fun r => if r.step = 1 then 1 else (r.last - r.first) / r.step + 1).sum
  | word => 800
  | decimal => 70
  | blank => 10
  | union a b | inter a b | diff a b | symmDiff a b => a.ranges + b.ranges
  | complement a => a.ranges + 7
  | anyCase a | anyAsciiCase a => 2 * a.ranges

end CharClass

end CleanMarkup

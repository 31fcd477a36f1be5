import CleanMarkup.Text.Basic

/-!
# Punycode

Labels of characters beyond ASCII are written in ASCII: first the ASCII characters of the label and
a hyphen, then digits that say which characters to insert where. The digits of a number come least
significant first, and the bias decides which digit is its last.
-/

namespace CleanMarkup

namespace Punycode

/-- The value of a digit: letters are 0 to 25, digits 26 to 35. -/
def digit? (c : Char) : Option Nat :=
  if 'a' ≤ c && c ≤ 'z' then some (c.toNat - 97)
  else if 'A' ≤ c && c ≤ 'Z' then some (c.toNat - 65)
  else if '0' ≤ c && c ≤ '9' then some (c.toNat - 22)
  else none

/-- The number of times that `delta` is divided, and the quotient. -/
def reduce (k delta : Nat) : Nat × Nat :=
  if 455 < delta then reduce (k + 36) (delta / 35) else (k, delta)
termination_by delta

/-- The bias after a number has been read. -/
def adapt (delta count : Nat) (isFirst : Bool) : Nat :=
  let delta := if isFirst then delta / 700 else delta / 2
  let (k, delta) := reduce 0 (delta + delta / count)
  k + 36 * delta / (delta + 38)

/-- Reads digits on from what is `read`. A number whose value so far is `value` goes on with the
given `weight`, at position `k`; after it, the character that comes next is inserted. `code` is the
latest code point and `start` the place from which the next is counted. -/
def decodeFrom (read : Text) (code start bias value weight k : Nat) : Text → Option Text
  | [] => if k = 36 then some read else none
  | c :: r =>
    match digit? c with
    | none => none
    | some d =>
      let value := value + d * weight
      let threshold := if k ≤ bias then 1 else min (k - bias) 26
      if d < threshold then
        let count := read.length + 1
        let code := code + value / count
        let place := value % count
        if code.isValidChar then
          decodeFrom (read.take place ++ Char.ofNat code :: read.drop place) code (place + 1)
            (adapt (value - start) count (start == 0)) (place + 1) 1 36 r
        else none
      else decodeFrom read code start bias value (weight * (36 - threshold)) (k + 36) r

/-- Reads a label. -/
def decode? (s : Text) : Option Text :=
  let plain := ((s.reverse.dropWhile (· != '-')).drop 1).reverse
  let digits := (s.reverse.takeWhile (· != '-')).reverse
  if s.head? == some '-' && plain.isEmpty then none
  else decodeFrom plain 128 0 72 0 1 36 digits

end Punycode

end CleanMarkup

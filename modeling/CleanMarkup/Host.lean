import CleanMarkup.Host.Address
import CleanMarkup.Host.Domain

/-!
# Hosts

The host of an address is a domain name or a number. Where the scheme is not one of the web's, any
text without delimiters will do.
-/

namespace CleanMarkup

namespace Host

/-- The bytes of a text in UTF-8, in which a percent sign and two hexadecimal digits are a byte. -/
def bytes : Text → List UInt8
  | '%' :: a :: b :: r =>
    match Text.hexDigit? a, Text.hexDigit? b with
    | some m, some n => UInt8.ofNat (16 * m + n) :: bytes r
    | _, _ => 37 :: bytes (a :: b :: r)
  | c :: r => String.utf8EncodeChar c ++ bytes r
  | [] => []

/-- The text that the bytes write, if they write one. -/
def percentDecoded? (s : Text) : Option Text :=
  (String.fromUTF8? (bytes s).toByteArray).map String.toList

/-- The text between square brackets at both ends. -/
def bracketed? (s : Text) : Option Text :=
  match s with
  | '[' :: r => if r.getLast? == some ']' then some r.dropLast else none
  | _ => none

/-- A host on the web: a number in brackets, or a domain name that is an address if it ends in a
number. The result is the name, or the brackets and what they hold. -/
def webHost? (s : Text) : Option Text :=
  if s.head? == some '[' then
    if (bracketed? s).any isIpv6 then some s else none
  else do
    let name ← percentDecoded? s >>= domain?
    if name.isEmpty || (endsInNumber name && !isIpv4 name) then none else some name

/-- Delimiters, which the host of any other scheme may not hold. -/
def isDelimiter (c : Char) : Bool :=
  ['\x00', '\t', '\n', '\r', ' ', '#', '/', ':', '<', '>', '?', '@', '[', '\\', ']', '^',
    '|'].contains c

/-- A host under any other scheme. It may be empty. -/
def isOtherHost (s : Text) : Bool :=
  if s.head? == some '[' then (bracketed? s).any isIpv6 else !s.any isDelimiter

end Host

end CleanMarkup

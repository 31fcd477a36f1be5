import CleanMarkup.Text.Basic

/-!
# Numeric hosts

Hosts that are numbers: addresses of four bytes, whose parts may be decimal, octal or hexadecimal
and of which the last fills what is left, and addresses of eight groups in brackets.
-/

namespace CleanMarkup

namespace Host

/-- The number that a part of an address writes, if it is one: `0x` starts a hexadecimal number,
and another leading zero an octal one. -/
def partValue? (s : Text) : Option Nat :=
  match s with
  | [] => none
  | '0' :: 'x' :: r | '0' :: 'X' :: r =>
    if r.all (Text.hexDigit? · |>.isSome) then some (Text.hexValue r) else none
  | '0' :: d :: r =>
    if (d :: r).all fun c => '0' ≤ c && c ≤ '7' then
      some ((d :: r).foldl (fun n c => 8 * n + (c.toNat - 48)) 0)
    else none
  | s => if s.all Text.isDigit then some (Text.decimalValue s) else none

/-- The parts between the dots, without an empty one at the end. -/
def dottedParts (s : Text) : List Text :=
  let parts := Text.splitAt (· == '.') s
  if parts.getLast? == some [] then parts.dropLast else parts

/-- The last part is a number, so that the host can be nothing but an address. -/
def endsInNumber (s : Text) : Bool :=
  match (dottedParts s).getLast? with
  | none => false
  | some last => (!last.isEmpty && last.all Text.isDigit) || (partValue? last).isSome

/-- An address of four bytes: up to four numbers, of which all but the last are bytes and the
last fills the remaining bytes. -/
def isIpv4 (s : Text) : Bool :=
  let parts := dottedParts s
  match parts.mapM partValue? with
  | none => false
  | some numbers =>
    numbers.length ≤ 4 && numbers.dropLast.all (· ≤ 255) &&
      numbers.getLast?.any (· < Nat.pow 256 (5 - numbers.length))

/-- A byte in decimal, without leading zeros. -/
def isByte (s : Text) : Bool :=
  match s with
  | [] => false
  | ['0'] => true
  | '0' :: _ => false
  | s => s.all Text.isDigit && Text.decimalValue s ≤ 255

/-- Four bytes with dots between them. -/
def isFourBytes (s : Text) : Bool :=
  let parts := Text.splitAt (· == '.') s
  parts.length == 4 && parts.all isByte

/-- The groups of an address from the one numbered `n` on. Empty groups that stand for any number
of zeros may be `elided` once; the last two groups may be four bytes. -/
def isGroups (n : Nat) (elided : Bool) (s : Text) : Bool :=
  match s with
  | [] => elided || n == 8
  | c :: r =>
    if n = 8 then false
    else if c = ':' then !elided && isGroups (n + 1) true r
    else
      let digits := ((c :: r).take 4).takeWhile (Text.hexDigit? · |>.isSome)
      match h : (c :: r).drop digits.length with
      | [] => elided || n + 1 == 8
      | '.' :: _ => !digits.isEmpty && isFourBytes (c :: r) && (if elided then n ≤ 6 else n == 6)
      | ':' :: t => !t.isEmpty && isGroups (n + 1) elided t
      | _ => false
termination_by s.length
decreasing_by
  · simp
  · have := congrArg List.length h
    simp only [List.length_drop, List.length_cons] at this ⊢
    omega

/-- An address of eight groups. -/
def isIpv6 (s : Text) : Bool :=
  match s with
  | ':' :: ':' :: r => isGroups 1 true r
  | ':' :: _ => false
  | s => 2 ≤ s.length && isGroups 0 false s

end Host

end CleanMarkup

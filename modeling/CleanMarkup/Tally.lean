import CleanMarkup.Text.Basic

/-!
# Tallies

How often each name has been counted, in the order in which names were first counted. A name that
is not in the tally has the count zero (`count_increment` says what counting a name does).
-/

namespace CleanMarkup

/-- Names and their counts, the name counted first in front. -/
structure Tally where
  entries : List (Text × Nat) := []
  deriving DecidableEq

namespace Tally

/-- The count of a name in a list of entries. -/
def find? (name : Text) : List (Text × Nat) → Option Nat
  | [] => none
  | (key, n) :: rest => if key = name then some n else find? name rest

/-- The count of a name. -/
def count (t : Tally) (name : Text) : Nat := (find? name t.entries).getD 0

/-- The name has been counted. -/
def has (t : Tally) (name : Text) : Bool := (find? name t.entries).isSome

/-- Counts a name in a list of entries. -/
def bump (name : Text) : List (Text × Nat) → List (Text × Nat)
  | [] => [(name, 1)]
  | (key, n) :: rest => if key = name then (key, n + 1) :: rest else (key, n) :: bump name rest

/-- Counts a name once more. -/
def increment (t : Tally) (name : Text) : Tally := ⟨bump name t.entries⟩

/-- Takes one off the count of a name in a list of entries; a count of zero is left out. -/
def drop (name : Text) : List (Text × Nat) → List (Text × Nat)
  | [] => []
  | (key, n) :: rest =>
    if key = name then (if n ≤ 1 then rest else (key, n - 1) :: rest)
    else (key, n) :: drop name rest

/-- Takes one off the count of a name. -/
def decrement (t : Tally) (name : Text) : Tally := ⟨drop name t.entries⟩

/-- The entry with the highest count; of several, the one counted first. -/
def highest : List (Text × Nat) → Option (Text × Nat)
  | [] => none
  | (key, n) :: rest =>
    match highest rest with
    | some (best, m) => if n < m then some (best, m) else some (key, n)
    | none => some (key, n)

/-- The name with the highest count; of several, the one counted first. -/
def mostCommon (t : Tally) : Option Text := (highest t.entries).map (·.1)

theorem count_increment (t : Tally) (name other : Text) :
    (t.increment name).count other = t.count other + if other = name then 1 else 0 := by
  obtain ⟨entries⟩ := t
  simp only [count, increment]
  induction entries with
  | nil => by_cases h : name = other <;> simp [bump, find?, h, eq_comm]
  | cons e rest ih => grind [bump, find?]

end Tally

end CleanMarkup

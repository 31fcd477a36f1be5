import CleanMarkup.Text.Basic

/-!
# Tables over code points

A table is a sorted array of runs, and a code point is looked up by bisection. A run is written
`41-5A`, with every second code point `100-12E/2`, and with an image `41-5A>61`: the image of the
run's first code point, whose own first element moves along with the run. An image of several
elements is written `DF>73+73`.
-/

namespace CleanMarkup

/-- The code points `first`, `first + step`, … up to `last`, and the image of `first`. -/
structure Run where
  first : Nat
  last : Nat
  step : Nat
  image : List Nat

/-- Runs in ascending order, none of which reaches into another. -/
structure RunTable where
  runs : Array Run

namespace Run

/-- The run covers a code point. -/
def covers (r : Run) (n : Nat) : Bool :=
  r.first ≤ n && n ≤ r.last && (n - r.first) % r.step == 0

/-- What a covered code point is mapped to. -/
def imageOf (r : Run) (n : Nat) : List Nat :=
  match r.image with
  | [] => []
  | m :: ms => (m + (n - r.first)) :: ms

/-- Reads one written run. -/
def ofText (s : Text) : Run :=
  let points := s.takeWhile (· != '>')
  let image := (s.dropWhile (· != '>')).drop 1
  let ends := points.takeWhile (· != '/')
  let step := (points.dropWhile (· != '/')).drop 1
  let first := Text.hexValue (ends.takeWhile (· != '-'))
  let last := (ends.dropWhile (· != '-')).drop 1
  { first
    last := if last.isEmpty then first else Text.hexValue last
    step := if step.isEmpty then 1 else Text.hexValue step
    image := if image.isEmpty then [] else (Text.splitAt (· == '+') image).map Text.hexValue }

end Run

namespace RunTable

/-- The number of runs that start at or before `n`, given that it lies between `low` and
`high`. -/
def bisect (runs : Array Run) (n low high : Nat) : Nat :=
  if low < high then
    let middle := (low + high) / 2
    if runs[middle]?.any (·.first ≤ n) then bisect runs n (middle + 1) high
    else bisect runs n low middle
  else low
termination_by high - low

/-- The run that covers a code point. -/
def find? (t : RunTable) (n : Nat) : Option Run :=
  match bisect t.runs n 0 t.runs.size with
  | 0 => none
  | i + 1 => t.runs[i]?.filter (·.covers n)

/-- The character is in one of the runs. -/
def has (t : RunTable) (c : Char) : Bool := (t.find? c.toNat).isSome

/-- The text a character is mapped to. -/
def image? (t : RunTable) (c : Char) : Option Text :=
  (t.find? c.toNat).map fun r => (r.imageOf c.toNat).map Char.ofNat

/-- Reads a table that is written as runs with blanks between them. -/
def ofString (s : String) : RunTable :=
  let fields := Text.splitAt (fun c => c == ' ' || c == '\n') s.toList
  ⟨((fields.filter (!·.isEmpty)).map Run.ofText).toArray⟩

end RunTable

/-- A table and the names it goes by, in lower case and without separators. -/
structure NamedTable where
  names : List String
  table : RunTable

end CleanMarkup

import CleanMarkup.Tally
import CleanMarkup.Text.Words
import CleanMarkup.Unicode.Lowercase

/-!
# Reports

A report grows while markup is cleaned: three texts, the violations (those beyond a limit are only
counted) and, once it is final, the verdict. What each addition does to them is `html_addHtml`,
`val_addVal`, `text_addText`, `violations_addViolation` and `count_addViolation`. The risk is a
score from 0 to 100 over the recorded violations.
-/

namespace CleanMarkup

/-- What has come out of cleaning so far. -/
structure Report where
  /-- Markup that is safe to show. -/
  htmlBuffer : Array Char := #[]
  /-- Words without markup. -/
  textBuffer : Array Char := #[]
  /-- Markup that is safe to store. -/
  valBuffer : Array Char := #[]
  /-- How many characters were put into the markup to show. -/
  length : Nat := 0
  /-- How many violations are recorded at most. -/
  limit : Nat
  /-- The recorded violations, in order. -/
  ledger : Array Text := #[]
  /-- All violations, counted by name. -/
  tally : Tally := {}
  /-- Whether the markup was clean, once that has been settled. -/
  verdict : Option Bool := none
  deriving DecidableEq

namespace Report

/-- The limit of a report that sets none. -/
def standardLimit : Nat := 100

/-- A report on nothing yet. At least one violation is always recorded. -/
def fresh (limit : Nat) : Report := { limit := max limit 1 }

/-- The markup to show. -/
def html (r : Report) : Text := r.htmlBuffer.toList

/-- The words. -/
def text (r : Report) : Text := r.textBuffer.toList

/-- The markup to store. -/
def val (r : Report) : Text := r.valBuffer.toList

/-- The recorded violations. -/
def violations (r : Report) : List Text := r.ledger.toList

/-- The verdict; until it is settled, markup counts as clean. -/
def isValid (r : Report) : Bool := r.verdict.getD true

/-- The name that a violation is counted under: without brackets and slashes, trimmed, up to the
first space, in lower case. -/
def nameOf (violation : Text) : Text :=
  let bare := Text.trim (violation.filter fun c => !(c == '<' || c == '>' || c == '/'))
  Text.lower (bare.takeWhile (· != ' '))

/-- How much a violation adds to the risk beyond being one: 30 if it mentions scripts or
evaluation, else 20 if it mentions one of two event handlers. -/
def surcharge (violation : Text) : Nat :=
  let s := Text.lower violation
  if s.includes "script".toList || s.includes "eval".toList then 30
  else if s.includes "onclick".toList || s.includes "onerror".toList then 20
  else 0

/-- The highest risk. -/
def maxRisk : Nat := 100

/-- The risk of violations: ten points each and their surcharges, never beyond the highest. -/
def riskOf (violations : List Text) : Nat :=
  violations.foldl (fun score v => min maxRisk (score + surcharge v))
    (min maxRisk (10 * violations.length))

/-- The risk of the recorded violations. -/
def risk (r : Report) : Nat := riskOf r.violations

/-- The name counted most often. -/
def mostCommon (r : Report) : Option Text := r.tally.mostCommon

/-- Adds markup to show. -/
def addHtml (r : Report) (s : Text) : Report :=
  { r with htmlBuffer := r.htmlBuffer ++ s, length := r.length + s.length }

/-- Adds the words of a text, single spaces between them and before them. -/
def addText (r : Report) (s : Text) : Report :=
  match s.collapseBlanks with
  | [] => r
  | c :: words =>
    { r with textBuffer :=
        (if r.textBuffer.isEmpty then r.textBuffer else r.textBuffer.push ' ') ++ c :: words }

/-- Adds markup to store. -/
def addVal (r : Report) (s : Text) : Report := { r with valBuffer := r.valBuffer ++ s }

/-- Records a violation, up to the limit, and counts it. An empty text is no violation. -/
def addViolation (r : Report) (v : Text) : Report :=
  if v.isEmpty then r
  else { r with
    ledger := if r.ledger.size < r.limit then r.ledger.push v else r.ledger
    tally := r.tally.increment (nameOf v) }

/-- Settles the verdict, unless it is settled already. -/
def finalize (r : Report) : Report :=
  { r with verdict := some (r.verdict.getD r.ledger.isEmpty) }

@[simp] theorem html_addHtml (r : Report) (s : Text) : (r.addHtml s).html = r.html ++ s := by
  simp [html, addHtml]

@[simp] theorem length_addHtml (r : Report) (s : Text) :
    (r.addHtml s).length = r.length + s.length := rfl

@[simp] theorem val_addVal (r : Report) (s : Text) : (r.addVal s).val = r.val ++ s := by
  simp [val, addVal]

/-- The words of a text are put behind those before, with a space between the two. -/
theorem text_addText (r : Report) (s : Text) :
    (r.addText s).text =
      if s.collapseBlanks = [] then r.text
      else (if r.text = [] then [] else r.text ++ [' ']) ++ s.collapseBlanks := by
  unfold addText text
  split
  · rename_i h
    simp [h]
  · rename_i c words h
    by_cases hr : r.textBuffer = #[] <;> simp [h, hr]

/-- A violation is recorded as long as there is room for it. -/
theorem violations_addViolation {v : Text} (r : Report) (hv : v ≠ []) :
    (r.addViolation v).violations =
      if r.violations.length < r.limit then r.violations ++ [v] else r.violations := by
  unfold addViolation violations
  rw [if_neg (by simpa using hv), Array.length_toList]
  split <;> simp

/-- Every violation is counted, recorded or not. -/
theorem count_addViolation {v : Text} (r : Report) (hv : v ≠ []) (name : Text) :
    (r.addViolation v).tally.count name =
      r.tally.count name + if name = nameOf v then 1 else 0 := by
  unfold addViolation
  rw [if_neg (by simpa using hv)]
  exact Tally.count_increment r.tally (nameOf v) name

theorem addViolation_nil (r : Report) : r.addViolation [] = r := rfl

theorem violations_prefix_addViolation (r : Report) (v : Text) :
    r.violations <+: (r.addViolation v).violations := by
  by_cases hv : v = []
  · subst hv
    exact List.prefix_rfl
  · rw [violations_addViolation r hv]
    split
    · exact List.prefix_append _ _
    · exact List.prefix_rfl

end Report

end CleanMarkup

import CleanMarkup.Proofs.Extraction
import CleanMarkup.Proofs.Limits
import CleanMarkup.Proofs.Ranking

/-!
# What has been done to a report

Markup, text and violations are added to a report in any order, and its verdict may be settled at
any point between them. Settling it changes nothing else (`performAll_eq`), so all but the verdict
is what the events alone would leave behind. After every call the report gives an exact account of
the calls up to then (`records_performAll`).
-/

namespace CleanMarkup

namespace Report

/-- What can be done to a report. -/
inductive Call
  | html (s : Text) | text (s : Text) | val (s : Text) | violation (v : Text)
  /-- The verdict is settled. -/
  | finalize
  deriving DecidableEq

/-- The event that a call notes, unless it settles the verdict. -/
def Call.event? : Call → Option Event
  | .html s => some (.html s)
  | .text s => some (.text s)
  | .val s => some (.val s)
  | .violation v => some (.violation v)
  | .finalize => none

/-- The events that calls note. -/
def noted (calls : List Call) : List Event := calls.filterMap Call.event?

/-- The report after a call. -/
def perform (r : Report) : Call → Report
  | .html s => r.addHtml s
  | .text s => r.addText s
  | .val s => r.addVal s
  | .violation v => r.addViolation v
  | .finalize => r.finalize

/-- The report after some calls. -/
def performAll (r : Report) (calls : List Call) : Report := calls.foldl perform r

/-- The report accounts for the calls. -/
structure Records (limit : Nat) (calls : List Call) (r : Report) : Prop where
  html : r.html = shown (noted calls)
  val : r.val = stored (noted calls)
  length : r.length = r.html.length
  text : r.text = Text.join [' '] (spoken (noted calls))
  violations : r.violations = (violated (noted calls)).take (max limit 1)
  counts : ∀ name, r.tally.count name = ((violated (noted calls)).map nameOf).count name
  total : (r.tally.entries.map (·.2)).sum = (violated (noted calls)).length
  /-- No name is counted that does not come. -/
  keys : r.tally.entries.map (·.1) = ((violated (noted calls)).map nameOf).eraseDups
  leading : ∀ name, r.mostCommon = some name ↔
    Tally.IsLeading ((violated (noted calls)).map nameOf) name
  noneLeading : r.mostCommon = none ↔ violated (noted calls) = []
  unsettled : .finalize ∉ calls → r.isValid = true
  settled : ∀ before after, calls = before ++ .finalize :: after → .finalize ∉ before →
    (r.isValid = true ↔ violated (noted before) = [])

section Events

theorem tally_note (r : Report) (e : Event) :
    (r.note e).tally = ((violated [e]).map nameOf).foldl Tally.increment r.tally := by
  cases e with
  | text s =>
    obtain ⟨b, hb⟩ := r.exists_addText s
    rw [note, hb]
    rfl
  | violation v =>
    rw [note, tally_addViolation]
    by_cases hv : v = [] <;> simp [violated, hv]
  | _ => rfl

theorem tally_after (r : Report) (es : List Event) :
    (r.after es).tally = ((violated es).map nameOf).foldl Tally.increment r.tally := by
  induction es generalizing r with
  | nil => rfl
  | cons e es ih =>
    change ((r.note e).after es).tally = _
    rw [ih, tally_note, violated_cons e es, List.map_append, List.foldl_append]

/-- Nothing that is noted depends on the verdict. -/
theorem note_verdict (r : Report) (verdict : Option Bool) (e : Event) :
    note { r with verdict } e = { r.note e with verdict } := by
  cases e with
  | text s =>
    simp only [note, addText]
    split <;> rfl
  | violation v =>
    simp only [note, addViolation]
    split <;> rfl
  | _ => rfl

theorem after_verdict (r : Report) (verdict : Option Bool) (es : List Event) :
    after { r with verdict } es = { r.after es with verdict } := by
  induction es generalizing r with
  | nil => rfl
  | cons e es ih =>
    change (note { r with verdict } e).after es = { (r.note e).after es with verdict }
    rw [note_verdict, ih]

end Events

section Calls

theorem perform_eq (r : Report) (c : Call) :
    r.perform c = c.event?.elim r.finalize r.note := by
  cases c <;> rfl

/-- In all but the verdict, calls leave behind what the events leave behind. -/
theorem performAll_eq (r : Report) (calls : List Call) :
    r.performAll calls =
      { r.after (noted calls) with verdict := (r.performAll calls).verdict } := by
  induction calls generalizing r with
  | nil => rfl
  | cons c calls ih =>
    change (r.perform c).performAll calls =
      { r.after (noted (c :: calls)) with verdict := ((r.perform c).performAll calls).verdict }
    rcases hc : c.event? with _ | e
    · have hfinal : r.perform c = { r with verdict := r.finalize.verdict } := by
        rw [perform_eq, hc]
        rfl
      have hnoted : noted (c :: calls) = noted calls := List.filterMap_cons_none hc
      rw [ih, hnoted, hfinal, after_verdict]
    · have hnote : r.perform c = r.note e := by
        rw [perform_eq, hc]
        rfl
      have hnoted : noted (c :: calls) = e :: noted calls := List.filterMap_cons_some hc
      rw [ih, hnoted, hnote]
      rfl

theorem verdict_performAll {r : Report} {calls : List Call} (h : .finalize ∉ calls) :
    (r.performAll calls).verdict = r.verdict := by
  induction calls generalizing r with
  | nil => rfl
  | cons c calls ih =>
    obtain ⟨hc, hcalls⟩ := not_or.1 (List.mem_cons.not.1 h)
    change ((r.perform c).performAll calls).verdict = _
    rw [ih hcalls]
    cases c with
    | html s => rfl
    | text s => exact r.verdict_note (.text s)
    | val s => rfl
    | violation v => exact r.verdict_note (.violation v)
    | finalize => exact absurd rfl hc

/-- A verdict that is settled stays. -/
theorem verdict_performAll_of_some {r : Report} {b : Bool} (h : r.verdict = some b)
    (calls : List Call) : (r.performAll calls).verdict = some b := by
  induction calls generalizing r with
  | nil => exact h
  | cons c calls ih =>
    refine ih ?_
    cases c with
    | html s => exact h
    | text s => exact (r.verdict_note (.text s)).trans h
    | val s => exact h
    | violation v => exact (r.verdict_note (.violation v)).trans h
    | finalize => simp [perform, finalize, h]

end Calls

section Fresh

variable (limit : Nat) (calls : List Call)

theorem violations_performAll_fresh : ((fresh limit).performAll calls).violations =
    (violated (noted calls)).take (max limit 1) := by
  rw [performAll_eq]
  exact violations_after (fresh limit) (noted calls) (Nat.zero_le _)

theorem tally_performAll_fresh : ((fresh limit).performAll calls).tally =
    .ofNames ((violated (noted calls)).map nameOf) := by
  rw [performAll_eq]
  exact tally_after (fresh limit) (noted calls)

/-- The verdict is that of the violations before it was settled, at least one of which has been
recorded if there are any. -/
theorem isValid_performAll_fresh {before : List Call} (h : .finalize ∉ before) :
    ((fresh limit).performAll (before ++ .finalize :: calls)).isValid = true ↔
      violated (noted before) = [] := by
  have hopen : ((fresh limit).performAll before).verdict = none := verdict_performAll h
  have hviolations := violations_performAll_fresh limit before
  generalize hr : (fresh limit).performAll before = r at hopen hviolations
  have hsettled : (r.perform .finalize).verdict = some r.ledger.isEmpty := by
    simp [perform, finalize, hopen]
  have hall : (fresh limit).performAll (before ++ .finalize :: calls) =
      (r.perform .finalize).performAll calls := by
    rw [← hr]
    exact List.foldl_append
  rw [hall, isValid, verdict_performAll_of_some hsettled, Option.getD_some]
  have hempty : r.ledger.isEmpty = true ↔ r.violations = [] := by simp [Report.violations]
  rw [hempty, hviolations, List.take_eq_nil_iff, or_iff_right (by omega)]

/-- Whatever has been done to a report, it accounts for that. -/
theorem records_performAll : Records limit calls ((fresh limit).performAll calls) where
  html := by
    rw [performAll_eq]
    exact html_after (fresh limit) (noted calls)
  val := by
    rw [performAll_eq]
    exact val_after (fresh limit) (noted calls)
  length := by
    have hhtml := html_after (fresh limit) (noted calls)
    have hlength := length_after (fresh limit) (noted calls)
    rw [performAll_eq]
    change ((fresh limit).after (noted calls)).length =
      ((fresh limit).after (noted calls)).html.length
    rw [hhtml, hlength, List.length_append]
    rfl
  text := by
    have hnone : ∀ w ∈ ([] : List Text), w.IsWord := by simp
    rw [performAll_eq]
    exact text_after hnone (rfl : (fresh limit).text = _) (noted calls)
  violations := violations_performAll_fresh limit calls
  counts name := by rw [tally_performAll_fresh, Tally.count_ofNames]
  total := by rw [tally_performAll_fresh, Tally.sum_ofNames, List.length_map]
  keys := by
    rw [tally_performAll_fresh, Tally.entries_ofNames, List.map_map]
    exact List.map_id _
  leading name := by
    rw [mostCommon, tally_performAll_fresh]
    exact (Tally.mostCommon_ofNames _).2 name
  noneLeading := by
    rw [mostCommon, tally_performAll_fresh, (Tally.mostCommon_ofNames _).1, List.map_eq_nil_iff]
  unsettled h := by
    rw [isValid, verdict_performAll h]
    rfl
  settled := by
    rintro before after rfl h
    exact isValid_performAll_fresh limit after h

end Fresh

end Report

end CleanMarkup

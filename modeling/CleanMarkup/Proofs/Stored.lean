import CleanMarkup.Proofs.Shown

/-!
# What events store and find

The markup to store is what the events put out as such, one after another (`val_after`), and the
violations are those the events find, up to the limit (`violations_after`); the text is valid
exactly if there are none (`isValid_clean`). Violations are recorded and counted and change nothing
else (`after_silent`), so what is put out after some of them is what is put out without
(`SameOutput.after`).
-/

namespace CleanMarkup

/-- What events add to the markup to store. -/
def stored (es : List Event) : Text :=
  es.flatMap fun
    | .val s => s
    | _ => []

/-- The violations that events find, recorded or not. An empty text is none. -/
def violated (es : List Event) : List Text :=
  es.filterMap fun
    | .violation v => if v = [] then none else some v
    | _ => none

theorem stored_append (es fs : List Event) : stored (es ++ fs) = stored es ++ stored fs :=
  List.flatMap_append

theorem stored_cons (e : Event) (es : List Event) : stored (e :: es) = stored [e] ++ stored es :=
  stored_append [e] es

theorem stored_eq_nil {es : List Event} (h : ∀ e ∈ es, e.IsSilent) : stored es = [] := by
  rw [stored, List.flatMap_eq_nil_iff]
  intro e he
  split
  · exact (h _ he).elim
  · rfl

theorem stored_markup (s : Text) : stored (markup s) = s := by
  simp [stored, markup]

theorem violated_append (es fs : List Event) :
    violated (es ++ fs) = violated es ++ violated fs :=
  List.filterMap_append

theorem violated_cons (e : Event) (es : List Event) :
    violated (e :: es) = violated [e] ++ violated es :=
  violated_append [e] es

namespace Report

theorem val_note (r : Report) (e : Event) : (r.note e).val = r.val ++ stored [e] := by
  cases e with
  | val s => simp [note, stored]
  | text s =>
    obtain ⟨b, hb⟩ := r.exists_addText s
    simp [note, stored, hb, val]
  | violation v =>
    obtain ⟨l, t, hl⟩ := r.exists_addViolation v
    simp [note, stored, hl, val]
  | _ => simp [note, stored, addHtml, val]

theorem val_after (r : Report) (es : List Event) : (r.after es).val = r.val ++ stored es := by
  induction es generalizing r with
  | nil => simp [after, stored]
  | cons e es ih =>
    change ((r.note e).after es).val = _
    rw [ih, val_note, List.append_assoc, ← stored_cons]

theorem limit_note (r : Report) (e : Event) : (r.note e).limit = r.limit := by
  cases e with
  | text s =>
    obtain ⟨b, hb⟩ := r.exists_addText s
    rw [note, hb]
  | violation v =>
    obtain ⟨l, t, hl⟩ := r.exists_addViolation v
    rw [note, hl]
  | _ => rfl

theorem violations_note (r : Report) (e : Event) (h : r.violations.length ≤ r.limit) :
    (r.note e).violations = (r.violations ++ violated [e]).take r.limit := by
  have hsame : r.violations = (r.violations ++ []).take r.limit := by
    rw [List.append_nil, List.take_of_length_le h]
  cases e with
  | text s =>
    obtain ⟨b, hb⟩ := r.exists_addText s
    rw [note, hb]
    exact hsame
  | violation v =>
    by_cases hv : v = []
    · subst hv
      exact hsame
    · have hone : violated [.violation v] = [v] := by simp [violated, hv]
      rw [note, violations_addViolation r hv, hone]
      split_ifs with hlt
      · rw [List.take_of_length_le]
        rw [List.length_append, List.length_singleton]
        omega
      · rw [List.take_append_of_le_length (by omega), List.take_of_length_le h]
  | _ => exact hsame

/-- What was cut off before makes no difference when the same limit cuts again. -/
theorem take_take_append (n : Nat) (l m : List Text) :
    (l.take n ++ m).take n = (l ++ m).take n := by
  rw [List.take_append, List.take_append, List.take_take, Nat.min_self, List.length_take]
  congr 2
  omega

/-- The violations that are recorded are those found first. -/
theorem violations_after (r : Report) (es : List Event) (h : r.violations.length ≤ r.limit) :
    (r.after es).violations = (r.violations ++ violated es).take r.limit := by
  induction es generalizing r with
  | nil => simp [after, violated, List.take_of_length_le h]
  | cons e es ih =>
    have hnote := violations_note r e h
    have hle : (r.note e).violations.length ≤ (r.note e).limit := by
      rw [hnote, limit_note]
      exact List.length_take_le _ _
    change ((r.note e).after es).violations = _
    rw [ih _ hle, limit_note, hnote, take_take_append, violated_cons e es, List.append_assoc]

/-- Two reports with the same three outputs. -/
structure SameOutput (r s : Report) : Prop where
  html : r.htmlBuffer = s.htmlBuffer
  text : r.textBuffer = s.textBuffer
  val : r.valBuffer = s.valBuffer

theorem SameOutput.refl (r : Report) : r.SameOutput r := ⟨rfl, rfl, rfl⟩

theorem SameOutput.addViolation {r s : Report} (h : r.SameOutput s) (v : Text) :
    (r.addViolation v).SameOutput s := by
  obtain ⟨l, t, hl⟩ := r.exists_addViolation v
  rw [hl]
  exact ⟨h.html, h.text, h.val⟩

theorem SameOutput.note {r s : Report} (h : r.SameOutput s) (e : Event) :
    (r.note e).SameOutput (s.note e) := by
  have hsymm : ∀ {r s : Report}, r.SameOutput s → s.SameOutput r := fun h =>
    ⟨h.html.symm, h.text.symm, h.val.symm⟩
  cases e with
  | text t =>
    change (r.addText t).SameOutput (s.addText t)
    unfold addText
    split
    · exact h
    · exact ⟨h.html, by simp only [h.text], h.val⟩
  | violation v => exact hsymm ((hsymm (h.addViolation v)).addViolation v)
  | html t => exact ⟨by simp only [Report.note, addHtml, h.html], h.text, h.val⟩
  | val t => exact ⟨h.html, h.text, by simp only [Report.note, addVal, h.val]⟩
  | _ => exact h

theorem SameOutput.after {r s : Report} (h : r.SameOutput s) (es : List Event) :
    (r.after es).SameOutput (s.after es) := by
  induction es generalizing r s with
  | nil => exact h
  | cons e es ih => exact ih (h.note e)

theorem addViolation_eq (r : Report) (v : Text) : r.addViolation v = { r with
    ledger := r.ledger ++ (violated [.violation v]).take (r.limit - r.ledger.size)
    tally := (violated [.violation v]).foldl (fun t w => t.increment (nameOf w)) r.tally } := by
  by_cases hv : v = []
  · simp [hv, addViolation_nil, violated]
  · have hone : violated [.violation v] = [v] := by simp [violated, hv]
    rw [addViolation, if_neg (by simpa using hv), hone, List.foldl_cons, List.foldl_nil]
    congr 1
    split_ifs with hlt
    · rw [List.take_of_length_le (by rw [List.length_singleton]; omega)]
      simp
    · rw [Nat.sub_eq_zero_of_le (by omega), List.take_zero]
      simp

/-- Where nothing is put out, the violations that are found are all that is added to a report: each
is recorded as long as there is room for it, and each is counted. -/
theorem after_silent {es : List Event} (h : ∀ e ∈ es, e.IsSilent) (r : Report) :
    r.after es = { r with
      ledger := r.ledger ++ (violated es).take (r.limit - r.ledger.size)
      tally := (violated es).foldl (fun t v => t.increment (nameOf v)) r.tally } := by
  induction es generalizing r with
  | nil => simp [after, violated]
  | cons e es ih =>
    change (r.note e).after es = _
    have hrest := ih fun f hf => h f (List.mem_cons_of_mem e hf)
    cases e with
    | violation v =>
      rw [hrest, note, addViolation_eq, violated_cons _ es, List.foldl_append]
      congr 1
      refine Array.toList_inj.1 ?_
      simp only [Array.toList_appendList, List.append_assoc, List.take_append,
        ← Array.length_toList, List.length_append, List.length_take]
      congr 3
      omega
    | html | text | val => exact (h _ List.mem_cons_self).elim
    | _ => exact hrest r

theorem sameOutput_after {es : List Event} (h : ∀ e ∈ es, e.IsSilent) (r : Report) :
    (r.after es).SameOutput r := by
  rw [after_silent h]
  exact ⟨rfl, rfl, rfl⟩

theorem verdict_note (r : Report) (e : Event) : (r.note e).verdict = r.verdict := by
  cases e with
  | text s =>
    obtain ⟨b, hb⟩ := r.exists_addText s
    rw [note, hb]
  | violation v =>
    obtain ⟨l, t, hl⟩ := r.exists_addViolation v
    rw [note, hl]
  | _ => rfl

theorem verdict_after (r : Report) (es : List Event) : (r.after es).verdict = r.verdict := by
  induction es generalizing r with
  | nil => rfl
  | cons e es ih => exact (ih (r.note e)).trans (r.verdict_note e)

end Report

namespace Cleaner

theorem violated_ending (s : Situation) : violated (ending s) = [] := by
  simp only [ending, violated, List.filterMap_flatMap]
  exact List.flatMap_eq_nil_iff.2 fun _ _ => rfl

variable (c : Cleaner) (input : Text)

/-- The violations in a text, recorded or not. -/
def found : List Text := violated (c.events input)

theorem val_clean : (c.clean input).val = stored (c.events input) :=
  Report.val_after (.fresh c.settings.limit) (c.events input)

theorem violations_clean :
    (c.clean input).violations = (c.found input).take (max c.settings.limit 1) :=
  Report.violations_after (.fresh c.settings.limit) (c.events input) (Nat.zero_le _)

/-- A text is valid exactly if no violation is recorded. -/
theorem isValid_iff_violations :
    (c.clean input).isValid = true ↔ (c.clean input).violations = [] := by
  have hverdict := Report.verdict_after (.fresh c.settings.limit) (c.events input)
  simp only [clean, Report.isValid, Report.finalize, Report.violations, hverdict]
  simp [Report.fresh]

/-- A text is valid exactly if nothing in it is a violation. -/
theorem isValid_clean : (c.clean input).isValid = true ↔ c.found input = [] := by
  rw [isValid_iff_violations, violations_clean, List.take_eq_nil_iff]
  constructor
  · rintro (h | h)
    · omega
    · exact h
  · exact .inr

end Cleaner

end CleanMarkup

import CleanMarkup.Proofs.Risk
import CleanMarkup.Proofs.Stored
import CleanMarkup.Proofs.Words

/-!
# Reports grow

Whatever happens adds to a report and takes nothing back: what it was before is a beginning of what
it is after (`Report.begins_note`, `Report.begins_after`). A text that goes on puts out what its
beginning puts out and more (`Report.begins_plainText`).
-/

namespace CleanMarkup

namespace Report

/-- The one report is how the other began. -/
structure Begins (r s : Report) : Prop where
  html : r.html <+: s.html
  text : r.text <+: s.text
  val : r.val <+: s.val
  violations : r.violations <+: s.violations
  counts : ∀ name, r.tally.count name ≤ s.tally.count name

theorem Begins.refl (r : Report) : r.Begins r :=
  ⟨List.prefix_refl _, List.prefix_refl _, List.prefix_refl _, List.prefix_refl _, fun _ => le_rfl⟩

theorem Begins.trans {r s t : Report} (h : r.Begins s) (k : s.Begins t) : r.Begins t where
  html := h.html.trans k.html
  text := h.text.trans k.text
  val := h.val.trans k.val
  violations := h.violations.trans k.violations
  counts name := (h.counts name).trans (k.counts name)

theorem begins_addViolation (r : Report) (v : Text) : r.Begins (r.addViolation v) := by
  by_cases hv : v = []
  · rw [hv, addViolation_nil]
    exact .refl r
  · obtain ⟨l, t, hl⟩ := r.exists_addViolation v
    refine ⟨?_, ?_, ?_, r.violations_prefix_addViolation v, fun name => ?_⟩
    · rw [hl]
      exact List.prefix_refl _
    · rw [hl]
      exact List.prefix_refl _
    · rw [hl]
      exact List.prefix_refl _
    · rw [count_addViolation r hv]
      omega

/-- Whatever happens, nothing is taken back. -/
theorem begins_note (r : Report) (e : Event) : r.Begins (r.note e) := by
  have hr := Begins.refl r
  cases e with
  | html s =>
    refine ⟨?_, hr.text, hr.val, hr.violations, hr.counts⟩
    rw [note, html_addHtml]
    exact List.prefix_append _ _
  | val s =>
    refine ⟨hr.html, hr.text, ?_, hr.violations, hr.counts⟩
    rw [note, val_addVal]
    exact List.prefix_append _ _
  | text s =>
    have htext := r.text_prefix_addText s
    obtain ⟨b, hb⟩ := r.exists_addText s
    rw [note]
    rw [hb] at htext ⊢
    exact ⟨hr.html, htext, hr.val, hr.violations, hr.counts⟩
  | violation v => exact r.begins_addViolation v
  | token | ruled | asked | declarationDropped | suppressed => exact hr

theorem begins_after (r : Report) (es : List Event) : r.Begins (r.after es) := by
  induction es generalizing r with
  | nil => exact .refl r
  | cons e es ih => exact (r.begins_note e).trans (ih (r.note e))

/-- Text that goes on behind a text puts out what that puts out, and more. -/
theorem begins_plainText (r : Report) (u v : Text) :
    (r.after (Cleaner.plainText u)).Begins (r.after (Cleaner.plainText (u ++ v))) := by
  have htext : ∀ w : Text, (r.after (Cleaner.plainText w)).text = (r.addText w.encode).text := by
    intro w
    change (((r.addVal w).addHtml w.encode).addText w.encode).text = _
    rw [text_addText, text_addText]
    rfl
  have hrest : ∀ w : Text, (r.after (Cleaner.plainText w)).violations = r.violations ∧
      (r.after (Cleaner.plainText w)).tally = r.tally := by
    intro w
    obtain ⟨b, hb⟩ := ((r.addVal w).addHtml w.encode).exists_addText w.encode
    change (((r.addVal w).addHtml w.encode).addText w.encode).violations = _ ∧
      (((r.addVal w).addHtml w.encode).addText w.encode).tally = _
    rw [hb]
    exact ⟨rfl, rfl⟩
  have hencode := Text.encode_append u v
  refine ⟨?_, ?_, ?_, ?_, fun name => ?_⟩
  · rw [html_after, html_after]
    simp [shown, Cleaner.plainText, hencode]
  · rw [htext, htext, hencode]
    exact r.text_addText_append u.encode v.encode
  · rw [val_after, val_after]
    simp [stored, Cleaner.plainText]
  · rw [(hrest u).1, (hrest (u ++ v)).1]
  · rw [(hrest u).2, (hrest (u ++ v)).2]

end Report

end CleanMarkup

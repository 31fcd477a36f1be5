import CleanMarkup.Proofs.Idempotence

/-!
# Markup that is put in front

The markup to show can stand in front of anything: what follows is cleaned as it is alone, since
such markup leaves no tag open, no content to leave out and no span without an end.
-/

namespace CleanMarkup

namespace Cleaner

variable {c : Cleaner}

/-- The markup to show leads back to the start. -/
theorem leads_html_clean (hcheck : c.check.IsPlain) (x : Text) :
    ∃ es, c.Leads {} (c.clean x).html es {} ∧ SameEffect (c.events (c.clean x).html) es := by
  obtain ⟨ps, hhtml, hnested, -⟩ := c.exists_pieces x
  have haddressed := hnested.isAddressed hcheck
  rw [hhtml]
  exact ⟨_, hnested.leads_back haddressed, hnested.sameEffect_events haddressed⟩

/-- What stands behind the markup to show is cleaned as it is alone. -/
theorem sameEffect_html_append (hcheck : c.check.IsPlain) (x y : Text) :
    SameEffect (c.events ((c.clean x).html ++ y)) (c.events (c.clean x).html ++ c.events y) := by
  obtain ⟨es, hleads, hes⟩ := leads_html_clean hcheck x
  exact (hleads.sameEffect_events y).trans (hes.symm.append (.refl _))

/-- Cleaned with something behind it, the markup to show is cleaned on its own, and so is what
stands behind it: to be shown, to be stored and for violations. -/
theorem standard_html_append (namesHost : Text → Bool) (x y : Text) :
    let c := standardWith namesHost
    (c.clean ((c.clean x).html ++ y)).html =
        (c.clean (c.clean x).html).html ++ (c.clean y).html ∧
      (c.clean ((c.clean x).html ++ y)).val =
        (c.clean (c.clean x).html).val ++ (c.clean y).val ∧
      c.found ((c.clean x).html ++ y) = c.found (c.clean x).html ++ c.found y := by
  intro c
  have heffect := sameEffect_html_append (c := c) (isPlain_passes namesHost) x y
  have hhtml : ∀ z, (c.clean z).html = shown (c.events z) := fun z => by
    rw [html_clean, ← events_eq_eventsFrom]
  refine ⟨?_, ?_, ?_⟩
  · rw [hhtml (_ ++ y), hhtml (c.clean x).html, hhtml y, heffect.shown, shown_append]
  · rw [val_clean, val_clean, val_clean, heffect.stored, stored_append]
  · rw [found, found, found, heffect.violated, violated_append]

end Cleaner

end CleanMarkup

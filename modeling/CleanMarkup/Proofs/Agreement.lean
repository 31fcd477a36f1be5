import CleanMarkup.Proofs.Idempotence
import CleanMarkup.Proofs.Storage

/-!
# The two forms of markup

What is stored for a span and what is shown of it differ: comments are stored only, and text is
stored as it is. But where tags have their ends, the two lead to the same situation when they are
cleaned again, and show the same there (`Cleaner.alike_step`). So the markup to store is shown as
the markup to show is (`standard_html_val`).
-/

namespace CleanMarkup

open CleanMarkup.Span

/-- A span that begins with `<` is a comment, or ends in `>`. -/
def Span.HasEnd (u : Text) : Prop := u.head? = some '<' → commentOpen <+: u ∨ ['>'] <:+ u

instance : DecidablePred Span.HasEnd := fun u =>
  inferInstanceAs (Decidable (u.head? = some '<' → _ ∨ _))

theorem Span.HasEnd.isOpen_eq_false {u : Text} (h : HasEnd u) :
    isOpen u = false ∨ commentOpen <+: u := by
  by_cases hu : u.head? = some '<'
  · by_cases hc : commentOpen <+: u
    · exact .inr hc
    · exact .inl (isOpen_eq_false_of_suffix hc ((h hu).resolve_left hc))
  · exact .inl (by simp [isOpen, hu])

namespace Cleaner

/-- The two texts lead to one situation, in which these tags are open, and show the same. -/
def Alike (c : Cleaner) (s : Situation) (h k : Text) (opened : List Text) : Prop :=
  ∃ t es fs, t.IsAt c opened ∧ c.Leads s h es t ∧ c.Leads s k fs t ∧ shown es = shown fs

variable {c : Cleaner}

/-- What is stored for a span with an end is as good as what is shown of it. -/
theorem alike_step (hcheck : c.check.IsPlain) {s t : Situation} (hs : s.IsSound c) {u r : Text}
    (hu : IsFirst u r) (hend : HasEnd u) (ht : t.IsAt c s.openTags.names) :
    c.Alike t (stored (c.step s (Token.ofSpan u)).2) (shown (c.step s (Token.ofSpan u)).2)
      (c.step s (Token.ofSpan u)).1.openTags.names := by
  have hclosed : isOpen u = false ∨ commentOpen <+: u ∨ s.skipping ≠ none :=
    hend.isOpen_eq_false.imp_right .inl
  rcases stored_step_cases hs hu hclosed with ⟨ps, hps, hstored⟩ |
    ⟨hstep, v, hstored, hwhole, hk⟩ | ⟨hstep, hk, htext⟩
  · -- the same pieces either way
    obtain ⟨t', ht', hleads⟩ := hps.nested.leads (hps.nested.isAddressed hcheck) ht
    rw [hstored, hps.html]
    exact ⟨t', _, _, ht', hleads, hleads, rfl⟩
  · -- a comment is stored, and shown neither time
    have hall : stored (c.taken (.comment u)) = u ++ v := hstored
    have hleads : c.Leads t (u ++ v) (c.taken (.comment (u ++ v))) t :=
      leads_of_isWhole hwhole (by rw [hk, step_taken_comment ht.meeting])
    rw [hstep, hall]
    exact ⟨t, _, _, ht, hleads, leads_nil t, rfl⟩
  · -- text is shown with entities, and with the same entities again
    have hstored : stored (c.taken (.text u)) = u := by simp [taken, plainText, stored]
    have hshown : shown (c.taken (.text u)) = u.encode := by simp [taken, plainText, shown]
    have hagain : shown (c.taken (.text u.encode)) = u.encode := by
      simp [taken, plainText, shown, Text.encode_encode]
    have hleads : c.Leads t u (c.taken (.text u)) t := by
      rcases htext with hm | hw
      · exact leads_text ht.meeting hm
      · exact leads_of_isWhole hw (by rw [hk, step_taken_text ht.meeting])
    rw [hstep, hstored, hshown]
    exact ⟨t, _, _, ht, hleads, leads_encode ht.meeting u, hshown.trans hagain.symm⟩

/-- What is stored and what is shown of spans with ends are shown alike. -/
theorem shown_eventsFrom_stored (hcheck : c.check.IsPlain) {us : List Text} (hus : Segmented us)
    (hend : ∀ u ∈ us, HasEnd u) {s t : Situation} (hs : s.IsSound c)
    (ht : t.IsAt c s.openTags.names) :
    shown (c.eventsFrom t (tokens (stored (c.eventsFrom s (us.map Token.ofSpan))))) =
      shown (c.eventsFrom t (tokens (shown (c.eventsFrom s (us.map Token.ofSpan))))) := by
  induction hus generalizing s t with
  | nil => rw [List.map_nil, eventsFrom, stored_ending]
  | cons hu _ ih =>
    obtain ⟨hend, hrest⟩ := List.forall_mem_cons.1 hend
    obtain ⟨t', es, fs, ht', hstored, hshown, hsame⟩ := alike_step hcheck hs hu hend ht
    have hbehind := ih hrest (isSound_step hs (isNamed_ofSpan _)) ht'
    rw [List.map_cons, eventsFrom, stored_append, shown_append, (hstored _).shown,
      (hshown _).shown, shown_append, shown_append, hsame, hbehind]

theorem html_clean_val (hcheck : c.check.IsPlain) {x : Text} (hx : ∀ u ∈ spans x, HasEnd u) :
    (c.clean (c.clean x).val).html = (c.clean (c.clean x).html).html := by
  rw [html_clean, html_clean (c.clean x).html, val_clean, events_eq_eventsFrom, html_clean x]
  exact shown_eventsFrom_stored hcheck (segmented_spans x) hx (Situation.isAt_start c).sound
    (Situation.isAt_start c)

/-- Where every tag has its end, the markup to store is shown as the markup to show is. -/
theorem standard_html_val (namesHost : Text → Bool) {x : Text} (hx : ∀ u ∈ spans x, HasEnd u) :
    ((standardWith namesHost).clean ((standardWith namesHost).clean x).val).html =
      ((standardWith namesHost).clean ((standardWith namesHost).clean x).html).html :=
  html_clean_val (isPlain_passes namesHost) hx

/-- A quote, a bracket without a tag, a tag that is dropped and a comment without an end are stored
in other words than they are shown in. -/
theorem standard_html_val_comment :
    (∀ u ∈ spans "<b>\"a< ><td></i><!--c".toList, HasEnd u) ∧
      ((standardWith Url.namesHost).clean "<b>\"a< ><td></i><!--c".toList).val ≠
        ((standardWith Url.namesHost).clean "<b>\"a< ><td></i><!--c".toList).html ∧
      ((standardWith Url.namesHost).clean
          ((standardWith Url.namesHost).clean "<b>\"a< ><td></i><!--c".toList).val).html =
        ((standardWith Url.namesHost).clean
          ((standardWith Url.namesHost).clean "<b>\"a< ><td></i><!--c".toList).html).html := by
  have h : ∀ u ∈ spans "<b>\"a< ><td></i><!--c".toList, HasEnd u := by decide +kernel
  exact ⟨h, by decide +kernel, standard_html_val Url.namesHost h⟩

end Cleaner

end CleanMarkup

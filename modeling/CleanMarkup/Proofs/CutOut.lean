import CleanMarkup.Proofs.Skipping
import CleanMarkup.Proofs.Stored
import CleanMarkup.Shorthand

/-!
# Elements that are cut out

A forbidden script or style in front of a text is cut out, whatever the text, exactly if its code
does not end in an open span (`cutsOut_iff`). If it does, as after a lone `<`, the closing tag
belongs to that span and the text behind is taken for code (`not_cutsOut_lessThan`).
-/

namespace CleanMarkup

section Code

variable {name code : Text} (hcode : ¬ '<' :: '/' :: name <:+: code.asciiLower)

include hcode

theorem not_closesRawText_of_infix {u : Text} (hu : u <:+: code) :
    closesRawText name u = false := by
  rw [Bool.eq_false_iff]
  intro h
  obtain ⟨m, t, rfl, rfl, -⟩ := closesRawText_iff.1 h
  have hlower := hu.map Char.toLower
  exact hcode (.trans ⟨[], t.asciiLower, by simp [Text.asciiLower]⟩ hlower)

theorem not_closesRawText_of_mem_spans {a : Text} (ha : a <:+: code) :
    ∀ u ∈ spans a, closesRawText name u = false := by
  intro u hu
  obtain ⟨us, vs, hsplit⟩ := List.append_of_mem hu
  refine not_closesRawText_of_infix hcode (.trans ⟨us.flatten, vs.flatten, ?_⟩ ha)
  rw [← flatten_spans a, hsplit]
  simp

end Code

namespace Cleaner

/-- An element without attributes. -/
def element (name code : Text) : Text := '<' :: (name ++ ['>']) ++ (code ++ writeClosing name)

/-- In front of a text, an element changes none of the outputs and adds the violations of its two
tags. -/
structure CutsOut (c : Cleaner) (name code t : Text) : Prop where
  html : (c.clean (element name code ++ t)).html = (c.clean t).html
  text : (c.clean (element name code ++ t)).text = (c.clean t).text
  val : (c.clean (element name code ++ t)).val = (c.clean t).val
  found : c.found (element name code ++ t) =
    ('<' :: name ++ ['>']) :: ('/' :: name) :: c.found t

theorem violated_skipped (us : List Text) :
    violated (us.map fun u => .token (Token.ofSpan u)) = [] := by
  induction us with
  | nil => rfl
  | cons u us ih => exact ih

theorem violated_elementEvents (name opener : Text) (inside : List Text) (closer : Text) :
    violated (elementEvents name opener inside closer) = ['<' :: name ++ ['>'], '/' :: name] := by
  rw [elementEvents, violated_append, violated_append, violated_skipped]
  rfl

theorem isSilent_elementEvents (name opener : Text) (inside : List Text) (closer : Text) :
    ∀ e ∈ elementEvents name opener inside closer, e.IsSilent := by
  have htag : ∀ (t : Token) (v : Text), ∀ e ∈ [Event.token t, .violation v], e.IsSilent :=
    fun t v => List.forall_mem_cons.2 ⟨trivial, List.forall_mem_singleton.2 trivial⟩
  refine List.forall_mem_append.2 ⟨List.forall_mem_append.2 ⟨htag _ _, ?_⟩, htag _ _⟩
  intro e he
  obtain ⟨u, -, rfl⟩ := List.mem_map.1 he
  trivial

section Element

variable {c : Cleaner} {name code : Text} (hn : c.policy.LeavesOut name)

include hn

theorem ofSpan_opener : Token.ofSpan ('<' :: (name ++ ['>'])) =
    .opening name [] false ('<' :: (name ++ ['>'])) := by
  have h : Token.ofSpan ('<' :: (name ++ [] ++ ['>'])) = _ :=
    ofSpan_opening hn.isName List.not_mem_nil rfl
  rw [List.append_nil] at h
  exact h

theorem skippedBy?_opener : c.policy.skippedBy? ('<' :: (name ++ ['>'])) = some name := by
  rw [Policy.skippedBy?, ofSpan_opener hn]
  exact if_pos ⟨hn.forbidden, hn.rawText, rfl⟩

theorem closesRawText_writeClosing : closesRawText name (writeClosing name) = true :=
  closesRawText_of_closing (ofSpan_closing hn.isName)

theorem spans_element (r : Text) : spans (element name code ++ r) =
    ('<' :: (name ++ ['>'])) :: spans (code ++ (writeClosing name ++ r)) := by
  have hsplit : element name code ++ r =
      '<' :: (name ++ ['>']) ++ (code ++ (writeClosing name ++ r)) := by simp [element]
  rw [hsplit, (Token.isWhole_of_ofSpan_opening (ofSpan_opener hn) _).spans]

theorem spans_writeClosing (r : Text) :
    spans (writeClosing name ++ r) = writeClosing name :: spans r := by
  have hg : '>' ∉ '/' :: name := by
    rw [List.mem_cons, not_or]
    exact ⟨by decide, hn.isName.not_mem (by decide)⟩
  have hopen : ¬ Span.commentOpen <+: '<' :: '/' :: name := by
    rintro ⟨t, ht⟩
    exact absurd (List.cons.inj (List.cons.inj ht).2).1 (by decide)
  exact (Span.isWhole_tag hopen hg r).spans

theorem spans_element_open {a u : Text} (ha : endsOpen a = false) (hu : Span.isOpen u = true) :
    spans (element name (a ++ u)) =
      ('<' :: (name ++ ['>'])) :: (spans a ++ [u ++ writeClosing name]) := by
  have hg : '>' ∉ '<' :: '/' :: name := by
    rw [List.mem_cons, List.mem_cons, not_or, not_or]
    exact ⟨by decide, by decide, hn.isName.not_mem (by decide)⟩
  have hopen : spans (u ++ writeClosing name) = [u ++ writeClosing name] := by
    have h := (Span.isFirst_open_append hu hg).spans
    rw [List.append_nil, spans_nil] at h
    exact h
  have hcut : spans (a ++ (u ++ writeClosing name)) = spans a ++ [u ++ writeClosing name] := by
    rw [← hopen]
    obtain ⟨v, rfl⟩ := Span.exists_cons_of_isOpen hu
    exact spans_append_tag _ ha
  have h : spans (element name (a ++ u) ++ []) = _ := spans_element hn []
  rwa [List.append_nil, List.append_nil, List.append_assoc, hcut] at h

variable (hcode : ¬ '<' :: '/' :: name <:+: code.asciiLower)

include hcode

/-- An open span of the code that swallows the closing tag does not end the element. -/
theorem not_closesRawText_open {u : Text} (hu : u <:+: code) (ho : Span.isOpen u = true) :
    closesRawText name (u ++ writeClosing name) = false := by
  rw [Bool.eq_false_iff]
  intro h
  obtain ⟨m, t, hsplit, hm, -⟩ := closesRawText_iff.1 h
  obtain ⟨v, rfl⟩ := Span.exists_cons_of_isOpen ho
  have hclosed : ∀ w, '<' :: v = '<' :: '/' :: (m ++ w) → False := by
    intro w hw
    have hfalse := not_closesRawText_of_infix hcode (.trans ⟨[], w, by simpa using hw.symm⟩ hu)
      (u := '<' :: '/' :: m)
    rw [closesRawText_iff.2 ⟨m, [], by simp, hm, rfl⟩] at hfalse
    simp at hfalse
  have hsplit : '<' :: v ++ writeClosing name = '<' :: '/' :: m ++ t := hsplit
  rcases List.append_eq_append_iff.1 hsplit with ⟨w, hw, hrest⟩ | ⟨w, hw, -⟩
  · rcases w with _ | ⟨d, w⟩
    · exact hclosed [] (by simpa using hw.symm)
    · -- the name would go on with the bracket of the closing tag
      obtain ⟨rfl, -⟩ := List.cons.inj hrest
      have hmem : '<' ∈ '/' :: m := by
        rw [(List.cons.inj hw).2]
        exact List.mem_append_right v List.mem_cons_self
      have hlower : '<' ∈ m.asciiLower :=
        List.mem_map.2 ⟨'<', (List.mem_cons.1 hmem).resolve_left (by decide), rfl⟩
      exact hn.isName.not_mem (by decide) (hm ▸ hlower)
  · exact hclosed w (by simpa using hw)

/-- Behind an element whose code does not end in an open span, all begins anew. -/
theorem events_element (ho : endsOpen code = false) (t : Text) :
    c.events (element name code ++ t) =
      elementEvents name ('<' :: (name ++ ['>'])) (spans code) (writeClosing name) ++
        c.events t := by
  have hbehind : spans (code ++ (writeClosing name ++ t)) =
      spans code ++ writeClosing name :: spans t := by
    rw [← spans_writeClosing hn t]
    exact spans_append_tag _ ho
  have htokens : tokens (element name code ++ t) =
      (('<' :: (name ++ ['>'])) :: (spans code ++ [writeClosing name])).map Token.ofSpan ++
        tokens t := by
    rw [tokens, spans_element hn, hbehind]
    simp [tokens]
  have helement := goOn_element (s := {}) rfl (skippedBy?_opener hn)
    (not_closesRawText_of_mem_spans hcode (List.infix_refl code))
    (closesRawText_writeClosing hn) #[]
  have hrest := goOn_eq_eventsFrom (c := c) {}
    ((#[] : Array Event) ++
      elementEvents name ('<' :: (name ++ ['>'])) (spans code) (writeClosing name)) (tokens t)
  rw [← events_eq_eventsFrom, Array.toList_appendList, List.nil_append] at hrest
  rw [events, htokens, goOn_append, helement]
  exact hrest

theorem cutsOut (ho : endsOpen code = false) (t : Text) : c.CutsOut name code t := by
  have hevents := events_element hn hcode ho t
  have hsilent := isSilent_elementEvents name ('<' :: (name ++ ['>'])) (spans code)
    (writeClosing name)
  have hsame := (Report.sameOutput_after hsilent (.fresh c.settings.limit)).after (c.events t)
  rw [← Report.after_append, ← hevents] at hsame
  refine ⟨congrArg Array.toList hsame.html, congrArg Array.toList hsame.text,
    congrArg Array.toList hsame.val, ?_⟩
  rw [found, hevents, violated_append, violated_elementEvents]
  rfl

/-- Where the code ends in an open span, the closing tag is a part of that, and no span ends the
element. -/
theorem found_element_open (ho : endsOpen code = true) :
    c.found (element name code) = ['<' :: name ++ ['>']] := by
  obtain ⟨a, u, rfl, hu, ha⟩ := exists_open_of_endsOpen ho
  have hinside : ∀ w ∈ spans a ++ [u ++ writeClosing name], closesRawText name w = false := by
    intro w hw
    rcases List.mem_append.1 hw with hw | hw
    · exact not_closesRawText_of_mem_spans hcode (List.prefix_append a u).isInfix w hw
    · rw [List.mem_singleton.1 hw]
      exact not_closesRawText_open hn hcode (List.suffix_append a u).isInfix hu
  rw [found, events, tokens, spans_element_open hn ha hu, List.map_cons, goOn_cons,
    step_opener rfl (skippedBy?_opener hn), goOn_skipped rfl hinside]
  simp only [Array.toList_appendList, violated_append, violated_skipped]
  rfl

end Element

/-- An element is cut out, whatever the text behind it, exactly if its code does not end in an open
span. -/
theorem cutsOut_iff {c : Cleaner} {name code : Text} (hn : c.policy.LeavesOut name)
    (hcode : ¬ '<' :: '/' :: name <:+: code.asciiLower) :
    (∀ t, c.CutsOut name code t) ↔ endsOpen code = false := by
  constructor
  · intro h
    rw [← Bool.not_eq_true]
    intro ho
    have hfound := (h []).found
    rw [List.append_nil, found_element_open hn hcode ho] at hfound
    simp at hfound
  · exact cutsOut hn hcode

/-- A script is cut out if a tag in its code is complete. -/
theorem cutsOut_script :
    standard.CutsOut "script".toList "if (a) b = '<i>'".toList "<b>c</b>".toList :=
  (cutsOut_iff ⟨by decide +kernel, by decide⟩ (by decide)).2 (by decide +kernel) _

/-- The closing tag of a script is lost behind a lone `<`, and the text behind it with it. -/
theorem not_cutsOut_lessThan :
    ¬ ('<' :: '/' :: "script".toList) <:+: Text.asciiLower "a<b".toList ∧
      ¬ standard.CutsOut "script".toList "a<b".toList "c".toList := by
  refine ⟨by decide, fun h => ?_⟩
  have hhtml := h.html
  revert hhtml
  decide +kernel

end Cleaner

end CleanMarkup

import CleanMarkup.Proofs.Growth
import CleanMarkup.Proofs.Leading
import CleanMarkup.Proofs.Skipping
import CleanMarkup.Shorthand

/-!
# Text that goes on

A text that does not end in the middle of a span keeps its spans when more follows, except that text
at its end runs on (`spans_append_cases`). So what cleaning has done by its end is how it begins on
the longer text (`begins_reached`), and only the closing tags that are put behind it can be missing
there (`clean_append`).
-/

namespace CleanMarkup

open CleanMarkup.Span

namespace Span

/-- A span that begins with `<` has its end: a `>`, and that of a comment if it is one. -/
def IsComplete (u : Text) : Prop :=
  u.head? = some '<' → ['>'] <:+ u ∧ (commentOpen <+: u → commentClose <:+ u)

instance : DecidablePred IsComplete := fun u =>
  inferInstanceAs (Decidable (u.head? = some '<' → _ ∧ (_ → _)))

theorem IsComplete.isOpen_eq_false {u : Text} (h : IsComplete u) : isOpen u = false := by
  by_cases hu : u.head? = some '<'
  · obtain ⟨hs, hcomment⟩ := h hu
    by_cases hc : commentOpen <+: u
    · exact isOpen_eq_false_of_comment hc (hcomment hc)
    · exact isOpen_eq_false_of_suffix hc hs
  · simp [isOpen, hu]

end Span

theorem endsOpen_eq_false {x : Text} (hx : ∀ u ∈ (spans x).getLast?, IsComplete u) :
    endsOpen x = false := by
  unfold endsOpen
  rcases hu : (spans x).getLast? with _ | u
  · rfl
  · exact (hx u hu).isOpen_eq_false

/-- More behind a text that does not end in an open span begins a span of its own, or goes on with
the text at the end. -/
theorem spans_append_cases {x : Text} (hx : endsOpen x = false) (y : Text) :
    spans (x ++ y) = spans x ++ spans y ∨
      ∃ (us : List Text) (d : Char) (u v : Text) (vs : List Text), d ≠ '<' ∧
        spans x = us ++ [d :: u] ∧ spans (x ++ y) = us ++ (d :: (u ++ v)) :: vs := by
  have hseg := segmented_spans x
  have hflat := flatten_spans x
  unfold endsOpen at hx
  rcases (spans x).eq_nil_or_concat with h | ⟨us, u, h⟩
  · left
    rw [h] at hflat ⊢
    rw [← hflat]
    rfl
  rw [h, List.concat_eq_append] at hseg hflat hx
  rw [h, List.concat_eq_append]
  rw [List.getLast?_concat, Option.any_some] at hx
  cases hseg.of_append_right with
  | cons hu _ =>
    obtain ⟨d, r, rfl⟩ := List.exists_cons_of_ne_nil hu.ne_nil
    rcases hu.cases_of_closed hx with ⟨hm, -⟩ | ⟨-, hw⟩
    · -- the text at the end takes up all of `y` that stands before a `<`
      right
      have hd : d ≠ '<' := fun e => hm (e ▸ List.mem_cons_self)
      have hlong : '<' ∉ d :: (r ++ y.takeWhile (· != '<')) := by
        rw [← List.cons_append, List.mem_append, not_or]
        exact ⟨hm, fun hy => by simpa using List.mem_takeWhile_imp hy⟩
      have hrest : (spans (y.dropWhile (· != '<'))).flatten = [] ∨
          (spans (y.dropWhile (· != '<'))).flatten.head? = some '<' := by
        rw [flatten_spans]
        rcases dropWhile_ne_cases '<' y with h | ⟨t, h⟩ <;> rw [h]
        · exact .inl rfl
        · exact .inr rfl
      have hall := hseg.replace
        (.cons (isFirst_of_not_mem (List.cons_ne_nil _ _) hlong hrest) (segmented_spans _)) rfl
      refine ⟨us, d, r, y.takeWhile (· != '<'), spans (y.dropWhile (· != '<')), hd, rfl, ?_⟩
      rw [← hall.spans_flatten, ← hflat]
      simp [flatten_spans, List.takeWhile_append_dropWhile]
    · left
      have hall := hseg.replace (.cons (hw _) (segmented_spans y)) rfl
      rw [List.append_assoc, List.singleton_append, ← hall.spans_flatten, ← hflat]
      simp [flatten_spans]

namespace Cleaner

variable {c : Cleaner}

/-- What does not begin with `<` is text, or left out. -/
theorem step_text (s : Situation) {d : Char} (hd : d ≠ '<') (r : Text) :
    c.step s (Token.ofSpan (d :: r)) =
      (s, .token (.text (d :: r)) :: if s.skipping = none then plainText (d :: r) else []) := by
  rw [ofSpan_text r hd]
  rcases hs : s.skipping with _ | name
  · rw [step_of_meeting hs]
    rfl
  · have hcloses : closesRawText name (d :: r) = false := by
      rw [Bool.eq_false_iff]
      intro h
      obtain ⟨m, t, hsplit, -⟩ := closesRawText_iff.1 h
      exact hd (List.cons.inj hsplit).1
    simp [step, hs, hcloses]

theorem reached_concat (us : List Text) (u : Text) :
    c.reached (us ++ [u]) =
      ((c.step (c.reached us).1 (Token.ofSpan u)).1,
        (c.reached us).2.after (c.step (c.reached us).1 (Token.ofSpan u)).2) := by
  simp only [reached, List.map_append, goOn_append, List.map_singleton]
  rw [← Report.after_append, ← Array.toList_appendList]
  rfl

theorem begins_reached_append (us vs : List Text) :
    (c.reached us).2.Begins (c.reached (us ++ vs)).2 := by
  induction vs using List.reverseRecOn with
  | nil =>
    rw [List.append_nil]
    exact .refl _
  | append_singleton vs v ih =>
    rw [← List.append_assoc, reached_concat]
    exact ih.trans (Report.begins_after _ _)

/-- By the end of a text that does not end in an open span, cleaning is as far as on the way through
a longer one, or not quite as far. -/
theorem begins_reached {x : Text} (hx : endsOpen x = false) (y : Text) :
    (c.reached (spans x)).2.Begins (c.reached (spans (x ++ y))).2 := by
  rcases spans_append_cases hx y with h | ⟨us, d, u, v, vs, hd, hshort, hlong⟩
  · rw [h]
    exact begins_reached_append _ _
  · have hrest := begins_reached_append (c := c) (us ++ [d :: (u ++ v)]) vs
    rw [List.append_assoc, List.singleton_append] at hrest
    rw [hshort, hlong]
    refine .trans ?_ hrest
    rw [reached_concat, reached_concat, step_text _ hd, step_text _ hd]
    split_ifs
    · exact Report.begins_plainText _ (d :: u) v
    · exact .refl _

theorem isSound_reached (c : Cleaner) (us : List Text) : (c.reached us).1.IsSound c := by
  induction us using List.reverseRecOn with
  | nil => exact (Situation.isAt_start c).sound
  | append_singleton us u ih =>
    rw [reached_concat]
    exact isSound_step ih (isNamed_ofSpan u)

/-- Closing tags go behind the markup and change nothing else. -/
theorem after_closings (names : List Text) (r : Report) :
    (r.after (names.flatMap fun name => markup (writeClosing name))).html =
        r.html ++ names.flatMap writeClosing ∧
      (r.after (names.flatMap fun name => markup (writeClosing name))).val =
        r.val ++ names.flatMap writeClosing ∧
      (r.after (names.flatMap fun name => markup (writeClosing name))).text = r.text ∧
      (r.after (names.flatMap fun name => markup (writeClosing name))).violations = r.violations ∧
      (r.after (names.flatMap fun name => markup (writeClosing name))).tally = r.tally := by
  induction names generalizing r with
  | nil => simp [Report.after]
  | cons name names ih =>
    obtain ⟨hhtml, hval, hrest⟩ := ih (r.after (markup (writeClosing name)))
    rw [html_after r, shown_markup, List.append_assoc] at hhtml
    rw [Report.val_after r, stored_markup, List.append_assoc] at hval
    rw [List.flatMap_cons, Report.after_append, List.flatMap_cons]
    exact ⟨hhtml, hval, hrest⟩

/-- The report on a text is the report on what has been done by its end, with closing tags behind
the markup. -/
theorem exists_closings (c : Cleaner) (x : Text) :
    ∃ names : List Text, (∀ name ∈ names, IsName isTagChar name) ∧
      (c.clean x).html = (c.reached (spans x)).2.html ++ names.flatMap writeClosing ∧
      (c.clean x).val = (c.reached (spans x)).2.val ++ names.flatMap writeClosing ∧
      (c.clean x).text = (c.reached (spans x)).2.text ∧
      (c.clean x).violations = (c.reached (spans x)).2.violations ∧
      (c.clean x).tally = (c.reached (spans x)).2.tally := by
  have hs := c.isSound_reached (spans x)
  refine ⟨_, fun name hname => (hs.openable name hname).named, ?_⟩
  rw [clean_eq_reached, ending_eq hs]
  exact after_closings _ _

end Cleaner

/-- A text goes on as another, except for closing tags at its end. -/
def IsClosedBeginning (s t : Text) : Prop :=
  ∃ (p : Text) (names : List Text), (∀ name ∈ names, IsName isTagChar name) ∧
    s = p ++ names.flatMap Cleaner.writeClosing ∧ p <+: t

/-- What a report shares with that on a longer text. -/
structure Report.GoesOnIn (r s : Report) : Prop where
  html : IsClosedBeginning r.html s.html
  val : IsClosedBeginning r.val s.val
  text : r.text <+: s.text
  violations : r.violations <+: s.violations
  counts : ∀ name, r.tally.count name ≤ s.tally.count name
  risk : r.risk ≤ s.risk
  valid : s.isValid = true → r.isValid = true

/-- More behind a text that does not end in the middle of a span takes nothing back. -/
theorem clean_append (c : Cleaner) {x : Text} (hx : ∀ u ∈ (spans x).getLast?, IsComplete u)
    (y : Text) : (c.clean x).GoesOnIn (c.clean (x ++ y)) := by
  obtain ⟨names, hnames, hhtml, hval, htext, hviolations, htally⟩ := c.exists_closings x
  obtain ⟨others, -, hhtml', hval', htext', hviolations', htally'⟩ := c.exists_closings (x ++ y)
  have hbegins := Cleaner.begins_reached (c := c) (endsOpen_eq_false hx) y
  have hprefix : (c.clean x).violations <+: (c.clean (x ++ y)).violations := by
    rw [hviolations, hviolations']
    exact hbegins.violations
  refine ⟨⟨_, names, hnames, hhtml, ?_⟩, ⟨_, names, hnames, hval, ?_⟩, ?_, hprefix,
    fun name => ?_, ?_, ?_⟩
  · rw [hhtml']
    exact hbegins.html.trans (List.prefix_append _ _)
  · rw [hval']
    exact hbegins.val.trans (List.prefix_append _ _)
  · rw [htext, htext']
    exact hbegins.text
  · rw [htally, htally']
    exact hbegins.counts name
  · exact Report.riskOf_le_of_prefix hprefix
  · rw [c.isValid_iff_violations, c.isValid_iff_violations]
    intro h
    exact List.prefix_nil.1 (h ▸ hprefix)

/-- Behind a cell of a table that is still open, more text, the end of the row and a script only add
to the report. -/
theorem clean_append_script :
    (∀ u ∈ (spans "<table><tr><td>\"a".toList).getLast?, IsComplete u) ∧
      (Cleaner.standard.clean "<table><tr><td>\"a".toList).GoesOnIn
        (Cleaner.standard.clean ("<table><tr><td>\"a".toList ++ "b</tr><script>c".toList)) := by
  have h : ∀ u ∈ (spans "<table><tr><td>\"a".toList).getLast?, IsComplete u := by
    decide +kernel
  exact ⟨h, clean_append _ h _⟩

end CleanMarkup

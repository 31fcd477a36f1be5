import CleanMarkup.Proofs.Recleaning
import CleanMarkup.Proofs.Skipping
import CleanMarkup.Proofs.Stored
import CleanMarkup.Shorthand

/-!
# What may be stored

For a span the markup to store gets pieces, a comment that ends, or text (`stored_step_cases`).
Each of these is harmless: whatever stands behind it, the tags of the whole are those behind it and
allowed ones (`isHarmless_step`). The one exception is the last span of a text, if it begins an
opening tag that does not end: it is stored as it is, and the closing tags put behind it end it. So
the markup to store holds tags that are not allowed exactly if such a tag is not (`tokens_val_iff`).
-/

namespace CleanMarkup

/-- The token is text, a comment or an allowed tag. -/
def Token.IsStorable (p : Policy) : Token → Prop
  | .opening name _ _ _ | .closing name _ => p.classify name = .allowed
  | .comment _ | .text _ => True

/-- All tags of the markup are allowed. -/
def IsStorable (p : Policy) (s : Text) : Prop := ∀ t ∈ tokens s, t.IsStorable p

/-- What stands behind the markup has the same tags without it, up to allowed ones. -/
def IsHarmless (p : Policy) (h : Text) : Prop := ∀ r, IsStorable p (h ++ r) ↔ IsStorable p r

section Harmless

variable {p : Policy}

theorem isStorable_nil : IsStorable p [] := by
  simp [IsStorable, tokens, spans_nil]

theorem isHarmless_nil : IsHarmless p [] := fun _ => Iff.rfl

theorem IsHarmless.append {h k : Text} (hh : IsHarmless p h) (hk : IsHarmless p k) :
    IsHarmless p (h ++ k) := by
  intro r
  rw [List.append_assoc, hh, hk]

theorem IsHarmless.isStorable {h : Text} (hh : IsHarmless p h) : IsStorable p h := by
  rw [← List.append_nil h, hh]
  exact isStorable_nil

theorem isHarmless_of_tokens {h : Text} {t : Token}
    (htokens : ∀ r, tokens (h ++ r) = t :: tokens r) (ht : t.IsStorable p) : IsHarmless p h := by
  intro r
  rw [IsStorable, htokens, List.forall_mem_cons]
  exact and_iff_right ht

theorem isHarmless_of_isWhole {u : Text} (hu : Span.IsWhole u)
    (ht : (Token.ofSpan u).IsStorable p) : IsHarmless p u := by
  refine isHarmless_of_tokens (fun r => ?_) ht
  rw [tokens, (hu r).spans, List.map_cons, tokens]

/-- Text without `<` is harmless: it is text with the text behind it. -/
theorem isHarmless_of_not_mem {e : Text} (he : '<' ∉ e) : IsHarmless p e := by
  have htext : ∀ (s : Text) (ts : List Token),
      (∀ t ∈ textTokens s ++ ts, t.IsStorable p) ↔ ∀ t ∈ ts, t.IsStorable p := by
    intro s ts
    unfold textTokens
    split_ifs
    · rfl
    · rw [List.singleton_append, List.forall_mem_cons]
      exact and_iff_right trivial
  intro r
  have hr := tokens_text (e := []) List.not_mem_nil r
  rw [List.nil_append] at hr
  rw [IsStorable, IsStorable, tokens_text he, hr, htext, htext]

theorem isHarmless_encode (s : Text) : IsHarmless p s.encode :=
  isHarmless_of_not_mem fun h => by simpa [isMarkupChar] using Text.isMarkupChar_of_mem_encode h

theorem Nested.isHarmless {c : Cleaner} {opened left : List Text} {ps : List Piece}
    (h : Nested c opened ps left) : IsHarmless c.policy (ps.flatMap Piece.html) := by
  induction h with
  | nil => exact isHarmless_nil
  | text s _ ih => exact (isHarmless_encode s).append ih
  | void slash hs _ _ ih =>
    exact .append (isHarmless_of_tokens (Piece.tokens_opening ⟨hs.named, hs.isNeat⟩) hs.allowed) ih
  | opening hs _ _ ih =>
    exact .append (isHarmless_of_tokens (Piece.tokens_opening ⟨hs.named, hs.isNeat⟩) hs.allowed) ih
  | closing ho _ ih =>
    exact .append (isHarmless_of_tokens (Piece.tokens_closing ho.named) ho.allowed) ih

end Harmless

section Cut

open CleanMarkup.Span

/-- The name of the opening tag that an open span begins, if the name is at an end. -/
def Span.cutTag? (u : Text) : Option Text :=
  if isOpen u then
    match Token.openingParts? u.tail with
    | some (name, _ :: _) => some name.asciiLower
    | some (_, []) | none => none
  else none

theorem cutTag?_eq_none {d : Char} (hd : isTagChar d = false) (r : Text) :
    cutTag? ('<' :: d :: r) = none := by
  have hparts : Token.openingParts? (d :: r) = none := by simp [Token.openingParts?, hd]
  unfold cutTag?
  rw [List.tail_cons, hparts]
  split_ifs <;> rfl

/-- A closing tag behind an open span that is no comment ends it, as the tag that it begins. -/
theorem ofSpan_append_writeClosing {u m : Text} (ho : isOpen u = true) (hc : ¬ commentOpen <+: u)
    (hm : IsName isTagChar m) :
    IsWhole (u ++ Cleaner.writeClosing m) ∧ ∀ p,
      (Token.ofSpan (u ++ Cleaner.writeClosing m)).IsStorable p ↔
        ∀ name ∈ cutTag? u, p.classify name = .allowed := by
  obtain ⟨r, rfl, hg⟩ := exists_of_isOpen ho hc
  have hsplit : '<' :: r ++ Cleaner.writeClosing m = '<' :: ((r ++ '<' :: '/' :: m) ++ ['>']) := by
    simp [Cleaner.writeClosing]
  have hall : '>' ∉ r ++ '<' :: '/' :: m := by
    simp [hg, hm.not_mem (c := '>') (by decide)]
  rw [hsplit]
  refine ⟨isWhole_tag (not_prefix_commentOpen rfl hc) hall, fun p => ?_⟩
  rw [cutTag?, if_pos ho, List.tail_cons]
  have hopen : ¬ commentOpen.isPrefixOf ('<' :: ((r ++ '<' :: '/' :: m) ++ ['>'])) = true := by
    rw [List.isPrefixOf_iff_prefix]
    exact hsplit ▸ not_prefix_commentOpen rfl hc
  unfold Token.ofSpan
  rw [if_neg hopen]
  split
  · rename_i q hq
    rcases r with _ | ⟨d, r⟩
    · simp at hq
    obtain ⟨rfl, hrest⟩ := List.cons.inj (List.cons.inj hq).2
    obtain rfl : r ++ '<' :: '/' :: m ++ ['>'] = q := hrest
    have hg' : '>' ∉ r ++ '<' :: '/' :: m := fun h => hall (List.mem_cons_of_mem _ h)
    have hparts : Token.openingParts? ('/' :: r) = none := by simp [Token.openingParts?, isTagChar]
    rw [bracketed?_append hg', Option.bind_some, Token.closingName?_append_lessThan, hparts]
    simp [Token.IsStorable]
  · rename_i q _ hq
    obtain rfl := (List.cons.inj hq).2
    rw [bracketed?_append hall, Option.bind_some, Token.openingParts?_append_lessThan]
    rcases Token.openingParts? r with _ | ⟨name, _ | ⟨d, body⟩⟩
    · simp [Token.IsStorable]
    · simp [Token.IsStorable]
    · simp [Token.IsStorable]
  · rename_i hno
    exact absurd rfl (hno _)

end Cut

namespace Cleaner

open CleanMarkup.Span

variable {c : Cleaner} {s : Situation}

theorem stored_opening (s : Situation) (name body : Text) (selfClosing : Bool) (raw : Text) :
    stored (c.opening s name body selfClosing raw).2 =
      shown (c.opening s name body selfClosing raw).2 := by
  have hfilter := stored_eq_nil (c.attributeFilter.isSilent_filter name body)
  unfold opening
  split
  · rfl
  · rw [unknownTag, stored_cons, stored_markup, shown_cons, shown_markup]
    rfl
  simp only []
  split_ifs
  · rfl
  · rw [stored_append, shown_append, hfilter, shown_filter]
    rfl
  · rw [stored_append, shown_append, hfilter, shown_filter, stored_markup, shown_markup]
  · rw [stored_append, shown_append, hfilter, shown_filter, stored_markup, shown_markup]

theorem stored_closing (s : Situation) (name raw : Text) :
    stored (c.closing s name raw).2 = shown (c.closing s name raw).2 := by
  unfold closing
  split
  · rfl
  split
  · rfl
  · rw [unknownTag, stored_cons, stored_markup, shown_cons, shown_markup]
    rfl
  split
  · rfl
  · rw [stored_markup, shown_markup]

theorem stored_ending (s : Situation) : stored (ending s) = shown (ending s) := by
  unfold ending
  simp only [stored, shown, List.flatMap_assoc]
  exact List.flatMap_congr fun name _ =>
    (stored_markup (writeClosing name)).trans (shown_markup (writeClosing name)).symm

theorem isHarmless_ending (hs : s.IsSound c) : IsHarmless c.policy (stored (ending s)) := by
  have hnested := Nested.closings (c := c) [] hs.openable
  rw [stored_ending, shown_ending hs]
  exact hnested.isHarmless

/-- What is stored for a comment is a comment that ends, whatever stands behind it. -/
theorem exists_stored_comment {u r : Text} (hu : IsFirst u r) (hc : commentOpen <+: u) :
    ∃ v, stored (comment u) = u ++ v ∧ IsWhole (u ++ v) := by
  have hstored : stored (comment u) =
      if commentClose.isSuffixOf u then u else u ++ commentClose := by
    simp [comment, stored, commentClose]
  rcases ho : isOpen u
  · have hhead : u.head? = some '<' := by
      obtain ⟨t, rfl⟩ := hc
      rfl
    refine ⟨[], ?_, ?_⟩
    · rw [hstored, if_pos (List.isSuffixOf_iff_suffix.2 (hu.commentClose_suffix hc ho)),
        List.append_nil]
    · rw [List.append_nil]
      exact hu.isWhole hhead ho
  · refine ⟨commentClose, ?_, isWhole_comment hc ho⟩
    rw [hstored, if_neg]
    rw [List.isSuffixOf_iff_suffix]
    intro hs
    rw [isOpen_eq_false_of_comment hc hs] at ho
    simp at ho

/-- A token adds to the markup to store what it adds to the markup to show, unless it is met as a
comment or as text. -/
theorem stored_step (s : Situation) (t : Token) :
    stored (c.step s t).2 = shown (c.step s t).2 ∨
      s.skipping = none ∧ ∃ raw, t = .comment raw ∨ t = .text raw := by
  have htoken : ∀ es : List Event, stored (.token t :: es) = stored es ∧
      shown (.token t :: es) = shown es := fun _ => ⟨rfl, rfl⟩
  rcases hskip : s.skipping with _ | skipped
  · rw [step_of_meeting hskip, (htoken _).1, (htoken _).2]
    cases t with
    | comment raw => exact .inr ⟨rfl, raw, .inl rfl⟩
    | opening name body selfClosing raw => exact .inl (stored_opening s name body selfClosing raw)
    | closing name raw => exact .inl (stored_closing s name raw)
    | text raw => exact .inr ⟨rfl, raw, .inr rfl⟩
  · left
    rcases step_of_skipping (c := c) hskip t with h | ⟨name, raw, -, h⟩ | ⟨raw, -, h⟩ <;> rw [h]
    · rfl
    · rw [(htoken _).1, (htoken _).2]
      exact stored_closing _ name raw
    · rfl

/-- For a span the markup to store gets pieces, as the markup to show does, or a comment that ends,
or text, unless the span is open and is met as text. -/
theorem stored_step_cases (hs : s.IsSound c) {u r : Text} (hu : IsFirst u r)
    (ho : isOpen u = false ∨ commentOpen <+: u ∨ s.skipping ≠ none) :
    (∃ ps, c.Shows s (c.step s (Token.ofSpan u)) ps ∧
        stored (c.step s (Token.ofSpan u)).2 = ps.flatMap Piece.html) ∨
      (c.step s (Token.ofSpan u) = (s, c.taken (.comment u)) ∧
        ∃ v, stored (comment u) = u ++ v ∧ IsWhole (u ++ v) ∧
          Token.ofSpan (u ++ v) = .comment (u ++ v)) ∨
      (c.step s (Token.ofSpan u) = (s, c.taken (.text u)) ∧ Token.ofSpan u = .text u ∧
        ('<' ∉ u ∨ IsWhole u)) := by
  rcases stored_step (c := c) s (Token.ofSpan u) with h | ⟨hskip, raw, ht | ht⟩
  · obtain ⟨ps, hps, -⟩ := shows_step hs (isNamed_ofSpan u)
    exact .inl ⟨ps, hps, h.trans hps.html⟩
  · obtain ⟨hc, rfl⟩ := Token.ofSpan_eq_comment_iff.1 ht
    obtain ⟨v, hstored, hwhole⟩ := exists_stored_comment hu hc
    refine .inr (.inl ⟨?_, v, hstored, hwhole, ?_⟩)
    · rw [ht, step_taken_comment hskip]
    · exact Token.ofSpan_eq_comment_iff.2 ⟨hc.trans (List.prefix_append _ v), rfl⟩
  · obtain rfl := Token.raw_of_ofSpan_text ht
    refine .inr (.inr ⟨?_, ht, ?_⟩)
    · rw [ht, step_taken_text hskip]
    · have hclosed : isOpen raw = false := by
        rcases ho with ho | hc | hne
        · exact ho
        · rw [Token.ofSpan_eq_comment_iff.2 ⟨hc, rfl⟩] at ht
          simp at ht
        · exact absurd hskip hne
      exact (hu.cases_of_closed hclosed).imp (·.1) (·.2)

/-- What is stored for a span is harmless, unless the span is open and is met as text. -/
theorem isHarmless_step (hs : s.IsSound c) {u r : Text} (hu : IsFirst u r)
    (ho : isOpen u = false ∨ commentOpen <+: u ∨ s.skipping ≠ none) :
    IsHarmless c.policy (stored (c.step s (Token.ofSpan u)).2) := by
  rcases stored_step_cases hs hu ho with ⟨ps, hps, hstored⟩ | ⟨hstep, v, hstored, hwhole, ht⟩ |
    ⟨hstep, ht, htext⟩
  · rw [hstored]
    exact hps.nested.isHarmless
  · have hall : stored (c.taken (.comment u)) = u ++ v := hstored
    rw [hstep, hall]
    refine isHarmless_of_isWhole hwhole ?_
    rw [ht]
    trivial
  · have hall : stored (c.taken (.text u)) = u := by simp [taken, plainText, stored]
    rw [hstep, hall]
    rcases htext with hm | hw
    · exact isHarmless_of_not_mem hm
    · refine isHarmless_of_isWhole hw ?_
      rw [ht]
      trivial

theorem isHarmless_goOn : ∀ {us : List Text}, Segmented us → (∀ u ∈ us, isOpen u = false) →
    ∀ {s : Situation}, s.IsSound c → ∀ (es : Array Event), IsHarmless c.policy (stored es.toList) →
      (c.goOn s es (us.map Token.ofSpan)).1.IsSound c ∧
        IsHarmless c.policy (stored (c.goOn s es (us.map Token.ofSpan)).2.toList)
  | [], _, _, _, hs, _, hes => ⟨hs, hes⟩
  | u :: us, .cons hu hus, ho, s, hs, es, hes => by
    have hstep := isHarmless_step hs hu (.inl (ho u List.mem_cons_self))
    rw [List.map_cons, goOn_cons]
    refine isHarmless_goOn hus (fun v hv => ho v (List.mem_cons_of_mem u hv))
      (isSound_step hs (isNamed_ofSpan u)) _ ?_
    rw [Array.toList_appendList, stored_append]
    exact hes.append hstep

/-- The name of the tag that is broken off at the end of a text and goes on in the closing tags
put behind it. -/
def brokenOff? (c : Cleaner) (input : Text) : Option Text :=
  let s := (c.reached (spans input)).1
  if s.skipping = none ∧ s.openTags.names ≠ [] then (spans input).getLast?.bind cutTag? else none

theorem isStorable_cut (hs : s.IsSound c) {u : Text} (hu : IsFirst u []) (ho : isOpen u = true)
    (hc : ¬ commentOpen <+: u) : IsStorable c.policy (u ++ stored (ending s)) ↔
      (s.openTags.names ≠ [] → ∀ name ∈ cutTag? u, c.policy.classify name = .allowed) := by
  rcases hnames : s.openTags.names with _ | ⟨m, rest⟩
  · have hnothing : stored (ending s) = [] := by
      rw [stored_ending, shown_ending hs, hnames]
      rfl
    have hspans := hu.spans
    rw [List.append_nil, spans_nil] at hspans
    rw [hnothing, List.append_nil, IsStorable, tokens, hspans, List.map_singleton,
      Token.ofSpan_of_isOpen ho hc]
    simp [Token.IsStorable]
  · -- the first closing tag ends the span, those behind it are allowed
    have hopen : ∀ name ∈ m :: rest, c.CanBeOpen name := hnames ▸ hs.openable
    obtain ⟨hwhole, hiff⟩ :=
      ofSpan_append_writeClosing ho hc (hopen m List.mem_cons_self).named
    have hnested := Nested.closings [] fun name hm => hopen name (List.mem_cons_of_mem m hm)
    have hrest : IsStorable c.policy ((rest.map Piece.closing).flatMap Piece.html) :=
      hnested.isHarmless.isStorable
    have hsplit : u ++ stored (ending s) =
        (u ++ writeClosing m) ++ (rest.map Piece.closing).flatMap Piece.html := by
      rw [stored_ending, shown_ending hs, hnames, List.map_cons, List.flatMap_cons,
        List.append_assoc]
      rfl
    rw [hsplit, IsStorable, tokens, (hwhole _).spans, List.map_cons, List.forall_mem_cons, hiff]
    simp only [ne_eq, reduceCtorEq, not_false_eq_true, forall_const]
    exact and_iff_left hrest

/-- Where what is stored for a span is harmless, the span begins no tag, or its content is left out
behind it too. -/
theorem cutTag?_eq_none_of_step {u : Text}
    (ho : isOpen u = false ∨ commentOpen <+: u ∨ s.skipping ≠ none)
    (hskip : (c.step s (Token.ofSpan u)).1.skipping = none) : cutTag? u = none := by
  rcases ho with ho | ⟨t, rfl⟩ | hne
  · simp [cutTag?, ho]
  · exact cutTag?_eq_none (by decide) _
  · obtain ⟨n, hs⟩ := Option.ne_none_iff_exists'.1 hne
    rcases hu : closesRawText n u
    · rw [step_skipped hs hu, hs] at hskip
      simp at hskip
    · obtain ⟨m, t, rfl, -⟩ := closesRawText_iff.1 hu
      exact cutTag?_eq_none (by decide) _

theorem isStorable_last (hs : s.IsSound c) {u : Text} (hu : IsFirst u []) :
    IsStorable c.policy (stored (c.step s (Token.ofSpan u)).2 ++
        stored (ending (c.step s (Token.ofSpan u)).1)) ↔
      ((c.step s (Token.ofSpan u)).1.skipping = none →
        (c.step s (Token.ofSpan u)).1.openTags.names ≠ [] →
          ∀ name ∈ cutTag? u, c.policy.classify name = .allowed) := by
  by_cases ho : isOpen u = false ∨ commentOpen <+: u ∨ s.skipping ≠ none
  · have hend := isHarmless_ending (isSound_step hs (isNamed_ofSpan u))
    refine iff_of_true ((isHarmless_step hs hu ho).append hend).isStorable fun hskip _ => ?_
    rw [cutTag?_eq_none_of_step ho hskip]
    simp
  · obtain ⟨ho, hc, hskip⟩ : isOpen u = true ∧ ¬ commentOpen <+: u ∧ s.skipping = none := by
      simpa using ho
    have hstored : stored (c.taken (.text u)) = u := by simp [taken, plainText, stored]
    rw [Token.ofSpan_of_isOpen ho hc, step_taken_text hskip]
    simp only [hstored, hskip, forall_const]
    exact isStorable_cut hs hu ho hc

end Cleaner

/-- The tags of the markup to store are allowed exactly if a tag that is broken off and ended by the
closing tags behind it is. -/
theorem tokens_val_iff (c : Cleaner) (input : Text) :
    (∀ t ∈ tokens (c.clean input).val, t.IsStorable c.policy) ↔
      ∀ name ∈ c.brokenOff? input, c.policy.classify name = .allowed := by
  have hseg := segmented_spans input
  rw [c.val_clean, Cleaner.brokenOff?, Cleaner.reached]
  change IsStorable c.policy (stored ((c.goOn {} #[] ((spans input).map Token.ofSpan)).2.toList ++
    Cleaner.ending (c.goOn {} #[] ((spans input).map Token.ofSpan)).1)) ↔ _
  generalize spans input = us at hseg
  rcases us.eq_nil_or_concat with rfl | ⟨us, u, rfl⟩
  · refine iff_of_true isStorable_nil ?_
    simp
  · rw [List.concat_eq_append] at hseg ⊢
    have hopen : ∀ v ∈ us, Span.isOpen v = false := by
      intro v hv
      obtain ⟨a, b, rfl⟩ := List.append_of_mem hv
      rw [List.append_assoc] at hseg
      exact hseg.isOpen_eq_false (by simp)
    have hfirst : Span.IsFirst u [] := by
      cases hseg.of_append_right with
      | cons hu _ => exact hu
    obtain ⟨hs, hbefore⟩ := Cleaner.isHarmless_goOn (c := c) hseg.of_append_left hopen (s := {})
      ⟨.nothing, by simp⟩ #[] isHarmless_nil
    have hstep : c.goOn {} #[] ((us ++ [u]).map Token.ofSpan) =
        ((c.step (c.goOn {} #[] (us.map Token.ofSpan)).1 (Token.ofSpan u)).1,
          (c.goOn {} #[] (us.map Token.ofSpan)).2 ++
            (c.step (c.goOn {} #[] (us.map Token.ofSpan)).1 (Token.ofSpan u)).2) := by
      rw [List.map_append, Cleaner.goOn_append]
      rfl
    rw [hstep, List.getLast?_concat, Option.bind_some, Array.toList_appendList, stored_append,
      stored_append, List.append_assoc, hbefore, Cleaner.isStorable_last hs hfirst]
    split_ifs with h
    · exact ⟨fun hall => hall h.1 h.2, fun hall _ _ => hall⟩
    · exact iff_of_true (fun hskip hne => absurd ⟨hskip, hne⟩ h) (by simp)

/-- A script tag that is broken off inside another element is ended by the closing tag of that. -/
theorem not_storable_script :
    ¬ ∀ t ∈ tokens (Cleaner.standard.clean "<b><script ".toList).val,
      t.IsStorable Cleaner.standard.policy := by
  intro h
  have hscript : Token.opening "script".toList " </b".toList false "<script </b>".toList ∈
      tokens (Cleaner.standard.clean "<b><script ".toList).val := by
    decide +kernel
  have hforbidden : Cleaner.standard.policy.classify "script".toList ≠ .allowed := by
    decide +kernel
  exact hforbidden (h _ hscript)

end CleanMarkup

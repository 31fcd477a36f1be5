import CleanMarkup.Proofs.Containment
import CleanMarkup.Proofs.Extraction
import CleanMarkup.Proofs.Sizes
import CleanMarkup.Proofs.Storage

/-!
# How large the outputs are

Each of the three outputs has at most six times as many characters as the input
(`length_clean_le`). For the markup, what a span puts out and the closing tags that are still to be
written after it are at most six times the span and the closing tags that were to be written before
it (`Cleaner.length_shown_step_le`, `Cleaner.length_stored_step_le`): a closing tag that is written
early is one less to write later. For the words, a space in front of a word takes the place of a
blank, of a `<` or of a span that is no text (`Policy.length_textsFrom_le`). Quotes reach the bound
(`length_html_clean_quotes`).
-/

namespace CleanMarkup

theorem OpenTags.names_closeThrough? {t rest : OpenTags} (h : t.IsCounted) {name : Text}
    {closed : List Text} (hc : t.closeThrough? name = some (closed, rest)) :
    t.names = closed ++ rest.names := by
  obtain ⟨n, -, hn⟩ := Option.map_eq_some_iff.1 hc
  obtain ⟨hclosed, hrest, -⟩ := popOnto_spec n [] h
  rw [← popMany, hn] at hclosed hrest
  have htaken : closed = t.names.take n := hclosed
  rw [hrest, htaken, List.take_append_drop]

/-- The number of characters of the closing tags that are to be written. -/
def Situation.owed (s : Situation) : Nat := (s.openTags.names.flatMap Cleaner.writeClosing).length

namespace Cleaner

variable {c : Cleaner} {s : Situation}

theorem length_writeClosing (name : Text) : (writeClosing name).length = name.length + 3 := by
  simp [writeClosing]

theorem owed_push (s : Situation) (name : Text) :
    Situation.owed { s with openTags := s.openTags.push name } = name.length + 3 + s.owed := by
  rw [← length_writeClosing, Situation.owed, Situation.owed, ← List.length_append]
  rfl

theorem length_nothing_le {out : Situation × List Event} (ho : out.1.openTags = s.openTags)
    (he : shown out.2 = []) (n : Nat) : (shown out.2).length + out.1.owed ≤ n + s.owed := by
  rw [he, Situation.owed, ho]
  exact (Nat.zero_add _).trans_le (Nat.le_add_left _ _)

theorem length_unknownTag_le (s : Situation) (raw : Text) :
    (shown (unknownTag raw)).length + s.owed ≤ 6 * raw.length + s.owed := by
  rw [shown_unknownTag]
  exact Nat.add_le_add_right raw.length_encode_le _

theorem length_writeOpening_le (name rendered : Text) (selfClosing : Bool) :
    (writeOpening name rendered selfClosing).length +
        (if selfClosing || isVoid name then 0 else name.length + 3) ≤
      2 * name.length + rendered.length + 5 := by
  unfold writeOpening
  rcases selfClosing <;> rcases isVoid name <;> simp <;> omega

/-- A tag is written with its closing tag at most. -/
theorem length_opening_le (s : Situation) {name body raw : Text} (selfClosing : Bool)
    (hraw : name.length + body.length + 2 ≤ raw.length) :
    (shown (c.opening s name body selfClosing raw).2).length +
      (c.opening s name body selfClosing raw).1.owed ≤ 6 * raw.length + s.owed := by
  rcases hc : c.policy.classify name with _ | _ | _
  · rw [opening, hc]
    exact length_nothing_le rfl rfl _
  · rcases h : c.admits s name body
    · obtain ⟨hsame, hshown⟩ := opening_of_not_admits hc h selfClosing raw
      exact length_nothing_le (by rw [hsame]) hshown _
    · have hfilter := c.attributeFilter.length_filter_le name body
      have hwritten := length_writeOpening_le name
        (c.attributeFilter.filter name body).rendered selfClosing
      rw [opening_of_admits hc h, shown_append, shown_filter, shown_markup, List.nil_append]
      split_ifs at hwritten ⊢
      · simp only []
        omega
      · simp only [owed_push]
        omega
  · simp only [opening, hc]
    exact length_unknownTag_le s raw

theorem length_closing_le (hs : s.openTags.IsCounted) (name raw : Text) :
    (shown (c.closing s name raw).2).length + (c.closing s name raw).1.owed ≤
      6 * raw.length + s.owed := by
  unfold closing
  split
  · exact length_nothing_le rfl rfl _
  split
  · exact length_nothing_le rfl rfl _
  · exact length_unknownTag_le s raw
  split
  · exact length_nothing_le rfl rfl _
  · rename_i closed rest hclose
    have hnames := OpenTags.names_closeThrough? hs hclose
    rw [shown_markup, Situation.owed, Situation.owed, hnames, List.flatMap_append,
      List.length_append]
    exact Nat.le_add_left _ _

theorem length_shown_step_le (hs : s.openTags.IsCounted) (u : Text) :
    (shown (c.step s (Token.ofSpan u)).2).length + (c.step s (Token.ofSpan u)).1.owed ≤
      6 * u.length + s.owed := by
  have hraw := Token.raw_ofSpan u
  rcases hskip : s.skipping with _ | skipped
  · rw [step_of_meeting hskip]
    change (shown (c.meet s (Token.ofSpan u)).2).length + _ ≤ _
    rcases hu : Token.ofSpan u with raw | ⟨name, body, selfClosing, raw⟩ | ⟨name, raw⟩ | raw <;>
      rw [hu] at hraw <;> obtain rfl : raw = u := hraw
    · exact length_nothing_le rfl rfl _
    · refine length_opening_le s selfClosing ?_
      obtain ⟨m, ⟨rfl, -, -, -, -⟩, rfl⟩ := Token.exists_of_ofSpan_opening hu
      simp only [List.length_cons, List.length_append, List.length_nil, Text.length_asciiLower]
      omega
    · exact length_closing_le hs name raw
    · have hshown : shown (plainText raw) = raw.encode := by simp [shown, plainText]
      simp only [meet, hshown]
      exact Nat.add_le_add_right raw.length_encode_le _
  · rcases step_of_skipping (c := c) hskip (Token.ofSpan u) with h | ⟨name, raw, ht, h⟩ |
      ⟨raw, -, h⟩
    · rw [h]
      exact length_nothing_le rfl rfl _
    · rw [ht] at hraw
      obtain rfl : raw = u := hraw
      rw [h]
      exact length_closing_le (s := { s with skipping := none }) hs name raw
    · rw [h]
      exact length_nothing_le rfl rfl _

/-- A comment is stored with three more characters at most, and has four itself. -/
theorem length_stored_step_le (hs : s.openTags.IsCounted) (u : Text) :
    (stored (c.step s (Token.ofSpan u)).2).length + (c.step s (Token.ofSpan u)).1.owed ≤
      6 * u.length + s.owed := by
  rcases stored_step (c := c) s (Token.ofSpan u) with h | ⟨hskip, raw, ht | ht⟩
  · rw [h]
    exact length_shown_step_le hs u
  · obtain ⟨hc, rfl⟩ := Token.ofSpan_eq_comment_iff.1 ht
    have hstored : (stored (comment raw)).length ≤ raw.length + 3 := by
      simp only [comment, stored, List.flatMap_cons, List.flatMap_nil, List.append_nil]
      split_ifs
      · exact Nat.le_add_right _ _
      · exact (List.length_append ..).le
    have hfour : 4 ≤ raw.length := hc.length_le
    rw [ht, step_taken_comment hskip]
    change (stored (comment raw)).length + s.owed ≤ _
    omega
  · obtain rfl := Token.raw_of_ofSpan_text ht
    have hstored : stored (plainText raw) = raw := by simp [stored, plainText]
    rw [ht, step_taken_text hskip]
    change (stored (plainText raw)).length + s.owed ≤ _
    rw [hstored]
    omega

/-- What holds of every span holds of all of them and the end. -/
theorem length_eventsFrom_le {out : List Event → Text}
    (happend : ∀ es fs, out (es ++ fs) = out es ++ out fs)
    (hstep : ∀ {s : Situation}, s.openTags.IsCounted → ∀ u : Text,
      (out (c.step s (Token.ofSpan u)).2).length + (c.step s (Token.ofSpan u)).1.owed ≤
        6 * u.length + s.owed)
    (hend : ∀ {s : Situation}, s.IsSound c → (out (ending s)).length = s.owed) :
    ∀ (us : List Text) {s : Situation}, s.IsSound c →
      (out (c.eventsFrom s (us.map Token.ofSpan))).length ≤ 6 * us.flatten.length + s.owed
  | [], s, hs => by simp [eventsFrom, hend hs]
  | u :: us, s, hs => by
    have hone := hstep hs.counted u
    have hrest := length_eventsFrom_le happend hstep hend us (isSound_step hs (isNamed_ofSpan u))
    rw [List.map_cons, eventsFrom, happend, List.length_append, List.flatten_cons,
      List.length_append]
    omega

theorem length_shown_ending (hs : s.IsSound c) : (shown (ending s)).length = s.owed := by
  rw [shown_ending hs, List.flatMap_map]
  rfl

theorem length_html_clean_le (c : Cleaner) (input : Text) :
    (c.clean input).html.length ≤ 6 * input.length := by
  have hall := length_eventsFrom_le (c := c) shown_append length_shown_step_le length_shown_ending
    (spans input) (Situation.isAt_start c).sound
  rw [flatten_spans] at hall
  rw [html_clean]
  exact hall

theorem length_val_clean_le (c : Cleaner) (input : Text) :
    (c.clean input).val.length ≤ 6 * input.length := by
  have hend : ∀ {s : Situation}, s.IsSound c → (stored (ending s)).length = s.owed := by
    intro s hs
    rw [stored_ending, length_shown_ending hs]
  have hall := length_eventsFrom_le stored_append length_stored_step_le hend (spans input)
    (Situation.isAt_start c).sound
  rw [flatten_spans] at hall
  rw [val_clean, events_eq_eventsFrom]
  exact hall

end Cleaner

section Words

/-- A space in front of a word takes the place of a blank, except for the first. -/
theorem Text.length_spaced_le (s : Text) : s.spaced.length ≤ s.length + 1 := by
  have hstart : s.spaced.length ≤ (s.dropWhile isBlank).length + 1 := by
    induction h : s.length using Nat.strongRecOn generalizing s with
    | _ n ih =>
      rcases hs : s.dropWhile isBlank with _ | ⟨d, r⟩
      · rw [spaced, words_of_dropWhile_eq_nil hs]
        exact Nat.zero_le _
      have hle := length_dropWhile_le isBlank s
      have hcut := length_cut (!isBlank ·) r
      rw [hs, List.length_cons] at hle
      -- what follows the first word is empty or begins with a blank
      have hrest : (spaced (r.dropWhile (!isBlank ·))).length ≤
          (r.dropWhile (!isBlank ·)).length := by
        have hlt : (r.dropWhile (!isBlank ·)).length < n := by omega
        have hbehind := ih _ hlt _ rfl
        rcases hr : r.dropWhile (!isBlank ·) with _ | ⟨b, t⟩ <;> rw [hr] at hbehind
        · rw [spaced, words_of_dropWhile_eq_nil List.dropWhile_nil]
          exact Nat.zero_le _
        · have hb : isBlank b = true := by
            have hnot := List.head?_dropWhile_not (!isBlank ·) r
            simpa [hr] using hnot
          rw [List.dropWhile_cons_of_pos hb] at hbehind
          exact hbehind.trans (Nat.succ_le_succ (length_dropWhile_le isBlank t))
      unfold spaced at hrest ⊢
      rw [words_of_dropWhile_eq_cons hs]
      simp only [List.flatMap_cons, List.length_append, List.length_cons]
      omega
  exact hstart.trans (Nat.succ_le_succ (length_dropWhile_le isBlank s))

/-- Text that begins with `<` has room for a space in front and one behind. -/
theorem Text.length_spaced_encode_tag_le {u : Text} (h : u.head? = some '<') :
    u.encode.spaced.length + 1 ≤ 6 * u.length := by
  obtain ⟨r, rfl⟩ := List.head?_eq_some_iff.1 h
  have hspaced := length_spaced_le (encode ('<' :: r))
  have hr := length_encode_le r
  have hencode : (encode ('<' :: r)).length = (encode r).length + 4 := rfl
  rw [List.length_cons]
  omega

namespace Policy

variable (p : Policy)

theorem length_textsFrom_cons_le (skipped : Option Text) (u : Text) (us : List Text) :
    ((p.textsFrom skipped (u :: us)).flatMap fun t => t.encode.spaced).length ≤
      u.encode.spaced.length +
        ((p.textsFrom (p.skippedAfter skipped u) us).flatMap fun t => t.encode.spaced).length := by
  rw [textsFrom, List.flatMap_append, List.length_append]
  refine Nat.add_le_add_right ?_ _
  split
  · rcases hu : Token.ofSpan u with raw | ⟨n, b, slash, raw⟩ | ⟨n, raw⟩ | raw
    · exact Nat.zero_le _
    · exact Nat.zero_le _
    · exact Nat.zero_le _
    · obtain rfl := Token.raw_of_ofSpan_text hu
      simp [Token.text?]
  · exact Nat.zero_le _

theorem length_textsFrom_le : ∀ {us : List Text}, Segmented us → ∀ skipped : Option Text,
    ((p.textsFrom skipped us).flatMap fun t => t.encode.spaced).length ≤ 6 * us.flatten.length +
      if us.flatten.head? = none ∨ us.flatten.head? = some '<' then 0 else 1
  | [], _, _ => Nat.zero_le _
  | u :: us, .cons hu hus, skipped => by
    have hone := p.length_textsFrom_cons_le skipped u us
    have hrest := length_textsFrom_le hus (p.skippedAfter skipped u)
    have hspaced := u.encode.length_spaced_le
    have hencode := u.length_encode_le
    obtain ⟨d, t, hcons⟩ := List.exists_cons_of_ne_nil hu.ne_nil
    have hhead : (u :: us).flatten.head? = some d := by rw [List.flatten_cons, hcons]; rfl
    rw [hhead, List.flatten_cons, List.length_append]
    by_cases hd : d = '<'
    · -- text that begins with `<` makes room for the space that text behind it may need
      have htag := Text.length_spaced_encode_tag_le (u := u) (by rw [hcons, hd]; rfl)
      have hle : (if us.flatten.head? = none ∨ us.flatten.head? = some '<' then 0 else 1) ≤ 1 := by
        split_ifs
        · exact Nat.zero_le _
        · exact le_rfl
      rw [if_pos (.inr (by rw [hd]))]
      omega
    · have hbehind : us.flatten.head? = none ∨ us.flatten.head? = some '<' := by
        rcases hu.cases with ⟨-, hr⟩ | ⟨htag, -⟩ | ⟨hopen, -⟩
        · rwa [List.head?_eq_none_iff]
        · rw [hcons] at htag
          exact absurd (Option.some.inj htag) hd
        · obtain ⟨r, hr⟩ := Span.exists_cons_of_isOpen hopen
          rw [hcons] at hr
          exact absurd (List.cons.inj hr).1 hd
      rw [if_pos hbehind] at hrest
      rw [if_neg (by simpa using hd)]
      omega

end Policy

theorem Cleaner.length_text_clean_le (c : Cleaner) (input : Text) :
    (c.clean input).text.length ≤ 6 * input.length := by
  have hall := c.policy.length_textsFrom_le (segmented_spans input) none
  rw [flatten_spans] at hall
  have hspaced : (((c.policy.texts input).flatMap fun t => t.encode.words).flatMap (' ' :: ·)) =
      (c.policy.texts input).flatMap fun t => t.encode.spaced := List.flatMap_assoc
  rw [c.text_clean_eq, Text.join_eq_tail, hspaced, List.length_tail]
  unfold Policy.texts
  split_ifs at hall
  · omega
  · omega

end Words

theorem Cleaner.length_clean (c : Cleaner) (input : Text) :
    (c.clean input).length = (c.clean input).html.length := by
  have hall := (Report.fresh c.settings.limit).length_after (c.events input)
  rw [html_clean, ← events_eq_eventsFrom]
  exact hall.trans (Nat.zero_add _)

/-- None of the outputs has more than six times as many characters as the input. -/
theorem length_clean_le (c : Cleaner) (input : Text) :
    (c.clean input).html.length ≤ 6 * input.length ∧
      (c.clean input).val.length ≤ 6 * input.length ∧
      (c.clean input).text.length ≤ 6 * input.length ∧
      (c.clean input).length ≤ 6 * input.length := by
  refine ⟨c.length_html_clean_le input, c.length_val_clean_le input,
    c.length_text_clean_le input, ?_⟩
  rw [c.length_clean]
  exact c.length_html_clean_le input

theorem Cleaner.html_clean_text (c : Cleaner) {e : Text} (he : '<' ∉ e) :
    (c.clean e).html = e.encode := by
  have heffect := (leads_text (c := c) (s := {}) rfl he).sameEffect_events []
  have hnothing : shown (c.events []) = [] := by
    rw [events_eq_eventsFrom, tokens, spans_nil]
    rfl
  have hshown := heffect.shown
  rw [List.append_nil, shown_append, hnothing, List.append_nil] at hshown
  rw [html_clean, ← events_eq_eventsFrom, hshown]
  simp [shown, taken, plainText]

/-- Quotes are shown with six times as many characters. -/
theorem length_html_clean_quotes (c : Cleaner) (n : Nat) :
    (c.clean (List.replicate n '"')).html.length = 6 * (List.replicate n '"').length := by
  rw [c.html_clean_text (by simp)]
  induction n with
  | zero => rfl
  | succ n ih =>
    have hone : (entity '"').length = 6 := rfl
    rw [List.replicate_succ, List.length_cons, Nat.mul_add, ← ih, Text.encode, Text.encode,
      List.flatMap_cons, List.length_append, hone, Nat.add_comm]

end CleanMarkup

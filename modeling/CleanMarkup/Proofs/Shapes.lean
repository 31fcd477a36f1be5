import CleanMarkup.Proofs.Segments

/-!
# The shapes of tags

What is read as an opening tag is `<`, a name, a body and `>` (`IsOpeningTag`); what is read as a
closing tag is `</`, a name, blanks and `>` (`IsClosingTag`). Both are spans whatever follows. A
text begins with a closing tag of a name if the name follows `</` and nothing goes on with it
(`closesRawText_iff`).
-/

namespace CleanMarkup

theorem isTagChar_of_toLower {c : Char} (h : isTagChar c.toLower = true) : isTagChar c = true := by
  by_cases hu : 'A' ≤ c ∧ c ≤ 'Z'
  · simp [isTagChar, hu.1, hu.2]
  · rwa [toLower_of_not_upper hu] at h

theorem takeWhile_isTagChar {m t : Text} (hm : ∀ d ∈ m, isTagChar d = true)
    (ht : t.head?.all fun c => isBlank c || c == '>' || c == '/') :
    (m ++ t).takeWhile isTagChar = m := by
  rcases t with _ | ⟨d, t⟩
  · rw [List.append_nil, List.takeWhile_eq_self_iff.2 hm]
  · refine takeWhile_stop hm ?_
    rw [List.head?_cons, Option.all_some, Bool.or_eq_true, Bool.or_eq_true, beq_iff_eq,
      beq_iff_eq] at ht
    rcases ht with (hblank | rfl) | rfl
    · exact isTagChar_of_isBlank hblank
    · decide
    · decide

theorem head?_blanks {w : Text} (hw : ∀ d ∈ w, isBlank d = true) :
    (w ++ ['>']).head?.all fun c => isBlank c || c == '>' || c == '/' := by
  rcases w with _ | ⟨d, w⟩
  · rfl
  · simp [hw d List.mem_cons_self]

/-- The text is an opening tag of a name, in any case, with a body. -/
structure IsOpeningTag (s name body : Text) : Prop where
  eq : s = '<' :: (name ++ body ++ ['>'])
  ne_nil : name ≠ []
  chars : ∀ c ∈ name, isTagChar c = true
  start : body.head?.all fun c => isBlank c || c == '/'
  noEnd : '>' ∉ body

/-- The text is a closing tag of a name, in any case, with blanks behind it. -/
structure IsClosingTag (s name blanks : Text) : Prop where
  eq : s = '<' :: '/' :: (name ++ blanks ++ ['>'])
  ne_nil : name ≠ []
  chars : ∀ c ∈ name, isTagChar c = true
  blanks : ∀ c ∈ blanks, isBlank c = true

namespace Token

theorem bracketed?_eq_some_iff {s b : Text} :
    bracketed? s = some b ↔ s = b ++ ['>'] ∧ '>' ∉ b := by
  constructor
  · intro h
    unfold bracketed? at h
    simp only [] at h
    split_ifs at h with hd
    obtain rfl := Option.some.inj h
    refine ⟨?_, fun hm => by simpa using List.mem_takeWhile_imp hm⟩
    rw [← hd, List.takeWhile_append_dropWhile]
  · rintro ⟨rfl, hb⟩
    exact bracketed?_append hb

theorem openingParts?_eq_some {s name body : Text} (h : openingParts? s = some (name, body)) :
    s = name ++ body ∧ name ≠ [] ∧ (∀ c ∈ name, isTagChar c = true) ∧
      body.head?.all fun c => isBlank c || c == '/' := by
  unfold openingParts? at h
  simp only [] at h
  split_ifs at h with hne
  have hsplit : s = s.takeWhile isTagChar ++ s.dropWhile isTagChar :=
    List.takeWhile_append_dropWhile.symm
  have hchars : ∀ c ∈ s.takeWhile isTagChar, isTagChar c = true := fun c hc =>
    List.mem_takeWhile_imp hc
  rw [List.isEmpty_iff] at hne
  split at h
  · rename_i hd
    obtain ⟨rfl, rfl⟩ := Prod.mk.inj (Option.some.inj h)
    exact ⟨hsplit, hne, hchars, by rw [hd]; rfl⟩
  · rename_i d t hd
    split_ifs at h with hc
    obtain ⟨rfl, rfl⟩ := Prod.mk.inj (Option.some.inj h)
    exact ⟨hsplit, hne, hchars, by rw [hd]; exact hc⟩

/-- A `<` ends the name of an opening tag, but is no end that a name may have. -/
theorem openingParts?_append_lessThan (r w : Text) :
    openingParts? (r ++ '<' :: w) =
      match openingParts? r with
      | some (name, d :: body) => some (name, d :: body ++ '<' :: w)
      | some (_, []) | none => none := by
  have hsplit : r = r.takeWhile isTagChar ++ r.dropWhile isTagChar :=
    List.takeWhile_append_dropWhile.symm
  have hname : ∀ d ∈ r.takeWhile isTagChar, isTagChar d = true := fun d hd =>
    List.mem_takeWhile_imp hd
  unfold openingParts?
  rcases hb : r.dropWhile isTagChar with _ | ⟨d, b⟩
  · rw [hb, List.append_nil] at hsplit
    rw [← hsplit] at hname
    rw [takeWhile_stop hname (by decide), dropWhile_stop hname (by decide), ← hsplit]
    rcases r with _ | ⟨e, r⟩
    · rfl
    · rfl
  · have hd := List.head?_dropWhile_not isTagChar r
    rw [hb] at hd hsplit
    have hrun : r ++ '<' :: w = r.takeWhile isTagChar ++ d :: (b ++ '<' :: w) := by
      nth_rewrite 1 [hsplit]
      simp
    rw [hrun, takeWhile_stop hname (by simpa using hd), dropWhile_stop hname (by simpa using hd)]
    simp only []
    split_ifs
    · rfl
    · rfl
    · rfl

theorem closingName?_eq_some {s name : Text} (h : closingName? s = some name) :
    ∃ w, s = name ++ w ∧ name ≠ [] ∧ (∀ c ∈ name, isTagChar c = true) ∧
      ∀ c ∈ w, isBlank c = true := by
  unfold closingName? at h
  simp only [] at h
  split_ifs at h with hc
  obtain rfl := Option.some.inj h
  rw [Bool.and_eq_true, Bool.not_eq_true', List.isEmpty_eq_false_iff, List.all_eq_true] at hc
  exact ⟨_, List.takeWhile_append_dropWhile.symm, hc.1, fun c hm => List.mem_takeWhile_imp hm,
    hc.2⟩

theorem closingName?_append_lessThan (r w : Text) : closingName? (r ++ '<' :: w) = none := by
  rw [Option.eq_none_iff_forall_ne_some]
  intro n hn
  obtain ⟨b, hb, -, hchars, hblank⟩ := closingName?_eq_some hn
  have hmem : '<' ∈ n ++ b := hb ▸ List.mem_append_right r List.mem_cons_self
  rcases List.mem_append.1 hmem with h | h
  · exact absurd (hchars '<' h) (by decide)
  · exact absurd (hblank '<' h) (by decide)

theorem raw_of_ofSpan_text {u raw : Text} (h : ofSpan u = .text raw) : raw = u := by
  unfold ofSpan at h
  split at h
  · simp at h
  split at h
  · split at h
    · simp at h
    · exact (Token.text.inj h).symm
  · split at h
    · simp at h
    · exact (Token.text.inj h).symm
  · exact (Token.text.inj h).symm

theorem ofSpan_eq_comment_iff {u raw : Text} :
    ofSpan u = .comment raw ↔ Span.commentOpen <+: u ∧ raw = u := by
  rw [← List.isPrefixOf_iff_prefix]
  unfold ofSpan
  constructor
  · intro h
    split at h
    · exact ⟨‹_›, (Token.comment.inj h).symm⟩
    split at h
    · split at h <;> simp at h
    · split at h <;> simp at h
    · simp at h
  · rintro ⟨hp, rfl⟩
    rw [if_pos hp]

theorem exists_of_ofSpan_opening {u name body raw : Text} {selfClosing : Bool}
    (h : ofSpan u = .opening name body selfClosing raw) :
    ∃ m, IsOpeningTag u m body ∧ name = m.asciiLower := by
  unfold ofSpan at h
  split at h
  · simp at h
  split at h
  · split at h <;> simp at h
  · rename_i r _
    split at h
    · rename_i m b hb
      obtain ⟨inside, hr, hparts⟩ := Option.bind_eq_some_iff.1 hb
      obtain ⟨rfl, hg⟩ := bracketed?_eq_some_iff.1 hr
      obtain ⟨rfl, hne, hchars, hstart⟩ := openingParts?_eq_some hparts
      obtain ⟨rfl, rfl, -, -⟩ := Token.opening.inj h
      exact ⟨m, ⟨rfl, hne, hchars, hstart, fun hm => hg (List.mem_append_right m hm)⟩, rfl⟩
    · simp at h
  · simp at h

theorem exists_of_ofSpan_closing {u name raw : Text} (h : ofSpan u = .closing name raw) :
    ∃ m w, IsClosingTag u m w ∧ name = m.asciiLower := by
  unfold ofSpan at h
  split at h
  · simp at h
  split at h
  · split at h
    · rename_i r m hm
      obtain ⟨inside, hr, hname⟩ := Option.bind_eq_some_iff.1 hm
      obtain ⟨rfl, -⟩ := bracketed?_eq_some_iff.1 hr
      obtain ⟨w, rfl, hne, hchars, hblank⟩ := closingName?_eq_some hname
      obtain ⟨rfl, -⟩ := Token.closing.inj h
      exact ⟨m, w, ⟨rfl, hne, hchars, hblank⟩, rfl⟩
    · simp at h
  · split at h <;> simp at h
  · simp at h

theorem ofSpan_of_isOpen {u : Text} (ho : Span.isOpen u = true)
    (hc : ¬ Span.commentOpen <+: u) :
    ofSpan u = .text u := by
  obtain ⟨r, rfl, hg⟩ := Span.exists_of_isOpen ho hc
  rcases hu : ofSpan ('<' :: r) with raw | ⟨n, b, slash, raw⟩ | ⟨n, raw⟩ | raw
  · exact absurd (ofSpan_eq_comment_iff.1 hu).1 hc
  · obtain ⟨m, ⟨hm, -, -, -, -⟩, -⟩ := exists_of_ofSpan_opening hu
    rw [(List.cons.inj hm).2] at hg
    simp at hg
  · obtain ⟨m, w, ⟨hm, -, -, -⟩, -⟩ := exists_of_ofSpan_closing hu
    rw [(List.cons.inj hm).2] at hg
    simp at hg
  · rw [raw_of_ofSpan_text hu]

theorem isWhole_of_ofSpan_opening {u name body raw : Text} {selfClosing : Bool}
    (h : ofSpan u = .opening name body selfClosing raw) : Span.IsWhole u := by
  obtain ⟨m, ⟨rfl, hne, hchars, -, hg⟩, -⟩ := exists_of_ofSpan_opening h
  obtain ⟨c, m, rfl⟩ := List.exists_cons_of_ne_nil hne
  refine Span.isWhole_tag (fun hp => ?_) fun hm => ?_
  · obtain ⟨t, ht⟩ := hp
    obtain ⟨rfl, -⟩ := List.cons.inj (List.cons.inj ht).2
    exact absurd (hchars '!' List.mem_cons_self) (by decide)
  · rcases List.mem_append.1 hm with hm | hm
    · exact absurd (hchars '>' hm) (by decide)
    · exact hg hm

end Token

/-- A text begins with a closing tag of a name if it begins with `</` and the name, whatever its
case, and then ends or goes on with a blank, a bracket or a slash. -/
theorem closesRawText_iff {name s : Text} : closesRawText name s = true ↔
    ∃ m t : Text, s = '<' :: '/' :: (m ++ t) ∧ m.asciiLower = name ∧
      t.head?.all fun c => isBlank c || c == '>' || c == '/' := by
  unfold closesRawText
  split
  · rename_i r
    rw [Bool.and_eq_true, beq_iff_eq]
    constructor
    · rintro ⟨hm, ht⟩
      exact ⟨r.take name.length, r.drop name.length, by rw [List.take_append_drop], hm, ht⟩
    · rintro ⟨m, t, hs, rfl, ht⟩
      obtain rfl := (List.cons.inj (List.cons.inj hs).2).2
      have hlen : (Text.asciiLower m).length = m.length := List.length_map _
      rw [hlen, List.take_left, List.drop_left]
      exact ⟨rfl, ht⟩
  · rename_i hne
    refine iff_of_false (by simp) ?_
    rintro ⟨m, t, rfl, -⟩
    exact hne _ rfl

end CleanMarkup

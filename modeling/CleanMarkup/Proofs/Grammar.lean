import CleanMarkup.Proofs.Shapes

/-!
# The grammar of tokens

A text is a comment, an opening tag, a closing tag or none of these, and it is read as what it is
(`IsReading`), whether it is a span or not. No text has two of these shapes, or one of them in two
ways (`ofSpan_eq_iff_isReading`).
-/

namespace CleanMarkup

/-- The last character that is no blank is a slash. -/
def EndsInSlash (body : Text) : Prop :=
  ∃ front blanks, body = front ++ '/' :: blanks ∧ ∀ c ∈ blanks, isBlank c = true

/-- The token that a text is read as. -/
inductive IsReading (s : Text) : Token → Prop
  | comment (h : Span.commentOpen <+: s) : IsReading s (.comment s)
  | opening {name body : Text} {selfClosing : Bool} (h : IsOpeningTag s name body)
      (slash : selfClosing = true ↔ EndsInSlash body) :
      IsReading s (.opening name.asciiLower body selfClosing s)
  | closing {name blanks : Text} (h : IsClosingTag s name blanks) :
      IsReading s (.closing name.asciiLower s)
  | text (noComment : ¬ Span.commentOpen <+: s)
      (noOpening : ∀ name body, ¬ IsOpeningTag s name body)
      (noClosing : ∀ name blanks, ¬ IsClosingTag s name blanks) : IsReading s (.text s)

theorem endsInSlash_iff {body : Text} :
    EndsInSlash body ↔ (body.trimEnd.getLast? == some '/') = true := by
  rw [beq_iff_eq, Text.trimEnd, List.getLast?_reverse]
  constructor
  · rintro ⟨front, blanks, rfl, hblanks⟩
    have hreverse : (front ++ '/' :: blanks).reverse = blanks.reverse ++ '/' :: front.reverse := by
      simp
    rw [hreverse, dropWhile_stop (fun d hd => hblanks d (List.mem_reverse.1 hd)) (by decide)]
    rfl
  · intro h
    obtain ⟨front, hfront⟩ := List.head?_eq_some_iff.1 h
    have hsplit := List.takeWhile_append_dropWhile (p := isBlank) (l := body.reverse)
    rw [hfront] at hsplit
    refine ⟨front.reverse, (body.reverse.takeWhile isBlank).reverse, ?_, fun c hc => ?_⟩
    · calc body = body.reverse.reverse := (List.reverse_reverse body).symm
        _ = (body.reverse.takeWhile isBlank ++ '/' :: front).reverse := by rw [hsplit]
        _ = front.reverse ++ '/' :: (body.reverse.takeWhile isBlank).reverse := by simp
    · exact List.mem_takeWhile_imp (List.mem_reverse.1 hc)

theorem prefix_commentOpen_iff {s : Text} :
    Span.commentOpen <+: s ↔ Token.ofSpan s = .comment s := by
  rw [Token.ofSpan_eq_comment_iff, and_iff_left rfl]

namespace IsOpeningTag

variable {s m b : Text} (h : IsOpeningTag s m b)

include h

theorem ofSpan_eq :
    Token.ofSpan s = .opening m.asciiLower b (b.trimEnd.getLast? == some '/') s := by
  obtain ⟨rfl, hne, hchars, hstart, hend⟩ := h
  exact ofSpan_openingTag hne hchars hstart hend

theorem takeWhile_eq : (s.drop 1).takeWhile isTagChar = m := by
  -- what follows the name in a tag is none of its characters
  obtain ⟨rfl, hne, hchars, hstart, -⟩ := h
  rw [List.drop_one, List.tail_cons, List.append_assoc]
  refine takeWhile_isTagChar hchars ?_
  rcases b with _ | ⟨c, b⟩
  · rfl
  · rw [List.head?_cons, Option.all_some] at hstart
    simp only [List.cons_append, List.head?_cons, Option.all_some]
    grind

theorem unique {n d : Text} (h' : IsOpeningTag s n d) : m = n ∧ b = d := by
  have hname : m = n := h.takeWhile_eq.symm.trans h'.takeWhile_eq
  refine ⟨hname, ?_⟩
  have hsame := h.eq.symm.trans h'.eq
  rw [hname] at hsame
  simpa using hsame

theorem not_comment : ¬ Span.commentOpen <+: s := by
  rw [prefix_commentOpen_iff, h.ofSpan_eq]
  simp

end IsOpeningTag

namespace IsClosingTag

variable {s m w : Text} (h : IsClosingTag s m w)

include h

theorem ofSpan_eq : Token.ofSpan s = .closing m.asciiLower s := by
  obtain ⟨rfl, hne, hchars, hblanks⟩ := h
  exact ofSpan_closingTag hne hchars hblanks

theorem takeWhile_eq : (s.drop 2).takeWhile isTagChar = m := by
  obtain ⟨rfl, -, hchars, hblanks⟩ := h
  change (m ++ w ++ ['>']).takeWhile isTagChar = m
  rw [List.append_assoc]
  exact takeWhile_isTagChar hchars (head?_blanks hblanks)

theorem unique {n v : Text} (h' : IsClosingTag s n v) : m = n ∧ w = v := by
  have hname : m = n := h.takeWhile_eq.symm.trans h'.takeWhile_eq
  refine ⟨hname, ?_⟩
  have hsame := h.eq.symm.trans h'.eq
  rw [hname] at hsame
  simpa using hsame

theorem not_comment : ¬ Span.commentOpen <+: s := by
  rw [prefix_commentOpen_iff, h.ofSpan_eq]
  simp

theorem not_opening (n d : Text) : ¬ IsOpeningTag s n d := by
  intro hopening
  have hread := h.ofSpan_eq
  rw [hopening.ofSpan_eq] at hread
  simp at hread

end IsClosingTag

theorem isReading_ofSpan (s : Text) : IsReading s (Token.ofSpan s) := by
  rcases hs : Token.ofSpan s with raw | ⟨name, body, selfClosing, raw⟩ | ⟨name, raw⟩ | raw
  · obtain ⟨hopens, rfl⟩ := Token.ofSpan_eq_comment_iff.1 hs
    exact .comment hopens
  · obtain ⟨m, htag, rfl⟩ := Token.exists_of_ofSpan_opening hs
    obtain ⟨-, -, rfl, rfl⟩ := Token.opening.inj (htag.ofSpan_eq.symm.trans hs)
    exact .opening htag endsInSlash_iff.symm
  · obtain ⟨m, w, htag, rfl⟩ := Token.exists_of_ofSpan_closing hs
    obtain ⟨-, rfl⟩ := Token.closing.inj (htag.ofSpan_eq.symm.trans hs)
    exact .closing htag
  · obtain rfl := Token.raw_of_ofSpan_text hs
    refine .text ?_ (fun name body htag => ?_) fun name blanks htag => ?_
    · simp [prefix_commentOpen_iff, hs]
    · simp [htag.ofSpan_eq] at hs
    · simp [htag.ofSpan_eq] at hs

theorem IsReading.ofSpan_eq {s : Text} {t : Token} (h : IsReading s t) : Token.ofSpan s = t := by
  cases h with
  | comment hopens => exact prefix_commentOpen_iff.1 hopens
  | opening htag slash =>
    rw [htag.ofSpan_eq]
    congr 1
    rw [Bool.eq_iff_iff, slash, endsInSlash_iff]
  | closing htag => exact htag.ofSpan_eq
  | text noComment noOpening noClosing =>
    -- no other reading has its shape
    rcases hs : Token.ofSpan s with raw | ⟨name, body, selfClosing, raw⟩ | ⟨name, raw⟩ | raw
    · exact absurd (Token.ofSpan_eq_comment_iff.1 hs).1 noComment
    · obtain ⟨m, htag, -⟩ := Token.exists_of_ofSpan_opening hs
      exact absurd htag (noOpening m body)
    · obtain ⟨m, w, htag, -⟩ := Token.exists_of_ofSpan_closing hs
      exact absurd htag (noClosing m w)
    · rw [Token.raw_of_ofSpan_text hs]

/-- Every text is read as what it is. No text has two shapes, and its parts are found in one way
only. -/
theorem ofSpan_eq_iff_isReading (s : Text) :
    (∀ t, Token.ofSpan s = t ↔ IsReading s t) ∧
      (∀ m b, IsOpeningTag s m b → ¬ Span.commentOpen <+: s ∧ (∀ n w, ¬ IsClosingTag s n w) ∧
        ∀ n d, IsOpeningTag s n d → m = n ∧ b = d) ∧
      ∀ m w, IsClosingTag s m w → ¬ Span.commentOpen <+: s ∧
        ∀ n v, IsClosingTag s n v → m = n ∧ w = v := by
  refine ⟨fun t => ⟨?_, IsReading.ofSpan_eq⟩, fun m b htag => ?_, fun m w htag => ?_⟩
  · rintro rfl
    exact isReading_ofSpan s
  · exact ⟨htag.not_comment, fun n w hclosing => hclosing.not_opening m b htag,
      fun n d => htag.unique⟩
  · exact ⟨htag.not_comment, fun n v => htag.unique⟩

end CleanMarkup

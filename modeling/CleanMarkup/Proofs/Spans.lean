import CleanMarkup.Cleaner
import CleanMarkup.Proofs.Names
import CleanMarkup.Proofs.Runs

/-!
# Tokens of a text put together from parts

Text in front of anything runs on to the next `<` (`tokens_text`), and a tag ends with its first
`>` (`tokens_tag`), whatever follows. A tag is read as the tag that it is, under its name in lower
case (`ofSpan_openingTag`, `ofSpan_closingTag`), and no name of a token that is read is anything
else (`isNamed_of_mem_tokens`).
-/

namespace CleanMarkup

section Spans

theorem spans_append {a b : Text} (ha : a ≠ []) (h : Span.firstLength (a ++ b) = a.length) :
    spans (a ++ b) = a :: spans b := by
  match a, ha with
  | c :: r, _ =>
    rw [List.cons_append] at h ⊢
    rw [spans_cons, h, ← List.cons_append, List.take_left, List.drop_left]

theorem spans_text {c : Char} (r : Text) (hc : c ≠ '<') :
    spans (c :: r) = (c :: r.takeWhile (· != '<')) :: spans (r.dropWhile (· != '<')) := by
  have hr : c :: r = (c :: r.takeWhile (· != '<')) ++ r.dropWhile (· != '<') := by
    rw [List.cons_append, List.takeWhile_append_dropWhile]
  have hl : Span.firstLength (c :: r) = (c :: r.takeWhile (· != '<')).length := by
    unfold Span.firstLength
    rw [if_neg (by simpa [Span.commentOpen, List.isPrefixOf] using fun e => absurd e.symm hc),
      if_neg (by simpa using hc), List.takeWhile_cons_of_pos (by simpa using hc)]
  rw [hr] at hl
  rw [hr, spans_append (List.cons_ne_nil _ _) hl]

theorem findFrom_char {m : Char} : ∀ {b : Text} (n : Nat) (r : Text), m ∉ b →
    Text.findFrom [m] n (b ++ m :: r) = some (n + b.length)
  | [], n, r, _ => by simp [Text.findFrom, List.isPrefixOf]
  | c :: b, n, r, h => by
    simp only [List.mem_cons, not_or] at h
    obtain ⟨hc, hb⟩ := h
    rw [List.cons_append, Text.findFrom, if_neg (by simpa [List.isPrefixOf] using hc),
      findFrom_char (n + 1) r hb, List.length_cons]
    congr 1
    omega

theorem spans_tag {b : Text} (r : Text) (hb : b.head? ≠ some '!') (hg : '>' ∉ b) :
    spans ('<' :: (b ++ '>' :: r)) = ('<' :: (b ++ ['>'])) :: spans r := by
  have hr : '<' :: (b ++ '>' :: r) = ('<' :: (b ++ ['>'])) ++ r := by simp
  have hl : Span.firstLength ('<' :: (b ++ '>' :: r)) = ('<' :: (b ++ ['>'])).length := by
    have hc : Span.commentOpen.isPrefixOf ('<' :: (b ++ '>' :: r)) = false := by
      rcases b with _ | ⟨c, b⟩
      · simp [Span.commentOpen, List.isPrefixOf]
      · have : '!' ≠ c := fun e => hb (by rw [e]; rfl)
        simp [Span.commentOpen, List.isPrefixOf, this]
    unfold Span.firstLength Span.lengthThrough Text.find?
    rw [hc, if_neg (by simp), if_pos (by rfl), List.drop_one, List.tail_cons,
      findFrom_char 0 r hg]
    simp only [List.length_cons, List.length_append, List.length_nil]
    omega
  rw [hr] at hl ⊢
  exact spans_append (List.cons_ne_nil _ _) hl

end Spans

section Tokens

/-- The token of a text without tags, none if it is empty. -/
def textTokens (s : Text) : List Token := if s = [] then [] else [.text s]

theorem ofSpan_text {c : Char} (r : Text) (hc : c ≠ '<') :
    Token.ofSpan (c :: r) = .text (c :: r) := by
  unfold Token.ofSpan
  rw [if_neg (by simpa [Span.commentOpen, List.isPrefixOf] using fun e => absurd e.symm hc)]
  split
  · exact absurd (List.cons.inj ‹_›).1 hc
  · exact absurd (List.cons.inj ‹_›).1 hc
  · rfl

/-- Text in front of anything is one token with the text that follows it directly. -/
theorem tokens_text {e : Text} (he : '<' ∉ e) (r : Text) :
    tokens (e ++ r) =
      textTokens (e ++ r.takeWhile (· != '<')) ++ tokens (r.dropWhile (· != '<')) := by
  have hfirst : ∀ u : Text, '<' ∉ u → ∀ v : Text, (v = [] ∨ ∃ w, v = '<' :: w) →
      tokens (u ++ v) = textTokens u ++ tokens v := by
    intro u hu v hv
    match u with
    | [] => rfl
    | c :: u =>
      simp only [List.mem_cons, not_or] at hu
      obtain ⟨hc, hu⟩ := hu
      have hall := forall_ne_of_not_mem hu
      have hsp : spans (c :: (u ++ v)) = (c :: u) :: spans v := by
        rw [spans_text _ (Ne.symm hc)]
        rcases hv with rfl | ⟨w, rfl⟩
        · rw [List.append_nil, List.takeWhile_eq_self_iff.2 hall, List.dropWhile_eq_nil_iff.2 hall]
        · rw [takeWhile_stop hall rfl, dropWhile_stop hall rfl]
      unfold tokens
      rw [List.cons_append, hsp, List.map_cons, ofSpan_text _ (Ne.symm hc)]
      rfl
  have hu : '<' ∉ e ++ r.takeWhile (· != '<') := by
    intro h
    rcases List.mem_append.1 h with h | h
    · exact he h
    · simpa using List.mem_takeWhile_imp h
  rw [← hfirst _ hu _ (dropWhile_ne_cases '<' r), List.append_assoc,
    List.takeWhile_append_dropWhile]

theorem tokens_tag {b : Text} (r : Text) (hb : b.head? ≠ some '!') (hg : '>' ∉ b) :
    tokens ('<' :: (b ++ '>' :: r)) = Token.ofSpan ('<' :: (b ++ ['>'])) :: tokens r := by
  unfold tokens
  rw [spans_tag r hb hg, List.map_cons]

/-- The text before a bracket at the end. -/
theorem bracketed?_append {b : Text} (hg : '>' ∉ b) : Token.bracketed? (b ++ ['>']) = some b := by
  have hall := forall_ne_of_not_mem hg
  unfold Token.bracketed?
  rw [takeWhile_stop hall rfl, dropWhile_stop hall rfl]
  rfl

/-- No character of a name is a blank. -/
theorem isTagChar_of_isBlank {c : Char} (h : isBlank c = true) : isTagChar c = false := by
  rcases hc : isTagChar c
  · rfl
  · rw [isBlank_of_isAttributeChar (isAttributeChar_of_isTagChar hc)] at h
    simp at h

theorem ofSpan_closingTag {m w : Text} (hne : m ≠ []) (hm : ∀ c ∈ m, isTagChar c = true)
    (hw : ∀ c ∈ w, isBlank c = true) :
    Token.ofSpan ('<' :: '/' :: (m ++ w ++ ['>'])) =
      .closing m.asciiLower ('<' :: '/' :: (m ++ w ++ ['>'])) := by
  have hg : '>' ∉ m ++ w := by
    intro hmem
    rcases List.mem_append.1 hmem with hmem | hmem
    · exact absurd (hm '>' hmem) (by decide)
    · exact absurd (hw '>' hmem) (by decide)
  have hn : Token.closingName? (m ++ w) = some m := by
    unfold Token.closingName?
    rcases w with _ | ⟨d, w⟩
    · rw [List.append_nil, List.takeWhile_eq_self_iff.2 hm, List.dropWhile_eq_nil_iff.2 hm]
      simp [hne]
    · have hd := isTagChar_of_isBlank (hw d List.mem_cons_self)
      rw [takeWhile_stop hm hd, dropWhile_stop hm hd, List.all_eq_true.2 hw]
      simp [hne]
  unfold Token.ofSpan
  rw [if_neg (by simp [Span.commentOpen, List.isPrefixOf])]
  simp only [bracketed?_append hg, Option.bind_some, hn]

theorem ofSpan_closing {name : Text} (h : IsName isTagChar name) :
    Token.ofSpan (Cleaner.writeClosing name) = .closing name (Cleaner.writeClosing name) := by
  have htag := ofSpan_closingTag h.ne_nil h.chars (w := []) (by simp)
  rw [List.append_nil, h.lower] at htag
  exact htag

theorem ofSpan_openingTag {m body : Text} (hne : m ≠ []) (hm : ∀ c ∈ m, isTagChar c = true)
    (hb : body.head?.all fun c => isBlank c || c == '/') (hg : '>' ∉ body) :
    Token.ofSpan ('<' :: (m ++ body ++ ['>'])) =
      .opening m.asciiLower body (body.trimEnd.getLast? == some '/')
        ('<' :: (m ++ body ++ ['>'])) := by
  have hall : '>' ∉ m ++ body := by
    intro hmem
    rcases List.mem_append.1 hmem with hmem | hmem
    · exact absurd (hm '>' hmem) (by decide)
    · exact hg hmem
  have hp : Token.openingParts? (m ++ body) = some (m, body) := by
    unfold Token.openingParts?
    rcases body with _ | ⟨d, body⟩
    · rw [List.append_nil, List.takeWhile_eq_self_iff.2 hm, List.dropWhile_eq_nil_iff.2 hm]
      simp [hne]
    · rw [List.head?_cons, Option.all_some] at hb
      have hd : isTagChar d = false := by
        rw [Bool.or_eq_true, beq_iff_eq] at hb
        rcases hb with hblank | rfl
        · exact isTagChar_of_isBlank hblank
        · decide
      rw [takeWhile_stop hm hd, dropWhile_stop hm hd]
      simp [hne, hb]
  obtain ⟨c, r, rfl⟩ := List.exists_cons_of_ne_nil hne
  have hc := hm c List.mem_cons_self
  have hs : c ≠ '/' := by rintro rfl; simp [isTagChar] at hc
  have hx : c ≠ '!' := by rintro rfl; simp [isTagChar] at hc
  unfold Token.ofSpan
  rw [if_neg (by simpa [Span.commentOpen, List.isPrefixOf] using fun e => absurd e.symm hx)]
  split
  · rename_i heq
    simp only [List.cons_append, List.cons.injEq] at heq
    exact absurd heq.2.1 hs
  · rename_i heq
    simp only [List.cons_append, List.cons.injEq, true_and] at heq
    subst heq
    have := bracketed?_append hall
    simp only [List.cons_append] at this hp
    rw [this, Option.bind_some, hp]
  · rename_i hno
    exact absurd rfl (hno _)

theorem ofSpan_opening {name body : Text} (h : IsName isTagChar name) (hg : '>' ∉ body)
    (hb : body.head?.all fun c => isBlank c || c == '/') :
    Token.ofSpan ('<' :: (name ++ body ++ ['>'])) =
      .opening name body (body.trimEnd.getLast? == some '/') ('<' :: (name ++ body ++ ['>'])) := by
  have htag := ofSpan_openingTag h.ne_nil h.chars hb hg
  rwa [h.lower] at htag

/-- The names that a token holds are in lower case. -/
def Token.IsNamed : Token → Prop
  | .opening name _ _ _ => IsName isTagChar name
  | .closing name _ => IsName isTagChar name
  | .comment _ | .text _ => True

theorem isNamed_ofSpan (s : Text) : (Token.ofSpan s).IsNamed := by
  unfold Token.ofSpan
  split
  · trivial
  split
  · rename_i r
    split
    · rename_i name hn
      obtain ⟨b, -, hb⟩ := Option.bind_eq_some_iff.1 hn
      unfold Token.closingName? at hb
      simp only [] at hb
      split at hb
      · rename_i hne
        simp only [Bool.and_eq_true, Bool.not_eq_true', List.isEmpty_eq_false_iff] at hne
        obtain rfl := Option.some.inj hb
        exact .asciiLower (p := isTagChar) (fun _ => isTagChar_toLower) hne.1 fun _ hc =>
          List.mem_takeWhile_imp hc
      · simp at hb
    · trivial
  · rename_i r _
    split
    · rename_i name body hn
      obtain ⟨b, -, hb⟩ := Option.bind_eq_some_iff.1 hn
      unfold Token.openingParts? at hb
      simp only [] at hb
      split at hb
      · simp at hb
      · rename_i hne
        have hname : b.takeWhile isTagChar = name := by
          split at hb
          · exact (Prod.mk.inj (Option.some.inj hb)).1
          · split at hb
            · exact (Prod.mk.inj (Option.some.inj hb)).1
            · simp at hb
        subst hname
        exact .asciiLower (p := isTagChar) (fun _ => isTagChar_toLower)
          (fun e => hne (by rw [e]; rfl)) fun _ hc => List.mem_takeWhile_imp hc
    · trivial
  · trivial

theorem isNamed_of_mem_tokens {s : Text} {t : Token} (h : t ∈ tokens s) : t.IsNamed := by
  obtain ⟨u, -, rfl⟩ := List.mem_map.1 h
  exact isNamed_ofSpan u

end Tokens

end CleanMarkup

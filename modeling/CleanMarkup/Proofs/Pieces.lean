import CleanMarkup.Proofs.Spans
import CleanMarkup.Proofs.Survivors

/-!
# Pieces of written markup

The markup to show is put together from encoded text and tags. Read again, it falls into the same
pieces (`tokens_pieces`), except that pieces of text that touch are one token.
-/

namespace CleanMarkup

/-- What the markup to show is put together from. -/
inductive Piece
  | text (s : Text)
  /-- A tag with what is left of its attributes; the slash is that of a tag without an end. -/
  | opening (name : Text) (attributes : List Attribute) (slash : Bool)
  | closing (name : Text)

namespace Piece

/-- The body of a tag as it is written. -/
def body (attributes : List Attribute) (slash : Bool) : Text :=
  attributes.flatMap Attribute.write ++ if slash then ['/'] else []

/-- The markup of a piece. -/
def html : Piece → Text
  | text s => s.encode
  | opening name attributes slash => '<' :: (name ++ body attributes slash ++ ['>'])
  | closing name => Cleaner.writeClosing name

/-- The piece can be read back. -/
def IsSound : Piece → Prop
  | text _ => True
  | opening name attributes _ => IsName isTagChar name ∧ ∀ a ∈ attributes, a.IsNeat
  | closing name => IsName isTagChar name

/-- The tokens of some text and the pieces behind it. -/
def tokensBehind (e : Text) : List Piece → List Token
  | [] => textTokens e
  | text s :: ps => tokensBehind (e ++ s.encode) ps
  | opening name attributes slash :: ps =>
    textTokens e ++
      .opening name (body attributes slash) slash (html (opening name attributes slash)) ::
        tokensBehind [] ps
  | closing name :: ps => textTokens e ++ .closing name (html (closing name)) :: tokensBehind [] ps

theorem isClean_of_mem_body {attributes : List Attribute} (h : ∀ a ∈ attributes, a.IsNeat)
    {slash : Bool} {c : Char} (hc : c ∈ body attributes slash) : c ≠ '<' ∧ c ≠ '>' := by
  rcases List.mem_append.1 hc with hc | hc
  · obtain ⟨a, ha, hc⟩ := List.mem_flatMap.1 hc
    exact Attribute.isClean_of_mem_write (h a ha) hc
  · split at hc
    · obtain rfl := List.mem_singleton.1 hc
      decide
    · exact absurd hc List.not_mem_nil

/-- A body begins with the blank in front of an attribute or the slash, if with anything. -/
theorem head?_body (attributes : List Attribute) (slash : Bool) :
    (body attributes slash).head?.all fun c => isBlank c || c == '/' := by
  rcases attributes with _ | ⟨a, as⟩
  · rcases slash
    · rfl
    · rfl
  · rfl

/-- A body ends in a slash exactly if it is written with one. -/
theorem getLast?_trimEnd_body (attributes : List Attribute) (slash : Bool) :
    ((body attributes slash).trimEnd.getLast? == some '/') = slash := by
  have hlast : ∀ (u : Text) (c : Char), isBlank c = false →
      (u ++ [c]).trimEnd.getLast? = some c := by
    intro u c hc
    rw [Text.trimEnd_concat hc, List.getLast?_concat]
  rcases slash
  · rcases attributes.eq_nil_or_concat with rfl | ⟨as, a, rfl⟩
    · rfl
    · have hbody : body (as ++ [a]) false =
          (as.flatMap Attribute.write ++ ' ' :: a.name ++ '=' :: '"' :: a.value) ++ ['"'] := by
        simp [body, Attribute.write, AttributeFilter.write]
      rw [List.concat_eq_append, hbody, hlast _ _ (by decide)]
      decide
  · rw [body, if_pos rfl, hlast _ _ (by decide)]
    decide

/-- The attributes that are written in a body are read from it. -/
theorem all_body {attributes : List Attribute} (h : ∀ a ∈ attributes, a.IsNeat) (slash : Bool) :
    Attribute.all (body attributes slash) = attributes := by
  rw [body, Attribute.all_flatMap_write _ h]
  rcases slash
  · rw [if_neg (by simp), Attribute.all_nil, List.append_nil]
  · rw [if_pos rfl, Attribute.all_skip rfl, Attribute.all_nil, List.append_nil]

theorem tokens_opening {name : Text} {attributes : List Attribute} {slash : Bool}
    (h : (opening name attributes slash).IsSound) (r : Text) :
    tokens (html (opening name attributes slash) ++ r) =
      .opening name (body attributes slash) slash (html (opening name attributes slash)) ::
        tokens r := by
  obtain ⟨hname, has⟩ := h
  have hg : '>' ∉ body attributes slash := fun hm => (isClean_of_mem_body has hm).2 rfl
  have hall : '>' ∉ name ++ body attributes slash := by
    intro hm
    rcases List.mem_append.1 hm with hm | hm
    · exact hname.not_mem (by decide) hm
    · exact hg hm
  have hx : (name ++ body attributes slash).head? ≠ some '!' := by
    obtain ⟨c, n, rfl, hc, -⟩ := hname.exists_cons
    intro he
    obtain rfl := Option.some.inj he
    exact absurd hc (by decide)
  have hsplit : html (opening name attributes slash) ++ r =
      '<' :: (name ++ body attributes slash ++ '>' :: r) := by simp [html]
  rw [hsplit, tokens_tag r hx hall, ofSpan_opening hname hg (head?_body attributes slash),
    getLast?_trimEnd_body]
  rfl

theorem tokens_closing {name : Text} (h : IsName isTagChar name) (r : Text) :
    tokens (html (closing name) ++ r) = .closing name (html (closing name)) :: tokens r := by
  have hg : '>' ∉ '/' :: name := by
    intro hm
    rcases List.mem_cons.1 hm with hm | hm
    · exact absurd hm (by decide)
    · exact h.not_mem (by decide) hm
  have hsplit : html (closing name) ++ r = '<' :: (('/' :: name) ++ '>' :: r) := by
    simp [html, Cleaner.writeClosing]
  rw [hsplit, tokens_tag r (by simp) hg]
  exact congrArg (· :: tokens r) (ofSpan_closing h)

/-- Text in front of a tag is a token of its own. -/
theorem tokens_before_tag {e : Text} (he : '<' ∉ e) (r : Text) :
    tokens (e ++ '<' :: r) = textTokens e ++ tokens ('<' :: r) := by
  rw [tokens_text he, List.takeWhile_cons_of_neg (by simp), List.dropWhile_cons_of_neg (by simp),
    List.append_nil]

theorem tokens_pieces : ∀ {ps : List Piece} {e : Text}, '<' ∉ e → (∀ p ∈ ps, p.IsSound) →
    tokens (e ++ ps.flatMap html) = tokensBehind e ps
  | [], e, he, _ => by
    have := tokens_text he []
    simpa [tokensBehind, tokens, spans_nil] using this
  | text s :: ps, e, he, h => by
    have hs := Text.not_mem_append_encode (by decide) he s
    have ih := tokens_pieces hs fun p hp => h p (List.mem_cons_of_mem _ hp)
    rw [List.flatMap_cons, ← List.append_assoc]
    exact ih
  | opening name attributes slash :: ps, e, he, h => by
    have ih := tokens_pieces (e := []) List.not_mem_nil fun p hp => h p (List.mem_cons_of_mem _ hp)
    have htag := tokens_opening (h _ List.mem_cons_self) (ps.flatMap html)
    rw [List.nil_append] at ih
    rw [ih] at htag
    rw [List.flatMap_cons, tokensBehind, ← htag]
    exact tokens_before_tag he _
  | closing name :: ps, e, he, h => by
    have ih := tokens_pieces (e := []) List.not_mem_nil fun p hp => h p (List.mem_cons_of_mem _ hp)
    have htag := tokens_closing (h _ List.mem_cons_self) (ps.flatMap html)
    rw [List.nil_append] at ih
    rw [ih] at htag
    rw [List.flatMap_cons, tokensBehind, ← htag]
    exact tokens_before_tag he _

end Piece

end CleanMarkup

import CleanMarkup.Proofs.Emission

/-!
# Tags are balanced

Read token by token with a stack of names, the markup to show opens and closes its tags like
brackets: each closing tag closes what was opened last, and nothing stays open
(`tokens_html_balanced`).
-/

namespace CleanMarkup

namespace Token

/-- Reads one token with some names open, innermost first. A tag is open from then on unless it
closes itself or has no end; it fails if it closes itself and has an end. A closing tag fails
unless it has an end and closes the innermost name. -/
def nest? (opened : List Text) : Token → Option (List Text)
  | opening name _ selfClosing _ =>
    if selfClosing && !isVoid name then none
    else if selfClosing || isVoid name then some opened
    else some (name :: opened)
  | closing name _ =>
    match opened with
    | [] => none
    | innermost :: outer => if name = innermost ∧ isVoid name = false then some outer else none
  | comment _ | text _ => some opened

end Token

theorem foldlM_nest_textTokens (e : Text) (opened : List Text) :
    (textTokens e).foldlM Token.nest? opened = some opened := by
  unfold textTokens
  split_ifs
  · rfl
  · rfl

theorem foldlM_nest_tag {opened next : List Text} {t : Token} (e : Text) (ts : List Token)
    (h : Token.nest? opened t = some next) :
    (textTokens e ++ t :: ts).foldlM Token.nest? opened = ts.foldlM Token.nest? next := by
  rw [List.foldlM_append, foldlM_nest_textTokens, Option.bind_eq_bind, Option.bind_some,
    List.foldlM_cons, h]
  rfl

/-- The tokens of nested pieces lead to where the pieces lead. -/
theorem foldlM_nest_tokensBehind {c : Cleaner} {opened left : List Text} {ps : List Piece}
    (h : Nested c opened ps left) (e : Text) :
    (Piece.tokensBehind e ps).foldlM Token.nest? opened = some left := by
  induction h generalizing e with
  | nil opened => exact foldlM_nest_textTokens e opened
  | text s _ ih => exact ih (e ++ s.encode)
  | void slash hs hv _ ih =>
    rw [Piece.tokensBehind, foldlM_nest_tag]
    · exact ih []
    · simp [Token.nest?, hv]
  | opening hs hv _ ih =>
    rw [Piece.tokensBehind, foldlM_nest_tag]
    · exact ih []
    · simp [Token.nest?, hv]
  | closing ho _ ih =>
    rw [Piece.tokensBehind, foldlM_nest_tag]
    · exact ih []
    · simp [Token.nest?, ho.hasEnd]

/-- The tags of the markup to show are balanced. -/
theorem tokens_html_balanced (c : Cleaner) (input : Text) :
    (tokens (c.clean input).html).foldlM Token.nest? [] = some [] := by
  obtain ⟨ps, hhtml, hnested, -⟩ := c.exists_pieces input
  rw [hhtml, hnested.tokens_html]
  exact foldlM_nest_tokensBehind hnested []

end CleanMarkup

import CleanMarkup.Proofs.Emission
import CleanMarkup.Shorthand

/-!
# Parts of tables stand where they belong

Read token by token with a stack of names, the markup to show opens a tag only while the tag that
must be open around it is on the stack: sections and rows stand in a table, cells in a row
(`enclosed_of_opening`).
-/

namespace CleanMarkup

namespace Token

/-- The names on the stack after a token, innermost first. -/
def openAfter (opened : List Text) : Token → List Text
  | opening name _ _ _ => if isVoid name then opened else name :: opened
  | closing _ _ => opened.tail
  | comment _ | text _ => opened

/-- The tag that must be open around the token is on the stack. -/
def IsEnclosed (opened : List Text) : Token → Prop
  | opening name _ _ _ => ∀ a ∈ requiredAncestor? name, a ∈ opened
  | comment _ | closing _ _ | text _ => True

end Token

/-- The names on the stack behind some tokens. -/
def openBehind (ts : List Token) : List Text := ts.foldl Token.openAfter []

def Enclosed : List Text → List Token → Prop
  | _, [] => True
  | opened, t :: ts => t.IsEnclosed opened ∧ Enclosed (t.openAfter opened) ts

theorem enclosed_append {opened : List Text} {ts us : List Token} :
    Enclosed opened (ts ++ us) ↔
      Enclosed opened ts ∧ Enclosed (ts.foldl Token.openAfter opened) us := by
  induction ts generalizing opened with
  | nil => simp [Enclosed]
  | cons t ts ih => simp [Enclosed, ih, and_assoc]

theorem enclosed_textTokens (opened : List Text) (e : Text) (ts : List Token) :
    Enclosed opened (textTokens e ++ ts) ↔ Enclosed opened ts := by
  unfold textTokens
  split_ifs
  · rfl
  · simp [Enclosed, Token.IsEnclosed, Token.openAfter]

/-- The tags of nested pieces are opened where they may stand. -/
theorem Nested.enclosed {c : Cleaner} {opened left : List Text} {ps : List Piece}
    (h : Nested c opened ps left) (e : Text) : Enclosed opened (Piece.tokensBehind e ps) := by
  induction h generalizing e with
  | nil opened =>
    rw [Piece.tokensBehind, ← List.append_nil (textTokens e), enclosed_textTokens]
    trivial
  | text s _ ih => exact ih (e ++ s.encode)
  | void slash hs hv _ ih =>
    rw [Piece.tokensBehind, enclosed_textTokens]
    refine ⟨hs.ancestor, ?_⟩
    rw [Token.openAfter, if_pos hv]
    exact ih []
  | opening hs hv _ ih =>
    rw [Piece.tokensBehind, enclosed_textTokens]
    refine ⟨hs.ancestor, ?_⟩
    rw [Token.openAfter, if_neg (by simp [hv])]
    exact ih []
  | closing _ _ ih =>
    rw [Piece.tokensBehind, enclosed_textTokens]
    exact ⟨trivial, ih []⟩

theorem requiredAncestor?_of_mem_table :
    ∀ name ∈ ["thead", "tbody", "tfoot", "tr"].map String.toList,
      requiredAncestor? name = some "table".toList := by
  decide

theorem requiredAncestor?_of_mem_row :
    ∀ name ∈ ["td", "th"].map String.toList, requiredAncestor? name = some "tr".toList := by
  decide

/-- In the markup to show sections and rows are opened in a table, and cells in a row. -/
theorem enclosed_of_opening {c : Cleaner} {input name body raw : Text} {selfClosing : Bool}
    {before after : List Token}
    (h : tokens (c.clean input).html = before ++ .opening name body selfClosing raw :: after) :
    (name ∈ ["thead", "tbody", "tfoot", "tr"].map String.toList →
        "table".toList ∈ openBehind before) ∧
      (name ∈ ["td", "th"].map String.toList → "tr".toList ∈ openBehind before) := by
  obtain ⟨ps, hhtml, hnested, -⟩ := c.exists_pieces input
  have henclosed := hnested.enclosed []
  rw [← hnested.tokens_html, ← hhtml, h, enclosed_append] at henclosed
  have hancestor := henclosed.2.1
  exact ⟨fun hn => hancestor _ (requiredAncestor?_of_mem_table name hn),
    fun hn => hancestor _ (requiredAncestor?_of_mem_row name hn)⟩

theorem enclosed_of_row :
    tokens (Cleaner.standard.clean "<tr><table><tr>".toList).html =
      [.opening "table".toList [] false "<table>".toList] ++
        .opening "tr".toList [] false "<tr>".toList ::
          [.closing "tr".toList "</tr>".toList, .closing "table".toList "</table>".toList] ∧
      "table".toList ∈ openBehind [.opening "table".toList [] false "<table>".toList] := by
  have h : tokens (Cleaner.standard.clean "<tr><table><tr>".toList).html =
      [.opening "table".toList [] false "<table>".toList] ++
        .opening "tr".toList [] false "<tr>".toList ::
          [.closing "tr".toList "</tr>".toList, .closing "table".toList "</table>".toList] := by
    decide +kernel
  exact ⟨h, (enclosed_of_opening h).1 (by decide)⟩

end CleanMarkup

import CleanMarkup.Proofs.Counting
import CleanMarkup.Proofs.Pieces

/-!
# Nested pieces

Pieces are nested if every closing tag closes the innermost open tag and every opening tag may
stand where it does (`Nested`). Closing what is open inside a name keeps pieces nested
(`Nested.closings`), and so does a tag that closes itself, however it is written
(`Nested.writtenTag`).
-/

namespace CleanMarkup

namespace Cleaner

/-- A tag of this name can be open. -/
structure CanBeOpen (c : Cleaner) (name : Text) : Prop where
  named : IsName isTagChar name
  allowed : c.policy.classify name = .allowed
  hasEnd : isVoid name = false

/-- A tag with these attributes may be written inside the open ones. -/
structure MayStand (c : Cleaner) (opened : List Text) (name : Text)
    (attributes : List Attribute) : Prop where
  named : IsName isTagChar name
  allowed : c.policy.classify name = .allowed
  ancestor : ∀ a ∈ requiredAncestor? name, a ∈ opened
  /-- The attributes are left of a body, which has an address if the tag needs one. -/
  source : ∃ body, attributes = c.attributeFilter.survivors name body ∧
    (requiresUrl name = true → (c.attributeFilter.filter name body).foundUrl = true)

theorem MayStand.isNeat {c : Cleaner} {opened : List Text} {name : Text}
    {attributes : List Attribute} (h : c.MayStand opened name attributes) :
    ∀ a ∈ attributes, a.IsNeat := by
  obtain ⟨body, rfl, -⟩ := h.source
  exact fun a ha => AttributeFilter.isNeat_of_mem_survivors ha

/-- The pieces that a tag is written in: one that closes itself and has an end is closed. -/
def writtenTag (name : Text) (attributes : List Attribute) (selfClosing : Bool) : List Piece :=
  if !selfClosing then [.opening name attributes false]
  else if isVoid name then [.opening name attributes true]
  else [.opening name attributes false, .closing name]

theorem html_writtenTag (name : Text) (attributes : List Attribute) (selfClosing : Bool) :
    (writtenTag name attributes selfClosing).flatMap Piece.html =
      writeOpening name (attributes.flatMap Attribute.write) selfClosing := by
  unfold writtenTag writeOpening
  split_ifs
  · simp [Piece.html, Piece.body]
  · simp [Piece.html, Piece.body]
  · simp [Piece.html, Piece.body, writeClosing]

end Cleaner

/-- The pieces lead from some open tags to others, innermost first. -/
inductive Nested (c : Cleaner) : List Text → List Piece → List Text → Prop
  | nil (opened : List Text) : Nested c opened [] opened
  | text {opened left : List Text} {ps : List Piece} (s : Text) :
    Nested c opened ps left → Nested c opened (.text s :: ps) left
  | void {opened left : List Text} {ps : List Piece} {name : Text} {attributes : List Attribute}
      (slash : Bool) :
    c.MayStand opened name attributes → isVoid name = true → Nested c opened ps left →
      Nested c opened (.opening name attributes slash :: ps) left
  | opening {opened left : List Text} {ps : List Piece} {name : Text}
      {attributes : List Attribute} :
    c.MayStand opened name attributes → isVoid name = false → Nested c (name :: opened) ps left →
      Nested c opened (.opening name attributes false :: ps) left
  | closing {opened left : List Text} {ps : List Piece} {name : Text} :
    c.CanBeOpen name → Nested c opened ps left →
      Nested c (name :: opened) (.closing name :: ps) left

namespace Nested

variable {c : Cleaner} {opened left : List Text} {ps : List Piece}

theorem append {further : List Text} {qs : List Piece} (h : Nested c opened ps left)
    (hq : Nested c left qs further) : Nested c opened (ps ++ qs) further := by
  induction h with
  | nil => exact hq
  | text s _ ih => exact .text s (ih hq)
  | void slash hs hv _ ih => exact .void slash hs hv (ih hq)
  | opening hs hv _ ih => exact .opening hs hv (ih hq)
  | closing ho _ ih => exact .closing ho (ih hq)

theorem closings (opened : List Text) {inside : List Text}
    (h : ∀ name ∈ inside, c.CanBeOpen name) :
    Nested c (inside ++ opened) (inside.map .closing) opened := by
  induction inside with
  | nil => exact .nil opened
  | cons name inside ih =>
    exact .closing (h name List.mem_cons_self) (ih fun m hm => h m (List.mem_cons_of_mem name hm))

theorem writtenTag {name : Text} {attributes : List Attribute}
    (h : c.MayStand opened name attributes) (selfClosing : Bool) :
    Nested c opened (Cleaner.writtenTag name attributes selfClosing)
      (if selfClosing || isVoid name then opened else name :: opened) := by
  unfold Cleaner.writtenTag
  rcases hv : isVoid name
  · rcases selfClosing
    · exact .opening h hv (.nil _)
    · exact .opening h hv (.closing ⟨h.named, h.allowed, hv⟩ (.nil _))
  · rcases selfClosing
    · exact .void false h hv (.nil _)
    · exact .void true h hv (.nil _)

theorem isSound (h : Nested c opened ps left) : ∀ p ∈ ps, p.IsSound := by
  induction h with
  | nil => simp
  | text s _ ih => exact List.forall_mem_cons.2 ⟨trivial, ih⟩
  | void slash hs _ _ ih => exact List.forall_mem_cons.2 ⟨⟨hs.named, hs.isNeat⟩, ih⟩
  | opening hs _ _ ih => exact List.forall_mem_cons.2 ⟨⟨hs.named, hs.isNeat⟩, ih⟩
  | closing ho _ ih => exact List.forall_mem_cons.2 ⟨ho.named, ih⟩

/-- The tokens of nested pieces are read piece by piece. -/
theorem tokens_html (h : Nested c opened ps left) :
    tokens (ps.flatMap Piece.html) = Piece.tokensBehind [] ps :=
  Piece.tokens_pieces (e := []) List.not_mem_nil h.isSound

/-- A token of nested pieces behind some text is encoded text or one of the tags. -/
theorem mem_tokensBehind (h : Nested c opened ps left) {e : Text}
    (he : ∀ d ∈ e, isMarkupChar d = false) {t : Token} (ht : t ∈ Piece.tokensBehind e ps) :
    (∃ raw, t = .text raw ∧ ∀ d ∈ raw, isMarkupChar d = false) ∨
      (∃ opened name attributes slash raw,
        t = .opening name (Piece.body attributes slash) slash raw ∧
          c.MayStand opened name attributes) ∨
        ∃ name raw, t = .closing name raw ∧ c.CanBeOpen name := by
  have htext : ∀ {e : Text} {ts : List Token}, t ∈ textTokens e ++ ts → t = .text e ∨ t ∈ ts := by
    intro e ts hm
    refine (List.mem_append.1 hm).imp_left fun hm => ?_
    unfold textTokens at hm
    split_ifs at hm
    · exact absurd hm List.not_mem_nil
    · exact List.mem_singleton.1 hm
  induction h generalizing e with
  | nil =>
    rcases htext (List.mem_append_left [] ht) with rfl | hm
    · exact .inl ⟨e, rfl, he⟩
    · exact absurd hm List.not_mem_nil
  | text s _ ih =>
    exact ih (List.forall_mem_append.2 ⟨he, fun d hd => Text.isMarkupChar_of_mem_encode hd⟩) ht
  | void slash hs _ _ ih =>
    rcases htext ht with rfl | ht
    · exact .inl ⟨e, rfl, he⟩
    · rcases List.mem_cons.1 ht with rfl | ht
      · exact .inr (.inl ⟨_, _, _, slash, _, rfl, hs⟩)
      · exact ih (by simp) ht
  | opening hs _ _ ih =>
    rcases htext ht with rfl | ht
    · exact .inl ⟨e, rfl, he⟩
    · rcases List.mem_cons.1 ht with rfl | ht
      · exact .inr (.inl ⟨_, _, _, false, _, rfl, hs⟩)
      · exact ih (by simp) ht
  | closing ho _ ih =>
    rcases htext ht with rfl | ht
    · exact .inl ⟨e, rfl, he⟩
    · rcases List.mem_cons.1 ht with rfl | ht
      · exact .inr (.inr ⟨_, _, rfl, ho⟩)
      · exact ih (by simp) ht

end Nested

end CleanMarkup

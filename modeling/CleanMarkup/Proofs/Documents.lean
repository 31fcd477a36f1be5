import CleanMarkup.Proofs.Unchanged
import CleanMarkup.Shorthand

/-!
# Documents that are clean

A document is text without markup characters, tags without an end and elements with documents
inside, where every tag is allowed, stands in the element it belongs in and has canonical
attributes. Cleaning leaves documents as they are and finds no violation in them
(`clean_document`).
-/

namespace CleanMarkup

/-- A tag with these attributes may stand inside some elements, and is kept as it is. -/
structure Cleaner.Welcomes (c : Cleaner) (outer : List Text) (name : Text)
    (attributes : List Attribute) : Prop where
  named : IsName isTagChar name
  allowed : c.policy.classify name = .allowed
  ancestor : ∀ a ∈ requiredAncestor? name, a ∈ outer
  canonical : ∀ a ∈ attributes, c.attributeFilter.IsCanonical name a
  /-- A tag that needs an address has one. -/
  address : requiresUrl name = true → ∃ a ∈ attributes, (Rule.of name a.name).action = .requireUrl

/-- The markup of documents inside some elements, innermost first. -/
inductive IsDocument (c : Cleaner) : List Text → Text → Prop
  | nothing (outer : List Text) : IsDocument c outer []
  | text {outer : List Text} {s rest : Text} :
    (∀ d ∈ s, isMarkupChar d = false) → IsDocument c outer rest → IsDocument c outer (s ++ rest)
  | void {outer : List Text} {name rest : Text} {attributes : List Attribute} (slash : Bool) :
    c.Welcomes outer name attributes → isVoid name = true → IsDocument c outer rest →
      IsDocument c outer ('<' :: name ++ attributes.flatMap Attribute.write ++
        (if slash then ['/', '>'] else ['>']) ++ rest)
  | element {outer : List Text} {name content rest : Text} {attributes : List Attribute} :
    c.Welcomes outer name attributes → isVoid name = false →
      IsDocument c (name :: outer) content → IsDocument c outer rest →
        IsDocument c outer ('<' :: name ++ attributes.flatMap Attribute.write ++ ['>'] ++
          content ++ '<' :: '/' :: name ++ ['>'] ++ rest)

variable {c : Cleaner}

theorem Cleaner.Welcomes.mayStand {outer : List Text} {name : Text} {attributes : List Attribute}
    (h : c.Welcomes outer name attributes) : c.MayStand outer name attributes where
  named := h.named
  allowed := h.allowed
  ancestor := h.ancestor
  source := ⟨Piece.body attributes false,
    (AttributeFilter.survivors_canonical h.canonical false).symm, fun hr =>
      AttributeFilter.foundUrl_canonical h.canonical false (h.address hr)⟩

/-- A document is put together from nested canonical pieces. -/
theorem IsDocument.exists_pieces {outer : List Text} {x : Text} (h : IsDocument c outer x) :
    ∃ ps, x = ps.flatMap Piece.html ∧ Nested c outer ps outer ∧ ∀ p ∈ ps, p.IsCanonical c := by
  induction h with
  | nothing outer => exact ⟨[], rfl, .nil outer, by simp⟩
  | @text outer s rest hs _ ih =>
    obtain ⟨ps, rfl, hnested, hps⟩ := ih
    refine ⟨.text s :: ps, ?_, .text s hnested, List.forall_mem_cons.2 ⟨trivial, hps⟩⟩
    rw [List.flatMap_cons, Piece.html, Text.encode_eq_self hs]
  | @void outer name rest attributes slash hw hv _ ih =>
    obtain ⟨ps, rfl, hnested, hps⟩ := ih
    refine ⟨.opening name attributes slash :: ps, ?_, .void slash hw.mayStand hv hnested,
      List.forall_mem_cons.2 ⟨⟨hw.canonical, hw.address⟩, hps⟩⟩
    rcases slash
    · simp [Piece.html, Piece.body]
    · simp [Piece.html, Piece.body]
  | @element outer name content rest attributes hw hv _ _ ihcontent ihrest =>
    obtain ⟨ps, rfl, hinside, hps⟩ := ihcontent
    obtain ⟨qs, rfl, hbehind, hqs⟩ := ihrest
    have hopen : c.CanBeOpen name := ⟨hw.named, hw.allowed, hv⟩
    refine ⟨.opening name attributes false :: (ps ++ .closing name :: qs), ?_,
      .opening hw.mayStand hv (hinside.append (.closing hopen hbehind)),
      List.forall_mem_cons.2 ⟨⟨hw.canonical, hw.address⟩,
        List.forall_mem_append.2 ⟨hps, List.forall_mem_cons.2 ⟨trivial, hqs⟩⟩⟩⟩
    simp [Piece.html, Piece.body, Cleaner.writeClosing]

/-- A document is left as it is, and is valid. -/
theorem clean_document {x : Text} (h : IsDocument c [] x) :
    (c.clean x).html = x ∧ (c.clean x).val = x ∧ (c.clean x).isValid = true := by
  obtain ⟨ps, rfl, hnested, hps⟩ := h.exists_pieces
  have hs : Situation.IsSound c {} := ⟨.nothing, by simp⟩
  have hcanonical := Cleaner.putsOut_canonical hnested hps hs rfl rfl
  rw [← hnested.tokens_html, ← Cleaner.events_eq_eventsFrom] at hcanonical
  obtain ⟨hout, hviolated⟩ := hcanonical
  refine ⟨?_, ?_, (c.isValid_clean _).2 hviolated⟩
  · rw [Cleaner.html_clean, ← Cleaner.events_eq_eventsFrom, hout.shown]
  · rw [c.val_clean, hout.stored]

/-- A paragraph with a style and a link that holds a line break is left as it is. -/
theorem clean_paragraph :
    (Cleaner.standard.clean
        "<p style=\"color:red;\"><a href=\"http://a.b\">c<br/></a></p>".toList).html =
      "<p style=\"color:red;\"><a href=\"http://a.b\">c<br/></a></p>".toList ∧
    (Cleaner.standard.clean
        "<p style=\"color:red;\"><a href=\"http://a.b\">c<br/></a></p>".toList).val =
      "<p style=\"color:red;\"><a href=\"http://a.b\">c<br/></a></p>".toList ∧
    (Cleaner.standard.clean
        "<p style=\"color:red;\"><a href=\"http://a.b\">c<br/></a></p>".toList).isValid = true := by
  have hred : (⟨"color".toList, "red".toList⟩ : Declaration).IsCanonical
      Cleaner.standard.check Cleaner.standard.settings.schemes :=
    { name := by decide
      value := by decide
      trimmed := by decide
      ne_nil := by decide
      plain := by simp [isLineBreak]
      judged := by decide +kernel }
  have hparagraph : Cleaner.standard.Welcomes [] "p".toList
      [⟨"style".toList, "color:red;".toList⟩] :=
    { named := by decide
      allowed := by decide +kernel
      ancestor := by decide
      canonical := List.forall_mem_singleton.2 ⟨by decide,
        [⟨"color".toList, "red".toList⟩], rfl, List.forall_mem_singleton.2 hred⟩
      address := by decide }
  have hlink : Cleaner.standard.Welcomes ["p".toList] "a".toList
      [⟨"href".toList, "http://a.b".toList⟩] :=
    { named := by decide
      allowed := by decide +kernel
      ancestor := by decide
      canonical := List.forall_mem_singleton.2 ⟨by decide,
        .inl (by decide +kernel), by decide⟩
      address := by decide }
  have hbreak : Cleaner.standard.Welcomes ["a".toList, "p".toList] "br".toList [] :=
    { named := by decide
      allowed := by decide +kernel
      ancestor := by decide
      canonical := by simp
      address := by decide }
  have hcontent : IsDocument Cleaner.standard ["a".toList, "p".toList] ("c".toList ++ _) :=
    .text (by simp [isMarkupChar]) (.void true hbreak (by decide) (.nothing _))
  exact clean_document (.element hparagraph (by decide)
    (.element hlink (by decide) hcontent (.nothing _)) (.nothing _))

end CleanMarkup

import CleanMarkup.Proofs.Leading
import CleanMarkup.Proofs.Settling

/-!
# Cleaning once more

The markup to show is put together from nested pieces, and each of its tags has the address that it
needs (`Nested.isAddressed`). So when it is cleaned the same pieces are put out, with the attributes
that survive (`Piece.putsOut_taken`), and these are settled (`html_clean_pieces`).
-/

namespace CleanMarkup

/-- The events put the same text out to be shown and to be stored. -/
structure PutsOut (es : List Event) (s : Text) : Prop where
  shown : shown es = s
  stored : stored es = s

namespace PutsOut

variable {es fs : List Event} {s t : Text}

theorem append (h : PutsOut es s) (k : PutsOut fs t) : PutsOut (es ++ fs) (s ++ t) where
  shown := by rw [shown_append, h.shown, k.shown]
  stored := by rw [stored_append, h.stored, k.stored]

theorem token (h : PutsOut es s) (t : Token) : PutsOut (.token t :: es) s :=
  ⟨h.shown, h.stored⟩

theorem markup (s : Text) : PutsOut (markup s) s :=
  ⟨shown_markup s, stored_markup s⟩

theorem plainText {e : Text} (he : ∀ d ∈ e, isMarkupChar d = false) :
    PutsOut (Cleaner.plainText e) e := by
  have hencode := Text.encode_eq_self he
  refine ⟨?_, ?_⟩
  · simp [CleanMarkup.shown, Cleaner.plainText, hencode]
  · simp [CleanMarkup.stored, Cleaner.plainText]

end PutsOut

namespace Piece

/-- The piece with the attributes that survive. -/
def filtered (c : Cleaner) : Piece → Piece
  | opening name attributes slash =>
    opening name (c.attributeFilter.survivors name (body attributes slash)) slash
  | p => p

/-- What a piece becomes when it is cleaned again. -/
def settled : Piece → Piece
  | opening name attributes slash => opening name (attributes.map Attribute.settled) slash
  | p => p

variable {c : Cleaner}

/-- Pieces that are taken are put out with the attributes that survive. -/
theorem putsOut_taken (ps : List Piece) :
    PutsOut (ps.flatMap fun p => c.taken p.token) (ps.flatMap fun p => (p.filtered c).html) := by
  induction ps with
  | nil => exact ⟨rfl, rfl⟩
  | cons p ps ih =>
    refine .append ?_ ih
    cases p with
    | text s => exact (PutsOut.plainText fun d hd => Text.isMarkupChar_of_mem_encode hd).token _
    | opening name attributes slash =>
      have hfilter : PutsOut (c.attributeFilter.filter name (body attributes slash)).events [] :=
        ⟨shown_filter _ _ _, stored_eq_nil (c.attributeFilter.isSilent_filter _ _)⟩
      exact (hfilter.append (.markup _)).token _
    | closing name => exact (PutsOut.markup _).token _

end Piece

theorem Nested.exists_mayStand {c : Cleaner} {opened left : List Text} {ps : List Piece}
    (h : Nested c opened ps left) {name : Text} {attributes : List Attribute} {slash : Bool}
    (hp : .opening name attributes slash ∈ ps) : ∃ outer, c.MayStand outer name attributes := by
  induction h with
  | nil => exact absurd hp List.not_mem_nil
  | text _ _ ih => exact ih (List.mem_of_ne_of_mem (by simp) hp)
  | void _ hstand _ _ ih =>
    rcases List.mem_cons.1 hp with heq | hp
    · obtain ⟨rfl, rfl, -⟩ := Piece.opening.inj heq
      exact ⟨_, hstand⟩
    · exact ih hp
  | opening hstand _ _ ih =>
    rcases List.mem_cons.1 hp with heq | hp
    · obtain ⟨rfl, rfl, -⟩ := Piece.opening.inj heq
      exact ⟨_, hstand⟩
    · exact ih hp
  | closing _ _ ih => exact ih (List.mem_of_ne_of_mem (by simp) hp)

namespace Cleaner

variable {c : Cleaner}

/-- The attributes of a tag that may stand survive once more. -/
theorem survivors_again (hcheck : c.check.IsPlain) {opened : List Text} {name : Text}
    {attributes : List Attribute} (h : c.MayStand opened name attributes) (slash : Bool) :
    c.attributeFilter.survivors name (Piece.body attributes slash) =
      attributes.map Attribute.settled := by
  have hagain : ∀ b ∈ attributes,
      c.attributeFilter.survivor? name b = some b.settled := by
    obtain ⟨source, rfl, -⟩ := h.source
    intro b hb
    obtain ⟨a, -, ha⟩ := List.mem_filterMap.1 hb
    exact AttributeFilter.survivor?_survivor hcheck ha
  unfold AttributeFilter.survivors
  rw [Piece.all_body h.isNeat, List.filterMap_congr hagain]
  exact congrFun List.filterMap_eq_map attributes

/-- A tag that may stand and needs an address has one in the body that is written for it. -/
theorem foundUrl_again (hcheck : c.check.IsPlain) {opened : List Text} {name : Text}
    {attributes : List Attribute} (h : c.MayStand opened name attributes) (slash : Bool)
    (hr : requiresUrl name = true) :
    (c.attributeFilter.filter name (Piece.body attributes slash)).foundUrl = true := by
  rw [AttributeFilter.foundUrl_filter, Piece.all_body h.isNeat]
  obtain ⟨source, rfl, hfound⟩ := h.source
  obtain ⟨a, ha, haction, hp⟩ := (AttributeFilter.foundUrl_filter _ _ _).1 (hfound hr)
  have hsurvivor := c.attributeFilter.survivor?_address haction
  rw [if_pos hp] at hsurvivor
  refine ⟨_, List.mem_filterMap.2 ⟨a, ha, hsurvivor⟩, haction, ?_⟩
  exact AttributeFilter.accepts_iff.2 ((AttributeFilter.accepts_iff.1 hp).encodeAttribute hcheck)

end Cleaner

section Again

variable {c : Cleaner} (hcheck : c.check.IsPlain) {opened left : List Text} {ps : List Piece}

include hcheck

/-- The tags of nested pieces have the addresses that they need. -/
theorem Nested.isAddressed (h : Nested c opened ps left) : ∀ p ∈ ps, p.IsAddressed c := by
  intro p hp
  match p with
  | .opening name attributes slash =>
    obtain ⟨outer, hstand⟩ := h.exists_mayStand hp
    exact Cleaner.foundUrl_again hcheck hstand slash
  | .text _ | .closing _ => trivial

theorem Nested.filtered_eq (h : Nested c opened ps left) :
    ∀ p ∈ ps, p.filtered c = p.settled := by
  intro p hp
  match p with
  | .opening name attributes slash =>
    obtain ⟨outer, hstand⟩ := h.exists_mayStand hp
    exact congrArg (Piece.opening name · slash) (Cleaner.survivors_again hcheck hstand slash)
  | .text _ | .closing _ => rfl

/-- Nested pieces are put out again, with settled attributes. -/
theorem Cleaner.html_clean_pieces (h : Nested c [] ps []) :
    (c.clean (ps.flatMap Piece.html)).html = ps.flatMap fun p => p.settled.html := by
  rw [html_clean, ← events_eq_eventsFrom, (h.sameEffect_events (h.isAddressed hcheck)).shown,
    (Piece.putsOut_taken ps).shown]
  exact List.flatMap_congr fun p hp => by rw [h.filtered_eq hcheck p hp]

end Again

end CleanMarkup

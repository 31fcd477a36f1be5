import CleanMarkup.Proofs.Emission
import CleanMarkup.Proofs.Segments
import CleanMarkup.Proofs.Stored

/-!
# Markup that leads on

Markup leads from one situation to another if all that stands behind it is cleaned as in the other
situation, with the same outputs and violations (`Cleaner.Leads`). Text without `<` leads nowhere,
although text behind it becomes one token with it (`leads_text`); a span that is whole leads where
its token does (`leads_of_isWhole`); nested pieces lead from the tags that are open before them to
those that are open after them, if their tags have the addresses that they need (`Nested.leads`).
-/

namespace CleanMarkup

/-- The events put the same out to be shown and to be stored, and find the same violations. -/
structure SameEffect (es fs : List Event) : Prop where
  shown : shown es = shown fs
  stored : stored es = stored fs
  violated : violated es = violated fs

namespace SameEffect

variable {es fs gs hs : List Event}

theorem refl (es : List Event) : SameEffect es es := ⟨rfl, rfl, rfl⟩

theorem symm (h : SameEffect es fs) : SameEffect fs es :=
  ⟨h.shown.symm, h.stored.symm, h.violated.symm⟩

theorem trans (h : SameEffect es fs) (k : SameEffect fs gs) : SameEffect es gs :=
  ⟨h.shown.trans k.shown, h.stored.trans k.stored, h.violated.trans k.violated⟩

theorem append (h : SameEffect es fs) (k : SameEffect gs hs) :
    SameEffect (es ++ gs) (fs ++ hs) where
  shown := by rw [shown_append, shown_append, h.shown, k.shown]
  stored := by rw [stored_append, stored_append, h.stored, k.stored]
  violated := by rw [violated_append, violated_append, h.violated, k.violated]

end SameEffect

/-- Tags are met in the situation, and those that are open have these names. -/
structure Situation.IsAt (c : Cleaner) (s : Situation) (opened : List Text) : Prop where
  sound : s.IsSound c
  meeting : s.skipping = none
  names : s.openTags.names = opened

theorem Situation.isAt_start (c : Cleaner) : Situation.IsAt c {} [] :=
  ⟨⟨.nothing, by simp⟩, rfl, rfl⟩

/-- Where nothing is open, all is as at the start. -/
theorem Situation.IsAt.eq_start {c : Cleaner} {s : Situation} (h : s.IsAt c []) : s = {} := by
  obtain ⟨⟨names, ⟨entries⟩⟩, skipping⟩ := s
  obtain rfl : names = [] := h.names
  obtain rfl : skipping = none := h.meeting
  have hcounts := h.sound.counted.counts
  rcases entries with _ | ⟨⟨key, n⟩, entries⟩
  · rfl
  · have hkey := hcounts key
    simp [Tally.find?] at hkey

theorem Situation.IsAt.push {c : Cleaner} {s : Situation} {opened : List Text} (h : s.IsAt c opened)
    {name : Text} (hopen : c.CanBeOpen name) :
    Situation.IsAt c { s with openTags := s.openTags.push name } (name :: opened) where
  sound := ⟨h.sound.counted.push name, List.forall_mem_cons.2 ⟨hopen, h.sound.openable⟩⟩
  meeting := h.meeting
  names := congrArg (name :: ·) h.names

namespace Cleaner

/-- The events of a token that is put out, whatever it stands in. -/
def taken (c : Cleaner) (t : Token) : List Event :=
  .token t :: match t with
    | .comment raw => comment raw
    | .text raw => plainText raw
    | .opening name body slash _ => (c.attributeFilter.filter name body).events ++
        markup (Piece.html (.opening name (c.attributeFilter.survivors name body) slash))
    | .closing name _ => markup (writeClosing name)

/-- The markup leads from one situation to another with these events, up to where text is cut. -/
def Leads (c : Cleaner) (s : Situation) (h : Text) (es : List Event) (t : Situation) : Prop :=
  ∀ r, SameEffect (c.eventsFrom s (tokens (h ++ r))) (es ++ c.eventsFrom t (tokens r))

variable {c : Cleaner} {s t u : Situation} {h k : Text} {es fs : List Event}

theorem leads_nil (s : Situation) : c.Leads s [] [] s := fun _ => .refl _

theorem Leads.append (hl : c.Leads s h es t) (kl : c.Leads t k fs u) :
    c.Leads s (h ++ k) (es ++ fs) u := by
  intro r
  rw [List.append_assoc, List.append_assoc]
  exact (hl (k ++ r)).trans (.append (.refl es) (kl r))

theorem leads_of_tokens {token : Token} (htokens : ∀ r, tokens (h ++ r) = token :: tokens r)
    (hstep : c.step s token = (t, es)) : c.Leads s h es t := by
  intro r
  rw [htokens, eventsFrom, hstep]
  exact .refl _

theorem leads_of_isWhole {v : Text} (hv : Span.IsWhole v)
    (hstep : c.step s (Token.ofSpan v) = (t, es)) : c.Leads s v es t := by
  refine leads_of_tokens (fun r => ?_) hstep
  rw [tokens, (hv r).spans, List.map_cons, tokens]

section Text

theorem step_taken_text (hskip : s.skipping = none) (raw : Text) :
    c.step s (.text raw) = (s, c.taken (.text raw)) := by
  rw [step_of_meeting hskip]
  rfl

theorem step_taken_comment (hskip : s.skipping = none) (raw : Text) :
    c.step s (.comment raw) = (s, c.taken (.comment raw)) := by
  rw [step_of_meeting hskip]
  rfl

theorem eventsFrom_textTokens (hskip : s.skipping = none) (e : Text) (ts : List Token) :
    c.eventsFrom s (textTokens e ++ ts) = (textTokens e).flatMap c.taken ++ c.eventsFrom s ts := by
  unfold textTokens
  split_ifs
  · rfl
  · rw [List.singleton_append, eventsFrom, step_taken_text hskip, List.flatMap_singleton]

theorem sameEffect_textTokens (e : Text) :
    SameEffect ((textTokens e).flatMap c.taken) (c.taken (.text e)) := by
  unfold textTokens
  split_ifs with he
  · rw [he]
    exact ⟨rfl, rfl, rfl⟩
  · rw [List.flatMap_singleton]
    exact .refl _

theorem sameEffect_text_append (e f : Text) :
    SameEffect (c.taken (.text (e ++ f))) (c.taken (.text e) ++ c.taken (.text f)) where
  shown := by simp [CleanMarkup.shown, taken, plainText, Text.encode_append]
  stored := by simp [CleanMarkup.stored, taken, plainText]
  violated := rfl

/-- Text without `<` is put out, whatever follows. -/
theorem leads_text (hskip : s.skipping = none) {e : Text} (he : '<' ∉ e) :
    c.Leads s e (c.taken (.text e)) s := by
  intro r
  have hr := tokens_text (e := []) List.not_mem_nil r
  rw [List.nil_append] at hr
  rw [tokens_text he, hr, eventsFrom_textTokens hskip, List.nil_append,
    eventsFrom_textTokens hskip, ← List.append_assoc]
  refine .append ?_ (.refl _)
  refine (sameEffect_textTokens _).trans ((sameEffect_text_append _ _).trans ?_)
  exact .append (.refl _) (sameEffect_textTokens _).symm

theorem leads_encode (hskip : s.skipping = none) (e : Text) :
    c.Leads s e.encode (c.taken (.text e.encode)) s :=
  leads_text hskip fun hm => by simpa [isMarkupChar] using Text.isMarkupChar_of_mem_encode hm

end Text

section Tags

/-- A tag inside the tag that it belongs in, with an address if it needs one, is admitted. -/
theorem admits_of_ancestor (hs : s.IsSound c) {name body : Text}
    (hancestor : ∀ a ∈ requiredAncestor? name, a ∈ s.openTags.names)
    (hurl : requiresUrl name = true → (c.attributeFilter.filter name body).foundUrl = true) :
    c.admits s name body = true := by
  have hopen : (requiredAncestor? name).all (s.openTags.contains ·) = true := by
    rcases hr : requiredAncestor? name with _ | a
    · rfl
    · exact (hs.counted.contains_iff a).2 (hancestor a hr)
  unfold admits
  rw [hopen, Bool.true_and, Bool.or_eq_true, Bool.not_eq_true']
  rcases hr : requiresUrl name
  · exact .inl rfl
  · exact .inr (hurl hr)

/-- Meeting an admitted tag that has a slash only if it has no end. -/
theorem step_admitted (hskip : s.skipping = none) {name body : Text}
    (ha : c.policy.classify name = .allowed) (h : c.admits s name body = true) (slash : Bool)
    (hslash : slash = false ∨ isVoid name = true) (raw : Text) :
    c.step s (.opening name body slash raw) =
      (if isVoid name then s else { s with openTags := s.openTags.push name },
        c.taken (.opening name body slash raw)) := by
  have hwritten : ∀ as, writtenTag name as slash = [.opening name as slash] := by
    intro as
    unfold writtenTag
    rcases hslash with rfl | hv
    · rfl
    · rcases slash
      · rfl
      · simp [hv]
  have hclosed : (slash || isVoid name) = isVoid name := by
    rcases hslash with rfl | hv
    · rfl
    · rw [hv, Bool.or_true]
  rw [step_of_meeting hskip]
  simp only [meet]
  rw [opening_of_admits ha h, hclosed, AttributeFilter.rendered_filter, ← html_writtenTag,
    hwritten, List.flatMap_singleton]
  rfl

/-- The closing tag of the innermost open tag closes that. -/
theorem step_innermost {name : Text} {opened : List Text} (hs : s.IsAt c (name :: opened)) :
    ∃ t, t.IsAt c opened ∧
      ∀ raw, c.step s (.closing name raw) = (t, c.taken (.closing name raw)) := by
  have hopen : ∀ m ∈ name :: opened, c.CanBeOpen m := hs.names ▸ hs.sound.openable
  have hsplit : s.openTags.names = [] ++ name :: opened := hs.names
  obtain ⟨rest, hclose, hrest, hcounted⟩ :=
    OpenTags.closeThrough?_eq_some hs.sound.counted hsplit List.not_mem_nil
  have hclosing : ∀ raw, c.closing s name raw =
      ({ s with openTags := rest }, markup (writeClosing name)) := by
    intro raw
    unfold closing
    simp only [(hopen name List.mem_cons_self).hasEnd, (hopen name List.mem_cons_self).allowed,
      hclose, Bool.false_eq_true, ↓reduceIte, List.nil_append, List.flatMap_singleton]
  refine ⟨{ s with openTags := rest }, ⟨⟨hcounted, ?_⟩, hs.meeting, hrest⟩, fun raw => ?_⟩
  · simp only [hrest]
    exact fun m hm => hopen m (List.mem_cons_of_mem name hm)
  · rw [step_of_meeting hs.meeting]
    simp only [meet, hclosing]
    rfl

theorem isSound_step (hs : s.IsSound c) {t : Token} (ht : t.IsNamed) :
    (c.step s t).1.IsSound c := by
  obtain ⟨ps, hps, -⟩ := shows_step hs ht
  exact hps.sound

end Tags

end Cleaner

namespace Piece

/-- The piece as a token. -/
def token : Piece → Token
  | text s => .text s.encode
  | opening name attributes slash =>
    .opening name (body attributes slash) slash (html (opening name attributes slash))
  | closing name => .closing name (html (closing name))

/-- The piece needs no address or has one. -/
def IsAddressed (c : Cleaner) : Piece → Prop
  | opening name attributes slash => requiresUrl name = true →
      (c.attributeFilter.filter name (body attributes slash)).foundUrl = true
  | text _ | closing _ => True

end Piece

section Nesting

open Cleaner

variable {c : Cleaner} {ps : List Piece}

/-- Nested pieces lead to the tags that they leave open, and are all put out, if they have the
addresses that they need. -/
theorem Nested.leads {opened left : List Text} (h : Nested c opened ps left)
    (hps : ∀ p ∈ ps, p.IsAddressed c) {s : Situation} (hs : s.IsAt c opened) :
    ∃ t, t.IsAt c left ∧
      c.Leads s (ps.flatMap Piece.html) (ps.flatMap fun p => c.taken p.token) t := by
  -- over the pieces, from any situation in which the right tags are open
  induction h generalizing s with
  | nil opened => exact ⟨s, hs, leads_nil s⟩
  | text e _ ih =>
    obtain ⟨t, ht, hleads⟩ := ih (List.forall_mem_cons.1 hps).2 hs
    exact ⟨t, ht, (leads_encode hs.meeting e).append hleads⟩
  | void slash hstand hv _ ih =>
    obtain ⟨haddress, hps⟩ := List.forall_mem_cons.1 hps
    have hadmits := admits_of_ancestor hs.sound (hs.names ▸ hstand.ancestor) haddress
    have hstep := step_admitted hs.meeting hstand.allowed hadmits slash (.inr hv)
    rw [if_pos hv] at hstep
    obtain ⟨t, ht, hleads⟩ := ih hps hs
    have htag := leads_of_tokens (Piece.tokens_opening ⟨hstand.named, hstand.isNeat⟩) (hstep _)
    exact ⟨t, ht, htag.append hleads⟩
  | opening hstand hv _ ih =>
    obtain ⟨haddress, hps⟩ := List.forall_mem_cons.1 hps
    have hadmits := admits_of_ancestor hs.sound (hs.names ▸ hstand.ancestor) haddress
    have hstep := step_admitted hs.meeting hstand.allowed hadmits false (.inl rfl)
    rw [if_neg (by simp [hv])] at hstep
    obtain ⟨t, ht, hleads⟩ := ih hps (hs.push ⟨hstand.named, hstand.allowed, hv⟩)
    have htag := leads_of_tokens (Piece.tokens_opening ⟨hstand.named, hstand.isNeat⟩) (hstep _)
    exact ⟨t, ht, htag.append hleads⟩
  | closing hopen _ ih =>
    obtain ⟨u, hu, hstep⟩ := step_innermost hs
    obtain ⟨t, ht, hleads⟩ := ih (List.forall_mem_cons.1 hps).2 hu
    have htag := leads_of_tokens (Piece.tokens_closing hopen.named) (hstep _)
    exact ⟨t, ht, htag.append hleads⟩

/-- Markup that leads back to the start has no effect on what stands behind it. -/
theorem Cleaner.Leads.sameEffect_events {h : Text} {es : List Event}
    (hl : c.Leads {} h es {}) (y : Text) : SameEffect (c.events (h ++ y)) (es ++ c.events y) := by
  rw [events_eq_eventsFrom, events_eq_eventsFrom]
  exact hl y

theorem Nested.leads_back (h : Nested c [] ps []) (hps : ∀ p ∈ ps, p.IsAddressed c) :
    c.Leads {} (ps.flatMap Piece.html) (ps.flatMap fun p => c.taken p.token) {} := by
  obtain ⟨t, ht, hleads⟩ := h.leads hps (Situation.isAt_start c)
  rwa [ht.eq_start] at hleads

/-- Nested pieces with the addresses that they need are all put out when they are cleaned. -/
theorem Nested.sameEffect_events (h : Nested c [] ps []) (hps : ∀ p ∈ ps, p.IsAddressed c) :
    SameEffect (c.events (ps.flatMap Piece.html)) (ps.flatMap fun p => c.taken p.token) := by
  have hevents := (h.leads_back hps).sameEffect_events []
  have hnothing : c.events [] = [] := by
    rw [Cleaner.events_eq_eventsFrom, tokens, spans_nil]
    rfl
  rwa [List.append_nil, hnothing, List.append_nil] at hevents

end Nesting

end CleanMarkup

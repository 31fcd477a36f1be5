import CleanMarkup.Proofs.Nesting
import CleanMarkup.Proofs.Shown

/-!
# What cleaning puts out

Cleaning meets one token after the other and closes at the end what is still open
(`events_eq_eventsFrom`). What one token adds to the markup to show leads from the tags that are
open before it to those that are open after it (`shows_step`). So all of the markup is nested
(`exists_pieces`), and its opening tags are those of the input that are admitted, with what is
left of their attributes.
-/

namespace CleanMarkup

namespace Piece

/-- The name and the attributes of an opening tag. -/
def tag? : Piece → Option (Text × List Attribute)
  | opening name attributes _ => some (name, attributes)
  | text _ | closing _ => none

end Piece

/-- What holds between tokens: the open tags are counted, and are tags that can be open. -/
structure Situation.IsSound (c : Cleaner) (s : Situation) : Prop where
  counted : s.openTags.IsCounted
  openable : ∀ name ∈ s.openTags.names, c.CanBeOpen name

namespace Cleaner

variable (c : Cleaner)

/-- An allowed tag that may be written in the situation: the tag it belongs in is open, and it has
an address if it needs one. -/
def admits (s : Situation) (name body : Text) : Bool :=
  (requiredAncestor? name).all (s.openTags.contains ·) &&
    (!requiresUrl name || (c.attributeFilter.filter name body).foundUrl)

/-- The name and the body of the opening tag that is written when a token is met, if any. -/
def written? (s : Situation) : Token → Option (Text × Text)
  | .opening name body _ _ =>
    if s.skipping = none ∧ c.policy.classify name = .allowed ∧ c.admits s name body then
      some (name, body)
    else none
  | .closing _ _ | .comment _ | .text _ => none

/-- The opening tags that are written when tokens are met. -/
def writtenFrom (s : Situation) : List Token → List (Text × Text)
  | [] => []
  | t :: ts => (c.written? s t).toList ++ writtenFrom (c.step s t).1 ts

/-- The opening tags of a text that are written, by their names and bodies. -/
def written (input : Text) : List (Text × Text) := c.writtenFrom {} (tokens input)

/-- What is left of a tag. -/
def left (tag : Text × Text) : Text × List Attribute :=
  (tag.1, c.attributeFilter.survivors tag.1 tag.2)

/-- The events of meeting tokens and then the end. -/
def eventsFrom (s : Situation) : List Token → List Event
  | [] => ending s
  | t :: ts => (c.step s t).2 ++ eventsFrom (c.step s t).1 ts

variable {c}

theorem goOn_eq_eventsFrom (s : Situation) (before : Array Event) (ts : List Token) :
    (c.goOn s before ts).2.toList ++ ending (c.goOn s before ts).1 =
      before.toList ++ c.eventsFrom s ts := by
  induction ts generalizing s before with
  | nil => rfl
  | cons t ts ih =>
    rw [goOn_cons, ih, eventsFrom, Array.toList_appendList, List.append_assoc]

theorem events_eq_eventsFrom (input : Text) :
    c.events input = c.eventsFrom {} (tokens input) := by
  have h := goOn_eq_eventsFrom (c := c) {} #[] (tokens input)
  rw [List.nil_append] at h
  exact h

theorem html_clean (input : Text) :
    (c.clean input).html = shown (c.eventsFrom {} (tokens input)) := by
  rw [← events_eq_eventsFrom]
  exact html_after (.fresh c.settings.limit) (c.events input)

/-- The pieces that meeting something puts out, and what is open then. -/
structure Shows (c : Cleaner) (s : Situation) (out : Situation × List Event)
    (ps : List Piece) : Prop where
  html : shown out.2 = ps.flatMap Piece.html
  nested : Nested c s.openTags.names ps out.1.openTags.names
  sound : out.1.IsSound c

variable {s : Situation}

theorem shows_nothing {out : Situation × List Event} (hs : s.IsSound c)
    (ho : out.1.openTags = s.openTags) (he : shown out.2 = []) : c.Shows s out [] where
  html := he
  nested := by
    rw [ho]
    exact .nil _
  sound := ⟨ho ▸ hs.counted, ho ▸ hs.openable⟩

theorem shows_text {es : List Event} {raw : Text} (hs : s.IsSound c)
    (he : shown es = raw.encode) : c.Shows s (s, es) [.text raw] where
  html := by rw [he, List.flatMap_singleton, Piece.html]
  nested := .text raw (.nil _)
  sound := hs

theorem shown_unknownTag (raw : Text) : shown (unknownTag raw) = raw.encode := by
  rw [unknownTag, shown_cons, shown_markup]
  rfl

/-- An allowed tag that is admitted may stand where it is. -/
theorem mayStand_of_admits (hs : s.IsSound c) {name body : Text} (hname : IsName isTagChar name)
    (ha : c.policy.classify name = .allowed) (h : c.admits s name body = true) :
    c.MayStand s.openTags.names name (c.attributeFilter.survivors name body) := by
  unfold admits at h
  rw [Bool.and_eq_true, Bool.or_eq_true, Bool.not_eq_true'] at h
  obtain ⟨hanc, hurl⟩ := h
  refine ⟨hname, ha, fun a hm => ?_, body, rfl, fun hr => hurl.resolve_left (by simp [hr])⟩
  rw [Option.mem_def.1 hm, Option.all_some] at hanc
  exact (hs.counted.contains_iff a).1 hanc

/-- A tag is admitted exactly if nothing speaks against it. -/
theorem admits_iff {name body : Text} : c.admits s name body = true ↔
    (requiredAncestor? name).any (!s.openTags.contains ·) = false ∧
      (requiresUrl name && !(c.attributeFilter.filter name body).foundUrl) = false := by
  have hanc : (requiredAncestor? name).all (s.openTags.contains ·) = true ↔
      (requiredAncestor? name).any (!s.openTags.contains ·) = false := by
    rcases requiredAncestor? name with _ | a
    · simp
    · simp
  unfold admits
  rw [Bool.and_eq_true, hanc, Bool.or_eq_true, Bool.not_eq_true', Bool.and_eq_false_iff,
    Bool.not_eq_false']

theorem opening_of_admits {name body : Text} (ha : c.policy.classify name = .allowed)
    (h : c.admits s name body = true) (selfClosing : Bool) (raw : Text) :
    c.opening s name body selfClosing raw =
      (if selfClosing || isVoid name then s else { s with openTags := s.openTags.push name },
        (c.attributeFilter.filter name body).events ++ markup (writeOpening name
          (c.attributeFilter.filter name body).rendered selfClosing)) := by
  obtain ⟨hanc, hurl⟩ := admits_iff.1 h
  unfold opening
  simp only [ha, hanc, hurl, Bool.false_eq_true, ↓reduceIte]

/-- An allowed tag that is not admitted puts nothing out. -/
theorem opening_of_not_admits {name body : Text} (ha : c.policy.classify name = .allowed)
    (h : c.admits s name body = false) (selfClosing : Bool) (raw : Text) :
    (c.opening s name body selfClosing raw).1 = s ∧
      shown (c.opening s name body selfClosing raw).2 = [] := by
  unfold opening
  simp only [ha]
  split
  · exact ⟨rfl, rfl⟩
  · rename_i hanc
    split
    · refine ⟨rfl, ?_⟩
      simp only [shown_append, shown_filter]
      rfl
    · rename_i hurl
      have hadmits : c.admits s name body = true :=
        admits_iff.2 ⟨by simpa using hanc, Bool.not_eq_true _ ▸ hurl⟩
      rw [h] at hadmits
      simp at hadmits

/-- An admitted tag is written and, unless it closes itself or has no end, is open from then on. -/
theorem shows_admitted (hs : s.IsSound c) {name body : Text} (hname : IsName isTagChar name)
    (ha : c.policy.classify name = .allowed) (h : c.admits s name body = true)
    (selfClosing : Bool) (raw : Text) :
    c.Shows s (c.opening s name body selfClosing raw)
      (writtenTag name (c.attributeFilter.survivors name body) selfClosing) := by
  rw [opening_of_admits ha h]
  refine ⟨?_, ?_, ?_⟩
  · rw [shown_append, shown_filter, shown_markup, html_writtenTag,
      ← AttributeFilter.rendered_filter, List.nil_append]
  · have hnested := Nested.writtenTag (mayStand_of_admits hs hname ha h) selfClosing
    split_ifs at hnested ⊢
    · exact hnested
    · exact hnested
  · split_ifs with hclosed
    · exact hs
    · refine ⟨hs.counted.push name, List.forall_mem_cons.2 ⟨⟨hname, ha, ?_⟩, hs.openable⟩⟩
      rw [Bool.or_eq_true, not_or, Bool.not_eq_true, Bool.not_eq_true] at hclosed
      exact hclosed.2

theorem filterMap_tag?_writtenTag (name : Text) (attributes : List Attribute)
    (selfClosing : Bool) :
    (writtenTag name attributes selfClosing).filterMap Piece.tag? = [(name, attributes)] := by
  unfold writtenTag
  split_ifs
  · rfl
  · rfl
  · rfl

theorem shows_opening (hs : s.IsSound c) {name : Text} (hname : IsName isTagChar name)
    (body : Text) (selfClosing : Bool) (raw : Text) :
    ∃ ps, c.Shows s (c.opening s name body selfClosing raw) ps ∧
      ps.filterMap Piece.tag? =
        if c.policy.classify name = .allowed ∧ c.admits s name body then
          [c.left (name, body)]
        else [] := by
  rcases hc : c.policy.classify name with _ | _ | _
  · refine ⟨[], ?_, rfl⟩
    simp only [opening, hc]
    exact shows_nothing hs rfl rfl
  · rcases h : c.admits s name body
    · obtain ⟨hsame, hshown⟩ := opening_of_not_admits hc h selfClosing raw
      exact ⟨[], shows_nothing hs (by rw [hsame]) hshown, by simp⟩
    · refine ⟨_, shows_admitted hs hname hc h selfClosing raw, ?_⟩
      rw [filterMap_tag?_writtenTag, if_pos ⟨rfl, rfl⟩]
      rfl
  · refine ⟨[.text raw], ?_, by simp [Piece.tag?]⟩
    simp only [opening, hc]
    exact shows_text hs (shown_unknownTag raw)

theorem shown_closings (names : List Text) :
    shown (markup (names.flatMap writeClosing)) = (names.map Piece.closing).flatMap Piece.html := by
  rw [shown_markup, List.flatMap_map]
  rfl

theorem shows_closing (hs : s.IsSound c) (name raw : Text) :
    ∃ ps, c.Shows s (c.closing s name raw) ps ∧ ps.filterMap Piece.tag? = [] := by
  unfold closing
  split
  · exact ⟨[], shows_nothing hs rfl rfl, rfl⟩
  split
  · exact ⟨[], shows_nothing hs rfl rfl, rfl⟩
  · exact ⟨[.text raw], shows_text hs (shown_unknownTag raw), rfl⟩
  by_cases hm : name ∈ s.openTags.names
  · obtain ⟨inside, outside, hsplit, hi⟩ := List.eq_append_cons_of_mem hm
    obtain ⟨rest, hclose, hrest, hcounted⟩ := OpenTags.closeThrough?_eq_some hs.counted hsplit hi
    have hall : s.openTags.names = (inside ++ [name]) ++ outside := by simp [hsplit]
    have hopen : ∀ m ∈ (inside ++ [name]) ++ outside, c.CanBeOpen m := hall ▸ hs.openable
    rw [hclose]
    refine ⟨(inside ++ [name]).map .closing, ⟨shown_closings _, ?_, hcounted, ?_⟩, ?_⟩
    · rw [hall]
      simp only [hrest]
      exact .closings outside fun m hm => hopen m (List.mem_append_left _ hm)
    · simp only [hrest]
      exact fun m hm => hopen m (List.mem_append_right _ hm)
    · simp [Piece.tag?]
  · rw [OpenTags.closeThrough?_eq_none hs.counted hm]
    exact ⟨[], shows_nothing hs rfl rfl, rfl⟩

theorem step_of_meeting (h : s.skipping = none) (t : Token) :
    c.step s t = ((c.meet s t).1, .token t :: (c.meet s t).2) := by
  simp only [step, h]

/-- While content is left out, a token is passed over, or ends that and is met or is text. -/
theorem step_of_skipping {skipped : Text} (h : s.skipping = some skipped) (t : Token) :
    c.step s t = (s, [.token t]) ∨
      (∃ name raw, t = .closing name raw ∧
        c.step s t = ((c.closing { s with skipping := none } name raw).1,
          .token t :: (c.closing { s with skipping := none } name raw).2)) ∨
      ∃ raw, t = .text raw ∧
        c.step s t = ({ s with skipping := none }, [.token t, .violation ('/' :: skipped)]) := by
  cases t with
  | comment raw => exact .inl (by simp only [step, h])
  | opening name body selfClosing raw => exact .inl (by simp only [step, h])
  | closing name raw =>
    by_cases hn : name = skipped
    · refine .inr (.inl ⟨name, raw, rfl, ?_⟩)
      simp only [step, h, if_pos hn, meet]
    · exact .inl (by simp only [step, h, if_neg hn])
  | text raw =>
    by_cases hr : closesRawText skipped raw
    · refine .inr (.inr ⟨raw, rfl, ?_⟩)
      simp only [step, h, if_pos hr]
    · exact .inl (by simp only [step, h, if_neg hr])

theorem shows_meet (hs : s.IsSound c) {t : Token} (ht : t.IsNamed) (hskip : s.skipping = none) :
    ∃ ps, c.Shows s (c.meet s t) ps ∧
      ps.filterMap Piece.tag? = (c.written? s t).toList.map c.left := by
  cases t with
  | comment raw => exact ⟨[], shows_nothing hs rfl rfl, rfl⟩
  | opening name body selfClosing raw =>
    obtain ⟨ps, hps, htags⟩ := shows_opening hs ht body selfClosing raw
    refine ⟨ps, hps, htags.trans ?_⟩
    simp only [written?, hskip, true_and]
    split_ifs
    · rfl
    · rfl
  | closing name raw => exact shows_closing hs name raw
  | text raw =>
    refine ⟨[.text raw], shows_text hs ?_, rfl⟩
    simp [shown, plainText]

/-- What one token does. -/
theorem shows_step (hs : s.IsSound c) {t : Token} (ht : t.IsNamed) :
    ∃ ps, c.Shows s (c.step s t) ps ∧
      ps.filterMap Piece.tag? = (c.written? s t).toList.map c.left := by
  rcases hskip : s.skipping with _ | skipped
  · obtain ⟨ps, hps, htags⟩ := shows_meet hs ht hskip
    rw [step_of_meeting hskip]
    exact ⟨ps, ⟨hps.html, hps.nested, hps.sound⟩, htags⟩
  · have hnone : c.written? s t = none := by
      cases t with
      | opening name body selfClosing raw => simp [written?, hskip]
      | _ => rfl
    rw [hnone]
    rcases step_of_skipping hskip t with h | ⟨name, raw, -, h⟩ | ⟨raw, -, h⟩
    · rw [h]
      exact ⟨[], shows_nothing hs rfl rfl, rfl⟩
    · have hs' : Situation.IsSound c { s with skipping := none } := ⟨hs.counted, hs.openable⟩
      obtain ⟨ps, hps, htags⟩ := shows_closing hs' name raw
      rw [h]
      exact ⟨ps, ⟨hps.html, hps.nested, hps.sound⟩, htags⟩
    · rw [h]
      exact ⟨[], shows_nothing hs rfl rfl, rfl⟩

/-- At the end all that is open is closed. -/
theorem ending_eq (hs : s.IsSound c) :
    ending s = s.openTags.names.flatMap fun name => markup (writeClosing name) := by
  unfold ending
  simp only [OpenTags.popMany_all hs.counted]

theorem shown_ending (hs : s.IsSound c) :
    shown (ending s) = (s.openTags.names.map Piece.closing).flatMap Piece.html := by
  rw [ending_eq hs, shown, List.flatMap_assoc, List.flatMap_map]
  exact List.flatMap_congr fun name _ => shown_markup (writeClosing name)

/-- What tokens and the end put out leads to where nothing is open. -/
theorem exists_pieces_from : ∀ {ts : List Token} {s : Situation}, s.IsSound c →
    (∀ t ∈ ts, t.IsNamed) →
      ∃ ps, shown (c.eventsFrom s ts) = ps.flatMap Piece.html ∧
        Nested c s.openTags.names ps [] ∧
          ps.filterMap Piece.tag? = (c.writtenFrom s ts).map c.left
  | [], s, hs, _ => by
    have hnested := Nested.closings (c := c) [] hs.openable
    rw [List.append_nil] at hnested
    refine ⟨_, shown_ending hs, hnested, ?_⟩
    simp [writtenFrom, Piece.tag?]
  | t :: ts, s, hs, ht => by
    obtain ⟨ps, hps, htags⟩ := shows_step hs (ht t List.mem_cons_self)
    obtain ⟨qs, hhtml, hnested, hrest⟩ :=
      exists_pieces_from hps.sound fun u hu => ht u (List.mem_cons_of_mem t hu)
    refine ⟨ps ++ qs, ?_, hps.nested.append hnested, ?_⟩
    · rw [eventsFrom, shown_append, hps.html, hhtml, List.flatMap_append]
    · rw [List.filterMap_append, htags, hrest, writtenFrom, List.map_append]

theorem exists_pieces (c : Cleaner) (input : Text) :
    ∃ ps, (c.clean input).html = ps.flatMap Piece.html ∧ Nested c [] ps [] ∧
      ps.filterMap Piece.tag? = (c.written input).map c.left := by
  have hs : Situation.IsSound c {} := ⟨.nothing, by simp⟩
  rw [html_clean]
  exact exists_pieces_from hs fun t ht => isNamed_of_mem_tokens ht

end Cleaner

end CleanMarkup

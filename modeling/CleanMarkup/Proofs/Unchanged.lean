import CleanMarkup.Proofs.Faults
import CleanMarkup.Proofs.Recleaning

/-!
# What is put out as it is

An attribute that breaks no rule and is written as it will be written is kept as it is
(`AttributeFilter.IsCanonical.survives`). Tags with such attributes and text without markup
characters are put out as they are, to be shown and to be stored, and without a violation
(`Cleaner.putsOut_canonical`).
-/

namespace CleanMarkup

/-- A declaration that is read as it is written, and may stand. -/
structure Declaration.IsCanonical (check : UrlCheck) (schemes : List Text) (d : Declaration) : Prop
    extends Declaration.IsRead d where
  ne_nil : d.value ≠ []
  plain : ∀ c ∈ d.value, c ≠ '"' ∧ isLineBreak c = false
  judged : (Style.judge check schemes d.value).1 = none

namespace Style

variable {check : UrlCheck} {schemes : List Text}

theorem encodeStyle_eq_self {v : Text} (h : ∀ c ∈ v, c ≠ '"' ∧ isLineBreak c = false) :
    v.encodeStyle = v := by
  rw [encodeStyle_eq_map]
  refine (List.map_congr_left fun c hc => ?_).trans (List.map_id' v)
  obtain ⟨hquote, hbreak⟩ := h c hc
  simp [restyle, hquote, hbreak]

theorem filter_flatMap_write (tag : Text) {ds : List Declaration}
    (h : ∀ d ∈ ds, d.IsCanonical check schemes) :
    (Style.filter check schemes tag (ds.flatMap Declaration.write)).1 =
        ds.flatMap Declaration.write ∧
      dropped check schemes (ds.flatMap Declaration.write) = [] := by
  have hall : Declaration.all (ds.flatMap Declaration.write) = ds := by
    rw [Declaration.all_flatMap_write fun d hd => (h d hd).toIsRead]
    exact List.filter_eq_self.2 fun d hd => by simpa using (h d hd).ne_nil
  constructor
  · rw [filter_fst, kept, hall, List.filter_eq_self.2 fun d hd => by rw [(h d hd).judged]; rfl,
      List.flatMap_map]
    refine List.flatMap_congr fun d hd => ?_
    rw [encodeStyle_eq_self (h d hd).plain]
  · rw [dropped_eq_nil_iff, hall]
    exact fun d hd => (h d hd).judged

end Style

namespace AttributeFilter

variable {f : AttributeFilter} {tag : Text}

/-- An attribute of a tag that no rule changes: the value is what its rule asks for, in the form in
which it is written. -/
structure IsCanonical (f : AttributeFilter) (tag : Text) (a : Attribute) : Prop where
  name : IsName isAttributeChar a.name
  value : match (Rule.of tag a.name).action with
    | .requireUrl => f.Passes tag a.value ∧ a.value.encodeAttribute = a.value
    | .requireDimension => ∃ digits : Text, digits ≠ [] ∧ (∀ c ∈ digits, Text.isDigit c = true) ∧
        (a.value = digits ∨ a.value = digits ++ ['%'])
    | .filterStyle => ∃ ds : List Declaration, a.value = ds.flatMap Declaration.write ∧
        ∀ d ∈ ds, d.IsCanonical f.check f.schemes
    | .drop => False
    | .keep => ∀ c ∈ a.value, isMarkupChar c = false ∧ isLineBreak c = false

theorem IsCanonical.survives {a : Attribute} (h : f.IsCanonical tag a) :
    f.survivor? tag a = some a ∧ f.faults tag a = [] := by
  have hvalue := h.value
  cases haction : (Rule.of tag a.name).action with
  | requireUrl =>
    simp only [haction] at hvalue
    obtain ⟨hp, he⟩ := hvalue
    simp [survivor?, faults, Omits, haction, accepts_iff.2 hp, he, hp]
  | requireDimension =>
    simp only [haction] at hvalue
    simp [survivor?, faults, Omits, haction, isDimension_iff.2 hvalue]
  | filterStyle =>
    simp only [haction] at hvalue
    obtain ⟨ds, hv, hds⟩ := hvalue
    obtain ⟨hfilter, hdropped⟩ := Style.filter_flatMap_write tag hds
    rw [← hv] at hfilter hdropped
    simp [survivor?, faults, Omits, haction, hfilter, hdropped]
  | drop => simp only [haction] at hvalue
  | keep =>
    simp only [haction] at hvalue
    simp [survivor?, faults, Omits, haction, Text.encodeAttribute_eq_self hvalue]

theorem IsCanonical.isNeat {a : Attribute} (h : f.IsCanonical tag a) : a.IsNeat :=
  isNeat_of_survivor h.name h.survives.1

section Canonical

variable {attributes : List Attribute} (h : ∀ a ∈ attributes, f.IsCanonical tag a)

include h

theorem survivors_canonical (slash : Bool) :
    f.survivors tag (Piece.body attributes slash) = attributes := by
  unfold survivors
  rw [Piece.all_body (fun a ha => (h a ha).isNeat),
    List.filterMap_congr fun a ha => (h a ha).survives.1, List.filterMap_some]

theorem violated_filter_canonical (slash : Bool) :
    violated (f.filter tag (Piece.body attributes slash)).events = [] := by
  rw [violated_filter, found, Piece.all_body fun a ha => (h a ha).isNeat, List.flatMap_eq_nil_iff]
  exact fun a ha => (h a ha).survives.2

theorem foundUrl_canonical (slash : Bool)
    (ha : ∃ a ∈ attributes, (Rule.of tag a.name).action = .requireUrl) :
    (f.filter tag (Piece.body attributes slash)).foundUrl = true := by
  rw [foundUrl_filter, Piece.all_body fun a ha => (h a ha).isNeat]
  obtain ⟨a, ha, haction⟩ := ha
  have hvalue := (h a ha).value
  rw [haction] at hvalue
  exact ⟨a, ha, haction, accepts_iff.2 hvalue.1⟩

end Canonical

end AttributeFilter

/-- The attributes of an opening tag are canonical, and one of them is an address if the tag needs
one. -/
def Piece.IsCanonical (c : Cleaner) : Piece → Prop
  | opening name attributes _ => (∀ a ∈ attributes, c.attributeFilter.IsCanonical name a) ∧
      (requiresUrl name = true → ∃ a ∈ attributes, (Rule.of name a.name).action = .requireUrl)
  | text _ | closing _ => True

namespace Piece

variable {c : Cleaner} {p : Piece}

theorem IsCanonical.isAddressed (h : p.IsCanonical c) : p.IsAddressed c := by
  match p with
  | opening name attributes slash =>
    exact fun hr => AttributeFilter.foundUrl_canonical h.1 slash (h.2 hr)
  | text _ | closing _ => trivial

theorem IsCanonical.filtered_eq (h : p.IsCanonical c) : p.filtered c = p := by
  match p with
  | opening name attributes slash =>
    exact congrArg (opening name · slash) (AttributeFilter.survivors_canonical h.1 slash)
  | text _ | closing _ => rfl

/-- A canonical piece breaks no rule, if it is taken. -/
theorem IsCanonical.violated_taken (h : p.IsCanonical c) : violated (c.taken p.token) = [] := by
  match p with
  | opening name attributes slash =>
    rw [token, Cleaner.taken, violated_cons, violated_append,
      AttributeFilter.violated_filter_canonical h.1]
    rfl
  | text _ | closing _ => rfl

end Piece

/-- Nested canonical pieces are put out as they are, and no rule is found broken. -/
theorem Cleaner.putsOut_canonical {c : Cleaner} {ps : List Piece} (h : Nested c [] ps [])
    (hps : ∀ p ∈ ps, p.IsCanonical c) {s : Situation} (hs : s.IsSound c)
    (hskip : s.skipping = none) (ho : s.openTags.names = []) :
    PutsOut (c.eventsFrom s (Piece.tokensBehind [] ps)) (ps.flatMap Piece.html) ∧
      violated (c.eventsFrom s (Piece.tokensBehind [] ps)) = [] := by
  obtain rfl := Situation.IsAt.eq_start ⟨hs, hskip, ho⟩
  have heffect := h.sameEffect_events fun p hp => (hps p hp).isAddressed
  rw [← h.tokens_html, ← events_eq_eventsFrom]
  have hout := Piece.putsOut_taken (c := c) ps
  rw [List.flatMap_congr fun p hp => congrArg Piece.html (hps p hp).filtered_eq] at hout
  refine ⟨⟨heffect.shown.trans hout.shown, heffect.stored.trans hout.stored⟩, ?_⟩
  rw [heffect.violated, violated, List.filterMap_flatMap, List.flatMap_eq_nil_iff]
  exact fun p hp => (hps p hp).violated_taken

end CleanMarkup

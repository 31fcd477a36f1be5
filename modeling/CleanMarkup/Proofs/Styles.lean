import CleanMarkup.Proofs.Encoding
import CleanMarkup.Proofs.Restyling

/-!
# What is kept of a style

A style is written as the declarations that are kept of it (`filter_fst`), none of which holds a
double quote, an angle bracket or a line break (`isClean_of_mem_kept`). When what is written is
filtered again, exactly the declarations without a value are lost (`kept_write`).
-/

namespace CleanMarkup

/-- A character that may stand in the value of an attribute. -/
def IsClean (c : Char) : Prop := c ≠ '"' ∧ c ≠ '<' ∧ c ≠ '>' ∧ isLineBreak c = false

theorem IsClean.not_mem {c : Char} (h : IsClean c) :
    c ∉ ['"', '<', '>', '\n', '\r', '\x0c'] := by
  obtain ⟨hquote, hleft, hright, hbreak⟩ := h
  simp only [isLineBreak, Bool.or_eq_false_iff, beq_eq_false_iff_ne, and_assoc] at hbreak
  simpa using ⟨hquote, hleft, hright, hbreak⟩

theorem isClean_of_isAttributeChar {c : Char} (h : isAttributeChar c = true) : IsClean c := by
  refine ⟨?_, ?_, ?_, ?_⟩
  · rintro rfl
    exact absurd h (by decide)
  · rintro rfl
    exact absurd h (by decide)
  · rintro rfl
    exact absurd h (by decide)
  · rcases hc : isLineBreak c
    · rfl
    · simp only [isLineBreak, Bool.or_eq_true, beq_iff_eq] at hc
      rcases hc with (rfl | rfl) | rfl <;> exact absurd h (by decide)

theorem isClean_of_mem_encodeAttribute {s : Text} {c : Char} (h : c ∈ s.encodeAttribute) :
    IsClean c := by
  have hm := Text.isMarkupChar_of_mem_encode (s := s.unbreak) h
  simp only [isMarkupChar, Bool.or_eq_false_iff, beq_eq_false_iff_ne] at hm
  obtain ⟨⟨⟨hq, -⟩, hl⟩, hr⟩ := hm
  exact ⟨hq, hl, hr, Text.isLineBreak_of_mem_encodeAttribute h⟩

theorem restyle_restyle (c : Char) : restyle (restyle c) = restyle c := by
  rcases restyle_cases c with h | ⟨-, h⟩ | ⟨-, h⟩ <;> rw [h] <;> first | exact h | rfl

theorem encodeStyle_encodeStyle (s : Text) : s.encodeStyle.encodeStyle = s.encodeStyle := by
  simp only [encodeStyle_eq_map, List.map_map]
  exact List.map_congr_left fun c _ => restyle_restyle c

theorem isClean_restyle {c : Char} (h : c ≠ '<' ∧ c ≠ '>') : IsClean (restyle c) := by
  unfold restyle
  split
  · exact ⟨by decide, by decide, by decide, rfl⟩
  · rename_i hb
    split
    · exact ⟨by decide, by decide, by decide, rfl⟩
    · rename_i hq
      exact ⟨hq, h.1, h.2, by simpa using hb⟩

namespace Declaration

theorem IsRead.encodeStyle {d : Declaration} (h : d.IsRead) :
    IsRead ⟨d.name, d.value.encodeStyle⟩ where
  name := h.name
  value := by
    intro hm
    rw [encodeStyle_eq_map] at hm
    obtain ⟨c, hc, he⟩ := List.mem_map.1 hm
    have := (restyle_eq_iff (g := id) (by decide) (m := ';') (by decide) c).1 he
    exact h.value (this ▸ hc)
  trimmed := by
    simp only [encodeStyle_eq_map]
    rw [Text.trim_map isBlank_restyle, h.trimmed]

/-- Of written declarations those with a value are read back. -/
theorem all_flatMap_write : ∀ {ds : List Declaration}, (∀ d ∈ ds, d.IsRead) →
    all (ds.flatMap write) = ds.filter fun d => d.value ≠ []
  | [], _ => all_nil
  | d :: ds, h => by
    have ih := all_flatMap_write fun e he => h e (List.mem_cons_of_mem d he)
    rw [List.flatMap_cons, all_write (h d List.mem_cons_self), List.filter_cons, ih]
    by_cases hd : d.value = [] <;> simp [hd]

end Declaration

namespace Style

variable (check : UrlCheck) (schemes : List Text)

/-- The declarations of a style that are kept, as they are written. -/
def kept (style : Text) : List Declaration :=
  ((Declaration.all style).filter fun d => (judge check schemes d.value).1.isNone).map fun d =>
    ⟨d.name, d.value.encodeStyle⟩

theorem filter_fst (tag style : Text) :
    (Style.filter check schemes tag style).1 =
      (kept check schemes style).flatMap Declaration.write := by
  unfold Style.filter kept
  simp only [List.flatMap_map]
  induction Declaration.all style with
  | nil => rfl
  | cons d ds ih =>
    rw [List.flatMap_cons, ih, List.filter_cons, filterDeclaration]
    rcases judge check schemes d.value with ⟨_ | fault, events⟩
    · rfl
    · rfl

variable {check schemes}

theorem exists_of_mem_kept {style : Text} {d : Declaration} (h : d ∈ kept check schemes style) :
    ∃ e ∈ Declaration.all style, (judge check schemes e.value).1 = none ∧
      d = ⟨e.name, e.value.encodeStyle⟩ := by
  obtain ⟨e, he, rfl⟩ := List.mem_map.1 h
  obtain ⟨he, hj⟩ := List.mem_filter.1 he
  exact ⟨e, he, Option.isNone_iff_eq_none.1 hj, rfl⟩

theorem mem_kept {style : Text} {d : Declaration} (hd : d ∈ Declaration.all style)
    (hj : (judge check schemes d.value).1 = none) :
    ⟨d.name, d.value.encodeStyle⟩ ∈ kept check schemes style :=
  List.mem_map_of_mem (List.mem_filter.2 ⟨hd, Option.isNone_iff_eq_none.2 hj⟩)

theorem isRead_of_mem_kept {style : Text} {d : Declaration} (h : d ∈ kept check schemes style) :
    d.IsRead := by
  obtain ⟨e, he, -, rfl⟩ := exists_of_mem_kept h
  exact (Declaration.isRead_of_mem_all he).encodeStyle

theorem isClean_of_mem_filter {tag style : Text} {c : Char}
    (h : c ∈ (Style.filter check schemes tag style).1) : IsClean c := by
  rw [filter_fst] at h
  obtain ⟨d, hd, hc⟩ := List.mem_flatMap.1 h
  obtain ⟨e, he, hj, rfl⟩ := exists_of_mem_kept hd
  have hname := (Declaration.isRead_of_mem_all he).name
  simp only [Declaration.write, List.mem_append, List.mem_cons, List.not_mem_nil, or_false] at hc
  rcases hc with (hc | rfl | hc) | rfl
  · exact isClean_of_isAttributeChar (isAttributeChar_of_isPropertyChar (hname.chars c hc))
  · exact ⟨by decide, by decide, by decide, rfl⟩
  · rw [encodeStyle_eq_map] at hc
    obtain ⟨b, hb, rfl⟩ := List.mem_map.1 hc
    obtain ⟨h1, h2, -⟩ := (judge_eq_none.1 hj).1 b hb
    exact isClean_restyle ⟨h1, h2⟩
  · exact ⟨by decide, by decide, by decide, rfl⟩

section Again

variable (hcheck : ∀ a, check a schemes = true → ∀ c ∈ a, c ∉ ['\n', '\r', '\x0c', '"'])

include hcheck

/-- A declaration that is kept may stand as it is written. -/
theorem judge_of_mem_kept {style : Text} {d : Declaration} (h : d ∈ kept check schemes style) :
    (judge check schemes d.value).1 = none := by
  obtain ⟨e, -, hj, rfl⟩ := exists_of_mem_kept h
  exact judge_encodeStyle hcheck hj

/-- Filtering what is written once more loses the declarations without a value. -/
theorem kept_write (style : Text) :
    kept check schemes ((kept check schemes style).flatMap Declaration.write) =
      (kept check schemes style).filter fun d => d.value ≠ [] := by
  have hencode : ∀ d ∈ kept check schemes style, d.value.encodeStyle = d.value := by
    intro d hd
    obtain ⟨e, -, -, rfl⟩ := exists_of_mem_kept hd
    exact encodeStyle_encodeStyle e.value
  rw [kept, Declaration.all_flatMap_write fun d hd => isRead_of_mem_kept hd]
  rw [List.filter_eq_self.2 fun d hd => by
    rw [judge_of_mem_kept hcheck (List.mem_of_mem_filter hd)]
    rfl]
  refine (List.map_congr_left fun d hd => ?_).trans (List.map_id' _)
  rw [hencode d (List.mem_of_mem_filter hd)]

end Again

end Style

end CleanMarkup

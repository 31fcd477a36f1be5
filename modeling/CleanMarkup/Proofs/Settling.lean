import CleanMarkup.Proofs.Acceptance
import CleanMarkup.Proofs.Survivors
import Mathlib.Data.List.Flatten

/-!
# Survivors that survive once more

Filtered once more, a survivor is left as it is, unless it is a style with a declaration without a
value: that is lost (`survivor?_survivor`). It comes from a declaration that had nothing but
blanks for a value (`settled_survivor`), and without it the attribute is shorter
(`length_settled_lt`).
-/

namespace CleanMarkup

namespace Attribute

/-- What is left of a survivor: a style is written as it is read. -/
def settled (a : Attribute) : Attribute :=
  if a.name = "style".toList then
    ⟨a.name, (Declaration.all a.value).flatMap Declaration.write⟩
  else a

/-- The attribute is a style with a declaration that has nothing but blanks for a value. -/
def HasBlank (a : Attribute) : Prop :=
  a.name = "style".toList ∧ ∃ d ∈ Declaration.all a.value, d.value = []

theorem settled_of_action {a : Attribute} {tag : Text}
    (h : (Rule.of tag a.name).action ≠ .filterStyle) : a.settled = a :=
  if_neg fun hs => h (Rule.action_eq_filterStyle.2 hs)

end Attribute

theorem Declaration.length_flatMap_write_lt {ds : List Declaration} {d : Declaration}
    (hd : d ∈ ds) (hv : d.value = []) :
    ((ds.filter fun d => d.value ≠ []).flatMap write).length < (ds.flatMap write).length := by
  obtain ⟨l, r, rfl⟩ := List.append_of_mem hd
  have hle : ∀ es : List Declaration,
      ((es.filter fun d => d.value ≠ []).flatMap write).length ≤ (es.flatMap write).length :=
    fun es => (List.filter_sublist.flatMap write).length_le
  have hl := hle l
  have hr := hle r
  have hpos : 0 < d.write.length := by
    simp only [write, List.length_append, List.length_cons]
    omega
  rw [List.filter_append, List.filter_cons_of_neg (by simp [hv])]
  simp only [List.flatMap_append, List.flatMap_cons, List.length_append]
  omega

theorem Style.judge_nil (check : UrlCheck) (schemes : List Text) :
    (Style.judge check schemes []).1 = none := by
  simp [judge, callsCode, opened, openedFrom, addresses, addressesFrom, checkAll]

/-- An address that passes holds no character that a style is written without. -/
theorem UrlCheck.IsPlain.not_mem {check : UrlCheck} (hcheck : check.IsPlain) {schemes : List Text} :
    ∀ u, check u schemes = true → ∀ c ∈ u, c ∉ ['\n', '\r', '\x0c', '"'] := by
  intro u hu c hc hm
  have hplain := hcheck hu c hc
  simp only [List.mem_cons, List.not_mem_nil, or_false] at hm
  rcases hm with rfl | rfl | rfl | rfl <;> exact absurd hplain (by decide)

namespace AttributeFilter

variable {f : AttributeFilter} {tag : Text} {a b : Attribute}

theorem survivor?_survivor (hcheck : f.check.IsPlain) (h : f.survivor? tag a = some b) :
    f.survivor? tag b = some b.settled := by
  by_cases hs : a.name = "style".toList
  · have hb : b.name = "style".toList := (name_of_survivor h).trans hs
    rw [f.survivor?_style tag hs] at h
    rw [f.survivor?_style tag hb, Attribute.settled, if_pos hb]
    obtain rfl := Option.some.inj h
    simp only
    rw [Style.kept_write hcheck.not_mem,
      Declaration.all_flatMap_write fun d hd => Style.isRead_of_mem_kept hd]
  · have hr : (Rule.of tag b.name).action ≠ .filterStyle := by
      rw [name_of_survivor h]
      exact fun e => hs (Rule.action_eq_filterStyle.1 e)
    rw [Attribute.settled_of_action hr]
    unfold survivor? at h
    split at h
    · rename_i ha
      obtain rfl := Option.some.inj h
      simp only [survivor?, ha]
      split
      · rename_i hp
        rw [Text.encodeAttribute_encodeAttribute,
          if_pos (accepts_iff.2 ((accepts_iff.1 hp).encodeAttribute hcheck))]
      · rw [show Text.encodeAttribute [] = [] from rfl, ite_self]
    · rename_i ha
      split at h
      · rename_i hd
        obtain rfl := Option.some.inj h
        simp only [survivor?, ha, hd, ↓reduceIte]
      · simp at h
    · rename_i ha
      exact absurd (Rule.action_eq_filterStyle.1 ha) hs
    · simp at h
    · rename_i ha
      obtain rfl := Option.some.inj h
      simp only [survivor?, ha, Text.encodeAttribute_encodeAttribute]

/-- A survivor that comes from no blank declaration is left as it is. -/
theorem settled_survivor (h : f.survivor? tag a = some b) (hb : ¬ a.HasBlank) : b.settled = b := by
  by_cases hs : a.name = "style".toList
  · rw [f.survivor?_style tag hs] at h
    obtain rfl := Option.some.inj h
    have hvalue : ∀ d ∈ Style.kept f.check f.schemes a.value, d.value ≠ [] := by
      intro d hd hv
      obtain ⟨e, he, -, rfl⟩ := Style.exists_of_mem_kept hd
      rw [encodeStyle_eq_map] at hv
      exact hb ⟨hs, e, he, List.map_eq_nil_iff.1 hv⟩
    rw [Attribute.settled, if_pos hs,
      Declaration.all_flatMap_write fun d hd => Style.isRead_of_mem_kept hd,
      List.filter_eq_self.2 fun d hd => by simpa using hvalue d hd]
  · rw [Attribute.settled, if_neg]
    rwa [name_of_survivor h]

/-- A survivor that comes from a blank declaration is shorter without it. -/
theorem length_settled_lt (h : f.survivor? tag a = some b) (hb : a.HasBlank) :
    b.settled.write.length < b.write.length := by
  obtain ⟨hs, d, hd, hv⟩ := hb
  rw [f.survivor?_style tag hs] at h
  obtain rfl := Option.some.inj h
  have hkept : ⟨d.name, d.value.encodeStyle⟩ ∈ Style.kept f.check f.schemes a.value := by
    refine List.mem_map_of_mem (List.mem_filter.2 ⟨hd, ?_⟩)
    rw [hv, Style.judge_nil]
    rfl
  have hlt := Declaration.length_flatMap_write_lt hkept (by rw [hv]; rfl)
  rw [Attribute.settled, if_pos hs,
    Declaration.all_flatMap_write fun d hd => Style.isRead_of_mem_kept hd]
  simp only [Attribute.write, AttributeFilter.write, List.length_append, List.length_cons]
  omega

end AttributeFilter

end CleanMarkup

import CleanMarkup.Proofs.Clearance
import CleanMarkup.Proofs.Guarding

/-!
# What is left of attributes is safe

Whatever the body of a tag holds, what is left of it is a list of attributes that is read back as it
was written. None of them is an event handler, an address stands only where its tag has one, and no
value has a character that could end it. What breaks no rule is left under its name
(`safe_rendered`).
-/

namespace CleanMarkup

namespace Rule

theorem action_of_dimension (tag : Text) {attr : Text}
    (h : attr = "width".toList ∨ attr = "height".toList) :
    (Rule.of tag attr).action = .requireDimension := by
  rw [of_eq]
  rcases h with rfl | rfl <;> simp [action]

theorem action_of_handler (tag : Text) {attr : Text} (h : "on".toList <+: attr) :
    (Rule.of tag attr).action = .drop := by
  obtain ⟨event, rfl⟩ := h
  rw [of_eq]
  simp [action]

end Rule

namespace Attribute

/-- An attribute that may stand in a tag, whoever wrote it. -/
structure IsSafe (tag : Text) (a : Attribute) : Prop where
  ne_nil : a.name ≠ []
  name : ∀ c ∈ a.name, isSmall ['_', ':', '-'] c = true
  notHandler : ¬ "on".toList <+: a.name
  value : ∀ c ∈ a.value, c ∉ ['"', '<', '>', '\n', '\r', '\x0c']
  href : a.name = "href".toList → tag = "a".toList
  src : a.name = "src".toList → tag = "img".toList ∨ tag = "embed".toList
  dimension : a.name = "width".toList ∨ a.name = "height".toList →
    ∃ digits, digits ≠ [] ∧ (∀ c ∈ digits, Text.isDigit c = true) ∧
      (a.value = digits ∨ a.value = digits ++ ['%'])

end Attribute

namespace AttributeFilter

variable {f : AttributeFilter} {tag : Text}

theorem survivor?_of_handler {a : Attribute} (h : "on".toList <+: a.name) :
    f.survivor? tag a = none := by
  rw [survivor?, Rule.action_of_handler tag h]

theorem isSafe_of_mem_survivors {body : Text} {a : Attribute} (h : a ∈ f.survivors tag body) :
    a.IsSafe tag := by
  have hneat := isNeat_of_mem_survivors h
  obtain ⟨b, -, hb⟩ := List.mem_filterMap.1 h
  have hname := name_of_survivor hb
  refine
    { ne_nil := hneat.name.ne_nil
      name := fun c => hneat.name.isSmall_attribute
      notHandler := fun hon => ?_
      value := fun c hc => (hneat.value c hc).not_mem
      href := fun he => ?_
      src := fun he => ?_
      dimension := fun he => ?_ }
  · rw [survivor?_of_handler (hname ▸ hon)] at hb
    simp at hb
  · exact Rule.tag_of_href (he ▸ (survivor_of_address hb (.inl he)).1)
  · exact Rule.tag_of_src (he ▸ (survivor_of_address hb (.inr he)).1)
  · rw [survivor?, Rule.action_of_dimension tag (hname ▸ he)] at hb
    obtain ⟨hd, he⟩ := Option.ite_none_right_eq_some.1 hb
    obtain rfl := Option.some.inj he
    exact isDimension_iff.1 hd

/-- Something is left of an attribute that breaks no rule. -/
theorem Clears.exists_survivor {a : Attribute} (h : f.Clears tag a) :
    ∃ b, f.survivor? tag a = some b := by
  rw [← Option.isSome_iff_exists, Option.isSome_iff_ne_none, ne_eq, survivor?_eq_none_iff]
  intro homits
  rw [← faults_eq_nil_iff, faults, if_pos homits] at h
  simp at h

/-- What is left of any body is attributes that are safe and are read back: something of each that
breaks no rule, and nothing of an event handler, in whatever case it was written. -/
theorem safe_rendered (f : AttributeFilter) (tag body : Text) :
    ∃ as, (f.filter tag body).rendered = as.flatMap Attribute.write ∧
      Attribute.all (f.filter tag body).rendered = as ∧ (∀ a ∈ as, a.IsSafe tag) ∧
      (∀ a ∈ Attribute.all body, f.Clears tag a → ∃ b ∈ as, b.name = a.name) ∧
      ∀ a ∈ Attribute.all body, "on".toList <+: a.name → (f.filterOne tag a).rendered = [] := by
  refine ⟨f.survivors tag body, f.rendered_filter tag body, f.all_rendered tag body,
    fun a => isSafe_of_mem_survivors, fun a ha hclears => ?_, fun a _ hon => ?_⟩
  · obtain ⟨b, hb⟩ := hclears.exists_survivor
    exact ⟨b, List.mem_filterMap.2 ⟨a, ha, hb⟩, name_of_survivor hb⟩
  · rw [rendered_filterOne, survivor?_of_handler hon]
    rfl

end AttributeFilter

end CleanMarkup

import CleanMarkup.Proofs.Styles

/-!
# Attributes that survive

What is left of one attribute is one attribute or none (`AttributeFilter.survivor?`), and what is
left of a tag's attributes is written one after another (`rendered_filter`). A survivor can be
written between double quotes without being mistaken for anything else (`isNeat_of_survivor`), so
the survivors are read back as they are (`all_rendered`).
-/

namespace CleanMarkup

namespace Rule

theorem of_eq (tag attr : Text) :
    Rule.of tag attr =
      if tag = "a".toList ∧ attr = "href".toList then anchorAddress
      else if (tag = "img".toList ∨ tag = "embed".toList) ∧ attr = "src".toList then mediaSource
      else if attr = "href".toList ∨ attr = "src".toList then strayAddress
      else if attr = "width".toList ∨ attr = "height".toList then dimension
      else if attr = "style".toList then style
      else if "on".toList.isPrefixOf attr then eventHandler
      else other := by
  have hfind : ∀ (r : Rule) (rs : List Rule), ((r :: rs).find? (applies tag attr)).getD other =
      if applies tag attr r then r else (rs.find? (applies tag attr)).getD other := by
    intro r rs
    rw [List.find?_cons]
    split <;> simp [*]
  simp only [Rule.of, ordered, hfind, List.find?_nil, Option.getD_none]
  simp only [applies, Bool.and_eq_true, Bool.or_eq_true, beq_iff_eq, ↓reduceIte]

theorem action_eq_filterStyle {tag attr : Text} :
    (Rule.of tag attr).action = .filterStyle ↔ attr = "style".toList := by
  rw [of_eq]
  split_ifs with h1 h2 h3 h4 h5
  · simp [h1, action]
  · simp [h2, action]
  · rcases h3 with rfl | rfl <;> simp [action]
  · rcases h4 with rfl | rfl <;> simp [action]
  · exact iff_of_true rfl h5
  · exact iff_of_false (by simp [action]) h5
  · exact iff_of_false (by simp [action]) h5

/-- An attribute that has to be an address. -/
theorem action_eq_requireUrl {tag attr : Text} :
    (Rule.of tag attr).action = .requireUrl ↔
      (tag = "a".toList ∧ attr = "href".toList) ∨
        ((tag = "img".toList ∨ tag = "embed".toList) ∧ attr = "src".toList) := by
  rw [of_eq]
  split_ifs with h1 h2
  · exact iff_of_true rfl (.inl h1)
  · exact iff_of_true rfl (.inr h2)
  all_goals exact iff_of_false (by simp [action]) (not_or.2 ⟨h1, h2⟩)

/-- An attribute that is named like an address is one of its tag or dropped. -/
theorem action_of_address (tag : Text) {attr : Text}
    (h : attr = "href".toList ∨ attr = "src".toList) :
    (Rule.of tag attr).action = .requireUrl ∨ (Rule.of tag attr).action = .drop := by
  rw [of_eq]
  split_ifs
  · exact .inl rfl
  · exact .inl rfl
  · exact .inr rfl

end Rule

namespace Attribute

/-- An attribute as it is written in a tag. -/
def write (a : Attribute) : Text := AttributeFilter.write a.name a.value

/-- What an attribute looks like that can be written and read back. -/
structure IsNeat (a : Attribute) : Prop where
  name : IsName isAttributeChar a.name
  value : ∀ c ∈ a.value, IsClean c

theorem all_flatMap_write : ∀ {as : List Attribute} (r : Text), (∀ a ∈ as, a.IsNeat) →
    all (as.flatMap write ++ r) = as ++ all r
  | [], _, _ => rfl
  | a :: as, r, h => by
    have ha := h a List.mem_cons_self
    have ih := all_flatMap_write r fun b hb => h b (List.mem_cons_of_mem a hb)
    rw [List.flatMap_cons, List.append_assoc, write,
      all_write ha.name (fun hq => (ha.value _ hq).1 rfl), ih]
    rfl

theorem isClean_of_mem_write {a : Attribute} (h : a.IsNeat) {c : Char} (hc : c ∈ a.write) :
    c ≠ '<' ∧ c ≠ '>' := by
  simp only [write, AttributeFilter.write, List.mem_append, List.mem_cons, List.not_mem_nil,
    or_false] at hc
  rcases hc with ((rfl | hc) | rfl | rfl | hc) | rfl
  · decide
  · have := isClean_of_isAttributeChar (h.name.chars c hc)
    exact ⟨this.2.1, this.2.2.1⟩
  · decide
  · decide
  · have := h.value c hc
    exact ⟨this.2.1, this.2.2.1⟩
  · decide

end Attribute

theorem isDimension_iff {s : Text} : isDimension s = true ↔
    ∃ digits, digits ≠ [] ∧ (∀ c ∈ digits, Text.isDigit c = true) ∧
      (s = digits ∨ s = digits ++ ['%']) := by
  unfold isDimension
  constructor
  · intro h
    have hsplit := List.takeWhile_append_dropWhile (p := Text.isDigit) (l := s)
    have hdrop : s.drop (s.takeWhile Text.isDigit).length = s.dropWhile Text.isDigit := by
      nth_rewrite 2 [← hsplit]
      exact List.drop_left
    simp only [hdrop, Bool.and_eq_true, Bool.or_eq_true, beq_iff_eq, Bool.not_eq_true',
      List.isEmpty_eq_false_iff] at h
    refine ⟨s.takeWhile Text.isDigit, h.1, fun c => List.mem_takeWhile_imp, ?_⟩
    rcases h.2 with hend | hend
    · rw [hend, List.append_nil] at hsplit
      exact .inl hsplit.symm
    · exact .inr (hend ▸ hsplit.symm)
  · rintro ⟨digits, hne, hdigits, rfl | rfl⟩
    · simp [List.takeWhile_eq_self_iff.2 hdigits, hne]
    · simp [takeWhile_stop hdigits (c := '%') (r := []) (by decide), hne]

namespace AttributeFilter

/-- The attribute is left out: its rule drops it, or wants a dimension and it is none. -/
def Omits (tag : Text) (a : Attribute) : Prop :=
  (Rule.of tag a.name).action = .drop ∨
    (Rule.of tag a.name).action = .requireDimension ∧ isDimension a.value = false

instance (tag : Text) : DecidablePred (Omits tag) := fun _ => inferInstanceAs (Decidable (_ ∨ _))

variable (f : AttributeFilter)

/-- The attribute that is left of one, if any. -/
def survivor? (tag : Text) (a : Attribute) : Option Attribute :=
  match (Rule.of tag a.name).action with
  | .requireUrl =>
    some ⟨a.name, if (f.accepts tag a.value).1 then a.value.encodeAttribute else []⟩
  | .requireDimension => if isDimension a.value then some a else none
  | .filterStyle => some ⟨a.name, (Style.filter f.check f.schemes tag a.value).1⟩
  | .drop => none
  | .keep => some ⟨a.name, a.value.encodeAttribute⟩

/-- The survivor of a style. -/
theorem survivor?_style (tag : Text) {a : Attribute} (hs : a.name = "style".toList) :
    f.survivor? tag a =
      some ⟨a.name, (Style.kept f.check f.schemes a.value).flatMap Declaration.write⟩ := by
  unfold survivor?
  rw [Rule.action_eq_filterStyle.2 hs, ← Style.filter_fst]

/-- The survivor of an address of a tag. -/
theorem survivor?_address {tag : Text} {a : Attribute}
    (h : (Rule.of tag a.name).action = .requireUrl) :
    f.survivor? tag a =
      some ⟨a.name, if (f.accepts tag a.value).1 then a.value.encodeAttribute else []⟩ := by
  unfold survivor?
  rw [h]

/-- The attributes that are left of the body of a tag. -/
def survivors (tag body : Text) : List Attribute :=
  (Attribute.all body).filterMap (f.survivor? tag)

theorem rendered_filterOne (tag : Text) (a : Attribute) :
    (f.filterOne tag a).rendered = (f.survivor? tag a).toList.flatMap Attribute.write := by
  simp only [filterOne, survivor?]
  rcases (Rule.of tag a.name).action
  · rcases f.accepts tag a.value with ⟨_ | _, events⟩ <;> simp [Attribute.write]
  · rcases isDimension a.value <;> simp [Attribute.write]
  · simp [Attribute.write]
  · rfl
  · simp [Attribute.write]

theorem rendered_filter (tag body : Text) :
    (f.filter tag body).rendered = (f.survivors tag body).flatMap Attribute.write := by
  unfold filter survivors Kept.concat
  simp only [List.flatMap_map, rendered_filterOne]
  induction Attribute.all body with
  | nil => rfl
  | cons a as ih =>
    rw [List.flatMap_cons, ih, List.filterMap_cons]
    rcases f.survivor? tag a with _ | b
    · rfl
    · simp

theorem foundUrl_filterOne (tag : Text) (a : Attribute) :
    (f.filterOne tag a).foundUrl = true ↔
      (Rule.of tag a.name).action = .requireUrl ∧ (f.accepts tag a.value).1 = true := by
  simp only [filterOne]
  rcases (Rule.of tag a.name).action
  · rcases f.accepts tag a.value with ⟨_ | _, events⟩ <;> simp
  · rcases isDimension a.value <;> simp
  · simp
  · simp
  · simp

theorem foundUrl_filter (tag body : Text) :
    (f.filter tag body).foundUrl = true ↔
      ∃ a ∈ Attribute.all body,
        (Rule.of tag a.name).action = .requireUrl ∧ (f.accepts tag a.value).1 = true := by
  unfold filter Kept.concat
  simp only [List.any_map, List.any_eq_true, Function.comp, foundUrl_filterOne]

variable {f}

theorem name_of_survivor {tag : Text} {a b : Attribute} (h : f.survivor? tag a = some b) :
    b.name = a.name := by
  unfold survivor? at h
  split at h
  · obtain rfl := Option.some.inj h
    rfl
  · split at h
    · obtain rfl := Option.some.inj h
      rfl
    · simp at h
  · obtain rfl := Option.some.inj h
    rfl
  · simp at h
  · obtain rfl := Option.some.inj h
    rfl

theorem survivor?_eq_none_iff {tag : Text} {a : Attribute} :
    f.survivor? tag a = none ↔ Omits tag a := by
  cases haction : (Rule.of tag a.name).action with
  | requireUrl | requireDimension | filterStyle | drop | keep => simp [survivor?, Omits, haction]

theorem isClean_of_isDimension {s : Text} (h : isDimension s = true) : ∀ c ∈ s, IsClean c := by
  obtain ⟨digits, -, hdigits, hs⟩ := isDimension_iff.1 h
  have hclean : ∀ c ∈ digits, IsClean c := fun c hc => by
    apply isClean_of_isAttributeChar
    have hd := hdigits c hc
    unfold Text.isDigit at hd
    simp [isAttributeChar, hd]
  rcases hs with rfl | rfl
  · exact hclean
  · intro c hc
    rcases List.mem_append.1 hc with hc | hc
    · exact hclean c hc
    · obtain rfl := List.mem_singleton.1 hc
      exact ⟨by decide, by decide, by decide, rfl⟩

theorem isNeat_of_survivor {tag : Text} {a b : Attribute} (ha : IsName isAttributeChar a.name)
    (h : f.survivor? tag a = some b) : b.IsNeat := by
  unfold survivor? at h
  split at h
  · obtain rfl := Option.some.inj h
    refine ⟨ha, fun c hc => ?_⟩
    simp only at hc
    split at hc
    · exact isClean_of_mem_encodeAttribute hc
    · exact absurd hc List.not_mem_nil
  · split at h
    · rename_i hd
      obtain rfl := Option.some.inj h
      exact ⟨ha, isClean_of_isDimension hd⟩
    · simp at h
  · obtain rfl := Option.some.inj h
    exact ⟨ha, fun c hc => Style.isClean_of_mem_filter hc⟩
  · simp at h
  · obtain rfl := Option.some.inj h
    exact ⟨ha, fun c hc => isClean_of_mem_encodeAttribute hc⟩

theorem isNeat_of_mem_survivors {tag body : Text} {a : Attribute}
    (h : a ∈ f.survivors tag body) : a.IsNeat := by
  obtain ⟨b, hb, ha⟩ := List.mem_filterMap.1 h
  exact isNeat_of_survivor (Attribute.isRead_of_mem_all hb).name ha

/-- What is left of a body is read back as it was written. -/
theorem all_rendered (f : AttributeFilter) (tag body : Text) :
    Attribute.all (f.filter tag body).rendered = f.survivors tag body := by
  have hread := Attribute.all_flatMap_write [] fun a (ha : a ∈ f.survivors tag body) =>
    isNeat_of_mem_survivors ha
  rwa [List.append_nil, Attribute.all_nil, List.append_nil, ← rendered_filter] at hread

end AttributeFilter

end CleanMarkup

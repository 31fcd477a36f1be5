import CleanMarkup.Shorthand
import CleanMarkup.Proofs.Acceptance
import CleanMarkup.Proofs.Emission

/-!
# No address is shown that has not been accepted

A tag in the markup to show has addresses only where they belong, each of them empty or accepted,
and a tag that needs an address has an accepted one (`guards_of_opening`).
-/

namespace CleanMarkup

namespace Rule

/-- A link is the tag whose `href` is an address. -/
theorem tag_of_href {tag : Text} (h : (Rule.of tag "href".toList).action = .requireUrl) :
    tag = "a".toList := by
  rcases action_eq_requireUrl.1 h with ⟨ht, -⟩ | ⟨-, hs⟩
  · exact ht
  · exact absurd hs (by decide)

/-- Media are the tags whose `src` is an address. -/
theorem tag_of_src {tag : Text} (h : (Rule.of tag "src".toList).action = .requireUrl) :
    tag = "img".toList ∨ tag = "embed".toList := by
  rcases action_eq_requireUrl.1 h with ⟨-, hs⟩ | ⟨ht, -⟩
  · exact absurd hs (by decide)
  · exact ht

end Rule

namespace AttributeFilter

/-- The value is an address that passes, as it is written. -/
def IsAddress (f : AttributeFilter) (tag value : Text) : Prop :=
  ∃ u : Text, value = u.encodeAttribute ∧ f.Passes tag u

/-- What the attributes of a tag have to be like for its addresses to be safe. -/
structure Guards (f : AttributeFilter) (tag : Text) (attributes : List Attribute) : Prop where
  href : ∀ a ∈ attributes, a.name = "href".toList → tag = "a".toList
  src : ∀ a ∈ attributes, a.name = "src".toList → tag = "img".toList ∨ tag = "embed".toList
  value : ∀ a ∈ attributes, a.name = "href".toList ∨ a.name = "src".toList →
    a.value = [] ∨ f.IsAddress tag a.value
  link : tag = "a".toList →
    ∃ a ∈ attributes, a.name = "href".toList ∧ f.IsAddress tag a.value
  media : tag = "img".toList ∨ tag = "embed".toList →
    ∃ a ∈ attributes, a.name = "src".toList ∧ f.IsAddress tag a.value

variable {f : AttributeFilter} {tag : Text}

/-- What is left of an attribute that is named like an address. -/
theorem survivor_of_address {a b : Attribute} (h : f.survivor? tag a = some b)
    (hb : b.name = "href".toList ∨ b.name = "src".toList) :
    (Rule.of tag b.name).action = .requireUrl ∧ (b.value = [] ∨ f.IsAddress tag b.value) := by
  have hname := name_of_survivor h
  rw [hname] at hb ⊢
  rcases Rule.action_of_address tag hb with hr | hr
  · refine ⟨hr, ?_⟩
    rw [f.survivor?_address hr] at h
    obtain rfl := Option.some.inj h
    simp only
    split
    · rename_i hp
      exact .inr ⟨a.value, rfl, accepts_iff.1 hp⟩
    · exact .inl rfl
  · rw [survivor?, hr] at h
    simp at h

theorem requiresUrl_iff {name : Text} : requiresUrl name = true ↔
    name = "a".toList ∨ name = "img".toList ∨ name = "embed".toList := by
  simp [requiresUrl]

theorem guards_survivors {body : Text}
    (h : requiresUrl tag = true → (f.filter tag body).foundUrl = true) :
    f.Guards tag (f.survivors tag body) := by
  have hkept : ∀ a ∈ f.survivors tag body, a.name = "href".toList ∨ a.name = "src".toList →
      (Rule.of tag a.name).action = .requireUrl ∧ (a.value = [] ∨ f.IsAddress tag a.value) := by
    intro a ha hname
    obtain ⟨b, -, hb⟩ := List.mem_filterMap.1 ha
    exact survivor_of_address hb hname
  have hfound : requiresUrl tag = true → ∃ a ∈ f.survivors tag body,
      (Rule.of tag a.name).action = .requireUrl ∧ f.IsAddress tag a.value := by
    intro hr
    obtain ⟨a, ha, haction, hp⟩ := (foundUrl_filter f tag body).1 (h hr)
    have hs := f.survivor?_address haction
    rw [if_pos hp] at hs
    exact ⟨_, List.mem_filterMap.2 ⟨a, ha, hs⟩, haction, a.value, rfl, accepts_iff.1 hp⟩
  refine ⟨?_, ?_, fun a ha hname => (hkept a ha hname).2, ?_, ?_⟩
  · intro a ha hname
    exact Rule.tag_of_href (hname ▸ (hkept a ha (.inl hname)).1)
  · intro a ha hname
    exact Rule.tag_of_src (hname ▸ (hkept a ha (.inr hname)).1)
  · intro ht
    obtain ⟨a, ha, haction, haddress⟩ := hfound (requiresUrl_iff.2 (.inl ht))
    rcases Rule.action_eq_requireUrl.1 haction with ⟨-, hs⟩ | ⟨hother, -⟩
    · exact ⟨a, ha, hs, haddress⟩
    · rw [ht] at hother
      exact absurd hother (by decide)
  · intro ht
    obtain ⟨a, ha, haction, haddress⟩ := hfound (requiresUrl_iff.2 (.inr ht))
    rcases Rule.action_eq_requireUrl.1 haction with ⟨hother, -⟩ | ⟨-, hs⟩
    · rw [hother] at ht
      exact absurd ht (by decide)
    · exact ⟨a, ha, hs, haddress⟩

end AttributeFilter

/-- The addresses of a tag in the markup to show have been accepted. -/
theorem guards_of_opening {c : Cleaner} {input name body raw : Text} {selfClosing : Bool}
    (h : .opening name body selfClosing raw ∈ tokens (c.clean input).html) :
    c.attributeFilter.Guards name (Attribute.all body) := by
  obtain ⟨ps, hhtml, hnested, -⟩ := c.exists_pieces input
  rw [hhtml, hnested.tokens_html] at h
  rcases hnested.mem_tokensBehind (by simp) h with ⟨_, ht, -⟩ |
    ⟨opened, _, attributes, _, _, ht, hs⟩ | ⟨_, _, ht, -⟩
  · simp at ht
  · obtain ⟨rfl, rfl, rfl, rfl⟩ := Token.opening.inj ht
    obtain ⟨source, hsource, hfound⟩ := hs.source
    rw [Piece.all_body hs.isNeat, hsource]
    exact AttributeFilter.guards_survivors hfound
  · simp at ht

theorem guards_of_link :
    Token.opening "a".toList " href=\"http://a.b\"".toList false
        "<a href=\"http://a.b\">".toList ∈
      tokens (Cleaner.standard.clean "<a href=\"http://a.b\">".toList).html ∧
    Cleaner.standard.attributeFilter.Guards "a".toList
      (Attribute.all " href=\"http://a.b\"".toList) := by
  have h : Token.opening "a".toList " href=\"http://a.b\"".toList false
      "<a href=\"http://a.b\">".toList ∈
        tokens (Cleaner.standard.clean "<a href=\"http://a.b\">".toList).html := by
    decide +kernel
  exact ⟨h, guards_of_opening h⟩

end CleanMarkup

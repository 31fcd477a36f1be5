import CleanMarkup.Shorthand
import CleanMarkup.Proofs.Recleaning

/-!
# When cleaning twice is cleaning once

Cleaned again, the markup to show can only lose declarations without a value, which makes it
shorter. So it stays as it is exactly if no tag that is written has a style with a declaration
whose value is nothing but blanks (`html_clean_clean_iff`).
-/

namespace CleanMarkup

/-- If each part stays as it is or gets shorter, all parts stay or the whole gets shorter. -/
theorem flatMap_of_shrinking {α : Type} {f g : α → Text} : ∀ {l : List α},
    (∀ x ∈ l, g x = f x ∨ (g x).length < (f x).length) →
      ((∀ x ∈ l, g x = f x) ∨ (l.flatMap g).length < (l.flatMap f).length)
  | [], _ => .inl (by simp)
  | x :: l, h => by
    have ih := flatMap_of_shrinking fun y hy => h y (List.mem_cons_of_mem x hy)
    have hle : (l.flatMap g).length ≤ (l.flatMap f).length := by
      rcases ih with hl | hl
      · rw [List.flatMap_congr hl]
      · exact Nat.le_of_lt hl
    simp only [List.flatMap_cons, List.length_append]
    rcases h x List.mem_cons_self with hx | hx
    · rw [hx]
      rcases ih with hl | hl
      · exact .inl (List.forall_mem_cons.2 ⟨hx, hl⟩)
      · exact .inr (by omega)
    · exact .inr (by omega)

/-- The attributes of a tag are written as before if none comes from a blank declaration, and
else shorter. -/
theorem AttributeFilter.settled_cases (f : AttributeFilter) (tag body : Text) :
    ((∀ a ∈ Attribute.all body, ¬ a.HasBlank) ∧
      ((f.survivors tag body).map Attribute.settled).flatMap Attribute.write =
        (f.survivors tag body).flatMap Attribute.write) ∨
    ((∃ a ∈ Attribute.all body, a.HasBlank) ∧
      (((f.survivors tag body).map Attribute.settled).flatMap Attribute.write).length <
        ((f.survivors tag body).flatMap Attribute.write).length) := by
  rw [List.flatMap_map]
  by_cases hblank : ∃ a ∈ Attribute.all body, a.HasBlank
  · refine .inr ⟨hblank, ?_⟩
    have hshrink : ∀ b ∈ f.survivors tag body,
        b.settled.write = b.write ∨ b.settled.write.length < b.write.length := by
      intro b hb
      obtain ⟨a, -, ha⟩ := List.mem_filterMap.1 hb
      by_cases h : a.HasBlank
      · exact .inr (length_settled_lt ha h)
      · exact .inl (by rw [settled_survivor ha h])
    rcases flatMap_of_shrinking hshrink with h | h
    · obtain ⟨a, ha, hb⟩ := hblank
      have hs := f.survivor?_style tag hb.1
      have hlt := length_settled_lt hs hb
      rw [h _ (List.mem_filterMap.2 ⟨a, ha, hs⟩)] at hlt
      exact absurd hlt (Nat.lt_irrefl _)
    · exact h
  · refine .inl ⟨fun a ha hb => hblank ⟨a, ha, hb⟩, List.flatMap_congr fun b hb => ?_⟩
    obtain ⟨a, ha, hs⟩ := List.mem_filterMap.1 hb
    rw [settled_survivor hs fun h => hblank ⟨a, ha, h⟩]

namespace Piece

/-- A tag is written as before if none of its attributes comes from a blank declaration, and else
shorter. -/
theorem settled_cases {c : Cleaner} {p : Piece} {tag : Text × Text}
    (h : p.tag? = some (c.left tag)) :
    ((∀ a ∈ Attribute.all tag.2, ¬ a.HasBlank) ∧ p.settled.html = p.html) ∨
      ((∃ a ∈ Attribute.all tag.2, a.HasBlank) ∧ p.settled.html.length < p.html.length) := by
  match p with
  | text s | closing name => simp [tag?] at h
  | opening name attributes slash =>
    obtain ⟨rfl, rfl⟩ := Prod.mk.inj (Option.some.inj h)
    rcases c.attributeFilter.settled_cases tag.1 tag.2 with ⟨hnone, heq⟩ | ⟨hsome, hlt⟩
    · refine .inl ⟨hnone, ?_⟩
      simp only [settled, html, body, heq]
    · refine .inr ⟨hsome, ?_⟩
      simp only [settled, html, body, List.length_cons, List.length_append]
      omega

theorem settled_of_tag?_eq_none {p : Piece} (h : p.tag? = none) : p.settled = p := by
  match p with
  | text s => rfl
  | closing name => rfl
  | opening name attributes slash => simp [tag?] at h

end Piece

namespace Cleaner

/-- What is cleaned stays as it is when it is cleaned again exactly if no tag that is written has
a declaration with nothing but blanks for a value. -/
theorem html_clean_clean_iff {c : Cleaner} (hcheck : c.check.IsPlain) (input : Text) :
    (c.clean (c.clean input).html).html = (c.clean input).html ↔
      ∀ tag ∈ c.written input, ∀ a ∈ Attribute.all tag.2, ¬ a.HasBlank := by
  obtain ⟨ps, hhtml, hnested, htags⟩ := c.exists_pieces input
  have hagain : (c.clean (c.clean input).html).html = ps.flatMap fun p => p.settled.html := by
    rw [hhtml, html_clean_pieces hcheck hnested]
  have hsource : ∀ p ∈ ps, p.tag? = none ∨ ∃ tag ∈ c.written input, p.tag? = some (c.left tag) := by
    intro p hp
    rcases ht : p.tag? with _ | t
    · exact .inl rfl
    · have hm : t ∈ (c.written input).map c.left := htags ▸ List.mem_filterMap.2 ⟨p, hp, ht⟩
      obtain ⟨tag, htag, rfl⟩ := List.mem_map.1 hm
      exact .inr ⟨tag, htag, rfl⟩
  rw [hagain, hhtml]
  constructor
  · intro heq tag htag a ha hblank
    -- no piece gets longer, so equal texts leave no piece room to get shorter
    have hshrink : ∀ p ∈ ps, p.settled.html = p.html ∨ p.settled.html.length < p.html.length := by
      intro p hp
      rcases hsource p hp with h | ⟨tag, -, h⟩
      · exact .inl (by rw [Piece.settled_of_tag?_eq_none h])
      · exact (Piece.settled_cases h).imp (·.2) (·.2)
    have hm : c.left tag ∈ ps.filterMap Piece.tag? := htags ▸ List.mem_map_of_mem htag
    obtain ⟨p, hp, ht⟩ := List.mem_filterMap.1 hm
    rcases flatMap_of_shrinking hshrink with h | h
    · rcases Piece.settled_cases ht with ⟨hnone, -⟩ | ⟨-, hlt⟩
      · exact hnone a ha hblank
      · rw [h p hp] at hlt
        exact absurd hlt (Nat.lt_irrefl _)
    · rw [heq] at h
      exact absurd h (Nat.lt_irrefl _)
  · intro hnone
    refine List.flatMap_congr fun p hp => ?_
    rcases hsource p hp with h | ⟨tag, htag, h⟩
    · rw [Piece.settled_of_tag?_eq_none h]
    · rcases Piece.settled_cases h with ⟨-, heq⟩ | ⟨⟨a, ha, hblank⟩, -⟩
      · exact heq
      · exact absurd hblank (hnone tag htag a ha)

/-- The cleaner where nothing is set, for any reading of hosts. -/
def standardWith (namesHost : Text → Bool) : Cleaner :=
  { policy := .standard, settings := {}, check := AbsoluteUrl.passes namesHost }

example : standardWith Url.namesHost = standard := rfl

/-- Cleaning twice is cleaning once unless a tag that is written has a declaration whose value is
nothing but blanks. -/
theorem standard_idempotent_iff (namesHost : Text → Bool) (input : Text) :
    ((standardWith namesHost).clean ((standardWith namesHost).clean input).html).html =
        ((standardWith namesHost).clean input).html ↔
      ∀ tag ∈ (standardWith namesHost).written input, ∀ a ∈ Attribute.all tag.2,
        a.name = "style".toList → ∀ d ∈ Declaration.all a.value, d.value ≠ [] := by
  rw [html_clean_clean_iff (isPlain_passes namesHost)]
  simp only [Attribute.HasBlank, not_and, not_exists, ne_eq]

end Cleaner

/-- A declaration of blanks is written without them the first time and lost the second. -/
theorem cleanHtml_cleanHtml_ne :
    cleanHtml (cleanHtml "<p style=\"a: ;\"></p>".toList) ≠
      cleanHtml "<p style=\"a: ;\"></p>".toList := by
  decide +kernel

end CleanMarkup

import CleanMarkup.Proofs.Containment
import CleanMarkup.Proofs.Faults

/-!
# What breaks no rule

Each rule finds nothing exactly if the attribute is what it asks for
(`AttributeFilter.faults_eq_nil_iff`). So meeting a span finds nothing exactly if it is text, a
closing tag of an allowed name that has an end, or an opening tag of an allowed name inside the tag
that it belongs in whose attributes all break no rule (`Cleaner.violated_step_eq_nil_iff`).
-/

namespace CleanMarkup

namespace AttributeFilter

variable {f : AttributeFilter} {tag : Text} {a : Attribute}

/-- The attribute is what its rule asks for. -/
def Clears (f : AttributeFilter) (tag : Text) (a : Attribute) : Prop :=
  match (Rule.of tag a.name).action with
  | .requireUrl => f.Passes tag a.value
  | .requireDimension => isDimension a.value = true
  | .filterStyle => ∀ d ∈ Declaration.all a.value, (Style.judge f.check f.schemes d.value).1 = none
  | .drop => False
  | .keep => True

theorem faults_eq_nil_iff : f.faults tag a = [] ↔ f.Clears tag a := by
  cases haction : (Rule.of tag a.name).action with
  | requireUrl => simp [faults, Omits, Clears, haction]
  | requireDimension => simp [faults, Omits, Clears, haction]
  | filterStyle => simp [faults, Omits, Clears, haction, Style.dropped_eq_nil_iff]
  | drop => simp [faults, Omits, Clears, haction]
  | keep => simp [faults, Omits, Clears, haction]

theorem violated_filter_eq_nil_iff {body : Text} :
    violated (f.filter tag body).events = [] ↔ ∀ a ∈ Attribute.all body, f.Clears tag a := by
  rw [violated_filter, found, List.flatMap_eq_nil_iff]
  exact forall₂_congr fun a _ => faults_eq_nil_iff

end AttributeFilter

namespace Cleaner

variable {c : Cleaner} {s : Situation}

/-- The token breaks no rule in the situation. -/
def Clears (c : Cleaner) (s : Situation) : Token → Prop
  | .opening name body _ _ => c.policy.classify name = .allowed ∧
      (∀ a ∈ requiredAncestor? name, s.openTags.contains a = true) ∧
        ∀ a ∈ Attribute.all body, c.attributeFilter.Clears name a
  | .closing name _ => isVoid name = false ∧ c.policy.classify name = .allowed
  | .text _ => True
  | .comment _ => False

theorem violated_unknownTag {raw : Text} (h : raw ≠ []) : violated (unknownTag raw) ≠ [] := by
  simp [unknownTag, violated, h]

theorem ancestor_iff {name : Text} :
    (requiredAncestor? name).any (!s.openTags.contains ·) = false ↔
      ∀ a ∈ requiredAncestor? name, s.openTags.contains a = true := by
  rcases requiredAncestor? name with _ | a
  · simp
  · simp

theorem violated_opening_eq_nil_iff {name body raw : Text} (hraw : raw ≠ []) (selfClosing : Bool) :
    violated (c.opening s name body selfClosing raw).2 = [] ↔
      c.Clears s (.opening name body selfClosing raw) := by
  rcases hc : c.policy.classify name with _ | _ | _
  · refine iff_of_false ?_ fun h => by simp [Clears, hc] at h
    simp [opening, hc, violated]
  · have hkept : ∀ es, violated es = [] →
        (violated ((c.attributeFilter.filter name body).events ++ es) = [] ↔
          ∀ a ∈ Attribute.all body, c.attributeFilter.Clears name a) := by
      intro es hes
      rw [violated_append, hes, List.append_nil, AttributeFilter.violated_filter_eq_nil_iff]
    rw [Clears, and_iff_right hc, ← ancestor_iff]
    simp only [opening, hc]
    rcases (requiredAncestor? name).any (!s.openTags.contains ·)
    · rw [and_iff_right rfl, if_neg (by simp)]
      split_ifs
      · exact hkept _ rfl
      · exact hkept _ rfl
      · exact hkept _ rfl
    · exact iff_of_false (by simp [violated]) (by simp)
  · refine iff_of_false ?_ fun h => by simp [Clears, hc] at h
    simp only [opening, hc]
    exact violated_unknownTag hraw

theorem violated_closing_eq_nil_iff {name raw : Text} (hraw : raw ≠ []) :
    violated (c.closing s name raw).2 = [] ↔ c.Clears s (.closing name raw) := by
  unfold closing
  split
  · rename_i hv
    exact iff_of_false (by simp [violated, hraw]) fun h => by simp [Clears, hv] at h
  · rename_i hv
    rw [Clears, and_iff_right (by simpa using hv)]
    split
    · rename_i hc
      exact iff_of_false (by simp [violated]) (by simp [hc])
    · rename_i hc
      exact iff_of_false (violated_unknownTag hraw) (by simp [hc])
    · rename_i hc
      refine iff_of_true ?_ hc
      split
      · rfl
      · rfl

theorem violated_meet_eq_nil_iff {t : Token} (ht : t.raw ≠ []) :
    violated (c.meet s t).2 = [] ↔ c.Clears s t := by
  cases t with
  | comment raw =>
    refine iff_of_false ?_ id
    have hraw : raw ≠ [] := ht
    simp only [meet, comment]
    split_ifs <;> simp [violated, hraw]
  | opening name body selfClosing raw => exact violated_opening_eq_nil_iff ht selfClosing
  | closing name raw => exact violated_closing_eq_nil_iff ht
  | text raw => exact iff_of_true rfl trivial

/-- Where nothing is left out, a span breaks no rule exactly if nothing is found in it. -/
theorem violated_step_eq_nil_iff (hskip : s.skipping = none) {u : Text} (hu : u ≠ []) :
    violated (c.step s (Token.ofSpan u)).2 = [] ↔ c.Clears s (Token.ofSpan u) := by
  have hmeet := violated_meet_eq_nil_iff (c := c) (s := s) (t := Token.ofSpan u)
    ((Token.raw_ofSpan u).symm ▸ hu)
  rwa [step_of_meeting hskip]

/-- Nothing is left out behind a token that breaks no rule. -/
theorem Clears.skipping {t : Token} (h : c.Clears s t) :
    (c.meet s t).1.skipping = s.skipping := by
  cases t with
  | comment raw => rfl
  | opening name body selfClosing raw =>
    simp only [meet, opening, h.1]
    split_ifs <;> rfl
  | closing name raw =>
    simp only [meet, closing, h.1, h.2]
    rcases s.openTags.closeThrough? name <;> rfl
  | text raw => rfl

end Cleaner

end CleanMarkup

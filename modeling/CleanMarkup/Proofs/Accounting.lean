import CleanMarkup.Proofs.SafeAttributes
import CleanMarkup.Proofs.Verdict
import Mathlib.Data.List.Forall2

/-!
# No attribute is lost silently

Every attribute that is found in the body of a tag (`Attribute.finds_iff_eq_all`) is either left
out, with a violation, or written again under its name in its place, and an address that does not
pass is written empty, with a violation (`AttributeFilter.filter_accounts`). The report gets these
violations, those of the styles, and nothing else.
-/

namespace CleanMarkup

namespace AttributeFilter

variable {f : AttributeFilter} {tag : Text}

/-- An attribute is written again as another, under the same name, and empty if it is an address
that does not pass. -/
def Writes (f : AttributeFilter) (tag : Text) (a b : Attribute) : Prop :=
  b.name = a.name ∧
    ((Rule.of tag a.name).action = .requireUrl → ¬ f.Passes tag a.value → b.value = [])

theorem writes_of_survivor {a b : Attribute} (h : f.survivor? tag a = some b) :
    f.Writes tag a b := by
  refine ⟨name_of_survivor h, fun haction hpasses => ?_⟩
  rw [f.survivor?_address haction, if_neg (accepts_iff.not.2 hpasses)] at h
  obtain rfl := Option.some.inj h
  rfl

theorem forall₂_writes (as : List Attribute) :
    List.Forall₂ (f.Writes tag) (as.filter (¬ Omits tag ·)) (as.filterMap (f.survivor? tag)) := by
  induction as with
  | nil => exact .nil
  | cons a as ih =>
    rcases h : f.survivor? tag a with _ | b
    · rwa [List.filterMap_cons_none h, List.filter_cons_of_neg]
      simpa using survivor?_eq_none_iff.1 h
    · rw [List.filterMap_cons_some h, List.filter_cons_of_pos]
      · exact .cons (writes_of_survivor h) ih
      · simp [← survivor?_eq_none_iff (f := f), h]

/-- All attributes of a body are accounted for, in their order. Some address is found exactly if one
passes, and the violations are all that is added to the report. -/
theorem filter_accounts (f : AttributeFilter) (tag body : Text) (r : Report) :
    (∃ as, (f.filter tag body).rendered = as.flatMap Attribute.write ∧
      Attribute.all (f.filter tag body).rendered = as ∧
      List.Forall₂ (f.Writes tag) ((Attribute.all body).filter (¬ Omits tag ·)) as) ∧
    ((f.filter tag body).foundUrl = true ↔ f.HasAddress tag body) ∧
    r.after (f.filter tag body).events = { r with
      ledger := r.ledger ++ (f.found tag body).take (r.limit - r.ledger.size)
      tally := (f.found tag body).foldl (fun t v => t.increment (Report.nameOf v)) r.tally } := by
  refine ⟨⟨f.survivors tag body, f.rendered_filter tag body, f.all_rendered tag body,
    forall₂_writes _⟩, foundUrl_eq_true_iff, ?_⟩
  rw [Report.after_silent (f.isSilent_filter tag body), violated_filter]

end AttributeFilter

end CleanMarkup

import CleanMarkup.Proofs.Acceptance
import CleanMarkup.Proofs.Stored
import CleanMarkup.Proofs.Survivors

/-!
# What is found in attributes

An attribute is left out with a violation, or it is kept, and then an address that does not pass and
each declaration that is dropped from a style is one (`AttributeFilter.faults`). Judging attributes
finds this and nothing else (`AttributeFilter.violated_filter`).
-/

namespace CleanMarkup

/-- The checks of addresses find nothing. -/
theorem violated_of_isQuestion {es : List Event} (h : ∀ e ∈ es, e.IsQuestion) :
    violated es = [] := by
  rw [violated, List.filterMap_eq_nil_iff]
  intro e he
  cases e with
  | asked => rfl
  | _ => exact (h _ he).elim

namespace Style

variable {check : UrlCheck} {schemes : List Text}

theorem violated_filterDeclaration (tag : Text) (d : Declaration) :
    violated (filterDeclaration check schemes tag d).2 =
      if (judge check schemes d.value).1.isSome then [tag ++ " style ".toList ++ d.value]
      else [] := by
  have hjudge := violated_of_isQuestion (isQuestion_judge check schemes d.value)
  unfold filterDeclaration
  rcases hj : judge check schemes d.value with ⟨_ | fault, events⟩ <;> rw [hj] at hjudge
  · exact hjudge
  · rw [violated_append, hjudge]
    simp [violated]

variable (check schemes) in
/-- The declarations of a style that are dropped. -/
def dropped (style : Text) : List Declaration :=
  (Declaration.all style).filter fun d => (judge check schemes d.value).1.isSome

theorem dropped_eq_nil_iff {style : Text} : dropped check schemes style = [] ↔
    ∀ d ∈ Declaration.all style, (judge check schemes d.value).1 = none := by
  rw [dropped, List.filter_eq_nil_iff]
  exact forall₂_congr fun d _ => by
    rw [Bool.not_eq_true, Option.isSome_eq_false_iff, Option.isNone_iff_eq_none]

theorem violated_filter (tag style : Text) :
    violated (Style.filter check schemes tag style).2 =
      (dropped check schemes style).map fun d => tag ++ " style ".toList ++ d.value := by
  unfold Style.filter dropped
  rw [violated, List.filterMap_flatMap, List.flatMap_map]
  change ((Declaration.all style).flatMap fun d =>
    violated (filterDeclaration check schemes tag d).2) = _
  simp only [violated_filterDeclaration]
  induction Declaration.all style with
  | nil => rfl
  | cons d ds ih =>
    rw [List.flatMap_cons, ih, List.filter_cons]
    split_ifs
    · rfl
    · rfl

end Style

namespace AttributeFilter

variable {f : AttributeFilter} {tag : Text} {a : Attribute}

/-- What is found in an attribute, in order. -/
def faults (f : AttributeFilter) (tag : Text) (a : Attribute) : List Text :=
  if Omits tag a then [tag ++ ' ' :: a.name ++ ' ' :: a.value]
  else match (Rule.of tag a.name).action with
    | .requireUrl => if f.Passes tag a.value then [] else [a.name ++ ' ' :: a.value]
    | .filterStyle =>
      (Style.dropped f.check f.schemes a.value).map fun d => tag ++ " style ".toList ++ d.value
    | .requireDimension | .drop | .keep => []

theorem violated_filterOne (f : AttributeFilter) (tag : Text) (a : Attribute) :
    violated (f.filterOne tag a).events = f.faults tag a := by
  have hruled : ∀ es : List Event, violated (.ruled tag a.name (Rule.of tag a.name) :: es) =
      violated es := fun _ => rfl
  cases haction : (Rule.of tag a.name).action with
  | requireUrl =>
    have hviolated := violated_of_isQuestion (f.isQuestion_accepts tag a.value)
    simp only [filterOne, faults, Omits, haction, ← accepts_iff, reduceCtorEq, false_and, or_self,
      ↓reduceIte]
    rcases hacc : f.accepts tag a.value with ⟨_ | _, events⟩ <;> rw [hacc] at hviolated
    · rw [violated_append, hruled, hviolated]
      simp [violated]
    · rw [hruled, hviolated]
      rfl
  | requireDimension =>
    simp only [filterOne, faults, Omits, haction, reduceCtorEq, true_and, false_or]
    rcases isDimension a.value
    · simp [violated]
    · rfl
  | filterStyle =>
    simp only [filterOne, faults, Omits, haction, hruled, Style.violated_filter, reduceCtorEq,
      false_and, or_self, ↓reduceIte]
  | drop =>
    rw [faults, if_pos (.inl haction)]
    simp [filterOne, haction, violated]
  | keep =>
    simp only [filterOne, faults, Omits, haction, reduceCtorEq, false_and, or_self, ↓reduceIte]
    rfl

/-- What is found in the body of a tag, in order. -/
def found (f : AttributeFilter) (tag body : Text) : List Text :=
  (Attribute.all body).flatMap (f.faults tag)

theorem violated_filter (f : AttributeFilter) (tag body : Text) :
    violated (f.filter tag body).events = f.found tag body := by
  unfold filter Kept.concat
  rw [violated, List.filterMap_flatMap, List.flatMap_map]
  exact List.flatMap_congr fun a _ => f.violated_filterOne tag a

end AttributeFilter

end CleanMarkup

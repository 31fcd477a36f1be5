import CleanMarkup.Cleaner
import Mathlib.Tactic.SplitIfs

/-!
# What events show

The markup to show is what the events put out as such, one after another (`html_after`). Judging
attributes puts nothing out (`AttributeFilter.isSilent_filter`).
-/

namespace CleanMarkup

/-- What events add to the markup to show. -/
def shown (es : List Event) : Text :=
  es.flatMap fun
    | .html s => s
    | _ => []

theorem shown_append (es fs : List Event) : shown (es ++ fs) = shown es ++ shown fs :=
  List.flatMap_append

theorem shown_cons (e : Event) (es : List Event) : shown (e :: es) = shown [e] ++ shown es :=
  shown_append [e] es

/-- The event puts nothing out. -/
def Event.IsSilent : Event → Prop
  | .html _ | .text _ | .val _ => False
  | .token _ | .ruled _ _ _ | .asked _ _ _ | .declarationDropped _ _ _ | .suppressed _
  | .violation _ => True

theorem shown_eq_nil {es : List Event} (h : ∀ e ∈ es, e.IsSilent) : shown es = [] := by
  rw [shown, List.flatMap_eq_nil_iff]
  intro e he
  split
  · exact (h _ he).elim
  · rfl

theorem shown_markup (s : Text) : shown (markup s) = s := by
  simp [shown, markup]

namespace Report

theorem exists_addText (r : Report) (s : Text) : ∃ b, r.addText s = { r with textBuffer := b } := by
  unfold addText
  split
  · exact ⟨r.textBuffer, rfl⟩
  · exact ⟨_, rfl⟩

theorem exists_addViolation (r : Report) (v : Text) :
    ∃ l t, r.addViolation v = { r with ledger := l, tally := t } := by
  unfold addViolation
  split
  · exact ⟨r.ledger, r.tally, rfl⟩
  · exact ⟨_, _, rfl⟩

end Report

theorem html_note (r : Report) (e : Event) : (r.note e).html = r.html ++ shown [e] := by
  cases e with
  | html s => simp [Report.note, shown]
  | text s =>
    obtain ⟨b, hb⟩ := r.exists_addText s
    simp [Report.note, shown, hb, Report.html]
  | violation v =>
    obtain ⟨l, t, hl⟩ := r.exists_addViolation v
    simp [Report.note, shown, hl, Report.html]
  | _ => simp [Report.note, shown, Report.addVal, Report.html]

theorem html_after (r : Report) (es : List Event) : (r.after es).html = r.html ++ shown es := by
  induction es generalizing r with
  | nil => simp [Report.after, shown]
  | cons e es ih =>
    change ((r.note e).after es).html = _
    rw [ih, html_note, List.append_assoc, ← shown_cons]

theorem Report.length_note (r : Report) (e : Event) :
    (r.note e).length = r.length + (shown [e]).length := by
  cases e with
  | html s => simp [note, shown]
  | text s =>
    obtain ⟨b, hb⟩ := r.exists_addText s
    rw [note, hb]
    rfl
  | violation v =>
    obtain ⟨l, t, hl⟩ := r.exists_addViolation v
    rw [note, hl]
    rfl
  | _ => rfl

theorem Report.length_after (r : Report) (es : List Event) :
    (r.after es).length = r.length + (shown es).length := by
  induction es generalizing r with
  | nil => rfl
  | cons e es ih =>
    change ((r.note e).after es).length = _
    rw [ih, length_note, shown_cons e es, List.length_append, Nat.add_assoc]

/-- The event is the check of an address. -/
def Event.IsQuestion : Event → Prop
  | .asked _ _ _ => True
  | .token _ | .ruled _ _ _ | .declarationDropped _ _ _ | .suppressed _ | .html _ | .text _ | .val _
  | .violation _ => False

/-- The event is a part of judging one attribute under its rule. -/
def Event.IsRemark : Event → Prop
  | .asked _ _ _ | .declarationDropped _ _ _ | .violation _ => True
  | .token _ | .ruled _ _ _ | .suppressed _ | .html _ | .text _ | .val _ => False

theorem Event.IsQuestion.isRemark {e : Event} (h : e.IsQuestion) : e.IsRemark := by
  cases e with
  | asked => trivial
  | _ => exact h.elim

theorem Event.IsRemark.isSilent {e : Event} (h : e.IsRemark) : e.IsSilent := by
  cases e with
  | html | text | val => exact h.elim
  | _ => trivial

namespace Style

variable (check : UrlCheck) (schemes : List Text)

theorem isQuestion_checkAll :
    ∀ as : List Text, ∀ e ∈ (checkAll check schemes as).2, e.IsQuestion
  | [] => by simp [checkAll]
  | a :: as => by
    have ih := isQuestion_checkAll as
    unfold checkAll
    simp only []
    split
    · exact List.forall_mem_cons.2 ⟨trivial, ih⟩
    · exact List.forall_mem_singleton.2 trivial

theorem isQuestion_judge (value : Text) :
    ∀ e ∈ (judge check schemes value).2, e.IsQuestion := by
  unfold judge
  split_ifs
  · simp
  · simp
  · simp
  · exact isQuestion_checkAll check schemes _

theorem isRemark_filterDeclaration (tag : Text) (d : Declaration) :
    ∀ e ∈ (filterDeclaration check schemes tag d).2, e.IsRemark := by
  have hjudge : ∀ e ∈ (judge check schemes d.value).2, e.IsRemark := fun e he =>
    (isQuestion_judge check schemes d.value e he).isRemark
  unfold filterDeclaration
  rcases hj : judge check schemes d.value with ⟨_ | fault, events⟩ <;> rw [hj] at hjudge
  · exact hjudge
  · refine List.forall_mem_append.2 ⟨hjudge, ?_⟩
    exact List.forall_mem_cons.2 ⟨trivial, List.forall_mem_singleton.2 trivial⟩

end Style

namespace AttributeFilter

variable (f : AttributeFilter) (tag : Text)

theorem isQuestion_accepts (value : Text) : ∀ e ∈ (f.accepts tag value).2, e.IsQuestion := by
  unfold accepts
  simp only []
  split
  · exact List.forall_mem_singleton.2 trivial
  · split
    · split
      · exact List.forall_mem_cons.2 ⟨trivial, List.forall_mem_singleton.2 trivial⟩
      · exact List.forall_mem_singleton.2 trivial
    · exact List.forall_mem_singleton.2 trivial

/-- An attribute is judged under its rule, and all else is remarks. -/
theorem exists_remarks (a : Attribute) :
    ∃ es, (f.filterOne tag a).events = .ruled tag a.name (Rule.of tag a.name) :: es ∧
      ∀ e ∈ es, e.IsRemark := by
  have hdropped : ∀ e ∈ [Event.violation (tag ++ ' ' :: a.name ++ ' ' :: a.value)], e.IsRemark :=
    List.forall_mem_singleton.2 trivial
  simp only [filterOne]
  rcases (Rule.of tag a.name).action
  · have haccepts : ∀ e ∈ (f.accepts tag a.value).2, e.IsRemark := fun e he =>
      (f.isQuestion_accepts tag a.value e he).isRemark
    rcases ha : f.accepts tag a.value with ⟨_ | _, events⟩ <;> rw [ha] at haccepts
    · refine ⟨_, rfl, List.forall_mem_append.2 ⟨haccepts, ?_⟩⟩
      exact List.forall_mem_singleton.2 trivial
    · exact ⟨_, rfl, haccepts⟩
  · rcases isDimension a.value
    · exact ⟨_, rfl, hdropped⟩
    · exact ⟨[], rfl, by simp⟩
  · refine ⟨_, rfl, fun e he => ?_⟩
    obtain ⟨_, hd, he⟩ := List.mem_flatMap.1 he
    obtain ⟨d, -, rfl⟩ := List.mem_map.1 hd
    exact Style.isRemark_filterDeclaration _ _ _ _ e he
  · exact ⟨_, rfl, hdropped⟩
  · exact ⟨[], rfl, by simp⟩

/-- Judging attributes puts nothing out. -/
theorem isSilent_filter (body : Text) : ∀ e ∈ (f.filter tag body).events, e.IsSilent := by
  intro e he
  unfold filter Kept.concat at he
  obtain ⟨_, hk, he⟩ := List.mem_flatMap.1 he
  obtain ⟨a, -, rfl⟩ := List.mem_map.1 hk
  obtain ⟨es, hes, hremark⟩ := f.exists_remarks tag a
  rw [hes] at he
  rcases List.mem_cons.1 he with rfl | he
  · trivial
  · exact (hremark e he).isSilent

end AttributeFilter

theorem shown_filter (f : AttributeFilter) (tag body : Text) :
    shown (f.filter tag body).events = [] :=
  shown_eq_nil (f.isSilent_filter tag body)

end CleanMarkup

import CleanMarkup.Report
import CleanMarkup.Proofs.Finding
import Mathlib.Algebra.GroupWithZero.Nat
import Mathlib.Data.List.Perm.Subperm

/-!
# The risk of violations

The score is capped after each violation, which is the same as adding up all points and capping the
sum (`Report.foldl_capped`). So it counts the violations, those that mention code, and those that
mention an event handler but no code (`Report.riskOf_eq_min`). Their order has no part in it, and
more violations never lower it (`Report.riskOf_le_of_subperm`).
-/

namespace CleanMarkup

namespace Report

/-- The violation mentions scripts or evaluation, in whatever case. -/
def MentionsCode (v : Text) : Prop :=
  "script".toList <:+: v.lower ∨ "eval".toList <:+: v.lower

/-- The violation mentions one of two event handlers, in whatever case. -/
def MentionsHandler (v : Text) : Prop :=
  "onclick".toList <:+: v.lower ∨ "onerror".toList <:+: v.lower

instance : DecidablePred MentionsCode := fun _ => inferInstanceAs (Decidable (_ ∨ _))

instance : DecidablePred MentionsHandler := fun _ => inferInstanceAs (Decidable (_ ∨ _))

/-- The points of violations before they are capped: ten each, thirty more for code, and else twenty
more for a handler. -/
def points (violations : List Text) : Nat :=
  10 * violations.length + 30 * violations.countP (MentionsCode ·) +
    20 * violations.countP fun v => ¬ MentionsCode v ∧ MentionsHandler v

theorem surcharge_eq (v : Text) :
    surcharge v = if MentionsCode v then 30 else if MentionsHandler v then 20 else 0 := by
  have hincludes : ∀ {m : Text}, m ≠ [] → (v.lower.includes m = true ↔ m <:+: v.lower) :=
    fun hm => Text.includes_iff hm
  unfold surcharge
  simp only [Bool.or_eq_true, hincludes (show "script".toList ≠ [] by decide),
    hincludes (show "eval".toList ≠ [] by decide), hincludes (show "onclick".toList ≠ [] by decide),
    hincludes (show "onerror".toList ≠ [] by decide)]
  rfl

theorem sum_surcharge (violations : List Text) : (violations.map surcharge).sum =
    30 * violations.countP (MentionsCode ·) +
      20 * violations.countP fun v => ¬ MentionsCode v ∧ MentionsHandler v := by
  induction violations with
  | nil => rfl
  | cons v violations ih =>
    rw [List.map_cons, List.sum_cons, ih, surcharge_eq, List.countP_cons, List.countP_cons]
    by_cases hcode : MentionsCode v
    · simp only [hcode, not_true_eq_false, false_and, decide_true, decide_false, ↓reduceIte,
        Bool.false_eq_true]
      omega
    · by_cases hhandler : MentionsHandler v
      · simp only [hcode, hhandler, not_false_eq_true, and_self, decide_true, decide_false,
          ↓reduceIte, Bool.false_eq_true]
        omega
      · simp only [hcode, hhandler, and_false, decide_false, ↓reduceIte, Bool.false_eq_true]
        omega

/-- Capping after each step is capping once at the end. -/
theorem foldl_capped (violations : List Text) (start : Nat) :
    violations.foldl (fun score v => min maxRisk (score + surcharge v)) (min maxRisk start) =
      min maxRisk (start + (violations.map surcharge).sum) := by
  induction violations generalizing start with
  | nil => rfl
  | cons v violations ih =>
    have hstep : min maxRisk (min maxRisk start + surcharge v) =
        min maxRisk (start + surcharge v) := by omega
    rw [List.foldl_cons, hstep, ih, List.map_cons, List.sum_cons, Nat.add_assoc]

theorem riskOf_eq_min (violations : List Text) :
    riskOf violations = min maxRisk (points violations) := by
  rw [riskOf, foldl_capped, sum_surcharge, points, Nat.add_assoc]

theorem points_le_of_subperm {vs ws : List Text} (h : vs.Subperm ws) : points vs ≤ points ws := by
  have hlength := h.length_le
  have hcode := h.countP_le (MentionsCode ·)
  have hhandler := h.countP_le fun v => ¬ MentionsCode v ∧ MentionsHandler v
  unfold points
  omega

/-- More violations, in whatever order, are no less of a risk. -/
theorem riskOf_le_of_subperm {vs ws : List Text} (h : vs.Subperm ws) : riskOf vs ≤ riskOf ws := by
  have hpoints := points_le_of_subperm h
  rw [riskOf_eq_min, riskOf_eq_min]
  omega

/-- The risk of violations is no more than that of these and others behind them. -/
theorem riskOf_le_of_prefix {vs ws : List Text} (h : vs <+: ws) : riskOf vs ≤ riskOf ws :=
  riskOf_le_of_subperm h.sublist.subperm

theorem riskOf_eq_of_perm {vs ws : List Text} (h : vs.Perm ws) : riskOf vs = riskOf ws :=
  Nat.le_antisymm (riskOf_le_of_subperm h.subperm) (riskOf_le_of_subperm h.symm.subperm)

theorem riskOf_eq_zero_iff {vs : List Text} : riskOf vs = 0 ↔ vs = [] := by
  rw [riskOf_eq_min, ← List.length_eq_zero_iff]
  constructor
  · intro h
    unfold points maxRisk at h
    omega
  · intro h
    rw [List.length_eq_zero_iff.1 h]
    rfl

/-- The risk of a report is the points of its recorded violations, up to a hundred. It is none only
where nothing is recorded, in whatever order they are it is the same, and it never falls when
others are recorded with them. -/
theorem risk_eq_min (r : Report) :
    r.risk = min 100 (10 * r.violations.length + 30 * r.violations.countP (MentionsCode ·) +
        20 * r.violations.countP fun v => ¬ MentionsCode v ∧ MentionsHandler v) ∧
      r.risk ≤ 100 ∧ (r.risk = 0 ↔ r.violations = []) ∧
      (∀ s : Report, r.violations.Perm s.violations → r.risk = s.risk) ∧
      (∀ s : Report, r.violations.Subperm s.violations → r.risk ≤ s.risk) ∧
      ∀ v, r.risk ≤ (r.addViolation v).risk := by
  have hrisk : r.risk = min 100 (points r.violations) := riskOf_eq_min r.violations
  refine ⟨hrisk, by omega, riskOf_eq_zero_iff, fun s => riskOf_eq_of_perm,
    fun s => riskOf_le_of_subperm, fun v => ?_⟩
  exact riskOf_le_of_prefix (r.violations_prefix_addViolation v)

end Report

end CleanMarkup

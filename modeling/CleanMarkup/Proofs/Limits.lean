import CleanMarkup.Proofs.Growth
import CleanMarkup.Shorthand

/-!
# How many violations are recorded

Whether there is room for a violation is asked only when it is recorded. So the limit has no part in
what happens while a text is cleaned (`Cleaner.events_congr`), and what happens leaves two reports
with different limits the same in all but what they have recorded (`Report.SameTotals.after`). That
is how many of the violations the limit allows, counted from the first (`clean_of_limits`).
-/

namespace CleanMarkup

/-- The settings have these values, with the limit as it is or made at least one. -/
def Settings.IsGiven (limit : Nat) (schemes : Option (List Text)) (mailLinks : Option Bool)
    (s : Settings) : Prop :=
  s = ofGiven (some limit) schemes mailLinks ∨ s = build (some limit) schemes mailLinks

namespace Report

/-- Two reports that are the same but for what they have recorded. -/
structure SameTotals (r s : Report) : Prop where
  output : r.SameOutput s
  length : r.length = s.length
  tally : r.tally = s.tally

theorem tally_addViolation (r : Report) (v : Text) :
    (r.addViolation v).tally = if v = [] then r.tally else r.tally.increment (nameOf v) := by
  by_cases hv : v = []
  · rw [hv, addViolation_nil, if_pos rfl]
  · rw [addViolation, if_neg (by simpa using hv), if_neg hv]

theorem SameTotals.note {r s : Report} (h : r.SameTotals s) (e : Event) :
    (r.note e).SameTotals (s.note e) := by
  have houtput := h.output.note e
  cases e with
  | html t => exact ⟨houtput, congrArg (· + t.length) h.length, h.tally⟩
  | text t =>
    obtain ⟨b, hb⟩ := r.exists_addText t
    obtain ⟨d, hd⟩ := s.exists_addText t
    rw [Report.note, Report.note] at houtput ⊢
    rw [hb, hd] at houtput ⊢
    exact ⟨houtput, h.length, h.tally⟩
  | violation v =>
    have htally : (r.addViolation v).tally = (s.addViolation v).tally := by
      rw [tally_addViolation, tally_addViolation, h.tally]
    obtain ⟨l, t, hl⟩ := r.exists_addViolation v
    obtain ⟨m, u, hm⟩ := s.exists_addViolation v
    rw [Report.note, Report.note] at houtput ⊢
    rw [hl, hm] at houtput htally ⊢
    exact ⟨houtput, h.length, htally⟩
  | val | token | ruled | asked | declarationDropped | suppressed =>
    exact ⟨houtput, h.length, h.tally⟩

theorem SameTotals.after {r s : Report} (h : r.SameTotals s) (es : List Event) :
    (r.after es).SameTotals (s.after es) := by
  induction es generalizing r s with
  | nil => exact h
  | cons e es ih => exact ih (h.note e)

theorem sameTotals_fresh (m n : Nat) : (fresh m).SameTotals (fresh n) :=
  ⟨⟨rfl, rfl, rfl⟩, rfl, rfl⟩

/-- The one report records the first violations of the other, and says the same in all else. -/
structure Cuts (r s : Report) (limit : Nat) : Prop where
  html : r.html = s.html
  text : r.text = s.text
  val : r.val = s.val
  length : r.length = s.length
  valid : r.isValid = s.isValid
  tally : r.tally = s.tally
  mostCommon : r.mostCommon = s.mostCommon
  violations : r.violations = s.violations.take limit
  risk : r.risk ≤ s.risk

end Report

namespace Cleaner

/-- What happens depends on the policy and on the filter for attributes. -/
theorem events_congr {c d : Cleaner} (hpolicy : c.policy = d.policy)
    (hfilter : c.attributeFilter = d.attributeFilter) (input : Text) :
    c.events input = d.events input := by
  obtain ⟨p, ⟨m, schemes, mailLinks⟩, check⟩ := c
  obtain ⟨q, ⟨n, schemes', mailLinks'⟩, check'⟩ := d
  obtain rfl : p = q := hpolicy
  obtain ⟨rfl, rfl, rfl⟩ := AttributeFilter.mk.inj hfilter
  rfl

theorem sameTotals_clean {c d : Cleaner} {input : Text} (h : c.events input = d.events input) :
    (c.clean input).SameTotals (d.clean input) := by
  have hafter := (Report.sameTotals_fresh c.settings.limit d.settings.limit).after (c.events input)
  unfold clean
  rw [← h]
  exact ⟨⟨hafter.output.html, hafter.output.text, hafter.output.val⟩, hafter.length, hafter.tally⟩

/-- Of two cleaners to which the same happens, the one with the lower limit records less. -/
theorem cuts_clean {c d : Cleaner} {input : Text} (h : c.events input = d.events input)
    (hlimit : max c.settings.limit 1 ≤ max d.settings.limit 1) :
    (c.clean input).Cuts (d.clean input) (max c.settings.limit 1) := by
  have hsame := sameTotals_clean h
  have hfound : c.found input = d.found input := congrArg violated h
  have hviolations : (c.clean input).violations =
      (d.clean input).violations.take (max c.settings.limit 1) := by
    rw [violations_clean, violations_clean, hfound, List.take_take, Nat.min_eq_left hlimit]
  have hvalid : (c.clean input).isValid = (d.clean input).isValid := by
    rw [Bool.eq_iff_iff, isValid_clean, isValid_clean, hfound]
  exact
    { html := congrArg Array.toList hsame.output.html
      text := congrArg Array.toList hsame.output.text
      val := congrArg Array.toList hsame.output.val
      length := hsame.length
      valid := hvalid
      tally := hsame.tally
      mostCommon := congrArg Tally.mostCommon hsame.tally
      violations := hviolations
      risk := Report.riskOf_le_of_prefix (hviolations ▸ List.take_prefix _ _) }

end Cleaner

theorem Settings.IsGiven.max_limit {limit : Nat} {schemes : Option (List Text)}
    {mailLinks : Option Bool} {s : Settings} (h : s.IsGiven limit schemes mailLinks) :
    max s.limit 1 = max limit 1 := by
  rcases h with rfl | rfl
  · rfl
  · exact Nat.max_eq_left (Nat.le_max_right limit 1)

/-- A limit decides about nothing but how many violations are recorded, and one is always. -/
theorem clean_of_limits (policy : Policy) (check : UrlCheck) (schemes : Option (List Text))
    (mailLinks : Option Bool) {m n : Nat} (h : m ≤ n) {s t : Settings}
    (hs : s.IsGiven m schemes mailLinks) (ht : t.IsGiven n schemes mailLinks) (input : Text) :
    (Cleaner.clean ⟨policy, s, check⟩ input).Cuts (Cleaner.clean ⟨policy, t, check⟩ input)
      (max m 1) := by
  have hfilter : Cleaner.attributeFilter ⟨policy, s, check⟩ =
      Cleaner.attributeFilter ⟨policy, t, check⟩ := by
    rcases hs with rfl | rfl <;> rcases ht with rfl | rfl <;> rfl
  have hevents := Cleaner.events_congr (c := ⟨policy, s, check⟩) (d := ⟨policy, t, check⟩) rfl
    hfilter input
  have hlimit : max s.limit 1 ≤ max t.limit 1 := by
    rw [hs.max_limit, ht.max_limit]
    omega
  rw [← hs.max_limit]
  exact Cleaner.cuts_clean hevents hlimit

/-- A limit of zero that stands as it is, and one of two. -/
theorem clean_of_limits_script :
    let narrow := Settings.ofGiven (some 0) none none
    let wide := Settings.build (some 2) none none
    let input := "<b><script></script><i onclick=\"a\">".toList
    0 ≤ 2 ∧ narrow.IsGiven 0 none none ∧ wide.IsGiven 2 none none ∧
      (Cleaner.clean ⟨.standard, wide, AbsoluteUrl.check⟩ input).violations =
        ["<script>".toList, "/script".toList] ∧
      (Cleaner.clean ⟨.standard, narrow, AbsoluteUrl.check⟩ input).Cuts
        (Cleaner.clean ⟨.standard, wide, AbsoluteUrl.check⟩ input) (max 0 1) := by
  intro narrow wide input
  have h : 0 ≤ 2 := by decide
  have hnarrow : narrow.IsGiven 0 none none := .inl rfl
  have hwide : wide.IsGiven 2 none none := .inr rfl
  exact ⟨h, hnarrow, hwide, by decide +kernel,
    clean_of_limits .standard AbsoluteUrl.check none none h hnarrow hwide input⟩

end CleanMarkup

import CleanMarkup.Proofs.Clearance
import CleanMarkup.Proofs.Leading

/-!
# When markup is valid

A plain list of names says which tags are open, and every token either may stand behind those
before it or not. For an opening tag that depends on the attributes found in its body
(`Attribute.finds_iff_eq_all`). As long as all tokens may stand, the list agrees with the tags that
cleaning has open (`Cleaner.names_meet`), and cleaning finds nothing. So markup is valid exactly if
all of its tokens may stand (`isValid_iff`).
-/

namespace CleanMarkup

namespace AttributeFilter

variable (f : AttributeFilter) (tag : Text)

instance (a : Attribute) : Decidable (f.Clears tag a) :=
  decidable_of_iff _ faults_eq_nil_iff

/-- Some attribute in the body of the tag is an address that passes. -/
def HasAddress (body : Text) : Prop :=
  ∃ a ∈ Attribute.all body, (Rule.of tag a.name).action = .requireUrl ∧ f.Passes tag a.value

theorem foundUrl_eq_true_iff {f : AttributeFilter} {tag body : Text} :
    (f.filter tag body).foundUrl = true ↔ f.HasAddress tag body := by
  simp only [foundUrl_filter, accepts_iff, HasAddress]

instance (body : Text) : Decidable (f.HasAddress tag body) :=
  decidable_of_iff _ foundUrl_eq_true_iff

end AttributeFilter

namespace Cleaner

/-- The token breaks no rule where tags of these names are open. -/
def Permits (c : Cleaner) (opened : List Text) : Token → Prop
  | .opening name body _ _ => c.policy.classify name = .allowed ∧
      (∀ a ∈ requiredAncestor? name, a ∈ opened) ∧
        ∀ a ∈ Attribute.all body, c.attributeFilter.Clears name a
  | .closing name _ => isVoid name = false ∧ c.policy.classify name = .allowed
  | .text _ => True
  | .comment _ => False

instance (c : Cleaner) (opened : List Text) : DecidablePred (c.Permits opened)
  | .opening _ _ _ _ => inferInstanceAs (Decidable (_ ∧ _ ∧ _))
  | .closing _ _ => inferInstanceAs (Decidable (_ ∧ _))
  | .text _ => inferInstanceAs (Decidable True)
  | .comment _ => inferInstanceAs (Decidable False)

/-- The names of the tags that are open behind a token, innermost first. -/
def leavesOpen (c : Cleaner) (opened : List Text) : Token → List Text
  | .opening name body selfClosing raw =>
    if c.Permits opened (.opening name body selfClosing raw) ∧ selfClosing = false ∧
        isVoid name = false ∧ (requiresUrl name = true → c.attributeFilter.HasAddress name body) then
      name :: opened
    else opened
  | .closing name _ => if name ∈ opened then (opened.dropWhile (· != name)).tail else opened
  | .text _ | .comment _ => opened

/-- All tokens may stand, each behind those before it. -/
def PermitsAll (c : Cleaner) (opened : List Text) (ts : List Token) : Prop :=
  ∀ before t after, ts = before ++ t :: after → c.Permits (before.foldl c.leavesOpen opened) t

variable {c : Cleaner} {s : Situation}

theorem permitsAll_cons {opened : List Text} {t : Token} {ts : List Token} :
    c.PermitsAll opened (t :: ts) ↔
      c.Permits opened t ∧ c.PermitsAll (c.leavesOpen opened t) ts :=
  forall_cut_cons (P := fun before u _ => c.Permits (before.foldl c.leavesOpen opened) u)

/-- The list of names is asked in place of the tags that are open. -/
theorem permits_iff (hs : s.openTags.IsCounted) {t : Token} :
    c.Permits s.openTags.names t ↔ c.Clears s t := by
  cases t with
  | opening name body selfClosing raw => simp only [Permits, Clears, hs.contains_iff]
  | closing name raw => rfl
  | text raw => rfl
  | comment raw => rfl

theorem names_opening (hs : s.openTags.IsCounted) {name body raw : Text} {selfClosing : Bool}
    (h : c.Clears s (.opening name body selfClosing raw)) :
    (c.opening s name body selfClosing raw).1.openTags.names =
      c.leavesOpen s.openTags.names (.opening name body selfClosing raw) := by
  have hpermits := (permits_iff hs).2 h
  have hurl : (c.attributeFilter.filter name body).foundUrl = true ↔
      c.attributeFilter.HasAddress name body := AttributeFilter.foundUrl_eq_true_iff
  have hancestor := ancestor_iff.2 h.2.1
  simp only [opening, leavesOpen, h.1, hancestor, hpermits, ← hurl, true_and, Bool.false_eq_true,
    ↓reduceIte]
  rcases hr : requiresUrl name && !(c.attributeFilter.filter name body).foundUrl
  · have haddress : requiresUrl name = true →
        (c.attributeFilter.filter name body).foundUrl = true := by
      rw [Bool.and_eq_false_iff, Bool.not_eq_false'] at hr
      exact fun hrequires => hr.resolve_left (by simp [hrequires])
    rw [if_neg (by simp)]
    rcases selfClosing
    · rcases hv : isVoid name
      · rw [if_neg (by simp), if_pos ⟨rfl, rfl, haddress⟩]
        rfl
      · simp
    · simp
  · rw [Bool.and_eq_true, Bool.not_eq_true'] at hr
    rw [if_pos rfl, if_neg fun hall => by simp [hall.2.2 hr.1] at hr]

theorem names_closing (hs : s.openTags.IsCounted) {name raw : Text}
    (h : c.Clears s (.closing name raw)) :
    (c.closing s name raw).1.openTags.names =
      c.leavesOpen s.openTags.names (.closing name raw) := by
  simp only [closing, h.1, h.2, leavesOpen, Bool.false_eq_true, ↓reduceIte]
  by_cases hm : name ∈ s.openTags.names
  · obtain ⟨inside, outside, hsplit, hi⟩ := List.eq_append_cons_of_mem hm
    obtain ⟨rest, hclose, hrest, -⟩ := OpenTags.closeThrough?_eq_some hs hsplit hi
    have hinside : ∀ m ∈ inside, (m != name) = true := fun m hm => by
      simpa using fun e : m = name => hi (e ▸ hm)
    rw [hclose, if_pos hm, hsplit, List.dropWhile_append_of_pos hinside,
      List.dropWhile_cons_of_neg (by simp)]
    exact hrest
  · rw [OpenTags.closeThrough?_eq_none hs hm, if_neg hm]

/-- Behind a token that may stand, the list agrees with the tags that are open. -/
theorem names_meet (hs : s.openTags.IsCounted) {t : Token} (h : c.Clears s t) :
    (c.meet s t).1.openTags.names = c.leavesOpen s.openTags.names t := by
  cases t with
  | opening name body selfClosing raw => exact names_opening hs h
  | closing name raw => exact names_closing hs h
  | text raw => rfl
  | comment raw => rfl

/-- Nothing is found in spans exactly if all of them may stand. -/
theorem violated_eventsFrom_eq_nil_iff {us : List Text} (hus : Segmented us) (hs : s.IsSound c)
    (hskip : s.skipping = none) : violated (c.eventsFrom s (us.map Token.ofSpan)) = [] ↔
      c.PermitsAll s.openTags.names (us.map Token.ofSpan) := by
  induction hus generalizing s with
  | nil => exact iff_of_true (violated_ending s) fun before t after h => by simp at h
  | @cons u us hu _ ih =>
    rw [List.map_cons, eventsFrom, violated_append, List.append_eq_nil_iff,
      violated_step_eq_nil_iff hskip hu.ne_nil, permitsAll_cons, permits_iff hs.counted]
    refine and_congr_right fun hclears => ?_
    have hsound := isSound_step hs (isNamed_ofSpan u)
    rw [step_of_meeting hskip] at hsound ⊢
    rw [ih hsound (hclears.skipping.trans hskip), names_meet hs.counted hclears]

end Cleaner

/-- Markup is valid exactly if every token of it may stand behind those before it. -/
theorem isValid_iff (c : Cleaner) (input : Text) :
    (c.clean input).isValid = true ↔ ∀ before t after, tokens input = before ++ t :: after →
      c.Permits (before.foldl c.leavesOpen []) t := by
  rw [c.isValid_clean, Cleaner.found, Cleaner.events_eq_eventsFrom]
  exact Cleaner.violated_eventsFrom_eq_nil_iff (segmented_spans input)
    (Situation.isAt_start c).sound rfl

end CleanMarkup

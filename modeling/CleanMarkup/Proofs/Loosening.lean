import CleanMarkup.Proofs.Clearance
import CleanMarkup.Proofs.Schemes
import CleanMarkup.Proofs.Segments
import CleanMarkup.Shorthand

/-!
# Looser cleaners

What breaks no rule of a cleaner breaks no rule of one that is looser, and is put out by both alike
(`Cleaner.meet_of_clears`). So a text that is valid for a cleaner has the same report with every
looser one (`clean_of_loosens`).
-/

namespace CleanMarkup

/-- Events that put nothing out and find nothing leave a report as it is. -/
theorem Report.after_eq_self {es : List Event} (h : ∀ e ∈ es, e.IsSilent) (hv : violated es = [])
    (r : Report) : r.after es = r := by
  rw [after_silent h, hv]
  simp

theorem Style.kept_of_judged {check : UrlCheck} {schemes : List Text} {style : Text}
    (h : ∀ d ∈ Declaration.all style, (judge check schemes d.value).1 = none) :
    kept check schemes style =
      (Declaration.all style).map fun d => ⟨d.name, d.value.encodeStyle⟩ := by
  rw [kept, List.filter_eq_self.2 fun d hd => by rw [h d hd]; rfl]

theorem Policy.foundIn_nothing (s : Text) : Policy.nothing.foundIn s = false := by
  have hleaf : ∀ (s : Text) (before : Option Char),
      (Pattern.Tree.leaf false .nothing).foundIn before s = false := by
    intro s
    induction s with
    | nil => exact fun _ => rfl
    | cons c s ih => exact fun _ => ih (some c)
  exact hleaf s none

/-- What is allowed stays allowed where nothing is forbidden. -/
theorem Policy.classify_of_forbiddenNothing {p : Policy} {name : Text}
    (h : p.classify name = .allowed) :
    classify { p with forbidden := Policy.nothing } name = .allowed := by
  unfold classify at h ⊢
  rw [if_neg (by simp [foundIn_nothing])]
  split_ifs at h with hf ha
  exact if_pos ha

namespace AttributeFilter

variable {f g : AttributeFilter} {tag : Text} {a : Attribute}

/-- Every address that passes the one filter passes the other. -/
structure Loosens (g f : AttributeFilter) : Prop where
  address : ∀ {value : Text}, f.check value f.schemes = true → g.check value g.schemes = true
  mailLinks : f.mailLinks = true → g.mailLinks = true
  domain : ∀ {address : Text}, f.check address ["http".toList] = true →
    g.check address ["http".toList] = true

theorem Loosens.passes (h : g.Loosens f) {value : Text} (hp : f.Passes tag value) :
    g.Passes tag value := by
  rcases hp with hp | ⟨user, domain, rfl, hp⟩
  · exact .inl (h.address hp)
  · exact .inr ⟨user, domain, rfl, hp.link, h.mailLinks hp.mailLinks, hp.scheme, hp.user,
      h.domain hp.domain⟩

theorem Loosens.judge (h : g.Loosens f) {value : Text}
    (hj : (Style.judge f.check f.schemes value).1 = none) :
    (Style.judge g.check g.schemes value).1 = none := by
  obtain ⟨hmarks, hcode, hopened, hpass⟩ := Style.judge_eq_none.1 hj
  exact Style.judge_eq_none.2 ⟨hmarks, hcode, hopened, fun u hu => h.address (hpass u hu)⟩

theorem Loosens.clears (h : g.Loosens f) (ha : f.Clears tag a) : g.Clears tag a := by
  unfold Clears at ha ⊢
  cases haction : (Rule.of tag a.name).action with
  | requireUrl =>
    rw [haction] at ha
    exact h.passes ha
  | filterStyle =>
    rw [haction] at ha
    exact fun d hd => h.judge (ha d hd)
  | requireDimension | drop | keep => rwa [haction] at ha

/-- Two filters leave the same of an attribute that breaks no rule of either. -/
theorem Clears.survivor?_eq (hf : f.Clears tag a) (hg : g.Clears tag a) :
    g.survivor? tag a = f.survivor? tag a := by
  unfold Clears at hf hg
  unfold survivor?
  cases haction : (Rule.of tag a.name).action with
  | requireUrl =>
    rw [haction] at hf hg
    simp only [accepts_iff.2 hf, accepts_iff.2 hg]
  | filterStyle =>
    rw [haction] at hf hg
    simp only [Style.filter_fst, Style.kept_of_judged hf, Style.kept_of_judged hg]
  | requireDimension | drop | keep => rfl

/-- Two filters leave the same of a body that breaks no rule of either. -/
theorem filter_of_clears {body : Text} (hf : ∀ a ∈ Attribute.all body, f.Clears tag a)
    (hg : ∀ a ∈ Attribute.all body, g.Clears tag a) :
    (g.filter tag body).rendered = (f.filter tag body).rendered ∧
      (g.filter tag body).foundUrl = (f.filter tag body).foundUrl := by
  have hsurvivors : g.survivors tag body = f.survivors tag body :=
    List.filterMap_congr fun a ha => (hf a ha).survivor?_eq (hg a ha)
  refine ⟨by rw [rendered_filter, rendered_filter, hsurvivors], ?_⟩
  rw [Bool.eq_iff_iff, foundUrl_filter, foundUrl_filter]
  refine exists_congr fun a => and_congr_right fun ha => and_congr_right fun haction => ?_
  have hfa := hf a ha
  have hga := hg a ha
  simp only [Clears, haction] at hfa hga
  exact iff_of_true (accepts_iff.2 hga) (accepts_iff.2 hfa)

theorem after_filter_of_clears {body : Text} (hf : ∀ a ∈ Attribute.all body, f.Clears tag a)
    (r : Report) : r.after (f.filter tag body).events = r :=
  r.after_eq_self (f.isSilent_filter tag body) (violated_filter_eq_nil_iff.2 hf)

end AttributeFilter

namespace Cleaner

variable {c d : Cleaner} {s : Situation}

/-- The one cleaner allows all that the other allows, with the same limit. -/
structure Loosens (d c : Cleaner) : Prop where
  limit : d.settings.limit = c.settings.limit
  allowed : ∀ name, c.policy.classify name = .allowed → d.policy.classify name = .allowed
  schemes : ∀ s ∈ c.settings.schemes, ∃ t ∈ d.settings.schemes, Text.sameIgnoringCase s t = true
  mailLinks : c.settings.mailLinks = true → d.settings.mailLinks = true

theorem Loosens.attributeFilter {namesHost : Text → Bool} (h : d.Loosens c)
    (hc : c.check = AbsoluteUrl.passes namesHost) (hd : d.check = AbsoluteUrl.passes namesHost) :
    d.attributeFilter.Loosens c.attributeFilter where
  address := by
    intro value hp
    change d.check value d.settings.schemes = true
    change c.check value c.settings.schemes = true at hp
    rw [hc] at hp
    rw [hd]
    exact AbsoluteUrl.passes_mono h.schemes hp
  mailLinks := h.mailLinks
  domain := by
    intro address hp
    change d.check address ["http".toList] = true
    change c.check address ["http".toList] = true at hp
    rwa [hd, ← hc]

section Lockstep

variable (hallowed : ∀ name, c.policy.classify name = .allowed → d.policy.classify name = .allowed)
  (hfilter : d.attributeFilter.Loosens c.attributeFilter)

include hallowed hfilter

/-- A token that breaks no rule of a cleaner does the same to both. -/
theorem meet_of_clears {t : Token} (ht : c.Clears s t) :
    (d.meet s t).1 = (c.meet s t).1 ∧
      ∀ r : Report, r.after (d.meet s t).2 = r.after (c.meet s t).2 := by
  cases t with
  | comment raw => exact ht.elim
  | opening name body selfClosing raw =>
    obtain ⟨hc, hancestor, hall⟩ := ht
    have hall' := fun a ha => hfilter.clears (hall a ha)
    obtain ⟨hrendered, hfound⟩ := AttributeFilter.filter_of_clears hall hall'
    simp only [meet, opening, hc, hallowed name hc, ancestor_iff.2 hancestor, hrendered, hfound,
      Bool.false_eq_true, ↓reduceIte]
    have hafter : ∀ (es : List Event) (r : Report),
        r.after ((d.attributeFilter.filter name body).events ++ es) =
          r.after ((c.attributeFilter.filter name body).events ++ es) := by
      intro es r
      rw [Report.after_append, Report.after_append, AttributeFilter.after_filter_of_clears hall,
        AttributeFilter.after_filter_of_clears hall']
    split_ifs
    · exact ⟨rfl, hafter _⟩
    · exact ⟨rfl, hafter _⟩
    · exact ⟨rfl, hafter _⟩
  | closing name raw =>
    simp [meet, closing, ht.2, hallowed name ht.2]
  | text raw => exact ⟨rfl, fun _ => rfl⟩

/-- While a run of a cleaner finds nothing, a run of the other keeps step with it. -/
theorem after_eventsFrom_eq {us : List Text} (hus : Segmented us) {s : Situation}
    (hskip : s.skipping = none) (hv : violated (c.eventsFrom s (us.map Token.ofSpan)) = [])
    (r : Report) : r.after (d.eventsFrom s (us.map Token.ofSpan)) =
      r.after (c.eventsFrom s (us.map Token.ofSpan)) := by
  induction hus generalizing s r with
  | nil => rfl
  | @cons u us hu _ ih =>
    rw [List.map_cons, eventsFrom, violated_append, List.append_eq_nil_iff] at hv
    obtain ⟨hnow, hlater⟩ := hv
    have hclears := (violated_step_eq_nil_iff hskip hu.ne_nil).1 hnow
    obtain ⟨hsame, hafter⟩ := meet_of_clears hallowed hfilter hclears
    rw [step_of_meeting hskip] at hlater
    have hrest := ih (hclears.skipping.trans hskip) hlater
    simp only [List.map_cons, eventsFrom, Report.after_append, step_of_meeting hskip]
    change (r.after (d.meet s (Token.ofSpan u)).2).after _ =
      (r.after (c.meet s (Token.ofSpan u)).2).after _
    rw [hafter, hsame, hrest]

end Lockstep

end Cleaner

/-- Markup that is valid for a cleaner has the same report with a looser one. -/
theorem clean_of_loosens {namesHost : Text → Bool} {c d : Cleaner} (h : d.Loosens c)
    (hc : c.check = AbsoluteUrl.passes namesHost) (hd : d.check = AbsoluteUrl.passes namesHost)
    {input : Text} (hvalid : (c.clean input).isValid = true) : d.clean input = c.clean input := by
  rw [Cleaner.isValid_clean, Cleaner.found, Cleaner.events_eq_eventsFrom] at hvalid
  have hafter := Cleaner.after_eventsFrom_eq h.allowed (h.attributeFilter hc hd)
    (segmented_spans input) rfl hvalid (.fresh c.settings.limit)
  unfold Cleaner.clean
  rw [Cleaner.events_eq_eventsFrom, Cleaner.events_eq_eventsFrom, h.limit]
  exact congrArg Report.finalize hafter

theorem clean_of_loosens_style :
    let strict : Cleaner :=
      { policy := .standard, settings := { schemes := ["HTTP".toList], mailLinks := false }
        check := AbsoluteUrl.check }
    let loose : Cleaner := .ofPolicy { Policy.standard with forbidden := Policy.nothing }
    let input := "<b style=\"x:url(http://a.b)\">c".toList
    loose.Loosens strict ∧ (strict.clean input).isValid = true ∧
      loose.clean input = strict.clean input := by
  intro strict loose input
  have h : loose.Loosens strict :=
    { limit := rfl
      allowed := fun _ => Policy.classify_of_forbiddenNothing
      schemes := by decide
      mailLinks := fun _ => rfl }
  have hvalid : (strict.clean input).isValid = true := by decide +kernel
  exact ⟨h, hvalid, clean_of_loosens h rfl rfl hvalid⟩

end CleanMarkup

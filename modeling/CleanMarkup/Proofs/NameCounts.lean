import CleanMarkup.Proofs.Grammar
import CleanMarkup.Proofs.Origins
import CleanMarkup.Proofs.Skipping
import CleanMarkup.Shorthand

/-!
# Violations are counted by name

A violation is counted under the name of the tag or the address that it comes from, unless it is an
opening tag of no known name whose body does not end the name (`Policy.Blames`). Every violation in
a text is counted by name exactly if no such tag is met (`countsByName_iff`). That a blank other
than a space ends the name of a tag, but not the name that it is counted under, is seen in
`not_countsByName_tab`.
-/

namespace CleanMarkup

open Report

section Names

variable {name : Text} (h : IsName isTagChar name)

include h

theorem nameOf_brackets : nameOf ('<' :: name ++ ['>']) = name :=
  nameOf_eq_of_isName (rfl : bare ['<'] = []) h.attribute (.inl nofun)

theorem nameOf_slash : nameOf ('/' :: name) = name := by
  have hslash : nameOf (['/'] ++ name ++ []) = name :=
    nameOf_eq_of_isName rfl h.attribute (.inl nofun)
  rwa [List.append_nil] at hslash

end Names

theorem IsClosingTag.nameOf_eq {s m w : Text} (h : IsClosingTag s m w) :
    nameOf s = m.asciiLower := by
  obtain ⟨rfl, hne, hchars, hblanks⟩ := h
  have hends : EndsName (w ++ ['>']) :=
    endsName_bracket.2 (.inl fun c hc => hblanks c (List.mem_of_mem_filter hc))
  rw [List.append_assoc]
  exact (Report.nameOf_eq_iff hne (fun c hc => isAttributeChar_of_isTagChar (hchars c hc))
    (rfl : bare ['<', '/'] = [])).2 hends

theorem IsOpeningTag.nameOf_eq_iff {s m body : Text} (h : IsOpeningTag s m body) :
    nameOf s = m.asciiLower ↔ EndsName body := by
  obtain ⟨rfl, hne, hchars, -, -⟩ := h
  rw [List.append_assoc, ← endsName_bracket]
  exact Report.nameOf_eq_iff hne (fun c hc => isAttributeChar_of_isTagChar (hchars c hc))
    (rfl : bare ['<'] = [])

namespace Policy

/-- The name that the token is counted under, if it is a violation itself, is the name that it
has. -/
def KeepsName (p : Policy) : Token → Prop
  | .opening name body _ _ => p.classify name = .unknown → EndsName body
  | .closing _ _ | .comment _ | .text _ => True

/-- The violation comes from the token and, unless that has no name, is counted under the right name
exactly if the token keeps its name. -/
structure Blames (p : Policy) (t : Token) (q : Origin × Text) : Prop where
  token : q.1.token = some t
  counts : ∀ name ∈ q.1.name?, (CountsAs q.2 name ↔ p.KeepsName t)

end Policy

namespace Cleaner

variable {c : Cleaner} {s : Situation} {u : Text} {t : Token} {o : Origin} {q : Origin × Text}

theorem blames_of_nameOf (hq : q.2 ≠ []) (htoken : q.1.token = some t)
    (h : ∀ name ∈ q.1.name?, (nameOf q.2 = name ↔ c.policy.KeepsName t)) :
    c.policy.Blames t q :=
  ⟨htoken, fun name hname => (countsAs_iff hq).trans (h name hname)⟩

/-- A token that is a violation itself. -/
theorem blames_itself {v name : Text} {es : List Event} (hes : violated es = [])
    (hname : t.name? = some name) (hv : nameOf v = name ↔ c.policy.KeepsName t)
    (h : q ∈ blamed { token := some t } (.violation v :: es)) : c.policy.Blames t q := by
  have hne := ne_nil_of_mem_blamed h
  obtain rfl := eq_of_mem_blamed hes h
  refine blames_of_nameOf hne rfl fun n hn => ?_
  obtain rfl : name = n := Option.some.inj (hname.symm.trans hn)
  exact hv

theorem blames_attribute {name body : Text} {es : List Event} (hname : IsName isTagChar name)
    (ht : t.name? = some name) (hkeeps : c.policy.KeepsName t) (hes : violated es = [])
    (h : q ∈ blamed { token := some t } ((c.attributeFilter.filter name body).events ++ es)) :
    c.policy.Blames t q := by
  have hne := ne_nil_of_mem_blamed h
  rw [blamed_append, blamed_eq_nil hes, List.append_nil] at h
  obtain ⟨a, ha, hv, ho⟩ := AttributeFilter.exists_of_mem_blamed_filter h
  have hnameOf := AttributeFilter.nameOf_of_mem_faults hname.attribute
    (Attribute.isRead_of_mem_all ha).name hv
  refine blames_of_nameOf hne (by rw [ho]; rfl) fun n hn => iff_of_true ?_ hkeeps
  rw [ho] at hn
  rw [hnameOf]
  split_ifs with haction
  · simpa [AttributeFilter.origin, Origin.next, Origin.name?, haction] using hn
  · simpa [AttributeFilter.origin, Origin.next, Origin.name?, haction, ht] using hn

theorem blames_opening {m body raw : Text} (htag : IsOpeningTag raw m body) (selfClosing : Bool)
    (ht : t = .opening m.asciiLower body selfClosing raw)
    (h : q ∈ blamed { token := some t } (c.opening s m.asciiLower body selfClosing raw).2) :
    c.policy.Blames t q := by
  have hname : IsName isTagChar m.asciiLower :=
    .asciiLower (fun _ hc => isTagChar_toLower hc) htag.ne_nil htag.chars
  have hown : t.name? = some m.asciiLower := by
    rw [ht]
    rfl
  have hknown : c.policy.classify m.asciiLower ≠ .unknown → c.policy.KeepsName t := by
    rw [ht]
    exact fun hclass hunknown => absurd hunknown hclass
  rcases hclass : c.policy.classify m.asciiLower with _ | _ | _
  · have hkeeps := hknown (by simp [hclass])
    simp only [opening, hclass] at h
    exact blames_itself rfl hown (iff_of_true (nameOf_brackets hname) hkeeps) h
  · have hkeeps := hknown (by simp [hclass])
    simp only [opening, hclass] at h
    split_ifs at h
    · exact blames_itself rfl hown (iff_of_true (nameOf_brackets hname) hkeeps) h
    · exact blames_attribute hname hown hkeeps rfl h
    · exact blames_attribute hname hown hkeeps rfl h
    · exact blames_attribute hname hown hkeeps rfl h
  · have hkeeps : c.policy.KeepsName t ↔ EndsName body := by
      rw [ht]
      exact forall_prop_of_true hclass
    simp only [opening, hclass] at h
    exact blames_itself rfl hown (htag.nameOf_eq_iff.trans hkeeps.symm) h

theorem blames_closing {m w raw : Text} (htag : IsClosingTag raw m w)
    (ht : t = .closing m.asciiLower raw)
    (h : q ∈ blamed { token := some t } (c.closing s m.asciiLower raw).2) :
    c.policy.Blames t q := by
  have hname : IsName isTagChar m.asciiLower :=
    .asciiLower (fun _ hc => isTagChar_toLower hc) htag.ne_nil htag.chars
  have hown : t.name? = some m.asciiLower := by
    rw [ht]
    rfl
  have hkeeps : c.policy.KeepsName t := by
    rw [ht]
    trivial
  unfold closing at h
  split_ifs at h
  · exact blames_itself rfl hown (iff_of_true htag.nameOf_eq hkeeps) h
  split at h
  · exact blames_itself rfl hown (iff_of_true (nameOf_slash hname) hkeeps) h
  · exact blames_itself rfl hown (iff_of_true htag.nameOf_eq hkeeps) h
  · split at h
    · simp [blamed] at h
    · rw [blamed_eq_nil rfl] at h
      simp at h

theorem name?_of_closesRawText {name : Text} (hname : IsName isTagChar name)
    (h : closesRawText name u = true) :
    (Token.ofSpan u).name? = some name ∧ c.policy.KeepsName (Token.ofSpan u) := by
  rcases ofSpan_of_closesRawText hname h with ⟨raw, hu⟩ | hu
  · rw [hu]
    exact ⟨rfl, trivial⟩
  · obtain ⟨m, r, rfl, rfl, hr⟩ := closesRawText_iff.1 h
    have hm : ∀ d ∈ m, isTagChar d = true := fun d hd =>
      isTagChar_of_toLower (hname.chars _ (List.mem_map_of_mem hd))
    rw [hu]
    refine ⟨congrArg some ?_, trivial⟩
    change Text.asciiLower ((m ++ r).takeWhile isTagChar) = m.asciiLower
    rw [takeWhile_isTagChar hm hr]

theorem blames_meet (h : q ∈ blamed { token := some (Token.ofSpan u) }
    (c.meet s (Token.ofSpan u)).2) : c.policy.Blames (Token.ofSpan u) q := by
  rcases hu : Token.ofSpan u with raw | ⟨n, body, selfClosing, raw⟩ | ⟨n, raw⟩ | raw <;> rw [hu] at h
  · have hne := ne_nil_of_mem_blamed h
    obtain rfl := eq_of_mem_blamed (o := { token := some (.comment raw) }) rfl h
    exact blames_of_nameOf hne rfl nofun
  · obtain ⟨m, htag, rfl⟩ := Token.exists_of_ofSpan_opening hu
    obtain ⟨-, -, -, rfl⟩ := Token.opening.inj (htag.ofSpan_eq.symm.trans hu)
    exact blames_opening htag selfClosing rfl h
  · obtain ⟨m, w, htag, rfl⟩ := Token.exists_of_ofSpan_closing hu
    obtain ⟨-, rfl⟩ := Token.closing.inj (htag.ofSpan_eq.symm.trans hu)
    exact blames_closing htag rfl h
  · simp [meet, plainText, blamed, violated] at h

/-- The violations in a step come from its token. Those found while content is left out are counted
under its name. -/
theorem blames_step (hn : ∀ name ∈ s.skipping, c.policy.LeavesOut name)
    (h : q ∈ blamed o (c.step s (Token.ofSpan u)).2) :
    c.policy.Blames (Token.ofSpan u) q ∧
      (s.skipping ≠ none → c.policy.KeepsName (Token.ofSpan u)) := by
  rcases hs : s.skipping with _ | name
  · rw [step_of_meeting hs] at h
    exact ⟨blames_meet h, fun hne => absurd rfl hne⟩
  · rcases hu : closesRawText name u
    · rw [step_skipped hs hu] at h
      simp [blamed, violated] at h
    · have hname := (hn name hs).isName
      obtain ⟨hown, hkeeps⟩ := name?_of_closesRawText (c := c) hname hu
      rw [step_closer (hn name hs) hs hu] at h
      exact ⟨blames_itself rfl hown (iff_of_true (nameOf_slash hname) hkeeps) h, fun _ => hkeeps⟩

/-- All violations in the step are counted by name exactly if the token keeps its name or is left
out. -/
theorem counts_step_iff (hu : u ≠ []) (hn : ∀ name ∈ s.skipping, c.policy.LeavesOut name) :
    (∀ q ∈ blamed o (c.step s (Token.ofSpan u)).2, ∀ name ∈ q.1.name?, CountsAs q.2 name) ↔
      (s.skipping = none → c.policy.KeepsName (Token.ofSpan u)) := by
  constructor
  · intro h hs
    rw [step_of_meeting hs] at h
    rcases ht : Token.ofSpan u with raw | ⟨n, body, selfClosing, raw⟩ | ⟨n, raw⟩ | raw
    · trivial
    · -- an opening tag of an unknown name is a violation itself
      intro hclass
      obtain ⟨m, htag, rfl⟩ := Token.exists_of_ofSpan_opening ht
      obtain ⟨-, -, -, rfl⟩ := Token.opening.inj (htag.ofSpan_eq.symm.trans ht)
      have hfound : (({ token := some (Token.ofSpan u) } : Origin), u) ∈
          blamed o (.token (Token.ofSpan u) :: (c.meet s (Token.ofSpan u)).2) := by
        rw [ht]
        simp [meet, opening, hclass, unknownTag, blamed, violated, hu, Origin.next]
      have hcounts := h _ hfound m.asciiLower (by rw [ht]; rfl)
      exact htag.nameOf_eq_iff.1 ((countsAs_iff hu).1 hcounts)
    · trivial
    · trivial
  · intro h q hq name hname
    obtain ⟨hblames, hskip⟩ := blames_step hn hq
    rw [hblames.counts name hname]
    by_cases hs : s.skipping = none
    · exact h hs
    · exact hskip hs

/-- The violations in a run, each with where it comes from. -/
def blames (c : Cleaner) (input : Text) : List (Origin × Text) := blamed {} (c.events input)

/-- Every violation in the text is counted under the name of what it comes from. -/
def CountsByName (c : Cleaner) (input : Text) : Prop :=
  ∀ q ∈ c.blames input, ∀ name ∈ q.1.name?, CountsAs q.2 name

theorem blames_eventsFrom {us : List Text} (hn : ∀ name ∈ s.skipping, c.policy.LeavesOut name)
    (h : q ∈ blamed o (c.eventsFrom s (us.map Token.ofSpan))) :
    ∃ t, c.policy.Blames t q := by
  induction us generalizing s o with
  | nil =>
    rw [List.map_nil, eventsFrom, blamed_eq_nil (violated_ending s)] at h
    simp at h
  | cons u us ih =>
    rw [List.map_cons, eventsFrom, blamed_append] at h
    rcases List.mem_append.1 h with h | h
    · exact ⟨_, (blames_step hn h).1⟩
    · refine ih ?_ h
      rw [skipping_step hn]
      exact Policy.skippedAfter_leavesOut hn u

theorem counts_eventsFrom_iff {us : List Text} (hus : ∀ u ∈ us, u ≠ [])
    (hn : ∀ name ∈ s.skipping, c.policy.LeavesOut name) :
    (∀ q ∈ blamed o (c.eventsFrom s (us.map Token.ofSpan)), ∀ name ∈ q.1.name?,
        CountsAs q.2 name) ↔
      ∀ before u after, us = before ++ u :: after →
        before.foldl c.policy.skippedAfter s.skipping = none →
          c.policy.KeepsName (Token.ofSpan u) := by
  induction us generalizing s o with
  | nil =>
    rw [List.map_nil, eventsFrom, blamed_eq_nil (violated_ending s)]
    exact iff_of_true (by simp) fun before u after h => by simp at h
  | cons u us ih =>
    have hnext : ∀ name ∈ (c.step s (Token.ofSpan u)).1.skipping, c.policy.LeavesOut name := by
      rw [skipping_step hn]
      exact Policy.skippedAfter_leavesOut hn u
    rw [List.map_cons, eventsFrom, blamed_append, List.forall_mem_append,
      counts_step_iff (hus u List.mem_cons_self) hn,
      ih (fun v hv => hus v (List.mem_cons_of_mem u hv)) hnext, skipping_step hn]
    exact (forall_cut_cons (P := fun before v _ =>
      before.foldl c.policy.skippedAfter s.skipping = none →
        c.policy.KeepsName (Token.ofSpan v))).symm

/-- All violations are counted by name exactly if every token keeps its name that is not left out.
Each of them, recorded or not, comes from a token, and is counted under the right name exactly if
that token keeps its name. -/
theorem countsByName_iff (c : Cleaner) (input : Text) :
    (c.CountsByName input ↔ ∀ before u after, spans input = before ++ u :: after →
      c.policy.skippedBehind before = none → c.policy.KeepsName (Token.ofSpan u)) ∧
      (c.blames input).map (·.2) = c.found input ∧
      ∀ q ∈ c.blames input, ∃ t, c.policy.Blames t q := by
  refine ⟨?_, map_snd_blamed {} (c.events input), fun q hq => ?_⟩
  · rw [CountsByName, blames, events_eq_eventsFrom]
    exact counts_eventsFrom_iff (segmented_spans input).ne_nil (by simp)
  · rw [blames, events_eq_eventsFrom] at hq
    exact blames_eventsFrom (by simp) hq

/-- A tab ends the name of a tag, but not the name that it is counted under: of two tags of one name
each has a count of its own. -/
theorem not_countsByName_tab :
    (standard.clean "<marquee><marquee\tx>".toList).tally.entries =
        [("marquee".toList, 1), ("marquee\tx".toList, 1)] ∧
      ¬ standard.CountsByName "<marquee><marquee\tx>".toList := by
  refine ⟨by decide +kernel, fun h => ?_⟩
  have hmem : (⟨some (.opening "marquee".toList "\tx".toList false "<marquee\tx>".toList), none⟩,
      "<marquee\tx>".toList) ∈ standard.blames "<marquee><marquee\tx>".toList := by
    decide +kernel
  have hcounts := (countsAs_iff (by decide)).1 (h _ hmem "marquee".toList rfl)
  revert hcounts
  decide +kernel

end Cleaner

end CleanMarkup

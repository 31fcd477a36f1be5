import CleanMarkup.Proofs.Idempotence
import CleanMarkup.Proofs.Unchanged

/-!
# What is found again

An attribute that is left when a tag is cleaned breaks no rule when the tag is cleaned again,
except that an address that was not accepted is empty now, and still is none
(`AttributeFilter.faults_survivor`). So cleaning the markup to show finds these
addresses and nothing else (`Cleaner.found_again`), each of which was found before.
-/

namespace CleanMarkup

namespace AttributeFilter

variable {f : AttributeFilter} {tag : Text} {a b : Attribute}

theorem faults_address (h : (Rule.of tag a.name).action = .requireUrl) :
    f.faults tag a = if (f.accepts tag a.value).1 then [] else [a.name ++ ' ' :: a.value] := by
  simp only [faults, Omits, h, accepts_iff, reduceCtorEq, false_and, or_self, ↓reduceIte]

/-- What is found in place of an attribute when its tag is cleaned again: its name, if it is an
address that is not accepted. -/
def refound (f : AttributeFilter) (tag : Text) (a : Attribute) : List Text :=
  if (Rule.of tag a.name).action = .requireUrl ∧ (f.accepts tag a.value).1 = false then
    [a.name ++ [' ']]
  else []

theorem refound_of_action (h : (Rule.of tag a.name).action ≠ .requireUrl) :
    f.refound tag a = [] :=
  if_neg fun hr => h hr.1

theorem accepts_nil (hempty : f.check [] f.schemes = false) : (f.accepts tag []).1 = false := by
  rw [← Bool.not_eq_true, accepts_iff]
  rintro (h | ⟨user, domain, h, -⟩)
  · rw [hempty] at h
    simp at h
  · simp at h

/-- What is found in an attribute that is left. -/
theorem faults_survivor (hcheck : f.check.IsPlain)
    (hempty : f.check [] f.schemes = false) (h : f.survivor? tag a = some b) :
    f.faults tag b = f.refound tag a := by
  -- an address is empty or passes again, and the other rules are kept by what they leave
  cases haction : (Rule.of tag a.name).action with
  | requireUrl =>
    have hagain : (Rule.of tag b.name).action = .requireUrl := name_of_survivor h ▸ haction
    rw [faults_address hagain]
    rw [f.survivor?_address haction] at h
    obtain rfl := Option.some.inj h
    by_cases ha : (f.accepts tag a.value).1 = true
    · have hpasses := accepts_iff.2 ((accepts_iff.1 ha).encodeAttribute hcheck)
      simp [refound, ha, hpasses]
    · simp [refound, haction, ha, accepts_nil hempty]
  | requireDimension =>
    rw [refound_of_action (by simp [haction])]
    simp only [survivor?, haction] at h
    split_ifs at h with hd
    obtain rfl := Option.some.inj h
    simp [faults, Omits, haction, hd]
  | filterStyle =>
    rw [refound_of_action (by simp [haction])]
    rw [f.survivor?_style tag (Rule.action_eq_filterStyle.1 haction)] at h
    obtain rfl := Option.some.inj h
    have hjudged : ∀ d ∈ Declaration.all
        ((Style.kept f.check f.schemes a.value).flatMap Declaration.write),
        (Style.judge f.check f.schemes d.value).1 = none := by
      intro d hd
      rw [Declaration.all_flatMap_write fun d hd => Style.isRead_of_mem_kept hd] at hd
      exact Style.judge_of_mem_kept hcheck.not_mem (List.mem_of_mem_filter hd)
    simp [faults, Omits, haction, Style.dropped_eq_nil_iff.2 hjudged]
  | drop => simp [survivor?, haction] at h
  | keep =>
    rw [refound_of_action (by simp [haction])]
    simp only [survivor?, haction] at h
    obtain rfl := Option.some.inj h
    simp [faults, Omits, haction]

theorem refound_of_survivor?_eq_none (h : f.survivor? tag a = none) : f.refound tag a = [] := by
  refine refound_of_action fun haction => ?_
  rw [f.survivor?_address haction] at h
  simp at h

/-- What is found in the attributes that are left of a body. -/
theorem faults_survivors (hcheck : f.check.IsPlain) (hempty : f.check [] f.schemes = false)
    (tag body : Text) :
    (f.survivors tag body).flatMap (f.faults tag) =
      (Attribute.all body).flatMap (f.refound tag) := by
  unfold survivors
  induction Attribute.all body with
  | nil => rfl
  | cons a as ih =>
    rw [List.filterMap_cons, List.flatMap_cons, ← ih]
    rcases h : f.survivor? tag a with _ | b
    · rw [refound_of_survivor?_eq_none h]
      rfl
    · rw [← faults_survivor hcheck hempty h]
      rfl

/-- Where no rule is found broken, none is found again. -/
theorem refound_eq_nil {body : Text} (h : violated (f.filter tag body).events = []) :
    (Attribute.all body).flatMap (f.refound tag) = [] := by
  rw [violated_filter, found, List.flatMap_eq_nil_iff] at h
  rw [List.flatMap_eq_nil_iff]
  intro a ha
  refine if_neg ?_
  rintro ⟨haction, hnot⟩
  have hfound := h a ha
  rw [faults_address haction, hnot] at hfound
  simp at hfound

end AttributeFilter

namespace Cleaner

variable {c : Cleaner}

/-- What is found in place of a tag when it is cleaned again. -/
def refound (c : Cleaner) (tag : Text × Text) : List Text :=
  (Attribute.all tag.2).flatMap (c.attributeFilter.refound tag.1)

/-- Cleaning the markup to show finds the addresses that were not accepted before. -/
theorem found_again (hcheck : c.check.IsPlain) (hempty : c.check [] c.settings.schemes = false)
    (x : Text) : c.found (c.clean x).html = (c.written x).flatMap c.refound := by
  obtain ⟨ps, hhtml, hnested, htags⟩ := c.exists_pieces x
  have hpiece : ∀ p ∈ ps, violated (c.taken p.token) =
      p.tag?.toList.flatMap fun tag =>
        tag.2.flatMap fun b => c.attributeFilter.faults tag.1 b := by
    intro p hp
    match p with
    | .opening name attributes slash =>
      have hneat := (hnested.isSound _ hp).2
      rw [Piece.token, taken, violated_cons, violated_append, AttributeFilter.violated_filter,
        AttributeFilter.found, Piece.all_body hneat]
      simp [violated, markup, Piece.tag?]
    | .text _ | .closing _ => rfl
  have htag : ∀ tag : Text × Text, ((c.left tag).2.flatMap fun b =>
      c.attributeFilter.faults (c.left tag).1 b) = c.refound tag := fun tag =>
    AttributeFilter.faults_survivors hcheck hempty tag.1 tag.2
  rw [hhtml, found, (hnested.sameEffect_events (hnested.isAddressed hcheck)).violated, violated,
    List.filterMap_flatMap]
  calc ps.flatMap (fun p => violated (c.taken p.token))
      = (ps.filterMap Piece.tag?).flatMap fun tag =>
          tag.2.flatMap fun b => c.attributeFilter.faults tag.1 b := by
        rw [List.flatMap_congr hpiece, List.filterMap_eq_flatMap_toList, List.flatMap_assoc]
    _ = (c.written x).flatMap c.refound := by
        rw [htags, List.flatMap_map]
        exact List.flatMap_congr fun tag _ => htag tag

/-- What breaks a rule in a tag that is written is found. -/
theorem violated_of_mem_writtenFrom {ts : List Token} {s : Situation} {tag : Text × Text}
    (h : tag ∈ c.writtenFrom s ts) :
    violated (c.attributeFilter.filter tag.1 tag.2).events ⊆ violated (c.eventsFrom s ts) := by
  induction ts generalizing s with
  | nil => simp [writtenFrom] at h
  | cons t ts ih =>
    rw [eventsFrom, violated_append]
    rcases List.mem_append.1 h with h | h
    · refine fun v hv => List.mem_append_left _ ?_
      have hwritten : c.written? s t = some tag := Option.mem_toList.1 h
      cases t with
      | opening name body selfClosing raw =>
        simp only [written?] at hwritten
        split_ifs at hwritten with hw
        obtain rfl := Option.some.inj hwritten
        rw [step_of_meeting hw.1]
        simp only [meet]
        rw [opening_of_admits hw.2.1 hw.2.2, violated_cons, violated_append]
        exact List.mem_append_right _ (List.mem_append_left _ hv)
      | comment raw | closing name raw | text raw => simp [written?] at hwritten
    · exact fun v hv => List.mem_append_right _ (ih h hv)

/-- Where nothing is found, nothing is found again. -/
theorem refound_eq_nil {x : Text} (h : c.found x = []) : (c.written x).flatMap c.refound = [] := by
  rw [List.flatMap_eq_nil_iff]
  intro tag htag
  have hviolated := violated_of_mem_writtenFrom htag
  rw [← events_eq_eventsFrom] at hviolated
  exact AttributeFilter.refound_eq_nil (List.subset_nil.1 (h ▸ hviolated))

/-- Cleaned again, what has been cleaned breaks the rules only where an address has been taken out,
and is valid if nothing was wrong before. -/
theorem standard_found_again (namesHost : Text → Bool) (x : Text) :
    let c := standardWith namesHost
    c.found (c.clean x).html = (c.written x).flatMap c.refound ∧
      (∀ v ∈ (c.clean (c.clean x).html).violations, v = "href ".toList ∨ v = "src ".toList) ∧
      ((c.clean x).isValid = true → (c.clean (c.clean x).html).isValid = true) := by
  intro c
  have hfound : c.found (c.clean x).html = (c.written x).flatMap c.refound :=
    found_again (isPlain_passes namesHost) rfl x
  refine ⟨hfound, fun v hv => ?_, fun hvalid => ?_⟩
  · rw [violations_clean, hfound] at hv
    obtain ⟨tag, -, hv⟩ := List.mem_flatMap.1 (List.mem_of_mem_take hv)
    obtain ⟨a, -, hv⟩ := List.mem_flatMap.1 hv
    unfold AttributeFilter.refound at hv
    split_ifs at hv with ha
    · obtain rfl := List.mem_singleton.1 hv
      rcases Rule.action_eq_requireUrl.1 ha.1 with ⟨-, hname⟩ | ⟨-, hname⟩ <;> rw [hname]
      · exact .inl rfl
      · exact .inr rfl
    · simp at hv
  · rw [isValid_clean] at hvalid ⊢
    rw [hfound, refound_eq_nil hvalid]

example : (standard.clean
    (cleanHtml "<a href=\"http://a.b\" href=\"c\">d</a>".toList)).violations =
      ["href ".toList] := by
  decide +kernel

end Cleaner

end CleanMarkup

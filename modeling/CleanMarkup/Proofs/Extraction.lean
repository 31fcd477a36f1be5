import CleanMarkup.Proofs.Encoding
import CleanMarkup.Proofs.JoinedWords
import CleanMarkup.Proofs.Skipping

/-!
# The words that are extracted

The words of a report are those that its events put out, in order (`Report.text_after`), and the
events put out the words of the text spans that are not left out (`Cleaner.spoken_eventsFrom`):
their longest runs without a blank (`Text.words_eq_append_cons_iff`). So the text of a report is
these words with single spaces between them, and nothing else (`text_clean`).
-/

namespace CleanMarkup

open Text

def Token.text? : Token → Option Text
  | .text raw => some raw
  | .comment _ | .opening _ _ _ _ | .closing _ _ => none

namespace Policy

variable (p : Policy)

/-- The text spans, except those that are left out and those that end what is left out. -/
def textsFrom : Option Text → List Text → List Text
  | _, [] => []
  | skipped, u :: us =>
    (if skipped = none then (Token.ofSpan u).text? else none).toList ++
      textsFrom (p.skippedAfter skipped u) us

def texts (input : Text) : List Text := p.textsFrom none (spans input)

theorem mem_textsFrom {t : Text} {us : List Text} {skipped : Option Text}
    (h : t ∈ p.textsFrom skipped us) :
    ∃ before after, us = before ++ t :: after ∧ before.foldl p.skippedAfter skipped = none ∧
      Token.ofSpan t = .text t := by
  induction us generalizing skipped with
  | nil => simp [textsFrom] at h
  | cons u us ih =>
    rw [textsFrom, List.mem_append] at h
    rcases h with h | h
    · rw [Option.mem_toList] at h
      by_cases hs : skipped = none
      · rw [if_pos hs] at h
        rcases hu : Token.ofSpan u with raw | ⟨n, b, slash, raw⟩ | ⟨n, raw⟩ | raw <;>
          rw [hu] at h <;> simp only [Token.text?, reduceCtorEq] at h
        obtain rfl := Option.some.inj h
        obtain rfl := Token.raw_of_ofSpan_text hu
        exact ⟨[], us, rfl, hs, hu⟩
      · simp [hs] at h
    · obtain ⟨before, after, rfl, hnone, ht⟩ := ih h
      exact ⟨u :: before, after, rfl, hnone, ht⟩

end Policy

/-- The words that events put out. -/
def spoken (es : List Event) : List Text :=
  es.flatMap fun
    | .text s => s.words
    | _ => []

theorem spoken_append (es fs : List Event) : spoken (es ++ fs) = spoken es ++ spoken fs :=
  List.flatMap_append

theorem spoken_eq_nil {es : List Event} (h : ∀ e ∈ es, e.IsSilent) : spoken es = [] := by
  rw [spoken, List.flatMap_eq_nil_iff]
  intro e he
  split
  · exact (h _ he).elim
  · rfl

theorem isWord_of_mem_spoken {es : List Event} : ∀ w ∈ spoken es, IsWord w := by
  intro w hw
  obtain ⟨e, -, hw⟩ := List.mem_flatMap.1 hw
  cases e with
  | text s => exact (mem_words hw).1
  | _ => simp at hw

namespace Report

theorem text_note {r : Report} {ws : List Text} (hws : ∀ w ∈ ws, IsWord w)
    (h : r.text = join [' '] ws) (e : Event) :
    (r.note e).text = join [' '] (ws ++ spoken [e]) := by
  cases e with
  | text s =>
    have hs : spoken [.text s] = s.words := by simp [spoken]
    have hjoin := join_append hws fun w (hw : w ∈ s.words) => (mem_words hw).1
    rw [hs, hjoin, ← h]
    exact r.text_addText s
  | violation v =>
    obtain ⟨l, t, hl⟩ := r.exists_addViolation v
    simpa [note, spoken, hl, text] using h
  | _ => simpa [note, spoken, addHtml, addVal, text] using h

theorem text_after {r : Report} {ws : List Text} (hws : ∀ w ∈ ws, IsWord w)
    (h : r.text = join [' '] ws) (es : List Event) :
    (r.after es).text = join [' '] (ws ++ spoken es) := by
  induction es generalizing r ws with
  | nil => simpa [after, spoken] using h
  | cons e es ih =>
    have hnext : ∀ w ∈ ws ++ spoken [e], IsWord w :=
      List.forall_mem_append.2 ⟨hws, isWord_of_mem_spoken⟩
    have hrest := ih hnext (text_note hws h e)
    rwa [List.append_assoc, ← spoken_append] at hrest

end Report

namespace Cleaner

variable {c : Cleaner}

theorem spoken_opening (s : Situation) (name body : Text) (selfClosing : Bool) (raw : Text) :
    spoken (c.opening s name body selfClosing raw).2 = [] := by
  have hfilter := spoken_eq_nil (c.attributeFilter.isSilent_filter name body)
  unfold opening
  split
  · rfl
  · rfl
  simp only []
  split_ifs
  · rfl
  all_goals
    rw [spoken_append, hfilter]
    rfl

theorem spoken_closing (s : Situation) (name raw : Text) :
    spoken (c.closing s name raw).2 = [] := by
  unfold closing
  split
  · rfl
  split
  · rfl
  · rfl
  split
  · rfl
  · rfl

theorem spoken_meet (s : Situation) (t : Token) :
    spoken (c.meet s t).2 = t.text?.toList.flatMap fun raw => raw.encode.words := by
  cases t with
  | comment raw => rfl
  | opening name body selfClosing raw => exact spoken_opening s name body selfClosing raw
  | closing name raw => exact spoken_closing s name raw
  | text raw => rfl

/-- A span puts out its words if it is text, unless something is left out in front of it. -/
theorem spoken_step {s : Situation} (hn : ∀ name ∈ s.skipping, c.policy.LeavesOut name) (u : Text) :
    spoken (c.step s (Token.ofSpan u)).2 =
      (if s.skipping = none then (Token.ofSpan u).text? else none).toList.flatMap
        fun raw => raw.encode.words := by
  rcases hs : s.skipping with _ | name
  · rw [step_of_meeting hs, if_pos rfl, ← spoken_meet s]
    rfl
  · rw [if_neg (by simp)]
    by_cases hu : closesRawText name u = true
    · rw [step_closer (hn name hs) hs hu]
      rfl
    · rw [step_skipped hs (by simpa using hu)]
      rfl

theorem spoken_ending (s : Situation) : spoken (ending s) = [] := by
  simp only [ending, spoken, List.flatMap_assoc]
  exact List.flatMap_eq_nil_iff.2 fun _ _ => rfl

theorem spoken_eventsFrom (us : List Text) {s : Situation}
    (hn : ∀ name ∈ s.skipping, c.policy.LeavesOut name) :
    spoken (c.eventsFrom s (us.map Token.ofSpan)) =
      (c.policy.textsFrom s.skipping us).flatMap fun raw => raw.encode.words := by
  induction us generalizing s with
  | nil => exact spoken_ending s
  | cons u us ih =>
    have hnext := Policy.skippedAfter_leavesOut hn u
    rw [← skipping_step hn] at hnext
    rw [List.map_cons, eventsFrom, spoken_append, spoken_step hn, ih hnext, skipping_step hn,
      Policy.textsFrom, List.flatMap_append]

theorem text_clean_eq (c : Cleaner) (input : Text) :
    (c.clean input).text = join [' '] ((c.policy.texts input).flatMap fun t => t.encode.words) := by
  have hstart : (Report.fresh c.settings.limit).text = join [' '] [] := rfl
  have htext := Report.text_after (by simp) hstart (c.events input)
  have hspoken := spoken_eventsFrom (c := c) (spans input) (s := {}) (by simp)
  rwa [List.nil_append, events_eq_eventsFrom, tokens, hspoken, ← tokens,
    ← events_eq_eventsFrom] at htext

end Cleaner

/-- The text is the words of all text spans that are not left out, with their quotes and brackets
as entities and single spaces between them. It holds no quotes and brackets and no other blanks,
and every word in it is one of such a span. -/
theorem text_clean (c : Cleaner) (input : Text) :
    (c.clean input).text = join [' '] ((c.policy.texts input).flatMap fun t => t.encode.words) ∧
      (∀ d ∈ (c.clean input).text, isMarkupChar d = false) ∧
      (c.clean input).text.IsCollapsed ∧
      ∀ w ∈ (c.clean input).text.words, ∃ before t after, spans input = before ++ t :: after ∧
        c.policy.skippedBehind before = none ∧ Token.ofSpan t = .text t ∧ w ∈ t.encode.words := by
  have hwords : ∀ w ∈ (c.policy.texts input).flatMap fun t => t.encode.words, IsWord w := by
    intro w hw
    obtain ⟨t, -, hw⟩ := List.mem_flatMap.1 hw
    exact (mem_words hw).1
  rw [c.text_clean_eq]
  refine ⟨rfl, fun d hd => ?_, isCollapsed_join hwords, fun w hw => ?_⟩
  · rcases mem_join hd with rfl | ⟨w, hw, hd⟩
    · rfl
    · obtain ⟨t, -, hw⟩ := List.mem_flatMap.1 hw
      exact isMarkupChar_of_mem_encode ((mem_words hw).2 d hd)
  · rw [words_join hwords] at hw
    obtain ⟨t, ht, hw⟩ := List.mem_flatMap.1 hw
    obtain ⟨before, after, hspans, hnone, htext⟩ := c.policy.mem_textsFrom ht
    exact ⟨before, t, after, hspans, hnone, htext, hw⟩

end CleanMarkup

import CleanMarkup.Proofs.Emission
import CleanMarkup.Proofs.Shapes

/-!
# Content that is left out

Behind the opening tag of a forbidden script or style (`Policy.IsOpener`), spans are left out up to
the first that begins with the closing tag of the element, whatever kind of token that is
(`IsCloser`, `step_closer`). So spans fall into those that are kept and those that are left out
(`Policy.Keeps`, `Policy.keeps_iff`). What begins with the closing tag ends the element with one
violation and nothing else (`goOn_element`). The spans that are left out have no influence: without
them the rest falls into the same spans (`Segmented.keptFrom`) and cleaning gives the same report
(`clean_skipping`).
-/

namespace CleanMarkup

/-- The text begins with the closing tag of this name: with `</` and the name, in any case, and then
it ends or goes on with a blank, a bracket or a slash. -/
def IsCloser (name u : Text) : Prop :=
  ∃ m t : Text, u = '<' :: '/' :: (m ++ t) ∧ m.asciiLower = name ∧
    ∀ d ∈ t.head?, isBlank d = true ∨ d = '>' ∨ d = '/'

theorem closesRawText_iff_isCloser {name u : Text} :
    closesRawText name u = true ↔ IsCloser name u := by
  rw [closesRawText_iff]
  refine exists_congr fun m => exists_congr fun t => and_congr_right fun _ => and_congr_right' ?_
  rcases t with _ | ⟨d, t⟩
  · simp
  · simp [or_assoc]

theorem closesRawText_eq_false_iff {name u : Text} :
    closesRawText name u = false ↔ ¬ IsCloser name u := by
  rw [← closesRawText_iff_isCloser, Bool.not_eq_true]

namespace Policy

variable (p : Policy)

/-- The content of elements of this name is left out. -/
structure LeavesOut (name : Text) : Prop where
  forbidden : p.classify name = .forbidden
  rawText : isRawText name = true

/-- The element whose content a span opens, if that is left out. -/
def skippedBy? (u : Text) : Option Text :=
  match Token.ofSpan u with
  | .opening name _ selfClosing _ =>
    if p.classify name = .forbidden ∧ isRawText name ∧ selfClosing = false then some name else none
  | .comment _ | .closing _ _ | .text _ => none

/-- The element whose content is left out behind a span, given that in front of it. -/
def skippedAfter : Option Text → Text → Option Text
  | none, u => p.skippedBy? u
  | some name, u => if closesRawText name u then none else some name

/-- The element whose content is left out behind some spans. -/
def skippedBehind (us : List Text) : Option Text := us.foldl p.skippedAfter none

/-- The spans that are not left out. What ends an element is none of its content. -/
def keptFrom : Option Text → List Text → List Text
  | _, [] => []
  | skipped, u :: us =>
    if skipped.any (!closesRawText · u) then keptFrom skipped us
    else u :: keptFrom (p.skippedAfter skipped u) us

/-- A text without the spans that are left out. -/
def kept (input : Text) : Text := (p.keptFrom none (spans input)).flatten

variable {p}

theorem LeavesOut.eq_or_eq {name : Text} (h : p.LeavesOut name) :
    name = "script".toList ∨ name = "style".toList := by
  simpa [isRawText] using h.rawText

theorem LeavesOut.isName {name : Text} (h : p.LeavesOut name) : IsName isTagChar name := by
  rcases h.eq_or_eq with rfl | rfl
  · decide
  · decide

theorem LeavesOut.hasEnd {name : Text} (h : p.LeavesOut name) : isVoid name = false := by
  rcases h.eq_or_eq with rfl | rfl
  · decide
  · decide

theorem skippedBy?_eq_some {u name : Text} (h : p.skippedBy? u = some name) :
    p.LeavesOut name ∧ ∃ body raw, Token.ofSpan u = .opening name body false raw := by
  unfold skippedBy? at h
  split at h
  · rename_i m body selfClosing raw hu
    split_ifs at h with hc
    obtain ⟨hforbidden, hraw, rfl⟩ := hc
    obtain rfl := Option.some.inj h
    exact ⟨⟨hforbidden, hraw⟩, body, raw, hu⟩
  · simp at h
  · simp at h
  · simp at h

/-- The tag opens a forbidden script or style, and does not close it at once. -/
structure IsOpener (p : Policy) (name u : Text) : Prop where
  opens : ∃ body raw, Token.ofSpan u = .opening name body false raw
  forbidden : p.classify name = .forbidden
  named : name = "script".toList ∨ name = "style".toList

theorem skippedBy?_eq_some_iff {u name : Text} :
    p.skippedBy? u = some name ↔ p.IsOpener name u := by
  constructor
  · intro h
    obtain ⟨hn, hu⟩ := skippedBy?_eq_some h
    exact ⟨hu, hn.forbidden, hn.eq_or_eq⟩
  · rintro ⟨⟨body, raw, hu⟩, hforbidden, hnamed⟩
    have hraw : isRawText name = true := by simpa [isRawText] using hnamed
    simp [skippedBy?, hu, hforbidden, hraw]

theorem skippedAfter_leavesOut {skipped : Option Text} (h : ∀ name ∈ skipped, p.LeavesOut name)
    (u : Text) : ∀ name ∈ p.skippedAfter skipped u, p.LeavesOut name := by
  intro name hname
  rcases skipped with _ | n
  · exact (skippedBy?_eq_some hname).1
  · rcases hc : closesRawText n u
    · simp only [skippedAfter, hc] at hname
      exact h name hname
    · simp [skippedAfter, hc] at hname

theorem head?_keptFrom (us : List Text) : (p.keptFrom none us).head? = us.head? := by
  rcases us with _ | ⟨u, us⟩
  · rfl
  · rfl

variable {us vs : List Text}

/-- Some spans, those of them that are kept, and the element in whose content they end, if any.
Nothing is kept between a span that opens an element and the first one that ends it. -/
inductive Keeps (p : Policy) : List Text → List Text → Option Text → Prop
  | nil : Keeps p [] [] none
  | span {u : Text} {us vs : List Text} {left : Option Text} (hu : ∀ name, ¬ p.IsOpener name u)
      (h : Keeps p us vs left) : Keeps p (u :: us) (u :: vs) left
  | element {name opener closer : Text} {inside us vs : List Text} {left : Option Text}
      (ho : p.IsOpener name opener) (hi : ∀ u ∈ inside, ¬ IsCloser name u)
      (hc : IsCloser name closer) (h : Keeps p us vs left) :
      Keeps p (opener :: (inside ++ closer :: us)) (opener :: closer :: vs) left
  | toEnd {name opener : Text} {inside : List Text} (ho : p.IsOpener name opener)
      (hi : ∀ u ∈ inside, ¬ IsCloser name u) : Keeps p (opener :: inside) [opener] (some name)

theorem keptFrom_inside {name : Text} {inside : List Text} (hi : ∀ u ∈ inside, ¬ IsCloser name u)
    (us : List Text) :
    p.keptFrom (some name) (inside ++ us) = p.keptFrom (some name) us ∧
      inside.foldl p.skippedAfter (some name) = some name := by
  induction inside with
  | nil => exact ⟨rfl, rfl⟩
  | cons u inside ih =>
    obtain ⟨hu, hi⟩ := List.forall_mem_cons.1 hi
    rw [← closesRawText_eq_false_iff] at hu
    obtain ⟨hkept, hafter⟩ := ih hi
    simp [keptFrom, skippedAfter, hu, hkept, hafter]

theorem Keeps.eq {left : Option Text} (h : p.Keeps us vs left) :
    vs = p.keptFrom none us ∧ left = p.skippedBehind us := by
  unfold skippedBehind
  induction h with
  | nil => exact ⟨rfl, rfl⟩
  | span hu _ ih =>
    obtain ⟨rfl, rfl⟩ := ih
    have hnone := Option.eq_none_iff_forall_ne_some.2 fun name hname =>
      hu name (skippedBy?_eq_some_iff.1 hname)
    simp [keptFrom, skippedAfter, hnone]
  | @element name opener closer inside us _ _ ho hi hc _ ih =>
    obtain ⟨rfl, rfl⟩ := ih
    obtain ⟨hkept, hafter⟩ := keptFrom_inside (p := p) hi (closer :: us)
    rw [← skippedBy?_eq_some_iff] at ho
    rw [← closesRawText_iff_isCloser] at hc
    simp [keptFrom, skippedAfter, ho, hc, hkept, hafter]
  | toEnd ho hi =>
    obtain ⟨hkept, hafter⟩ := keptFrom_inside (p := p) hi []
    rw [List.append_nil] at hkept
    rw [← skippedBy?_eq_some_iff] at ho
    simp [keptFrom, skippedAfter, ho, hkept, hafter]

theorem exists_keeps (us : List Text) : ∃ vs left, p.Keeps us vs left := by
  -- all of an element is gone through at once, so the induction is on the number of spans
  induction hlen : us.length using Nat.strongRecOn generalizing us with
  | _ n ih =>
    rcases us with _ | ⟨u, us⟩
    · exact ⟨_, _, .nil⟩
    by_cases ho : ∃ name, p.IsOpener name u
    · obtain ⟨name, ho⟩ := ho
      rcases hfind : us.find? (closesRawText name) with _ | closer
      · have hi := List.find?_eq_none.1 hfind
        exact ⟨_, _, .toEnd ho fun v hv h => hi v hv (closesRawText_iff_isCloser.2 h)⟩
      · obtain ⟨hc, inside, rest, rfl, hi⟩ := List.find?_eq_some_iff_append.1 hfind
        obtain ⟨vs, left, hrest⟩ := ih rest.length (by simp at hlen; omega) rest rfl
        refine ⟨_, _, .element ho (fun v hv => ?_) (closesRawText_iff_isCloser.1 hc) hrest⟩
        rw [← closesRawText_eq_false_iff]
        simpa using hi v hv
    · obtain ⟨vs, left, hrest⟩ := ih us.length (by simp at hlen; omega) us rfl
      exact ⟨_, _, .span (not_exists.1 ho) hrest⟩

/-- Going through the spans one by one keeps what is to be kept. -/
theorem keeps_iff {left : Option Text} :
    p.Keeps us vs left ↔ vs = p.keptFrom none us ∧ left = p.skippedBehind us := by
  refine ⟨Keeps.eq, ?_⟩
  rintro ⟨rfl, rfl⟩
  obtain ⟨vs, left, h⟩ := exists_keeps (p := p) us
  obtain ⟨rfl, rfl⟩ := h.eq
  exact h

end Policy

section Kept

variable {p : Policy}

open Policy

/-- What is kept of spans is spans again. -/
theorem Segmented.keptFrom {us : List Text} (h : Segmented us) (skipped : Option Text) :
    Segmented (p.keptFrom skipped us) := by
  induction h generalizing skipped with
  | nil =>
    rw [Policy.keptFrom]
    exact .nil
  | @cons u us hu hus ih =>
    rw [Policy.keptFrom]
    split_ifs with hskip
    · exact ih skipped
    refine .cons ?_ (ih _)
    -- a span that is kept has the next one behind it as before, unless it opens an element, and
    -- then it is a tag, which ends there whatever follows
    rcases hafter : p.skippedAfter skipped u with _ | name
    · refine hu.congr ?_
      rw [hus.head?_flatten, (ih none).head?_flatten, head?_keptFrom]
    · rcases skipped with _ | n
      · obtain ⟨-, body, raw, htag⟩ := skippedBy?_eq_some hafter
        exact Token.isWhole_of_ofSpan_opening htag _
      · rcases hc : closesRawText n u <;> simp [skippedAfter, hc] at hskip hafter

theorem spans_kept (p : Policy) (input : Text) :
    spans (p.kept input) = p.keptFrom none (spans input) :=
  ((segmented_spans input).keptFrom none).spans_flatten

end Kept

section Closers

variable {name u : Text}

theorem closesRawText_of_closing {raw : Text} (h : Token.ofSpan u = .closing name raw) :
    closesRawText name u = true := by
  obtain ⟨m, w, ⟨rfl, -, -, hw⟩, rfl⟩ := Token.exists_of_ofSpan_closing h
  exact closesRawText_iff.2 ⟨m, w ++ ['>'], by rw [List.append_assoc], rfl, head?_blanks hw⟩

/-- What begins with the closing tag of a name is that closing tag, or text. -/
theorem ofSpan_of_closesRawText (hname : IsName isTagChar name) (h : closesRawText name u = true) :
    (∃ raw, Token.ofSpan u = .closing name raw) ∨ Token.ofSpan u = .text u := by
  obtain ⟨m, t, rfl, rfl, ht⟩ := closesRawText_iff.1 h
  have hm : ∀ d ∈ m, isTagChar d = true := fun d hd =>
    isTagChar_of_toLower (hname.chars _ (List.mem_map_of_mem hd))
  rcases hu : Token.ofSpan ('<' :: '/' :: (m ++ t)) with raw | ⟨n, b, slash, raw⟩ | ⟨n, raw⟩ | raw
  · simp [Token.ofSpan, Span.commentOpen, List.isPrefixOf] at hu
    split at hu <;> simp at hu
  · obtain ⟨n, ⟨hn, hne, hchars, -, -⟩, -⟩ := Token.exists_of_ofSpan_opening hu
    obtain ⟨d, n, rfl⟩ := List.exists_cons_of_ne_nil hne
    obtain ⟨rfl, -⟩ := List.cons.inj (List.cons.inj hn).2
    exact absurd (hchars '/' List.mem_cons_self) (by decide)
  · obtain ⟨n, w, ⟨hn, -, hchars, hw⟩, rfl⟩ := Token.exists_of_ofSpan_closing hu
    have hsame : m ++ t = n ++ (w ++ ['>']) := by
      rw [← List.append_assoc]
      exact (List.cons.inj (List.cons.inj hn).2).2
    left
    rw [← takeWhile_isTagChar hm ht, hsame, takeWhile_isTagChar hchars (head?_blanks hw)]
    exact ⟨raw, rfl⟩
  · rw [Token.raw_of_ofSpan_text hu]
    exact .inr rfl

end Closers

namespace Cleaner

variable {c : Cleaner} {s : Situation} {name u : Text}

/-- What begins with the closing tag of the element ends it, with one violation. -/
theorem step_closer (hn : c.policy.LeavesOut name) (hs : s.skipping = some name)
    (hu : closesRawText name u = true) :
    c.step s (Token.ofSpan u) = ({ s with skipping := none },
      [.token (Token.ofSpan u), .violation ('/' :: name)]) := by
  rcases ofSpan_of_closesRawText hn.isName hu with ⟨raw, ht⟩ | ht
  · simp [ht, step, hs, meet, closing, hn.hasEnd, hn.forbidden]
  · simp [ht, step, hs, hu]

theorem step_skipped (hs : s.skipping = some name) (hu : closesRawText name u = false) :
    c.step s (Token.ofSpan u) = (s, [.token (Token.ofSpan u)]) := by
  rcases step_of_skipping (c := c) hs (Token.ofSpan u) with h | ⟨m, raw, ht, h⟩ | ⟨raw, ht, h⟩
  · exact h
  · by_cases hm : m = name
    · subst hm
      rw [closesRawText_of_closing ht] at hu
      simp at hu
    · simp only [ht, step, hs, if_neg hm]
  · obtain rfl := Token.raw_of_ofSpan_text ht
    simp only [ht, step, hs, hu, Bool.false_eq_true, ↓reduceIte]

/-- The tag that opens an element is a violation, and from then on spans are left out. -/
theorem step_opener (hs : s.skipping = none) (hu : c.policy.skippedBy? u = some name) :
    c.step s (Token.ofSpan u) = ({ s with skipping := some name },
      [.token (Token.ofSpan u), .violation ('<' :: name ++ ['>'])]) := by
  obtain ⟨hn, body, raw, ht⟩ := Policy.skippedBy?_eq_some hu
  rw [step_of_meeting hs, ht]
  simp [meet, opening, hn.forbidden, hn.rawText]

theorem skipping_opening (s : Situation) (name body : Text) (selfClosing : Bool) (raw : Text) :
    (c.opening s name body selfClosing raw).1.skipping =
      if c.policy.classify name = .forbidden ∧ isRawText name ∧ selfClosing = false then some name
      else s.skipping := by
  unfold opening
  rcases c.policy.classify name with _ | _ | _
  · rcases selfClosing
    · rcases isRawText name <;> rfl
    · simp
  · have hother : ¬ (TagClass.allowed = .forbidden ∧ isRawText name ∧ selfClosing = false) := by
      simp
    rw [if_neg hother]
    simp only []
    split_ifs <;> rfl
  · rfl

theorem skipping_closing (s : Situation) (name raw : Text) :
    (c.closing s name raw).1.skipping = s.skipping := by
  unfold closing
  split
  · rfl
  split
  · rfl
  · rfl
  split
  · rfl
  · rfl

theorem skipping_step (hn : ∀ name ∈ s.skipping, c.policy.LeavesOut name) (u : Text) :
    (c.step s (Token.ofSpan u)).1.skipping = c.policy.skippedAfter s.skipping u := by
  rcases hs : s.skipping with _ | n
  · rw [step_of_meeting hs]
    simp only [Policy.skippedAfter, Policy.skippedBy?]
    rcases Token.ofSpan u with raw | ⟨m, body, selfClosing, raw⟩ | ⟨m, raw⟩ | raw
    · exact hs
    · simp only [meet, skipping_opening, hs]
    · simp only [meet, skipping_closing, hs]
    · exact hs
  · rcases hu : closesRawText n u
    · rw [step_skipped hs hu, hs]
      simp [Policy.skippedAfter, hu]
    · rw [step_closer (hn n hs) hs hu]
      simp [Policy.skippedAfter, hu]

theorem goOn_skipped (hs : s.skipping = some name) {us : List Text}
    (hus : ∀ u ∈ us, closesRawText name u = false) (before : Array Event) :
    c.goOn s before (us.map Token.ofSpan) =
      (s, before ++ us.map fun u => Event.token (Token.ofSpan u)) := by
  induction us generalizing before with
  | nil => simp [goOn]
  | cons u us ih =>
    rw [List.map_cons, goOn_cons, step_skipped hs (hus u List.mem_cons_self),
      ih fun v hv => hus v (List.mem_cons_of_mem u hv)]
    simp

/-- The events of meeting a forbidden element whose content is left out. -/
def elementEvents (name opener : Text) (inside : List Text) (closer : Text) : List Event :=
  [.token (Token.ofSpan opener), .violation ('<' :: name ++ ['>'])] ++
    inside.map (fun u => .token (Token.ofSpan u)) ++
      [.token (Token.ofSpan closer), .violation ('/' :: name)]

/-- Behind an element whose content is left out, all is as it was in front of it. -/
theorem goOn_element (hs : s.skipping = none) {opener closer : Text} {inside : List Text}
    (ho : c.policy.skippedBy? opener = some name)
    (hi : ∀ u ∈ inside, closesRawText name u = false) (hc : closesRawText name closer = true)
    (before : Array Event) :
    c.goOn s before ((opener :: (inside ++ [closer])).map Token.ofSpan) =
      (s, before ++ elementEvents name opener inside closer) := by
  have hsame : ({ s with skipping := none } : Situation) = s := by
    rw [← hs]
  rw [List.map_cons, goOn_cons, step_opener hs ho, List.map_append, goOn_append,
    goOn_skipped rfl hi, List.map_singleton, goOn_cons,
    step_closer (Policy.skippedBy?_eq_some ho).1 rfl hc]
  refine Prod.ext hsame (Array.toList_inj.1 ?_)
  simp [elementEvents, goOn]

/-- What is remembered behind some spans, and the report on them. -/
def reached (c : Cleaner) (us : List Text) : Situation × Report :=
  let (s, es) := c.goOn {} #[] (us.map Token.ofSpan)
  (s, (Report.fresh c.settings.limit).after es.toList)

theorem clean_eq_reached (c : Cleaner) (input : Text) :
    c.clean input =
      ((c.reached (spans input)).2.after (ending (c.reached (spans input)).1)).finalize := by
  rw [reached, ← Report.after_append]
  rfl

/-- Behind some spans, cleaning goes on with the others. -/
theorem clean_eq_after_reached {input : Text} {us vs : List Text} (h : spans input = us ++ vs) :
    c.clean input = ((c.reached us).2.after
      (c.eventsFrom (c.reached us).1 (vs.map Token.ofSpan))).finalize := by
  have hevents := goOn_eq_eventsFrom (c := c) (c.goOn {} #[] (us.map Token.ofSpan)).1
    (c.goOn {} #[] (us.map Token.ofSpan)).2 (vs.map Token.ofSpan)
  rw [reached, ← Report.after_append, ← hevents, ← goOn_append, ← List.map_append, ← h]
  rfl

theorem after_inside (r : Report) (us : List Text) :
    r.after (us.map fun u => .token (Token.ofSpan u)) = r := by
  induction us with
  | nil => rfl
  | cons u us ih => exact ih

theorem reached_inside {before inside : List Text} {opener : Text}
    (hs : (c.reached before).1.skipping = none) (ho : c.policy.IsOpener name opener)
    (hi : ∀ u ∈ inside, ¬ IsCloser name u) :
    (c.reached (before ++ opener :: inside)).2 =
      (c.reached before).2.addViolation ('<' :: name ++ ['>']) := by
  change (c.goOn {} #[] (before.map Token.ofSpan)).1.skipping = none at hs
  have hopener := step_opener hs (Policy.skippedBy?_eq_some_iff.2 ho)
  have hinside := fun v hv => closesRawText_eq_false_iff.2 (hi v hv)
  rw [reached, List.map_append, goOn_append, List.map_cons, goOn_cons, hopener,
    goOn_skipped rfl hinside]
  simp only [Array.toList_appendList, Report.after_append, after_inside]
  rfl

theorem reached_element {before inside : List Text} {opener closer : Text}
    (hs : (c.reached before).1.skipping = none) (ho : c.policy.IsOpener name opener)
    (hi : ∀ u ∈ inside, ¬ IsCloser name u) (hc : IsCloser name closer) :
    c.reached (before ++ opener :: (inside ++ [closer])) = ((c.reached before).1,
      ((c.reached before).2.addViolation ('<' :: name ++ ['>'])).addViolation ('/' :: name)) := by
  change (c.goOn {} #[] (before.map Token.ofSpan)).1.skipping = none at hs
  have helement := goOn_element hs (Policy.skippedBy?_eq_some_iff.2 ho)
    (fun v hv => closesRawText_eq_false_iff.2 (hi v hv)) (closesRawText_iff_isCloser.2 hc)
    (c.goOn {} #[] (before.map Token.ofSpan)).2
  rw [reached, List.map_append, goOn_append, helement]
  simp only [Array.toList_appendList, Report.after_append, elementEvents, after_inside]
  rfl

/-- Spans that are left out change neither what is remembered nor the report. -/
theorem goOn_keptFrom (r : Report) : ∀ (us : List Text) (s : Situation) (es fs : Array Event),
    (∀ name ∈ s.skipping, c.policy.LeavesOut name) → r.after es.toList = r.after fs.toList →
      (c.goOn s es ((c.policy.keptFrom s.skipping us).map Token.ofSpan)).1 =
          (c.goOn s fs (us.map Token.ofSpan)).1 ∧
        r.after (c.goOn s es ((c.policy.keptFrom s.skipping us).map Token.ofSpan)).2.toList =
          r.after (c.goOn s fs (us.map Token.ofSpan)).2.toList
  | [], s, es, fs, _, h => ⟨rfl, h⟩
  | u :: us, s, es, fs, hn, h => by
    rw [List.map_cons, goOn_cons, Policy.keptFrom]
    split_ifs with hskip
    · obtain ⟨name, hs, hu⟩ := (Option.any_eq_true _ _).1 hskip
      rw [Bool.not_eq_true'] at hu
      have hstep := step_skipped (c := c) hs hu
      rw [hstep]
      refine goOn_keptFrom r us s es _ hn ?_
      rw [h, Array.toList_appendList, Report.after_append]
      rfl
    · rw [List.map_cons, goOn_cons, ← skipping_step hn]
      refine goOn_keptFrom r us _ _ _ ?_ ?_
      · rw [skipping_step hn]
        exact Policy.skippedAfter_leavesOut hn u
      · rw [Array.toList_appendList, Array.toList_appendList, Report.after_append,
          Report.after_append, h]

theorem skipping_reached (c : Cleaner) (us : List Text) :
    (c.reached us).1.skipping = c.policy.skippedBehind us ∧
      ∀ name ∈ (c.reached us).1.skipping, c.policy.LeavesOut name := by
  induction us using List.reverseRecOn with
  | nil => exact ⟨rfl, by simp [reached, goOn]⟩
  | append_singleton us u ih =>
    obtain ⟨hskip, hn⟩ := ih
    have hstep : (c.reached (us ++ [u])).1 =
        (c.step (c.reached us).1 (Token.ofSpan u)).1 := by
      simp [reached, goOn]
    have hafter := Policy.skippedAfter_leavesOut hn u
    rw [hskip] at hafter
    rw [hstep, skipping_step hn, hskip, Policy.skippedBehind, Policy.skippedBehind,
      List.foldl_append]
    exact ⟨rfl, hafter⟩

end Cleaner

/-- Without the spans that are left out, the report is the same in all its parts. An element whose
content is left out gives the violation of its opening tag and that of what ends it, a closing tag
or not, and nothing else; behind it all is as it was in front of it, and cleaning goes on from
there. -/
theorem clean_skipping (c : Cleaner) (input : Text) :
    (∃ left, c.policy.Keeps (spans input) (spans (c.policy.kept input)) left) ∧
      c.clean (c.policy.kept input) = c.clean input ∧
      ∀ (before kept inside after : List Text) (opener closer name : Text),
        spans input = before ++ opener :: (inside ++ closer :: after) →
          c.policy.Keeps before kept none → c.policy.IsOpener name opener →
            (∀ u ∈ inside, ¬ IsCloser name u) → IsCloser name closer →
              let report := (c.reached before).2.addViolation ('<' :: name ++ ['>'])
              (c.reached (before ++ opener :: inside)).2 = report ∧
                c.reached (before ++ opener :: (inside ++ [closer])) =
                  ((c.reached before).1, report.addViolation ('/' :: name)) ∧
                c.clean input = ((report.addViolation ('/' :: name)).after
                  (c.eventsFrom (c.reached before).1 (after.map Token.ofSpan))).finalize := by
  refine ⟨?_, ?_, ?_⟩
  · rw [spans_kept]
    exact ⟨_, Policy.keeps_iff.2 ⟨rfl, rfl⟩⟩
  · have hkept := Cleaner.goOn_keptFrom (c := c) (.fresh c.settings.limit) (spans input) {} #[] #[]
      (by simp) rfl
    have hsame : c.reached (spans (c.policy.kept input)) = c.reached (spans input) := by
      rw [spans_kept]
      exact Prod.ext hkept.1 hkept.2
    rw [c.clean_eq_reached, c.clean_eq_reached, hsame]
  · intro before kept inside after opener closer name hspans hbefore ho hi hc
    have hskip : (c.reached before).1.skipping = none := by
      rw [(c.skipping_reached before).1]
      exact (Policy.keeps_iff.1 hbefore).2.symm
    have hend := Cleaner.reached_element hskip ho hi hc
    refine ⟨Cleaner.reached_inside hskip ho hi, hend, ?_⟩
    have hsplit : spans input = (before ++ opener :: (inside ++ [closer])) ++ after := by
      simp [hspans]
    rw [Cleaner.clean_eq_after_reached hsplit, hend]

end CleanMarkup

import CleanMarkup.Proofs.Finding
import CleanMarkup.Proofs.Spans

/-!
# Where spans end

What follows a span can change it only if the span is text, which runs on to the next `<`, or is
open, which swallows all that follows (`Span.IsFirst.cases`). So a text that does not end in an
open span falls apart from a `<` behind it (`spans_append_tag`). Whether texts are the spans of
what they are put together to (`Segmented`) can be seen from each of them and the first character
behind it (`Span.IsFirst.congr`).
-/

namespace CleanMarkup

namespace Span

/-- What ends the span that a `<` begins, and where the search for it begins. -/
def endMark (s : Text) : Text × Nat :=
  if commentOpen.isPrefixOf s then (commentClose, 2) else (['>'], 1)

/-- The text begins with `<` and the span that begins there does not end. -/
def isOpen (s : Text) : Bool :=
  s.head? == some '<' && (Text.find? (endMark s).1 (s.drop (endMark s).2)).isNone

theorem exists_cons_of_isOpen {u : Text} (h : isOpen u = true) : ∃ r, u = '<' :: r := by
  rw [isOpen, Bool.and_eq_true, beq_iff_eq] at h
  exact List.head?_eq_some_iff.1 h.1

theorem endMark_cases (s : Text) :
    (commentOpen <+: s ∧ endMark s = (commentClose, 2)) ∨
      (¬ commentOpen <+: s ∧ endMark s = (['>'], 1)) := by
  unfold endMark
  split_ifs with h
  · exact .inl ⟨List.isPrefixOf_iff_prefix.1 h, rfl⟩
  · exact .inr ⟨fun hp => h (List.isPrefixOf_iff_prefix.2 hp), rfl⟩

theorem endMark_ne_nil (s : Text) : (endMark s).1 ≠ [] := by
  rcases endMark_cases s with ⟨-, h⟩ | ⟨-, h⟩ <;> rw [h] <;> decide

theorem endMark_of_prefix_iff {s t : Text} (h : commentOpen <+: s ↔ commentOpen <+: t) :
    endMark s = endMark t := by
  unfold endMark
  simp only [List.isPrefixOf_iff_prefix, h]

/-- A comment is opened in a text with more behind it as soon as it is opened or the text holds
more than four characters or a `>`. -/
theorem prefix_commentOpen_append {s r : Text} (h : 4 ≤ s.length ∨ '>' ∈ s) :
    commentOpen <+: s ++ r ↔ commentOpen <+: s := by
  constructor
  · intro hp
    rcases List.prefix_or_prefix_of_prefix hp (List.prefix_append s r) with hs | hs
    · exact hs
    · rcases h with h | h
      · exact hs.eq_of_length_le h ▸ List.prefix_refl _
      · exact absurd (hs.subset h) (by decide)
  · exact fun hp => hp.trans (List.prefix_append s r)

theorem exists_of_isOpen {u : Text} (ho : isOpen u = true) (hc : ¬ commentOpen <+: u) :
    ∃ r, u = '<' :: r ∧ '>' ∉ r := by
  obtain ⟨r, rfl⟩ := exists_cons_of_isOpen ho
  rw [isOpen, Bool.and_eq_true, Option.isNone_iff_eq_none] at ho
  refine ⟨r, rfl, fun hm => ?_⟩
  have hmark : endMark ('<' :: r) = (['>'], 1) := by
    rcases endMark_cases ('<' :: r) with ⟨h, -⟩ | ⟨-, h⟩
    · exact absurd h hc
    · exact h
  obtain ⟨a, b, rfl⟩ := List.append_of_mem hm
  have hsome := Text.isSome_find? (m := ['>']) (s := a ++ '>' :: b) (i := a.length) (by decide) (by
    rw [List.drop_left]
    exact ⟨b, rfl⟩)
  have hnone := ho.2
  rw [hmark] at hnone
  change Text.find? ['>'] (a ++ '>' :: b) = none at hnone
  rw [hnone] at hsome
  simp at hsome

theorem firstLength_eq {s : Text} (h : s.head? = some '<') :
    firstLength s = lengthThrough (endMark s).1 (endMark s).2 s := by
  unfold firstLength
  rcases endMark_cases s with ⟨hp, hm⟩ | ⟨hp, hm⟩
  · rw [hm, if_pos (List.isPrefixOf_iff_prefix.2 hp)]
  · rw [hm, if_neg fun he => hp (List.isPrefixOf_iff_prefix.1 he), if_pos h]

theorem firstLength_of_head_ne {s : Text} (h : s.head? ≠ some '<') :
    firstLength s = (s.takeWhile (· != '<')).length := by
  have hp : ¬ commentOpen.isPrefixOf s := by
    intro he
    obtain ⟨t, rfl⟩ := List.isPrefixOf_iff_prefix.1 he
    exact h rfl
  unfold firstLength
  rw [if_neg hp, if_neg h]

theorem firstLength_append {s : Text} (h : s.head? = some '<') (ho : isOpen s = false)
    (r : Text) : firstLength (s ++ r) = firstLength s := by
  have hr : (s ++ r).head? = some '<' := by rw [List.head?_append, h, Option.some_or]
  rw [isOpen, h, beq_self_eq_true, Bool.true_and, Option.isNone_eq_false_iff,
    Option.isSome_iff_exists] at ho
  obtain ⟨i, hi⟩ := ho
  have hlen := Text.add_length_le_of_find? (endMark_ne_nil s) hi
  have hmark : endMark (s ++ r) = endMark s := by
    refine endMark_of_prefix_iff (prefix_commentOpen_append ?_)
    rcases endMark_cases s with ⟨hp, -⟩ | ⟨-, hm⟩
    · exact .inl hp.length_le
    · rw [hm] at hi
      have hmem := ((Text.find?_eq_some_iff (by decide)).1 hi).1.subset List.mem_cons_self
      exact .inr (List.mem_of_mem_drop (List.mem_of_mem_drop hmem))
  have hdrop : (s ++ r).drop (endMark s).2 = s.drop (endMark s).2 ++ r := by
    rw [List.length_drop] at hlen
    have := List.length_pos_iff.2 (endMark_ne_nil s)
    exact List.drop_append_of_le_length (by omega)
  rw [firstLength_eq hr, firstLength_eq h, hmark]
  simp only [lengthThrough, hdrop, hi, Text.find?_append (endMark_ne_nil s) hi]

/-- An open span goes on in whatever follows. -/
theorem lt_firstLength_append {s r : Text} (ho : isOpen s = true) (hr : r ≠ []) :
    s.length < firstLength (s ++ r) := by
  rw [isOpen, Bool.and_eq_true, beq_iff_eq, Option.isNone_iff_eq_none] at ho
  obtain ⟨h, hnone⟩ := ho
  have hhead : (s ++ r).head? = some '<' := by rw [List.head?_append, h, Option.some_or]
  have hpos := List.length_pos_iff.2 hr
  rw [firstLength_eq hhead, lengthThrough]
  split
  · rename_i i hi
    by_contra hle
    rw [not_lt] at hle
    have hmark : endMark s = endMark (s ++ r) := by
      symm
      refine endMark_of_prefix_iff ⟨fun hp => ?_, fun hp => hp.trans (List.prefix_append s r)⟩
      rcases endMark_cases (s ++ r) with ⟨-, hm⟩ | ⟨hn, -⟩
      · rw [hm] at hle
        have hlen : 2 + i + 3 ≤ s.length := hle
        exact (prefix_commentOpen_append (.inl (by omega))).1 hp
      · exact absurd hp hn
    rw [← hmark] at hi hle
    rw [List.drop_append_of_le_length (by omega)] at hi
    rw [Text.find?_of_append (endMark_ne_nil s) hi (by rw [List.length_drop]; omega)] at hnone
    simp at hnone
  · rw [List.length_append]
    omega

theorem firstLength_le (s : Text) : firstLength s ≤ s.length := by
  by_cases h : s.head? = some '<'
  · rw [firstLength_eq h, lengthThrough]
    split
    · rename_i i hi
      have hpos := List.length_pos_iff.2 (endMark_ne_nil s)
      have hlen := Text.add_length_le_of_find? (endMark_ne_nil s) hi
      rw [List.length_drop] at hlen
      omega
    · exact le_rfl
  · rw [firstLength_of_head_ne h]
    exact (List.takeWhile_sublist _).length_le

/-- The first of the two texts put together is the first span of the whole. -/
structure IsFirst (u r : Text) : Prop where
  ne_nil : u ≠ []
  length : firstLength (u ++ r) = u.length

/-- The text is a span whatever follows. -/
def IsWhole (u : Text) : Prop := ∀ r, IsFirst u r

theorem isFirst_take (c : Char) (r : Text) :
    IsFirst ((c :: r).take (firstLength (c :: r))) ((c :: r).drop (firstLength (c :: r))) where
  ne_nil := by
    rw [Ne, List.take_eq_nil_iff, not_or]
    exact ⟨(firstLength_pos c r).ne', List.cons_ne_nil c r⟩
  length := by
    rw [List.take_append_drop, List.length_take, Nat.min_eq_left (firstLength_le _)]

theorem IsFirst.spans {u r : Text} (h : IsFirst u r) : spans (u ++ r) = u :: spans r :=
  spans_append h.ne_nil h.length

/-- A first span is text that runs up to the next `<`, or a span whatever follows, or an open one
with nothing behind it. -/
theorem IsFirst.cases {u r : Text} (h : IsFirst u r) :
    ('<' ∉ u ∧ (r = [] ∨ r.head? = some '<')) ∨ (u.head? = some '<' ∧ IsWhole u) ∨
      (isOpen u = true ∧ r = []) := by
  by_cases hu : u.head? = some '<'
  · right
    rcases ho : isOpen u
    · refine .inl ⟨hu, fun t => ⟨h.ne_nil, ?_⟩⟩
      rw [firstLength_append hu ho, ← firstLength_append hu ho r, h.length]
    · refine .inr ⟨rfl, ?_⟩
      by_contra hr
      have hlt := lt_firstLength_append ho hr
      rw [h.length] at hlt
      exact Nat.lt_irrefl _ hlt
  · left
    have hhead : (u ++ r).head? ≠ some '<' := by
      obtain ⟨c, t, rfl⟩ := List.exists_cons_of_ne_nil h.ne_nil
      exact hu
    have hlen := h.length
    rw [firstLength_of_head_ne hhead] at hlen
    have hrun : (u ++ r).takeWhile (· != '<') = u :=
      (List.prefix_of_prefix_length_le (List.takeWhile_prefix _) (List.prefix_append u r)
        hlen.le).eq_of_length hlen
    have hu : '<' ∉ u := by
      intro hm
      rw [← hrun] at hm
      simpa using List.mem_takeWhile_imp hm
    refine ⟨hu, ?_⟩
    rw [List.takeWhile_append_of_pos (forall_ne_of_not_mem hu), List.append_right_eq_self] at hrun
    rcases r with _ | ⟨d, r⟩
    · exact .inl rfl
    · right
      by_contra hd
      rw [List.takeWhile_cons_of_pos (by simpa using hd)] at hrun
      simp at hrun

theorem IsFirst.cases_of_closed {u r : Text} (h : IsFirst u r) (ho : isOpen u = false) :
    ('<' ∉ u ∧ (r = [] ∨ r.head? = some '<')) ∨ (u.head? = some '<' ∧ IsWhole u) := by
  rcases h.cases with h | h | ⟨hopen, -⟩
  · exact .inl h
  · exact .inr h
  · rw [ho] at hopen
    simp at hopen

theorem isFirst_of_not_mem {u r : Text} (hne : u ≠ []) (hu : '<' ∉ u)
    (hr : r = [] ∨ r.head? = some '<') : IsFirst u r where
  ne_nil := hne
  length := by
    have hhead : (u ++ r).head? ≠ some '<' := by
      obtain ⟨c, t, rfl⟩ := List.exists_cons_of_ne_nil hne
      exact fun he => hu (Option.some.inj he ▸ List.mem_cons_self)
    rw [firstLength_of_head_ne hhead, List.takeWhile_append_of_pos (forall_ne_of_not_mem hu)]
    rcases r with _ | ⟨d, r⟩
    · simp
    · obtain rfl : d = '<' := by simpa using hr
      simp

/-- What a first span is depends on the first character behind it only. -/
theorem IsFirst.congr {u r t : Text} (h : IsFirst u r) (hr : r.head? = t.head?) :
    IsFirst u t := by
  rcases h.cases with ⟨hu, hs⟩ | ⟨-, hw⟩ | ⟨-, rfl⟩
  · refine isFirst_of_not_mem h.ne_nil hu ?_
    rcases hs with rfl | hs
    · exact .inl (List.head?_eq_none_iff.1 hr.symm)
    · exact .inr (hr ▸ hs)
  · exact hw t
  · obtain rfl := List.head?_eq_none_iff.1 hr.symm
    exact h

theorem IsFirst.isOpen_eq_false {u r : Text} (h : IsFirst u r) (hr : r ≠ []) :
    isOpen u = false := by
  rcases ho : isOpen u
  · rfl
  · have hlt := lt_firstLength_append ho hr
    rw [h.length] at hlt
    exact absurd hlt (Nat.lt_irrefl _)

theorem IsFirst.alone {u r : Text} (h : IsFirst u r) : IsFirst u [] := by
  rcases h.cases with ⟨hu, -⟩ | ⟨-, hw⟩ | ⟨-, rfl⟩
  · exact isFirst_of_not_mem h.ne_nil hu (.inl rfl)
  · exact hw []
  · exact h

theorem IsFirst.before_tag {u r : Text} (h : IsFirst u r) (ho : isOpen u = false) (t : Text) :
    IsFirst u ('<' :: t) := by
  rcases h.cases_of_closed ho with ⟨hu, -⟩ | ⟨-, hw⟩
  · exact isFirst_of_not_mem h.ne_nil hu (.inr rfl)
  · exact hw _

/-- A text from `<` through its only `>` is a span whatever follows, if it opens no comment. -/
theorem isWhole_tag {b : Text} (hc : ¬ commentOpen <+: '<' :: b) (hg : '>' ∉ b) :
    IsWhole ('<' :: (b ++ ['>'])) := by
  intro r
  have hopen : ¬ commentOpen <+: '<' :: (b ++ ['>']) ++ r := by
    rw [prefix_commentOpen_append (.inr (by simp)), ← List.cons_append, List.prefix_concat_iff]
    rintro (h | h)
    · exact absurd (h ▸ List.mem_append_right _ (List.mem_singleton_self _)) (by decide)
    · exact hc h
  have hmark : endMark ('<' :: (b ++ ['>']) ++ r) = (['>'], 1) := by
    rcases endMark_cases ('<' :: (b ++ ['>']) ++ r) with ⟨h, -⟩ | ⟨-, h⟩
    · exact absurd h hopen
    · exact h
  have hfind : Text.find? ['>'] (('<' :: (b ++ ['>']) ++ r).drop 1) = some b.length := by
    have h := findFrom_char 0 r hg
    rw [Nat.zero_add] at h
    simpa [Text.find?] using h
  refine ⟨List.cons_ne_nil _ _, ?_⟩
  rw [firstLength_eq rfl, hmark, lengthThrough, hfind]
  simp only [List.length_cons, List.length_append, List.length_nil]
  omega

/-- The first span ends with what ends it, unless it is open. -/
theorem endMark_suffix {s : Text} (h : s.head? = some '<') (ho : isOpen s = false) :
    (endMark s).1 <:+ s.take (firstLength s) := by
  rw [isOpen, h, beq_self_eq_true, Bool.true_and, Option.isNone_eq_false_iff,
    Option.isSome_iff_exists] at ho
  obtain ⟨i, hi⟩ := ho
  obtain ⟨t, ht⟩ := ((Text.find?_eq_some_iff (endMark_ne_nil s)).1 hi).1
  have hlen : firstLength s = (endMark s).2 + i + (endMark s).1.length := by
    rw [firstLength_eq h, lengthThrough, hi]
  rw [List.drop_drop] at ht
  rw [hlen, List.take_add (i := (endMark s).2 + i), ← ht, List.take_left]
  exact List.suffix_append _ _

theorem take_firstLength_cases {s : Text} (h : s.head? = some '<') :
    firstLength s = s.length ∨ ∃ v, s.take (firstLength s) = v ++ ['>'] := by
  rcases ho : isOpen s
  · right
    have hlast : ['>'] <:+ (endMark s).1 := by
      rcases endMark_cases s with ⟨-, hm⟩ | ⟨-, hm⟩
      · rw [hm]
        exact ⟨['-', '-'], rfl⟩
      · rw [hm]
    obtain ⟨v, hv⟩ := hlast.trans (endMark_suffix h ho)
    exact ⟨v, hv.symm⟩
  · left
    rw [isOpen, Bool.and_eq_true, Option.isNone_iff_eq_none] at ho
    rw [firstLength_eq h, lengthThrough, ho.2]

/-- Text whose only `>` is at its end is swallowed by an open span. -/
theorem isFirst_open_append {u b : Text} (ho : isOpen u = true) (hb : '>' ∉ b) :
    IsFirst (u ++ (b ++ ['>'])) [] := by
  have hlt := lt_firstLength_append ho (r := b ++ ['>']) (by simp)
  have hle := firstLength_le (u ++ (b ++ ['>']))
  have hhead : (u ++ (b ++ ['>'])).head? = some '<' := by
    obtain ⟨r, rfl⟩ := exists_cons_of_isOpen ho
    rfl
  refine ⟨by simp, ?_⟩
  rw [List.append_nil]
  rcases take_firstLength_cases hhead with h | ⟨v, hv⟩
  · exact h
  · by_contra hne
    -- a `>` before the end would stand in `b`
    have hshort : firstLength (u ++ (b ++ ['>'])) - u.length ≤ b.length := by
      simp only [List.length_append, List.length_singleton] at hle hne
      omega
    rw [List.take_append, List.take_of_length_le hlt.le, List.take_append_of_le_length hshort] at hv
    have hlast := congrArg List.getLast? hv
    have hne' : b.take (firstLength (u ++ (b ++ ['>'])) - u.length) ≠ [] := by
      rw [Ne, ← List.length_eq_zero_iff, List.length_take]
      omega
    rw [List.getLast?_append_of_ne_nil _ hne', List.getLast?_concat] at hlast
    exact hb (List.mem_of_mem_take (List.mem_of_getLast? hlast))

theorem IsFirst.isWhole {u r : Text} (h : IsFirst u r) (hu : u.head? = some '<')
    (ho : isOpen u = false) : IsWhole u := by
  rcases h.cases_of_closed ho with ⟨hm, -⟩ | ⟨-, hw⟩
  · exact absurd (List.mem_of_head? hu) hm
  · exact hw

theorem not_prefix_commentOpen {u w : Text} (hu : u.head? = some '<') (hc : ¬ commentOpen <+: u) :
    ¬ commentOpen <+: u ++ '<' :: w := by
  rintro ⟨t, ht⟩
  rcases List.append_eq_append_iff.1 ht with ⟨v, hv, -⟩ | ⟨v, hv, hrest⟩
  · exact hc ⟨v, hv.symm⟩
  · rcases v with _ | ⟨d, v⟩
    · exact hc ⟨[], by simpa using hv⟩
    · -- what opens a comment has no second `<`
      obtain ⟨rfl, -⟩ := List.cons.inj hrest
      obtain ⟨r, rfl⟩ := List.head?_eq_some_iff.1 hu
      have hmem : '<' ∈ ['!', '-', '-'] := by
        rw [(List.cons.inj hv).2]
        exact List.mem_append_right r List.mem_cons_self
      exact absurd hmem (by decide)

theorem isOpen_eq_false_of_comment {u : Text} (hp : commentOpen <+: u) (hs : commentClose <:+ u) :
    isOpen u = false := by
  obtain ⟨v, rfl⟩ := hs
  -- the end mark cannot share both dashes of what opens the comment
  have hlen : 2 ≤ v.length := by
    obtain ⟨t, ht⟩ := hp
    rcases v with _ | ⟨a, _ | ⟨b, v⟩⟩
    · simp [commentOpen, commentClose] at ht
    · simp [commentOpen, commentClose] at ht
    · simp
  have hmark : endMark (v ++ commentClose) = (commentClose, 2) := by
    rcases endMark_cases (v ++ commentClose) with ⟨-, h⟩ | ⟨h, -⟩
    · exact h
    · exact absurd hp h
  have hfound : commentClose <+: ((v ++ commentClose).drop 2).drop (v.length - 2) := by
    rw [List.drop_drop, Nat.add_sub_cancel' hlen, List.drop_left]
  have hsome := Text.isSome_find? (by decide) hfound
  rw [isOpen, hmark, Bool.and_eq_false_iff, Option.isNone_eq_false_iff]
  exact .inr hsome

/-- A tag that ends in `>` is not open. -/
theorem isOpen_eq_false_of_suffix {u : Text} (hc : ¬ commentOpen <+: u) (hs : ['>'] <:+ u) :
    isOpen u = false := by
  rw [← Bool.not_eq_true]
  intro ho
  obtain ⟨r, rfl, hr⟩ := exists_of_isOpen ho hc
  rcases List.mem_cons.1 (hs.subset (List.mem_singleton_self '>')) with h | h
  · exact absurd h (by decide)
  · exact hr h

/-- A comment that is not open has its end. -/
theorem IsFirst.commentClose_suffix {u r : Text} (h : IsFirst u r) (hc : commentOpen <+: u)
    (ho : isOpen u = false) : commentClose <:+ u := by
  have hhead : u.head? = some '<' := by
    obtain ⟨t, rfl⟩ := hc
    rfl
  have hend := endMark_suffix hhead ho
  have hlen := h.alone.length
  rw [List.append_nil] at hlen
  rw [hlen, List.take_length] at hend
  rcases endMark_cases u with ⟨-, hm⟩ | ⟨hn, -⟩
  · rwa [hm] at hend
  · exact absurd hc hn

theorem isWhole_comment {u : Text} (hp : commentOpen <+: u) (ho : isOpen u = true) :
    IsWhole (u ++ commentClose) := by
  have hfirst : IsFirst (u ++ commentClose) [] :=
    isFirst_open_append (b := ['-', '-']) ho (by decide)
  obtain ⟨t, rfl⟩ := hp
  exact hfirst.isWhole rfl (isOpen_eq_false_of_comment ⟨t ++ commentClose, by simp⟩ ⟨_, rfl⟩)

end Span

open CleanMarkup.Span

/-- The texts are the spans of what they are put together to. -/
inductive Segmented : List Text → Prop
  | nil : Segmented []
  | cons {u : Text} {us : List Text} : IsFirst u us.flatten → Segmented us → Segmented (u :: us)

namespace Segmented

theorem ne_nil {us : List Text} (h : Segmented us) : ∀ u ∈ us, u ≠ [] := by
  induction h with
  | nil => simp
  | cons hu _ ih => exact List.forall_mem_cons.2 ⟨hu.ne_nil, ih⟩

theorem spans_flatten {us : List Text} (h : Segmented us) : spans us.flatten = us := by
  induction h with
  | nil => exact spans_nil
  | cons hu _ ih => rw [List.flatten_cons, hu.spans, ih]

theorem head?_flatten {us : List Text} (h : Segmented us) :
    us.flatten.head? = us.head?.bind List.head? := by
  cases h with
  | nil => rfl
  | cons hu _ =>
    obtain ⟨c, t, rfl⟩ := List.exists_cons_of_ne_nil hu.ne_nil
    rfl

theorem of_append_left {us vs : List Text} (h : Segmented (us ++ vs)) : Segmented us := by
  induction us with
  | nil => exact .nil
  | cons u us ih =>
    rw [List.cons_append] at h
    cases h with
    | cons hu hrest =>
      refine .cons ?_ (ih hrest)
      rcases us with _ | ⟨v, us⟩
      · exact hu.alone
      · refine hu.congr ?_
        rw [(ih hrest).head?_flatten, hrest.head?_flatten]
        rfl

theorem of_append_right {us vs : List Text} (h : Segmented (us ++ vs)) : Segmented vs := by
  induction us with
  | nil => exact h
  | cons u us ih =>
    rw [List.cons_append] at h
    cases h with
    | cons _ hrest => exact ih hrest

theorem isOpen_eq_false {us vs : List Text} {u : Text} (h : Segmented (us ++ u :: vs))
    (hvs : vs ≠ []) : isOpen u = false := by
  cases h.of_append_right with
  | cons hu hrest =>
    refine hu.isOpen_eq_false fun he => hvs ?_
    rw [← hrest.spans_flatten, he, spans_nil]

/-- What stands behind some spans can be replaced by spans that begin with the same character. -/
theorem replace {us vs ws : List Text} (h : Segmented (us ++ vs)) (hws : Segmented ws)
    (hhead : vs.flatten.head? = ws.flatten.head?) : Segmented (us ++ ws) := by
  induction us with
  | nil => exact hws
  | cons u us ih =>
    rw [List.cons_append] at h ⊢
    cases h with
    | cons hu hrest =>
      refine .cons (hu.congr ?_) (ih hrest)
      rw [List.flatten_append, List.flatten_append, List.head?_append, List.head?_append, hhead]

/-- Spans of which the last is not open can stand in front of those of a tag. -/
theorem append_tag {us vs : List Text} (hus : Segmented us) (hvs : Segmented vs)
    (ho : us.getLast?.any isOpen = false) (htag : vs.flatten.head? = some '<') :
    Segmented (us ++ vs) := by
  obtain ⟨t, ht⟩ := List.head?_eq_some_iff.1 htag
  rcases us.eq_nil_or_concat with rfl | ⟨us, u, rfl⟩
  · exact hvs
  · rw [List.concat_eq_append] at hus ho ⊢
    rw [List.getLast?_concat] at ho
    cases hus.of_append_right with
    | cons hu _ =>
      rw [List.append_assoc]
      refine hus.replace (.cons (ht ▸ hu.before_tag ho t) hvs) ?_
      obtain ⟨c, r, rfl⟩ := List.exists_cons_of_ne_nil hu.ne_nil
      rfl

end Segmented

theorem segmented_spans (s : Text) : Segmented (spans s) := by
  induction h : s.length using Nat.strongRecOn generalizing s with
  | _ n ih =>
    rcases s with _ | ⟨c, r⟩
    · rw [spans_nil]
      exact .nil
    · have hpos := firstLength_pos c r
      have hlt : ((c :: r).drop (firstLength (c :: r))).length < n := by
        rw [← h, List.length_drop, List.length_cons]
        omega
      have hrest := ih _ hlt _ rfl
      rw [spans_cons]
      refine .cons ?_ hrest
      rw [flatten_spans]
      exact isFirst_take c r

/-- The text ends in an open span. -/
def endsOpen (s : Text) : Bool := (spans s).getLast?.any isOpen

/-- Behind a text that does not end in an open span, a `<` begins a span of its own. -/
theorem spans_append_tag {s : Text} (r : Text) (h : endsOpen s = false) :
    spans (s ++ '<' :: r) = spans s ++ spans ('<' :: r) := by
  have hflat := (segmented_spans s).append_tag (segmented_spans ('<' :: r)) h (by
    rw [flatten_spans]
    rfl)
  rw [← hflat.spans_flatten, List.flatten_append, flatten_spans, flatten_spans]

/-- A text that ends in an open span is that span behind a text that does not end in one. -/
theorem exists_open_of_endsOpen {s : Text} (h : endsOpen s = true) :
    ∃ a u, s = a ++ u ∧ isOpen u = true ∧ endsOpen a = false := by
  obtain ⟨u, hu, ho⟩ := (Option.any_eq_true _ _).1 h
  obtain ⟨us, hus⟩ := List.getLast?_eq_some_iff.1 hu
  have hall := hus ▸ segmented_spans s
  refine ⟨us.flatten, u, ?_, ho, ?_⟩
  · rw [← flatten_spans s, hus, List.flatten_append, List.flatten_singleton]
  · rw [endsOpen, hall.of_append_left.spans_flatten]
    rcases us.eq_nil_or_concat with rfl | ⟨vs, v, rfl⟩
    · rfl
    · rw [List.concat_eq_append, List.append_assoc] at hall
      rw [List.concat_eq_append, List.getLast?_concat]
      exact hall.isOpen_eq_false (List.cons_ne_nil _ _)

end CleanMarkup

import CleanMarkup.Proofs.Segments

/-!
# The one way to cut a text into spans

What a span is can be said without a scan (`IsSpan`): text up to the next `<`, a comment through its
first end, or what any other `<` begins through the first `>`, the last two through the end of the
text where there is none. A text falls into such spans in one way only, and any neighbours among
them are the spans of what they are put together to (`isSegmentation_iff_eq_spans`).
-/

namespace CleanMarkup

open CleanMarkup.Span

/-- The text ends with the first `mark` in it that begins at the character `start` or later. -/
def EndsAtFirst (mark : Text) (start : Nat) (u : Text) : Prop :=
  ∃ front, u = front ++ mark ∧ start ≤ front.length ∧
    ∀ i, start ≤ i → i < front.length → ¬ mark <+: u.drop i

/-- In front of `r`, the text goes through the first `mark` that begins at the character `start` or
later, or through the end if there is none. -/
def GoesThrough (mark : Text) (start : Nat) (u r : Text) : Prop :=
  EndsAtFirst mark start u ∨ (r = [] ∧ ∀ i, start ≤ i → ¬ mark <+: u.drop i)

/-- The text is a span in front of `r`. -/
inductive IsSpan (u r : Text) : Prop
  /-- Text without `<`, as much of it as there is. -/
  | text (noTag : '<' ∉ u) (maximal : r = [] ∨ r.head? = some '<')
  /-- A comment. -/
  | comment (opens : commentOpen <+: u) (ends : GoesThrough commentClose 2 u r)
  /-- What begins with `<` and is no comment. -/
  | tag (opens : u.head? = some '<') (noComment : ¬ commentOpen <+: u)
      (ends : GoesThrough ['>'] 1 u r)

/-- The texts are together `s`, and each of them is a span in front of those behind it. -/
structure IsSegmentation (us : List Text) (s : Text) : Prop where
  flatten : us.flatten = s
  ne_nil : ∀ u ∈ us, u ≠ []
  isSpan : ∀ before u after, us = before ++ u :: after → IsSpan u after.flatten

section Marks

variable {u : Text} (h : u.head? = some '<')

include h

theorem isOpen_eq_true_iff : isOpen u = true ↔
    ∀ i, (endMark u).2 ≤ i → ¬ (endMark u).1 <+: u.drop i := by
  rw [isOpen, h, beq_self_eq_true, Bool.true_and, Option.isNone_iff_eq_none]
  constructor
  · intro hnone i hi hp
    rw [← Nat.add_sub_cancel' hi, ← List.drop_drop] at hp
    have hsome := Text.isSome_find? (endMark_ne_nil u) hp
    rw [hnone] at hsome
    simp at hsome
  · intro hnone
    rw [Option.eq_none_iff_forall_ne_some]
    intro i hi
    have hp := ((Text.find?_eq_some_iff (endMark_ne_nil u)).1 hi).1
    rw [List.drop_drop] at hp
    exact hnone _ (Nat.le_add_right _ i) hp

theorem endsAtFirst_iff : EndsAtFirst (endMark u).1 (endMark u).2 u ↔
    isOpen u = false ∧ firstLength u = u.length := by
  have hne := endMark_ne_nil u
  have hlength := firstLength_eq h
  rw [isOpen, h, beq_self_eq_true, Bool.true_and, Option.isNone_eq_false_iff,
    Option.isSome_iff_exists]
  rw [lengthThrough] at hlength
  constructor
  · rintro ⟨front, hu, hstart, hbefore⟩
    have hfind : Text.find? (endMark u).1 (u.drop (endMark u).2) =
        some (front.length - (endMark u).2) := by
      refine (Text.find?_eq_some_iff hne).2 ⟨?_, fun j hj => ?_⟩
      · rw [List.drop_drop, Nat.add_sub_cancel' hstart]
        nth_rewrite 2 [hu]
        rw [List.drop_left]
      · rw [List.drop_drop]
        exact hbefore _ (Nat.le_add_right _ j) (by omega)
    have hsum := congrArg List.length hu
    rw [List.length_append] at hsum
    rw [hfind] at hlength ⊢
    simp only at hlength
    exact ⟨⟨_, rfl⟩, by omega⟩
  · rintro ⟨⟨i, hi⟩, hwhole⟩
    rw [hi] at hlength
    simp only at hlength
    obtain ⟨hp, hbefore⟩ := (Text.find?_eq_some_iff hne).1 hi
    rw [List.drop_drop] at hp
    have hmark : (endMark u).1 = u.drop ((endMark u).2 + i) :=
      hp.eq_of_length (by rw [List.length_drop]; omega)
    refine ⟨u.take ((endMark u).2 + i), ?_, ?_, fun j hstart hj => ?_⟩
    · rw [hmark, List.take_append_drop]
    · rw [List.length_take]
      omega
    · rw [List.length_take] at hj
      have hnot := hbefore (j - (endMark u).2) (by omega)
      rwa [List.drop_drop, Nat.add_sub_cancel' hstart] at hnot

theorem isFirst_iff_goesThrough (r : Text) :
    IsFirst u r ↔ GoesThrough (endMark u).1 (endMark u).2 u r := by
  have hne : u ≠ [] := by
    rintro rfl
    simp at h
  rw [GoesThrough, endsAtFirst_iff h, ← isOpen_eq_true_iff h]
  constructor
  · intro hfirst
    rcases ho : isOpen u
    · have hlength := hfirst.length
      rw [firstLength_append h ho] at hlength
      exact .inl ⟨rfl, hlength⟩
    · rcases hfirst.cases with ⟨hu, -⟩ | ⟨-, hwhole⟩ | ⟨-, hr⟩
      · exact absurd (List.mem_of_head? h) hu
      · have hclosed := (hwhole ['<']).isOpen_eq_false (List.cons_ne_nil _ _)
        rw [ho] at hclosed
        simp at hclosed
      · exact .inr ⟨hr, rfl⟩
  · rintro (⟨ho, hlength⟩ | ⟨rfl, ho⟩)
    · exact ⟨hne, (firstLength_append h ho r).trans hlength⟩
    · refine ⟨hne, ?_⟩
      rw [isOpen, h, beq_self_eq_true, Bool.true_and, Option.isNone_iff_eq_none] at ho
      rw [List.append_nil, firstLength_eq h, lengthThrough, ho]

end Marks

/-- The first span of a text is what has the shape of one. -/
theorem isFirst_iff_isSpan {u r : Text} : IsFirst u r ↔ u ≠ [] ∧ IsSpan u r := by
  by_cases h : u.head? = some '<'
  · have hne : u ≠ [] := by
      rintro rfl
      simp at h
    have htag : '<' ∈ u := List.mem_of_head? h
    rw [isFirst_iff_goesThrough h, and_iff_right hne]
    rcases endMark_cases u with ⟨hopens, hmark⟩ | ⟨hopens, hmark⟩
    · rw [hmark]
      constructor
      · exact .comment hopens
      · rintro (⟨hnot, -⟩ | ⟨-, hends⟩ | ⟨-, hnot, -⟩)
        · exact absurd htag hnot
        · exact hends
        · exact absurd hopens hnot
    · rw [hmark]
      constructor
      · exact .tag h hopens
      · rintro (⟨hnot, -⟩ | ⟨hp, -⟩ | ⟨-, -, hends⟩)
        · exact absurd htag hnot
        · exact absurd hp hopens
        · exact hends
  · constructor
    · intro hfirst
      rcases hfirst.cases with ⟨hu, hr⟩ | ⟨hhead, -⟩ | ⟨ho, -⟩
      · exact ⟨hfirst.ne_nil, .text hu hr⟩
      · exact absurd hhead h
      · obtain ⟨t, rfl⟩ := exists_cons_of_isOpen ho
        exact absurd rfl h
    · rintro ⟨hne, ⟨hu, hr⟩ | ⟨⟨t, rfl⟩, -⟩ | ⟨hhead, -, -⟩⟩
      · exact isFirst_of_not_mem hne hu hr
      · exact absurd rfl h
      · exact absurd hhead h

theorem isSegmentation_iff {us : List Text} {s : Text} :
    IsSegmentation us s ↔ us.flatten = s ∧ Segmented us := by
  constructor
  · rintro ⟨hflat, hne, hspan⟩
    refine ⟨hflat, ?_⟩
    clear hflat
    induction us with
    | nil => exact .nil
    | cons u us ih =>
      obtain ⟨hfirst, hrest⟩ := forall_cut_cons.1 hspan
      obtain ⟨hu, hus⟩ := List.forall_mem_cons.1 hne
      exact .cons (isFirst_iff_isSpan.2 ⟨hu, hfirst⟩) (ih hus hrest)
  · rintro ⟨hflat, hus⟩
    refine ⟨hflat, hus.ne_nil, ?_⟩
    rintro before u after rfl
    cases hus.of_append_right with
    | cons hu _ => exact (isFirst_iff_isSpan.1 hu).2

/-- The spans of a text are the one way to cut it into spans, and any neighbours among them are the
spans of what they are put together to. -/
theorem isSegmentation_iff_eq_spans (us : List Text) (s : Text) :
    (IsSegmentation us s ↔ us = spans s) ∧
      ∀ part, part <:+: spans s → spans part.flatten = part := by
  constructor
  · rw [isSegmentation_iff]
    constructor
    · rintro ⟨rfl, hus⟩
      exact hus.spans_flatten.symm
    · rintro rfl
      exact ⟨flatten_spans s, segmented_spans s⟩
  · rintro part ⟨before, after, hpart⟩
    have hall := hpart ▸ segmented_spans s
    exact hall.of_append_left.of_append_right.spans_flatten

end CleanMarkup

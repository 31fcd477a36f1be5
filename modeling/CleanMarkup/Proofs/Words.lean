import CleanMarkup.Report
import CleanMarkup.Proofs.Trimming
import Mathlib.Data.List.Infix

/-!
# Words

The words of a text are its first word and those of the rest behind that
(`Text.words_of_dropWhile_eq_cons`). Each of them written with a space in front (`Text.spaced`), the
words of a text begin those of any text that goes on from it (`Text.spaced_prefix_append`): its last
word may grow, and more may follow. The same holds of the words with single spaces between them,
which are the former without the space in front (`Text.collapseBlanks_eq`).
-/

namespace CleanMarkup

namespace Text

theorem words_of_dropWhile_eq_nil {s : Text} (h : s.dropWhile isBlank = []) : s.words = [] := by
  have hfirst : firstWord s = none := by
    unfold firstWord
    rcases hs : Rest.dropWhile isBlank s with ⟨_ | ⟨d, t⟩, hlt⟩
    · rfl
    · have hrest : s.dropWhile isBlank = d :: t := congrArg Subtype.val hs
      rw [h] at hrest
      simp at hrest
  exact Reader.all_eq_nil hfirst

/-- The first word and the words behind it. -/
theorem words_of_dropWhile_eq_cons {s : Text} {c : Char} {r : Text}
    (h : s.dropWhile isBlank = c :: r) :
    s.words = (c :: r.takeWhile (!isBlank ·)) :: words (r.dropWhile (!isBlank ·)) := by
  obtain ⟨rest, hfirst, hrest⟩ : ∃ rest, firstWord s = some (c :: r.takeWhile (!isBlank ·), rest) ∧
      rest.1 = r.dropWhile (!isBlank ·) := by
    unfold firstWord
    rcases hs : Rest.dropWhile isBlank s with ⟨_ | ⟨d, t⟩, hlt⟩
    · have hnil : s.dropWhile isBlank = [] := congrArg Subtype.val hs
      rw [h] at hnil
      simp at hnil
    · have hcons : s.dropWhile isBlank = d :: t := congrArg Subtype.val hs
      rw [h] at hcons
      obtain ⟨rfl, rfl⟩ := List.cons.inj hcons
      exact ⟨_, rfl, rfl⟩
  rw [words, Reader.all_eq_cons hfirst, hrest]
  rfl

/-- The words of a text, each with a space in front. -/
def spaced (s : Text) : Text := s.words.flatMap (' ' :: ·)

theorem join_cons {c : Char} (w : Text) (ws : List Text) :
    join [c] (w :: ws) = w ++ ws.flatMap (c :: ·) := by
  induction ws generalizing w with
  | nil => simp [join]
  | cons v ws ih =>
    have hv := ih v
    unfold join at hv ⊢
    rw [List.intersperse_cons_cons, List.flatten_cons, List.flatten_cons, hv]
    rfl

theorem join_eq_tail (ws : List Text) : join [' '] ws = (ws.flatMap (' ' :: ·)).tail := by
  rcases ws with _ | ⟨w, ws⟩
  · rfl
  · rw [join_cons]
    rfl

theorem collapseBlanks_eq (s : Text) : s.collapseBlanks = s.spaced.tail := join_eq_tail s.words

theorem spaced_prefix_append (s t : Text) : s.spaced <+: (s ++ t).spaced := by
  induction h : s.length using Nat.strongRecOn generalizing s with
  | _ n ih =>
    rcases hs : s.dropWhile isBlank with _ | ⟨c, r⟩
    · rw [spaced, words_of_dropWhile_eq_nil hs]
      exact List.nil_prefix
    have hfront : (s ++ t).dropWhile isBlank = c :: (r ++ t) := by
      rw [List.dropWhile_append, hs]
      rfl
    rw [spaced, spaced, words_of_dropWhile_eq_cons hs, words_of_dropWhile_eq_cons hfront]
    simp only [List.flatMap_cons, List.cons_append, List.cons_prefix_cons, true_and]
    by_cases hr : ∀ d ∈ r, (!isBlank d) = true
    · -- the first word ends with the text, and may go on behind it
      rw [List.dropWhile_eq_nil_iff.2 hr, List.takeWhile_eq_self_iff.2 hr,
        List.takeWhile_append_of_pos hr, words_of_dropWhile_eq_nil List.dropWhile_nil]
      simp only [List.flatMap_nil, List.append_nil, List.append_assoc]
      exact List.prefix_append _ _
    · have hrest : r.dropWhile (!isBlank ·) ≠ [] := fun e => hr (List.dropWhile_eq_nil_iff.1 e)
      have hword : (r ++ t).takeWhile (!isBlank ·) = r.takeWhile (!isBlank ·) := by
        rw [List.takeWhile_append, if_neg]
        intro hlen
        have hsum : (r.takeWhile (!isBlank ·) ++ r.dropWhile (!isBlank ·)).length = r.length := by
          rw [List.takeWhile_append_dropWhile]
        rw [List.length_append] at hsum
        have := List.length_pos_iff.2 hrest
        omega
      have hdrop : (r ++ t).dropWhile (!isBlank ·) = r.dropWhile (!isBlank ·) ++ t := by
        rw [List.dropWhile_append, if_neg (by simpa using hrest)]
      have hlt : (r.dropWhile (!isBlank ·)).length < n := by
        have h1 := Text.length_dropWhile_le (!isBlank ·) r
        have h2 := Text.length_dropWhile_le isBlank s
        rw [hs, List.length_cons] at h2
        omega
      rw [hword, hdrop, List.prefix_append_right_inj]
      exact ih _ hlt _ rfl

theorem collapseBlanks_prefix_append (s t : Text) :
    s.collapseBlanks <+: (s ++ t).collapseBlanks := by
  rw [collapseBlanks_eq, collapseBlanks_eq, ← List.drop_one, ← List.drop_one]
  exact (spaced_prefix_append s t).drop 1

end Text

namespace Report

/-- Words that are added are never taken back. -/
theorem text_prefix_addText (r : Report) (s : Text) : r.text <+: (r.addText s).text := by
  rw [text_addText]
  split_ifs with hs hr
  · exact List.prefix_refl _
  · rw [hr]
    exact List.nil_prefix
  · exact (List.prefix_append _ _).trans (List.prefix_append _ _)

/-- The words of a text begin those of a text that goes on from it. -/
theorem text_addText_append (r : Report) (s t : Text) :
    (r.addText s).text <+: (r.addText (s ++ t)).text := by
  have hwords := Text.collapseBlanks_prefix_append s t
  rw [text_addText r s]
  by_cases hs : s.collapseBlanks = []
  · rw [if_pos hs]
    exact r.text_prefix_addText (s ++ t)
  · have hne : (s ++ t).collapseBlanks ≠ [] := fun e => hs (List.prefix_nil.1 (e ▸ hwords))
    rw [if_neg hs, text_addText, if_neg hne, List.prefix_append_right_inj]
    exact hwords

end Report

end CleanMarkup

import CleanMarkup.Proofs.Runs
import CleanMarkup.Proofs.Words
import Mathlib.Data.List.Chain

/-!
# Words put together

The words of a text are its longest runs without a blank (`Text.mem_words_iff`), in the order in
which they stand (`Text.words_eq_append_cons_iff`): a text falls into words and blanks in one way
(`Text.areWords_iff`). Words with single spaces between them are read as these words again
(`Text.words_join`), and hold no other blanks than these spaces (`Text.isCollapsed_join`).
-/

namespace CleanMarkup

namespace Text

structure IsWord (w : Text) : Prop where
  ne_nil : w ≠ []
  chars : ∀ d ∈ w, isBlank d = false

/-- The blanks of the text are single spaces, with something on either side. -/
structure IsCollapsed (s : Text) : Prop where
  spaces : ∀ d ∈ s, isBlank d = true → d = ' '
  first : ∀ d ∈ s.head?, isBlank d = false
  last : ∀ d ∈ s.getLast?, isBlank d = false
  single : s.IsChain fun d e => isBlank d = false ∨ isBlank e = false

/-- The text is these words, with blanks in front of each, behind each and between them. -/
inductive AreWords : List Text → Text → Prop
  | nothing {s : Text} (hs : ∀ d ∈ s, isBlank d = true) : AreWords [] s
  | next {s gap w rest : Text} {ws : List Text} (hs : s = gap ++ (w ++ rest))
      (hgap : ∀ d ∈ gap, isBlank d = true) (hw : IsWord w)
      (hend : ∀ d ∈ rest.head?, isBlank d = true) (hrest : AreWords ws rest) : AreWords (w :: ws) s

/-- Between what stands in front and what stands behind, the run without a blank cannot be made
longer. -/
structure IsRun (before w after : Text) : Prop where
  word : IsWord w
  front : ∀ d ∈ before.getLast?, isBlank d = true
  behind : ∀ d ∈ after.head?, isBlank d = true

section Words

variable {gap before w after rest s : Text}

/-- Where a text ends with a blank, something stands behind its last word. -/
theorem exists_cons_of_last (hw : IsWord w)
    (h : ∀ d ∈ (gap ++ (w ++ rest)).getLast?, isBlank d = true) : ∃ d r, rest = d :: r := by
  rcases rest with _ | ⟨d, r⟩
  · obtain ⟨e, he⟩ := Option.isSome_iff_exists.1 (List.getLast?_isSome.2 hw.ne_nil)
    have hblank := h e (by simp [he])
    rw [hw.chars e (List.mem_of_mem_getLast? he)] at hblank
    simp at hblank
  · exact ⟨d, r, rfl⟩

/-- Where a text begins with a blank, something stands in front of its first word. -/
theorem exists_cons_of_head (hw : IsWord w)
    (h : ∀ d ∈ (gap ++ (w ++ rest)).head?, isBlank d = true) : ∃ d r, gap = d :: r := by
  rcases gap with _ | ⟨d, r⟩
  · obtain ⟨e, w, rfl⟩ := List.exists_cons_of_ne_nil hw.ne_nil
    have hblank := h e rfl
    rw [hw.chars e List.mem_cons_self] at hblank
    simp at hblank
  · exact ⟨d, r, rfl⟩

theorem words_of_blank (hs : ∀ d ∈ s, isBlank d = true) : s.words = [] :=
  words_of_dropWhile_eq_nil (List.dropWhile_eq_nil_iff.2 hs)

theorem words_next (hgap : ∀ d ∈ gap, isBlank d = true) (hw : IsWord w)
    (hend : ∀ d ∈ rest.head?, isBlank d = true) :
    words (gap ++ (w ++ rest)) = w :: rest.words := by
  obtain ⟨c, w, rfl⟩ := List.exists_cons_of_ne_nil hw.ne_nil
  obtain ⟨hc, hchars⟩ := List.forall_mem_cons.1 hw.chars
  have hchars' : ∀ d ∈ w, (!isBlank d) = true := fun d hd => by simp [hchars d hd]
  have hcut : (w ++ rest).takeWhile (!isBlank ·) = w ∧
      (w ++ rest).dropWhile (!isBlank ·) = rest := by
    rcases rest with _ | ⟨d, rest⟩
    · simpa using hchars
    · have hd : (!isBlank d) = false := by simp [hend d rfl]
      exact ⟨takeWhile_stop hchars' hd, dropWhile_stop hchars' hd⟩
  rw [List.cons_append, words_of_dropWhile_eq_cons (dropWhile_stop hgap hc), hcut.1, hcut.2]

theorem areWords_words (s : Text) : AreWords s.words s := by
  induction hlen : s.length using Nat.strongRecOn generalizing s with
  | _ n ih =>
    rcases trimStart_cases s with hs | ⟨c, r, hs, hc⟩
    · rw [words_of_dropWhile_eq_nil hs]
      exact .nothing (List.dropWhile_eq_nil_iff.1 hs)
    · obtain ⟨gap, rfl, hgap⟩ := exists_run hs
      obtain ⟨rest, hrest⟩ : ∃ rest, r.dropWhile (!isBlank ·) = rest := ⟨_, rfl⟩
      have hend : ∀ d ∈ rest.head?, isBlank d = true := fun d hd => by
        have hstop := List.head?_dropWhile_not (!isBlank ·) r
        rw [hrest, hd] at hstop
        simpa using hstop
      obtain ⟨w, rfl, hw⟩ := exists_run hrest
      have hword : IsWord (c :: w) :=
        ⟨List.cons_ne_nil c w, List.forall_mem_cons.2 ⟨hc, fun d hd => by simpa using hw d hd⟩⟩
      have hlt : rest.length < n := by
        simp only [← hlen, List.length_append, List.length_cons]
        omega
      rw [← List.cons_append, words_next hgap hword hend]
      exact .next rfl hgap hword hend (ih rest.length hlt rest rfl)

/-- A text falls into words and blanks in one way. -/
theorem areWords_iff {ws : List Text} : AreWords ws s ↔ ws = s.words := by
  constructor
  · intro h
    induction h with
    | nothing hs => exact (words_of_blank hs).symm
    | next hs hgap hw hend _ ih => rw [hs, words_next hgap hw hend, ih]
  · rintro rfl
    exact areWords_words s

/-- A run that cannot be made longer is a word, behind those in front and before those behind. -/
theorem words_run (h : IsRun before w after) :
    words (before ++ (w ++ after)) = before.words ++ w :: after.words := by
  have hbefore := areWords_words before
  obtain ⟨hw, hfront, hbehind⟩ := h
  generalize before.words = us at hbefore ⊢
  induction hbefore with
  | nothing hs => exact words_next hs hw hbehind
  | @next s gap v rest us hs hgap hv hend _ ih =>
    subst hs
    obtain ⟨d, r, rfl⟩ := exists_cons_of_last hv hfront
    have hlast : ∀ e ∈ (d :: r).getLast?, isBlank e = true := by simpa using hfront
    have hend' : ∀ e ∈ (d :: r ++ (w ++ after)).head?, isBlank e = true := hend
    have hnext := words_next hgap hv hend'
    rw [ih hlast] at hnext
    simpa using hnext

theorem words_eq_append_cons_iff {us vs : List Text} :
    s.words = us ++ w :: vs ↔ ∃ before after, s = before ++ (w ++ after) ∧
      IsRun before w after ∧ before.words = us ∧ after.words = vs := by
  constructor
  · intro h
    induction us generalizing s with
    | nil =>
      obtain hs := areWords_words s
      rw [h] at hs
      cases hs with
      | next hs hgap hw hend hrest =>
        refine ⟨_, _, hs, ⟨hw, ?_, hend⟩, words_of_blank hgap, (areWords_iff.1 hrest).symm⟩
        exact fun d hd => hgap d (List.mem_of_mem_getLast? hd)
    | cons u us ih =>
      obtain hs := areWords_words s
      rw [h] at hs
      cases hs with
      | @next _ gap _ rest _ hs hgap hu hend hrest =>
        obtain ⟨before, after, rfl, hrun, rfl, hvs⟩ := ih (areWords_iff.1 hrest).symm
        obtain ⟨d, r, rfl⟩ := exists_cons_of_head hrun.word hend
        have hend' : ∀ e ∈ (d :: r).head?, isBlank e = true := hend
        have hnext := words_next hgap hu hend'
        refine ⟨gap ++ (u ++ d :: r), after, by simp [hs], ⟨hrun.word, ?_, hrun.behind⟩, hnext, hvs⟩
        simpa using hrun.front
  · rintro ⟨before, after, rfl, hrun, rfl, rfl⟩
    exact words_run hrun

/-- The words of a text are its longest runs without a blank. -/
theorem mem_words_iff :
    w ∈ s.words ↔ ∃ before after, s = before ++ (w ++ after) ∧ IsRun before w after := by
  constructor
  · intro h
    obtain ⟨us, vs, hsplit⟩ := List.append_of_mem h
    obtain ⟨before, after, hs, hrun, -⟩ := words_eq_append_cons_iff.1 hsplit
    exact ⟨before, after, hs, hrun⟩
  · rintro ⟨before, after, rfl, hrun⟩
    simp [words_run hrun]

theorem mem_words (h : w ∈ s.words) : w.IsWord ∧ ∀ d ∈ w, d ∈ s := by
  obtain ⟨before, after, rfl, hrun⟩ := mem_words_iff.1 h
  exact ⟨hrun.word, fun d hd => by simp [hd]⟩

end Words

section Join

variable {vs ws : List Text}

theorem join_ne_nil {w : Text} (hw : w.IsWord) (ws : List Text) : join [' '] (w :: ws) ≠ [] := by
  simp [join_cons, hw.ne_nil]

theorem join_append (hvs : ∀ w ∈ vs, IsWord w) (hws : ∀ w ∈ ws, IsWord w) :
    join [' '] (vs ++ ws) =
      if join [' '] ws = [] then join [' '] vs
      else (if join [' '] vs = [] then [] else join [' '] vs ++ [' ']) ++ join [' '] ws := by
  cases ws with
  | nil => simp [join]
  | cons w ws =>
    rw [if_neg (join_ne_nil (hws w List.mem_cons_self) ws)]
    cases vs with
    | nil => simp [join]
    | cons v vs =>
      rw [if_neg (join_ne_nil (hvs v List.mem_cons_self) vs)]
      simp [join_cons]

theorem head?_spaced (ws : List Text) :
    ∀ d ∈ (ws.flatMap (' ' :: ·)).head?, isBlank d = true := by
  cases ws with
  | nil => simp
  | cons w ws =>
    rintro d ⟨⟩
    rfl

theorem words_spaced (hws : ∀ w ∈ ws, IsWord w) : words (ws.flatMap (' ' :: ·)) = ws := by
  induction ws with
  | nil => exact words_of_blank (by simp)
  | cons w ws ih =>
    obtain ⟨hw, hrest⟩ := List.forall_mem_cons.1 hws
    have hgap : ∀ d ∈ [' '], isBlank d = true := List.forall_mem_singleton.2 rfl
    have hnext := words_next hgap hw (head?_spaced ws)
    rwa [ih hrest] at hnext

theorem words_join (hws : ∀ w ∈ ws, IsWord w) : (join [' '] ws).words = ws := by
  cases ws with
  | nil => exact words_of_blank (by simp [join])
  | cons w ws =>
    obtain ⟨hw, hrest⟩ := List.forall_mem_cons.1 hws
    have hgap : ∀ d ∈ ([] : Text), isBlank d = true := by simp
    have hnext := words_next hgap hw (head?_spaced ws)
    rw [join_cons]
    rwa [words_spaced hrest] at hnext

theorem mem_join {d : Char} (h : d ∈ join [' '] ws) : d = ' ' ∨ ∃ w ∈ ws, d ∈ w := by
  cases ws with
  | nil => simp [join] at h
  | cons w ws =>
    rw [join_cons, List.mem_append, List.mem_flatMap] at h
    rcases h with h | ⟨v, hv, h⟩
    · exact .inr ⟨w, List.mem_cons_self, h⟩
    · rcases List.mem_cons.1 h with h | h
      · exact .inl h
      · exact .inr ⟨v, List.mem_cons_of_mem w hv, h⟩

theorem IsWord.isCollapsed {w : Text} (hw : w.IsWord) : w.IsCollapsed where
  spaces d hd hb := by simp [hw.chars d hd] at hb
  first d hd := hw.chars d (List.mem_of_mem_head? hd)
  last d hd := hw.chars d (List.mem_of_mem_getLast? hd)
  single := (List.pairwise_iff_forall_sublist.2 fun h =>
    Or.inl (hw.chars _ (h.subset List.mem_cons_self))).isChain

theorem IsCollapsed.behind {w s : Text} (hw : w.IsWord) (hs : s.IsCollapsed) (hne : s ≠ []) :
    (w ++ ' ' :: s).IsCollapsed where
  spaces := by
    intro d hd hb
    simp only [List.mem_append, List.mem_cons] at hd
    rcases hd with hd | rfl | hd
    · simp [hw.chars d hd] at hb
    · rfl
    · exact hs.spaces d hd hb
  first := by
    obtain ⟨c, r, rfl⟩ := List.exists_cons_of_ne_nil hw.ne_nil
    simpa using hw.chars c List.mem_cons_self
  last := by
    obtain ⟨c, r, rfl⟩ := List.exists_cons_of_ne_nil hne
    simpa using hs.last
  single := by
    refine List.isChain_append.2 ⟨hw.isCollapsed.single, List.isChain_cons.2 ⟨?_, hs.single⟩, ?_⟩
    · exact fun e he => .inr (hs.first e he)
    · exact fun d hd e _ => .inl (hw.isCollapsed.last d hd)

theorem isCollapsed_join (hws : ∀ w ∈ ws, IsWord w) : (join [' '] ws).IsCollapsed := by
  cases ws with
  | nil => exact ⟨by simp [join], by simp [join], by simp [join], .nil⟩
  | cons w ws =>
    rw [join_cons]
    induction ws generalizing w with
    | nil => simpa using (hws w List.mem_cons_self).isCollapsed
    | cons v ws ih =>
      obtain ⟨hw, hrest⟩ := List.forall_mem_cons.1 hws
      have hne : v ++ ws.flatMap (' ' :: ·) ≠ [] := by simp [(hrest v List.mem_cons_self).ne_nil]
      exact (ih v hrest).behind hw hne

end Join

end Text

end CleanMarkup

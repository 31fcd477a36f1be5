import CleanMarkup.Pattern
import Mathlib.Tactic.SplitIfs
import Mathlib.Tactic.Tauto

/-!
# What a search finds

A tree matches texts between the characters next to them (`Tree.Matches`), whatever marks it has.
Its marks say which matches have begun, and what completes them (`Tree.Completes`). Moving the marks
over a character begins the matches that may begin there and takes the character off all that are to
be completed (`Tree.completes_shift`). So one pass over a text finds whether the pattern matches some
part of it (`Pattern.foundIn_iff`).
-/

namespace CleanMarkup

/-- A property of the two parts of a text, cut in front of its first character or behind it. -/
theorem exists_cut_cons {P : Text → Text → Prop} {c : Char} {s : Text} :
    (∃ u v, c :: s = u ++ v ∧ P u v) ↔ P [] (c :: s) ∨ ∃ u v, s = u ++ v ∧ P (c :: u) v := by
  constructor
  · rintro ⟨_ | ⟨d, u⟩, v, h, hp⟩
    · exact .inl (h ▸ hp)
    · obtain ⟨rfl, rfl⟩ := List.cons.inj h
      exact .inr ⟨u, v, rfl, hp⟩
  · rintro (hp | ⟨u, v, rfl, hp⟩)
    · exact ⟨[], c :: s, rfl, hp⟩
    · exact ⟨c :: u, v, rfl, hp⟩

namespace Pattern

/-- A property of texts between two characters, either of which may be missing. -/
abbrev Within := (before : Option Char) → Text → (after : Option Char) → Prop

namespace Within

/-- The one property, and the other right behind. -/
def seq (m n : Within) : Within := fun before s after =>
  ∃ u v, s = u ++ v ∧ m before u (v.head?.or after) ∧ n (u.getLast?.or before) v after

/-- What has the property once a character is put in front. -/
def behind (m : Within) (before : Option Char) (c : Char) : Within :=
  fun _ s after => m before (c :: s) after

/-- The property any number of times. -/
inductive Repeats (m : Within) (after : Option Char) : Option Char → Text → Prop
  | nil (before : Option Char) : Repeats m after before []
  | cons {before : Option Char} {u v : Text} (h : m before u (v.head?.or after))
    (hv : Repeats m after (u.getLast?.or before) v) : Repeats m after before (u ++ v)

def star (m : Within) : Within := fun before s after => Repeats m after before s

variable {m n : Within} {before after : Option Char} {c : Char} {s : Text}

theorem getLast?_cons_or (c : Char) (u : Text) (before : Option Char) :
    (c :: u).getLast?.or before = u.getLast?.or (some c) := by
  cases u with
  | nil => rfl
  | cons d u => rw [List.getLast?_cons_cons, List.getLast?_cons, Option.some_or, Option.some_or]

theorem seq_nil : m.seq n before [] after ↔ m before [] after ∧ n before [] after := by
  constructor
  · rintro ⟨u, v, h, hm, hn⟩
    obtain ⟨rfl, rfl⟩ := List.append_eq_nil_iff.1 h.symm
    exact ⟨hm, hn⟩
  · rintro ⟨hm, hn⟩
    exact ⟨[], [], rfl, hm, hn⟩

theorem seq_cons : m.seq n before (c :: s) after ↔
    (m before [] (some c) ∧ n before (c :: s) after) ∨
      (m.behind before c).seq n (some c) s after := by
  unfold seq behind
  rw [exists_cut_cons]
  simp only [getLast?_cons_or]
  rfl

theorem seq_congr {m' : Within} {p : Prop} {l : Within} (s : Text) (after : Option Char)
    (h : ∀ s after, m' (some c) s after ↔ m before (c :: s) after ∨ (p ∧ l before (c :: s) after)) :
    m'.seq n (some c) s after ↔
      (m.behind before c).seq n (some c) s after ∨
        (p ∧ (l.behind before c).seq n (some c) s after) := by
  unfold seq behind
  simp only [h]
  constructor
  · rintro ⟨u, v, rfl, hm | ⟨hp, hl⟩, hn⟩
    · exact .inl ⟨u, v, rfl, hm, hn⟩
    · exact .inr ⟨hp, u, v, rfl, hl, hn⟩
  · rintro (⟨u, v, rfl, hm, hn⟩ | ⟨hp, u, v, rfl, hl, hn⟩)
    · exact ⟨u, v, rfl, .inl hm, hn⟩
    · exact ⟨u, v, rfl, .inr ⟨hp, hl⟩, hn⟩

/-- Rounds that take no character away are left out. -/
theorem star_cons :
    m.star before (c :: s) after ↔ (m.behind before c).seq m.star (some c) s after := by
  constructor
  · intro h
    generalize hcs : c :: s = t at h
    change Repeats m after before t at h
    induction h with
    | nil => simp at hcs
    | @cons before u v hm hv ih =>
      cases u with
      | nil => exact ih hcs
      | cons d u =>
        obtain ⟨rfl, rfl⟩ := List.cons.inj hcs
        rw [getLast?_cons_or] at hv
        exact ⟨u, v, rfl, hm, hv⟩
  · rintro ⟨u, v, rfl, hm, hv⟩
    rw [← getLast?_cons_or c u before] at hv
    exact Repeats.cons (u := c :: u) hm hv

end Within

namespace Tree

/-- The tree matches the text between two characters. -/
def Matches : Tree → Within
  | empty => fun _ s _ => s = []
  | look l => fun before s after => s = [] ∧ l.holds ⟨before, after⟩ = true
  | leaf _ k => fun _ s _ => ∃ c, s = [c] ∧ k.has c = true
  | seq a b => a.Matches.seq b.Matches
  | alt a b => fun before s after => a.Matches before s after ∨ b.Matches before s after
  | star a => a.Matches.star

/-- The text completes a match that has begun. -/
def Completes : Tree → Within
  | empty => fun _ _ _ => False
  | look _ => fun _ _ _ => False
  | leaf marked _ => fun _ s _ => s = [] ∧ marked = true
  | seq a b => fun before s after =>
    a.Completes.seq b.Matches before s after ∨ b.Completes before s after
  | alt a b => fun before s after => a.Completes before s after ∨ b.Completes before s after
  | star a => a.Completes.seq a.Matches.star

/-- No match has begun. -/
def IsFresh : Tree → Prop
  | empty => True
  | look _ => True
  | leaf marked _ => marked = false
  | seq a b => a.IsFresh ∧ b.IsFresh
  | alt a b => a.IsFresh ∧ b.IsFresh
  | star a => a.IsFresh

variable {t : Tree} {before after : Option Char} {c : Char} {s : Text}

theorem passable_iff : t.passable ⟨before, after⟩ = true ↔ t.Matches before [] after := by
  induction t with
  | empty => exact iff_of_true rfl rfl
  | look l => exact (and_iff_right rfl).symm
  | leaf marked k => simp [passable, Matches]
  | seq a b iha ihb => rw [passable, Bool.and_eq_true, iha, ihb, Matches, Within.seq_nil]
  | alt a b iha ihb => rw [passable, Bool.or_eq_true, iha, ihb, Matches]
  | star a ih => exact iff_of_true rfl (.nil before)

theorem finished_iff : t.finished ⟨before, after⟩ = true ↔ t.Completes before [] after := by
  induction t with
  | empty => exact iff_of_false (by simp [finished]) id
  | look l => exact iff_of_false (by simp [finished]) id
  | leaf marked k => exact (and_iff_right rfl).symm
  | seq a b iha ihb =>
    simp only [finished, Bool.or_eq_true, Bool.and_eq_true, iha, ihb, passable_iff, Completes,
      Within.seq_nil]
  | alt a b iha ihb => rw [finished, Bool.or_eq_true, iha, ihb, Completes]
  | star a ih =>
    rw [finished, ih, Completes, Within.seq_nil]
    exact (and_iff_left (.nil before)).symm

/-- Marks have no part in what a tree matches. -/
theorem matches_shift (t : Tree) (p : Place) (c : Char) (enter : Bool) :
    (t.shift p c enter).Matches = t.Matches := by
  induction t generalizing enter with
  | empty => rfl
  | look l => rfl
  | leaf marked k => rfl
  | seq a b iha ihb => rw [shift, Matches, iha, ihb, Matches]
  | alt a b iha ihb => rw [shift, Matches, iha, ihb, Matches]
  | star a ih => rw [shift, Matches, ih, Matches]

/-- Behind a character, that is completed which was to be completed by it and more, or begins with
it. -/
theorem completes_shift (t : Tree) (enter : Bool) :
    (t.shift ⟨before, some c⟩ c enter).Completes (some c) s after ↔
      t.Completes before (c :: s) after ∨ (enter = true ∧ t.Matches before (c :: s) after) := by
  induction t generalizing enter s after with
  | empty => simp [shift, Completes, Matches]
  | look l => simp [shift, Completes, Matches]
  | leaf marked k =>
    simp only [shift, Completes, Matches, Bool.and_eq_true, List.cons.injEq]
    constructor
    · rintro ⟨hs, henter, hk⟩
      exact .inr ⟨henter, c, ⟨rfl, hs⟩, hk⟩
    · rintro (⟨h, -⟩ | ⟨henter, _, ⟨rfl, hs⟩, hk⟩)
      · simp at h
      · exact ⟨hs, henter, hk⟩
  | seq a b iha ihb =>
    have hseq := Within.seq_congr (n := b.Matches) s after
      fun s after => @iha after s enter
    simp only [shift, Completes, Matches, matches_shift, hseq, ihb, Within.seq_cons,
      Bool.or_eq_true, Bool.and_eq_true, passable_iff, finished_iff]
    tauto
  | alt a b iha ihb =>
    simp only [shift, Completes, Matches, iha, ihb]
    tauto
  | star a ih =>
    have hseq := Within.seq_congr (n := a.Matches.star) s after
      fun s after => @ih after s (enter || a.finished ⟨before, some c⟩)
    simp only [shift, Completes, Matches, matches_shift, hseq, Within.seq_cons, Within.star_cons,
      Bool.or_eq_true, finished_iff]
    tauto

theorem IsFresh.not_completes (h : t.IsFresh) : ¬ t.Completes before s after := by
  induction t generalizing before s after with
  | empty => exact id
  | look l => exact id
  | leaf marked k =>
    rintro ⟨-, hmarked⟩
    rw [IsFresh, hmarked] at h
    simp at h
  | seq a b iha ihb =>
    rintro (⟨u, v, -, ha, -⟩ | hb)
    · exact iha h.1 ha
    · exact ihb h.2 hb
  | alt a b iha ihb =>
    rintro (ha | hb)
    · exact iha h.1 ha
    · exact ihb h.2 hb
  | star a ih =>
    rintro ⟨u, v, -, ha, -⟩
    exact ih h ha

/-- A search finds what completes a match, and what matches further on. -/
theorem foundIn_iff (t : Tree) (before : Option Char) (s : Text) : t.foundIn before s = true ↔
    (∃ u v, s = u ++ v ∧ t.Completes before u v.head?) ∨
      ∃ w r, s = w ++ r ∧ ∃ u v, r = u ++ v ∧ t.Matches (w.getLast?.or before) u v.head? := by
  induction s generalizing t before with
  | nil =>
    rw [foundIn, Bool.or_eq_true, finished_iff, passable_iff]
    simp only [List.nil_eq, List.append_eq_nil_iff, and_assoc, exists_and_left, exists_eq_left]
    rfl
  | cons c s ih =>
    rw [foundIn, Bool.or_eq_true, Bool.or_eq_true, finished_iff, passable_iff, ih, matches_shift,
      exists_cut_cons, exists_cut_cons, exists_cut_cons]
    simp only [completes_shift, true_and, Within.getLast?_cons_or, and_or_left, exists_or]
    have hsort : ∀ {a b m n r : Prop}, (a ∨ m) ∨ (b ∨ n) ∨ r ↔ (a ∨ b) ∨ (m ∨ n) ∨ r := by tauto
    exact hsort

end Tree

namespace Expr

theorem isFresh_copies {t last : Tree} (ht : t.IsFresh) (hlast : last.IsFresh) (n : Nat) :
    (copies n t last).IsFresh := by
  induction n with
  | zero => exact hlast
  | succ n ih => exact ⟨ht, ih⟩

theorem isFresh_upTo {t : Tree} (ht : t.IsFresh) (n : Nat) : (upTo n t).IsFresh := by
  induction n with
  | zero => trivial
  | succ n ih => exact ⟨⟨ht, ih⟩, trivial⟩

theorem isFresh_toTree (e : Expr) : e.toTree.IsFresh := by
  induction e with
  | empty => trivial
  | look l => trivial
  | one k => rfl
  | seq a b iha ihb => exact ⟨iha, ihb⟩
  | alt a b iha ihb => exact ⟨iha, ihb⟩
  | rep low high a ih =>
    unfold toTree
    split_ifs
    · trivial
    · exact ih
    · split
      · exact isFresh_copies ih (show a.toTree.star.IsFresh from ih) low
      · exact isFresh_copies ih (isFresh_upTo ih _) low

end Expr

theorem compile_eq_ok_iff {source : Text} {p : Pattern} : compile source = .ok p ↔
    ∃ e, parse source = .ok e ∧ p = { source, tree := e.toTree } := by
  unfold compile
  rcases parse source with fault | e
  · simp [bind, Except.bind]
  · simp [bind, Except.bind, eq_comm]

/-- A compiled pattern is found in a text exactly if it matches some part of it. -/
theorem foundIn_iff {source : Text} {p : Pattern} (h : compile source = .ok p) (s : Text) :
    p.foundIn s = true ↔ ∃ w r, s = w ++ r ∧
      ∃ u v, r = u ++ v ∧ p.tree.Matches w.getLast? u v.head? := by
  obtain ⟨e, -, rfl⟩ := compile_eq_ok_iff.1 h
  rw [foundIn, Tree.foundIn_iff, or_iff_right]
  · simp only [Option.or_none]
  · rintro ⟨u, v, -, hc⟩
    exact e.isFresh_toTree.not_completes hc

end Pattern

end CleanMarkup

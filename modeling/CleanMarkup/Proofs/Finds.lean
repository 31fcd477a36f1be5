import CleanMarkup.Proofs.Runs
import CleanMarkup.Text.Reader
import Mathlib.Data.List.DropRight

/-!
# What a scan finds

A scan looks for occurrences from the left, takes the first, and goes on behind it. What it finds
can be said without it (`Finds`): the occurrences follow each other, and none begins in the gaps
between them. Attributes and declarations are a name with something behind it that gives it a value
(`Named`), and reading them run by run finds just these (`Reader.IsNaming.finds_iff`).
-/

namespace CleanMarkup

section Finds

variable {β : Type} (P : β → Text → Text → Prop)

/-- An occurrence begins at the front of the text. -/
def Occurs (s : Text) : Prop := ∃ b m r, s = m ++ r ∧ P b m r

/-- In front of `r`, no occurrence begins in the gap. -/
def IsGap (gap r : Text) : Prop := ∀ u v, gap = u ++ v → v ≠ [] → ¬ Occurs P (v ++ r)

/-- These are found in the text from left to right. -/
inductive Finds : List β → Text → Prop
  | nothing {s : Text} (hs : IsGap P s []) : Finds [] s
  | next {s gap m r : Text} {b : β} {bs : List β} (hs : s = gap ++ (m ++ r))
      (hgap : IsGap P gap (m ++ r)) (hm : P b m r) (hr : Finds bs r) : Finds (b :: bs) s

variable {P}

theorem isGap_nil (r : Text) : IsGap P [] r := by
  intro u v h hv
  exact absurd (List.append_eq_nil_iff.1 h.symm).2 hv

theorem IsGap.append {gap gap' r : Text} (h : IsGap P gap (gap' ++ r)) (h' : IsGap P gap' r) :
    IsGap P (gap ++ gap') r := by
  intro u v huv hv
  rcases List.append_eq_append_iff.1 huv with ⟨w, rfl, hw⟩ | ⟨w, rfl, rfl⟩
  · exact h' w v hw hv
  · rcases w with _ | ⟨d, w⟩
    · exact h' [] gap' rfl hv
    · rw [List.append_assoc]
      exact h u (d :: w) rfl (List.cons_ne_nil d w)

theorem Finds.skip {gap r : Text} {bs : List β} (hgap : IsGap P gap r) (h : Finds P bs r) :
    Finds P bs (gap ++ r) := by
  cases h with
  | nothing hr => exact .nothing (IsGap.append (by rwa [List.append_nil]) hr)
  | next hs hgap' hm hr =>
    subst hs
    exact .next (List.append_assoc ..).symm (hgap.append hgap') hm hr

theorem Finds.forall_mem {bs : List β} {s : Text} (h : Finds P bs s) :
    ∀ b ∈ bs, ∃ m r, P b m r := by
  induction h with
  | nothing => simp
  | next _ _ hm _ ih => exact List.forall_mem_cons.2 ⟨⟨_, _, hm⟩, ih⟩

/-- Where an occurrence ends with the text it begins with, only one list is found in a text. -/
theorem Finds.unique (hne : ∀ {b m r}, P b m r → m ≠ [])
    (hsame : ∀ {b c m n r t}, P b m r → P c n t → m ++ r = n ++ t → b = c ∧ r = t)
    {bs cs : List β} {s : Text} (hb : Finds P bs s) (hc : Finds P cs s) : bs = cs := by
  induction hb generalizing cs with
  | nothing hgap =>
    cases hc with
    | nothing => rfl
    | @next _ g m r _ _ hs _ hm _ =>
      refine absurd ?_ (hgap g (m ++ r) hs (by simp [hne hm]))
      exact ⟨_, m, r, List.append_nil _, hm⟩
  | @next s g m r b bs hs hgap hm hr ih =>
    cases hc with
    | nothing hgap' =>
      refine absurd ?_ (hgap' g (m ++ r) hs (by simp [hne hm]))
      exact ⟨b, m, r, List.append_nil _, hm⟩
    | @next _ g' m' r' b' bs' hs' hgap' hm' hr' =>
      -- neither gap reaches over the front of the other occurrence
      have hboth : m ++ r = m' ++ r' := by
        rcases List.append_eq_append_iff.1 (hs.symm.trans hs') with ⟨w, hg, hw⟩ | ⟨w, hg, hw⟩
        · rcases w with _ | ⟨d, w⟩
          · exact hw
          · refine absurd ?_ (hgap' g (d :: w) hg (List.cons_ne_nil d w))
            exact ⟨b, m, r, hw.symm, hm⟩
        · rcases w with _ | ⟨d, w⟩
          · exact hw.symm
          · refine absurd ?_ (hgap g' (d :: w) hg (List.cons_ne_nil d w))
            exact ⟨b', m', r', hw.symm, hm'⟩
      obtain ⟨rfl, rfl⟩ := hsame hm hm' hboth
      rw [ih hr']

end Finds

section Steps

variable {β : Type}

/-- One piece of a text, and the rest behind it. -/
def Reader.step (read : Reader β) (s : Text) : Option (β × Text) :=
  (read s).map fun (b, r) => (b, r.1)

namespace Reader

variable {read : Reader β} {s r : Text} {b : β}

theorem exists_of_step (h : read.step s = some (b, r)) :
    ∃ t, read s = some (b, t) ∧ t.1 = r := by
  obtain ⟨⟨c, t⟩, ht, heq⟩ := Option.map_eq_some_iff.1 h
  obtain ⟨rfl, rfl⟩ := Prod.mk.inj heq
  exact ⟨t, ht, rfl⟩

theorem length_of_step (h : read.step s = some (b, r)) : r.length < s.length := by
  obtain ⟨t, -, rfl⟩ := exists_of_step h
  exact t.2

theorem all_of_step (h : read.step s = some (b, r)) : read.all s = b :: read.all r := by
  obtain ⟨t, ht, rfl⟩ := exists_of_step h
  exact all_eq_cons ht

end Reader

end Steps

section Named

variable {β : Type}

/-- A name and right behind it what gives it its value: `T v t r` if the text `t` in front of `r`
gives the value `v`. -/
def Named (p : Char → Bool) (T : Text → Text → Text → Prop) (make : Text → Text → β) (b : β)
    (m r : Text) : Prop :=
  ∃ name v t, m = name ++ t ∧ name ≠ [] ∧ (∀ d ∈ name, p d = true) ∧ T v t r ∧ b = make name v

namespace Reader

/-- The reader takes runs of name characters, each with what gives it a value if that follows, and
the runs between them. -/
structure IsNaming (read : Reader (Option β)) (p : Char → Bool) (T : Text → Text → Text → Prop)
    (make : Text → Text → β) : Prop where
  nil : read [] = none
  start : ∀ {v t r}, T v t r → ∃ d u, t = d :: u ∧ p d = false
  other : ∀ {c : Char} (r : Text), p c = false →
    read.step (c :: r) = some (none, r.dropWhile (!p ·))
  valued : ∀ {c : Char} {r v t s : Text}, p c = true → r.dropWhile p = t ++ s → T v t s →
    read.step (c :: r) = some (some (make (c :: r.takeWhile p) v), s)
  bare : ∀ {c : Char} {r : Text}, p c = true → (∀ v t s, r.dropWhile p = t ++ s → ¬ T v t s) →
    read.step (c :: r) = some (none, r.dropWhile p)

namespace IsNaming

variable {read : Reader (Option β)} {p : Char → Bool} {T : Text → Text → Text → Prop}
  {make : Text → Text → β} (h : read.IsNaming p T make)

include h

theorem step_named {b : β} {m r : Text} (hb : Named p T make b m r) :
    read.step (m ++ r) = some (some b, r) := by
  obtain ⟨name, v, t, rfl, hne, hname, hv, rfl⟩ := hb
  obtain ⟨c, n, rfl⟩ := List.exists_cons_of_ne_nil hne
  obtain ⟨d, t, rfl, hd⟩ := h.start hv
  obtain ⟨hc, hn⟩ := List.forall_mem_cons.1 hname
  have hstep := h.valued (r := n ++ d :: (t ++ r)) hc (dropWhile_stop hn hd) hv
  rw [takeWhile_stop hn hd] at hstep
  rw [← hstep]
  simp

omit h in
theorem isGap_of_forall_not {gap : Text} (hgap : ∀ d ∈ gap, p d = false) (r : Text) :
    IsGap (Named p T make) gap r := by
  rintro u (_ | ⟨d, v⟩) rfl hv ⟨b, m, s, hsplit, name, w, t, rfl, hne, hname, -⟩
  · exact hv rfl
  · obtain ⟨e, name, rfl⟩ := List.exists_cons_of_ne_nil hne
    obtain ⟨rfl, -⟩ := List.cons.inj hsplit
    have hd := hgap d (by simp)
    rw [hname d List.mem_cons_self] at hd
    simp at hd

/-- No occurrence begins within a run of name characters without a value behind it: the name of one
would end where the run does. -/
theorem isGap_run {run r : Text} (hrun : ∀ d ∈ run, p d = true) (hr : r.dropWhile p = r)
    (hbare : ∀ v t s, r = t ++ s → ¬ T v t s) : IsGap (Named p T make) run r := by
  rintro u v rfl hv ⟨b, m, s, hsplit, name, w, t, rfl, hne, hname, hw, -⟩
  obtain ⟨d, t, rfl, hd⟩ := h.start hw
  have hdrop : (v ++ r).dropWhile p = r := by
    rw [List.dropWhile_append_of_pos fun d hd => hrun d (List.mem_append_right u hd), hr]
  rw [hsplit, List.append_assoc, List.cons_append, dropWhile_stop hname hd] at hdrop
  exact hbare w (d :: t) s hdrop.symm hw

theorem step_cases (s : Text) :
    (s = [] ∧ read.step s = none) ∨
      (∃ gap r, s = gap ++ r ∧ IsGap (Named p T make) gap r ∧ read.step s = some (none, r)) ∨
      ∃ b m r, s = m ++ r ∧ Named p T make b m r ∧ read.step s = some (some b, r) := by
  rcases s with _ | ⟨c, s⟩
  · exact .inl ⟨rfl, by rw [step, h.nil, Option.map_none]⟩
  right
  rcases hc : p c
  · have hgap : ∀ d ∈ c :: s.takeWhile (!p ·), p d = false := fun d hd => by
      simpa using forall_mem_run (p := (!p ·)) (by simpa using hc) d hd
    exact .inl ⟨_, _, by simp, isGap_of_forall_not hgap _, h.other s hc⟩
  by_cases hv : ∃ v t r, s.dropWhile p = t ++ r ∧ T v t r
  · obtain ⟨v, t, r, hsplit, hv⟩ := hv
    refine .inr ⟨_, c :: s.takeWhile p ++ t, r, ?_, ?_, h.valued hc hsplit hv⟩
    · rw [List.append_assoc, ← hsplit, List.cons_append, List.takeWhile_append_dropWhile]
    · exact ⟨_, v, t, rfl, List.cons_ne_nil _ _, forall_mem_run hc, hv, rfl⟩
  · have hbare : ∀ v t r, s.dropWhile p = t ++ r → ¬ T v t r :=
      fun v t r hsplit ht => hv ⟨v, t, r, hsplit, ht⟩
    have hstop := List.dropWhile_idempotent p s
    exact .inl ⟨c :: s.takeWhile p, s.dropWhile p, by simp,
      h.isGap_run (forall_mem_run hc) hstop hbare, h.bare hc hbare⟩

theorem finds_all (s : Text) : Finds (Named p T make) ((read.all s).filterMap id) s := by
  induction hn : s.length using Nat.strongRecOn generalizing s with
  | _ n ih =>
    rcases h.step_cases s with ⟨rfl, -⟩ | ⟨gap, r, rfl, hgap, hstep⟩ | ⟨b, m, r, rfl, hm, hstep⟩
    · rw [all_eq_nil h.nil]
      exact .nothing (isGap_nil [])
    · rw [all_of_step hstep, List.filterMap_cons_none rfl]
      exact (ih r.length (hn ▸ length_of_step hstep) r rfl).skip hgap
    · rw [all_of_step hstep, List.filterMap_cons_some (f := id) (b := b) rfl]
      exact .next rfl (isGap_nil _) hm (ih r.length (hn ▸ length_of_step hstep) r rfl)

/-- What is read of a text is what is found in it, and nothing else is. -/
theorem finds_iff {bs : List β} {s : Text} :
    Finds (Named p T make) bs s ↔ bs = (read.all s).filterMap id := by
  constructor
  · refine fun hs => hs.unique (fun hb => ?_) (fun hb hc hsame => ?_) (h.finds_all s)
    · obtain ⟨name, v, t, rfl, hne, -⟩ := hb
      simp [hne]
    · have hstep := h.step_named hb
      rw [hsame, h.step_named hc] at hstep
      simp_all
  · rintro rfl
    exact h.finds_all s

theorem all_skip {c : Char} (hc : p c = false) (r : Text) :
    (read.all (c :: r)).filterMap id = (read.all r).filterMap id := by
  have hgap : IsGap (Named p T make) [c] r := isGap_of_forall_not (by simpa using hc) r
  exact (h.finds_iff.1 ((h.finds_all r).skip hgap)).symm

theorem all_named {b : β} {m r : Text} (hb : Named p T make b m r) :
    (read.all (m ++ r)).filterMap id = b :: (read.all r).filterMap id := by
  rw [all_of_step (h.step_named hb)]
  rfl

end IsNaming

end Reader

end Named

end CleanMarkup

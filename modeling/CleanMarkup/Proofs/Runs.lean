import CleanMarkup.Text.Basic
import Mathlib.Data.List.TakeWhile

/-!
# Runs of characters

A run of characters with a property ends at the first character without it, whatever follows
(`takeWhile_stop`, `dropWhile_stop`), and a text is such a run and what is left without it
(`exists_run`). A run up to a mark ends there or not at all (`dropWhile_ne_cases`). What holds
wherever a list is cut is shown from the front on (`forall_cut_cons`).
-/

namespace CleanMarkup

theorem takeWhile_stop {p : Char → Bool} {s r : Text} {c : Char} (hs : ∀ d ∈ s, p d = true)
    (hc : p c = false) : (s ++ c :: r).takeWhile p = s := by
  rw [List.takeWhile_append_of_pos hs, List.takeWhile_cons_of_neg (by simp [hc]), List.append_nil]

theorem dropWhile_stop {p : Char → Bool} {s r : Text} {c : Char} (hs : ∀ d ∈ s, p d = true)
    (hc : p c = false) : (s ++ c :: r).dropWhile p = c :: r := by
  rw [List.dropWhile_append_of_pos hs, List.dropWhile_cons_of_neg (by simp [hc])]

/-- A text is a run of characters with a property and what is left without it. -/
theorem exists_run {p : Char → Bool} {s t : Text} (h : s.dropWhile p = t) :
    ∃ run, s = run ++ t ∧ ∀ d ∈ run, p d = true :=
  ⟨s.takeWhile p, by rw [← h, List.takeWhile_append_dropWhile], fun _ => List.mem_takeWhile_imp⟩

theorem forall_ne_of_not_mem {m : Char} {s : Text} (h : m ∉ s) : ∀ d ∈ s, (d != m) = true := by
  intro d hd
  simpa using fun e : d = m => h (e ▸ hd)

theorem dropWhile_ne_cases (m : Char) (s : Text) :
    s.dropWhile (· != m) = [] ∨ ∃ r, s.dropWhile (· != m) = m :: r := by
  rcases h : s.dropWhile (· != m) with _ | ⟨c, r⟩
  · exact .inl rfl
  · have hc := List.head?_dropWhile_not (· != m) s
    rw [h] at hc
    exact .inr ⟨r, by simpa using hc⟩

theorem forall_mem_run {p : Char → Bool} {c : Char} (hc : p c = true) {s : Text} :
    ∀ d ∈ c :: s.takeWhile p, p d = true := by
  intro d hd
  rcases List.mem_cons.1 hd with rfl | hd
  · exact hc
  · exact List.mem_takeWhile_imp hd

theorem forall_cut_cons {α : Type} {P : List α → α → List α → Prop} {a : α} {as : List α} :
    (∀ before b after, a :: as = before ++ b :: after → P before b after) ↔
      P [] a as ∧ ∀ before b after, as = before ++ b :: after → P (a :: before) b after := by
  constructor
  · intro h
    refine ⟨h [] a as rfl, fun before b after hcut => ?_⟩
    exact h (a :: before) b after (congrArg (a :: ·) hcut)
  · rintro ⟨ha, has⟩ before b after hcut
    rcases before with _ | ⟨d, before⟩
    · obtain ⟨rfl, rfl⟩ := List.cons.inj hcut
      exact ha
    · obtain ⟨rfl, hrest⟩ := List.cons.inj (List.cons_append ▸ hcut)
      exact has before b after hrest

end CleanMarkup

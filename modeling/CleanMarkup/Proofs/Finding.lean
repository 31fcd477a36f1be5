import CleanMarkup.Text.Basic
import Mathlib.Data.List.Infix
import Mathlib.Data.Nat.Find

/-!
# Finding a text in another

The place found is the first at which the text stands (`Text.find?_eq_some_iff`). More text behind
does not change it, and it is found in a part of the text that it lies in (`Text.find?_append`,
`Text.find?_of_append`). There is one exactly if the text stands somewhere (`Text.includes_iff`).
-/

namespace CleanMarkup

namespace Text

theorem prefix_drop_append {m s : Text} {i : Nat} (h : m <+: s.drop i) (r : Text) :
    m <+: (s ++ r).drop i := by
  rw [List.drop_append]
  exact h.trans (List.prefix_append _ _)

theorem prefix_drop_of_append {m s r : Text} {i : Nat} (h : m <+: (s ++ r).drop i)
    (hlen : i + m.length ≤ s.length) : m <+: s.drop i := by
  rw [List.drop_append] at h
  refine List.prefix_of_prefix_length_le h (List.prefix_append _ _) ?_
  rw [List.length_drop]
  omega

section Find

variable {m : Text} (hm : m ≠ [])

include hm

theorem add_length_le_of_prefix_drop {s : Text} {i : Nat} (h : m <+: s.drop i) :
    i + m.length ≤ s.length := by
  have hlen := h.length_le
  have hpos := List.length_pos_iff.2 hm
  rw [List.length_drop] at hlen
  omega

theorem findFrom_eq_some_iff : ∀ (s : Text) (n k : Nat), findFrom m n s = some k ↔
    ∃ i, k = n + i ∧ m <+: s.drop i ∧ ∀ j < i, ¬ m <+: s.drop j
  | [], n, k => by
    simp [findFrom, hm]
  | c :: s, n, k => by
    have ih := findFrom_eq_some_iff s (n + 1) k
    by_cases h : m <+: c :: s
    · rw [findFrom, if_pos (List.isPrefixOf_iff_prefix.2 h), Option.some.injEq]
      constructor
      · rintro rfl
        exact ⟨0, rfl, h, by simp⟩
      · rintro ⟨i, rfl, -, hbefore⟩
        rcases i with _ | i
        · rfl
        · exact absurd h (hbefore 0 (by omega))
    · rw [findFrom, if_neg (fun he => h (List.isPrefixOf_iff_prefix.1 he)), ih]
      constructor
      · rintro ⟨i, rfl, hi, hbefore⟩
        refine ⟨i + 1, by omega, hi, fun j hj => ?_⟩
        rcases j with _ | j
        · exact h
        · exact hbefore j (by omega)
      · rintro ⟨i, rfl, hi, hbefore⟩
        rcases i with _ | i
        · exact absurd hi h
        · exact ⟨i, by omega, hi, fun j hj => hbefore (j + 1) (by omega)⟩

theorem find?_eq_some_iff {s : Text} {i : Nat} :
    find? m s = some i ↔ m <+: s.drop i ∧ ∀ j < i, ¬ m <+: s.drop j := by
  rw [find?, findFrom_eq_some_iff hm]
  constructor
  · rintro ⟨j, rfl, hj⟩
    rwa [Nat.zero_add]
  · intro h
    exact ⟨i, by omega, h⟩

theorem isSome_find? {s : Text} {i : Nat} (h : m <+: s.drop i) : (find? m s).isSome = true := by
  classical
  have hex : ∃ i, m <+: s.drop i := ⟨i, h⟩
  rw [(find?_eq_some_iff hm).2 ⟨Nat.find_spec hex, fun _ => Nat.find_min hex⟩]
  rfl

theorem find?_append {s : Text} {i : Nat} (h : find? m s = some i) (r : Text) :
    find? m (s ++ r) = some i := by
  obtain ⟨hi, hbefore⟩ := (find?_eq_some_iff hm).1 h
  refine (find?_eq_some_iff hm).2 ⟨prefix_drop_append hi r, fun j hj hm' => ?_⟩
  have hlen := add_length_le_of_prefix_drop hm hi
  exact hbefore j hj (prefix_drop_of_append hm' (by omega))

theorem find?_of_append {s r : Text} {i : Nat} (h : find? m (s ++ r) = some i)
    (hlen : i + m.length ≤ s.length) : find? m s = some i := by
  obtain ⟨hi, hbefore⟩ := (find?_eq_some_iff hm).1 h
  exact (find?_eq_some_iff hm).2 ⟨prefix_drop_of_append hi hlen, fun j hj hm' =>
    hbefore j hj (prefix_drop_append hm' r)⟩

theorem add_length_le_of_find? {s : Text} {i : Nat} (h : find? m s = some i) :
    i + m.length ≤ s.length :=
  add_length_le_of_prefix_drop hm ((find?_eq_some_iff hm).1 h).1

theorem append_of_splitOnce? {s u v : Text} (h : splitOnce? m s = some (u, v)) :
    s = u ++ (m ++ v) := by
  obtain ⟨i, hi, heq⟩ := Option.map_eq_some_iff.1 h
  obtain ⟨rfl, rfl⟩ := Prod.mk.inj heq
  obtain ⟨r, hr⟩ := ((find?_eq_some_iff hm).1 hi).1
  have hrest : s.drop (i + m.length) = r := by rw [← List.drop_drop, ← hr, List.drop_left]
  rw [hrest, hr, List.take_append_drop]

theorem includes_iff {s : Text} : s.includes m = true ↔ m <:+: s := by
  constructor
  · intro h
    obtain ⟨i, hi⟩ := Option.isSome_iff_exists.1 h
    exact ((find?_eq_some_iff hm).1 hi).1.isInfix.trans (List.drop_suffix i s).isInfix
  · rintro ⟨before, after, rfl⟩
    refine isSome_find? hm (i := before.length) ?_
    rw [List.append_assoc, List.drop_left]
    exact List.prefix_append m after

end Find

end Text

end CleanMarkup

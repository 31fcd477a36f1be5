import CleanMarkup.Text.Words
import Mathlib.Data.List.DropRight

/-!
# Trimmed texts

What has been trimmed stays as it is when it is trimmed again (`trim_trim`), and is trimmed alike
under any change of its characters that keeps blanks blank (`trim_map`).
-/

namespace CleanMarkup

namespace Text

theorem trimStart_cases (s : Text) :
    s.trimStart = [] ∨ ∃ c r, s.trimStart = c :: r ∧ isBlank c = false := by
  rcases h : s.trimStart with _ | ⟨c, r⟩
  · exact .inl rfl
  · have hc := List.head?_dropWhile_not isBlank s
    unfold trimStart at h
    rw [h] at hc
    exact .inr ⟨c, r, rfl, hc⟩

theorem trimEnd_cons {c : Char} (hc : isBlank c = false) (r : Text) :
    trimEnd (c :: r) = c :: trimEnd r := by
  unfold trimEnd
  rw [List.reverse_cons, List.dropWhile_append]
  split
  · rename_i h
    rw [List.isEmpty_iff] at h
    simp [hc, h]
  · simp

theorem trimEnd_concat {c : Char} (hc : isBlank c = false) (s : Text) :
    trimEnd (s ++ [c]) = s ++ [c] := by
  unfold trimEnd
  rw [List.reverse_concat, List.dropWhile_cons_of_neg (by simp [hc]), List.reverse_cons,
    List.reverse_reverse]

theorem trimEnd_trimEnd (s : Text) : s.trimEnd.trimEnd = s.trimEnd :=
  List.rdropWhile_idempotent isBlank s

theorem trimStart_trim (s : Text) : s.trim.trimStart = s.trim := by
  unfold trim
  rcases trimStart_cases s with h | ⟨c, r, h, hc⟩
  · rw [h]
    rfl
  · rw [h, trimEnd_cons hc]
    exact List.dropWhile_cons_of_neg (by simp [hc])

theorem trim_trim (s : Text) : s.trim.trim = s.trim := by
  rw [trim, trimStart_trim, trim, trimEnd_trimEnd]

theorem mem_of_mem_trim {s : Text} {c : Char} (h : c ∈ s.trim) : c ∈ s := by
  unfold trim trimEnd trimStart at h
  exact (List.dropWhile_sublist _).mem (List.mem_reverse.1
    ((List.dropWhile_sublist _).mem (List.mem_reverse.1 h)))

section Map

variable {f : Char → Char} (hf : ∀ c, isBlank (f c) = isBlank c)

include hf

theorem trimStart_map (s : Text) : trimStart (s.map f) = (trimStart s).map f := by
  unfold trimStart
  rw [List.dropWhile_map, show isBlank ∘ f = isBlank from funext hf]

theorem trimEnd_map (s : Text) : trimEnd (s.map f) = (trimEnd s).map f := by
  have h := trimStart_map hf s.reverse
  unfold trimStart at h
  unfold trimEnd
  rw [← List.map_reverse, h, List.map_reverse]

theorem trim_map (s : Text) : trim (s.map f) = (trim s).map f := by
  rw [trim, trimStart_map hf, trimEnd_map hf, trim]

end Map

end Text

end CleanMarkup

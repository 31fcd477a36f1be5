import CleanMarkup.Proofs.Counting
import Mathlib.Algebra.GroupWithZero.Nat
import Mathlib.Data.List.Induction

/-!
# The name counted most often

Names that are counted one after another are in the tally once each, in the order in which they
first come, with how often they come (`Tally.entries_ofNames`). So the name counted most often is
the leading one: none comes more often, and any before it comes less often
(`Tally.mostCommon_ofNames`).
-/

namespace CleanMarkup

namespace Tally

/-- The names, counted one after another. -/
def ofNames (names : List Text) : Tally := names.foldl increment {}

/-- No name comes more often, and every name that comes before it comes less often. -/
structure IsLeading (names : List Text) (name : Text) : Prop where
  first : ∃ before after, names = before ++ name :: after ∧
    ∀ other ∈ before, names.count other < names.count name
  most : ∀ other ∈ names, names.count other ≤ names.count name

section Entries

variable {names : List Text}

theorem ofNames_concat (names : List Text) (name : Text) :
    ofNames (names ++ [name]) = (ofNames names).increment name := List.foldl_concat ..

theorem eraseDups_concat (names : List Text) (name : Text) :
    (names ++ [name]).eraseDups =
      if name ∈ names then names.eraseDups else names.eraseDups ++ [name] := by
  by_cases h : name ∈ names <;>
    simp [List.eraseDups_append, List.eraseDups_cons, List.removeAll, h]

theorem nodup_eraseDups (names : List Text) : names.eraseDups.Nodup := by
  induction names using List.reverseRecOn with
  | nil => exact List.nodup_nil
  | append_singleton names name ih =>
    rw [eraseDups_concat]
    split_ifs with h
    · exact ih
    · refine List.nodup_append.2 ⟨ih, List.nodup_singleton name, fun other ho last hl => ?_⟩
      rw [List.mem_singleton.1 hl]
      exact fun e => h (e ▸ List.mem_eraseDups.1 ho)

theorem bump_map (name : Text) (f : Text → Nat) : ∀ {keys : List Text}, keys.Nodup →
    bump name (keys.map fun key => (key, f key)) =
      if name ∈ keys then keys.map fun key => (key, if key = name then f key + 1 else f key)
      else (keys.map fun key => (key, f key)) ++ [(name, 1)]
  | [], _ => rfl
  | key :: keys, h => by
    obtain ⟨hkey, hkeys⟩ := List.nodup_cons.1 h
    rw [List.map_cons, bump]
    by_cases hk : key = name
    · subst hk
      have hsame : ∀ other ∈ keys, (other, if other = key then f other + 1 else f other) =
          (other, f other) := by
        intro other ho
        rw [if_neg fun e : other = key => hkey (e ▸ ho)]
      rw [if_pos rfl, if_pos List.mem_cons_self, List.map_cons, if_pos rfl,
        List.map_congr_left hsame]
    · rw [if_neg hk, bump_map name f hkeys]
      by_cases hm : name ∈ keys
      · rw [if_pos hm, if_pos (List.mem_cons_of_mem key hm), List.map_cons, if_neg hk]
      · rw [if_neg hm, if_neg (by simp [hm, Ne.symm hk])]
        rfl

/-- Each name has one entry, in the order in which they first come. -/
theorem entries_ofNames (names : List Text) :
    (ofNames names).entries = names.eraseDups.map fun name => (name, names.count name) := by
  induction names using List.reverseRecOn with
  | nil => rfl
  | append_singleton names name ih =>
    have hcount : ∀ key, (names ++ [name]).count key =
        if key = name then names.count key + 1 else names.count key := by
      intro key
      rw [List.count_append, List.count_singleton]
      by_cases hk : key = name <;> simp [hk, Ne.symm]
    rw [ofNames_concat, increment, ih, bump_map name _ (nodup_eraseDups names), eraseDups_concat]
    simp only [List.mem_eraseDups, hcount]
    split_ifs with hm
    · rfl
    · have hsame : ∀ key ∈ names.eraseDups,
          (key, if key = name then names.count key + 1 else names.count key) =
            (key, names.count key) := by
        intro key hk
        rw [if_neg fun e : key = name => hm (e ▸ List.mem_eraseDups.1 hk)]
      rw [List.map_append, List.map_congr_left hsame, List.map_singleton, if_pos rfl,
        List.count_eq_zero_of_not_mem hm]

theorem count_ofNames (names : List Text) (name : Text) :
    (ofNames names).count name = names.count name := by
  induction names using List.reverseRecOn with
  | nil => rfl
  | append_singleton names other ih =>
    rw [ofNames_concat, count_increment, ih, List.count_append, List.count_singleton]
    by_cases h : name = other
    · simp [h]
    · simp [h, Ne.symm h]

theorem sum_bump (name : Text) : ∀ es : List (Text × Nat),
    ((bump name es).map (·.2)).sum = (es.map (·.2)).sum + 1
  | [] => rfl
  | (key, n) :: es => by
    have ih := sum_bump name es
    unfold bump
    split_ifs
    · simp only [List.map_cons, List.sum_cons]
      omega
    · simp only [List.map_cons, List.sum_cons]
      omega

theorem sum_ofNames (names : List Text) :
    ((ofNames names).entries.map (·.2)).sum = names.length := by
  induction names using List.reverseRecOn with
  | nil => rfl
  | append_singleton names name ih =>
    rw [ofNames_concat, increment, sum_bump, ih, List.length_append, List.length_singleton]

end Entries

section Highest

theorem highest_eq_none_iff {es : List (Text × Nat)} : highest es = none ↔ es = [] := by
  cases es with
  | nil => exact iff_of_true rfl rfl
  | cons e es =>
    unfold highest
    split
    · split_ifs <;> simp
    · simp

/-- The entry that is picked is higher than all before it and as high as any behind. -/
theorem highest_spec : ∀ {es : List (Text × Nat)} {e : Text × Nat}, highest es = some e →
    ∃ before after, es = before ++ e :: after ∧ (∀ d ∈ before, d.2 < e.2) ∧
      ∀ d ∈ after, d.2 ≤ e.2
  | [], e, h => by simp [highest] at h
  | (key, n) :: es, e, h => by
    unfold highest at h
    split at h
    · rename_i best m hbest
      obtain ⟨before, after, rfl, hbefore, hafter⟩ := highest_spec hbest
      split_ifs at h with hlt
      · obtain rfl := Option.some.inj h
        exact ⟨(key, n) :: before, after, rfl, List.forall_mem_cons.2 ⟨hlt, hbefore⟩, hafter⟩
      · obtain rfl := Option.some.inj h
        refine ⟨[], before ++ (best, m) :: after, rfl, by simp, fun d hd => ?_⟩
        have hle : m ≤ n := Nat.le_of_not_lt hlt
        rcases List.mem_append.1 hd with hd | hd
        · exact Nat.le_trans (Nat.le_of_lt (hbefore d hd)) hle
        · rcases List.mem_cons.1 hd with rfl | hd
          · exact hle
          · exact Nat.le_trans (hafter d hd) hle
    · rename_i hnone
      obtain rfl := Option.some.inj h
      rw [highest_eq_none_iff.1 hnone]
      exact ⟨[], [], rfl, by simp, by simp⟩

end Highest

theorem IsLeading.unique {names : List Text} {m n : Text} (hm : IsLeading names m)
    (hn : IsLeading names n) : m = n := by
  obtain ⟨before, after, hsplit, hfirst⟩ := hm.first
  obtain ⟨before', after', hsplit', hfirst'⟩ := hn.first
  have hle := hm.most n (by rw [hsplit']; simp)
  have hle' := hn.most m (by rw [hsplit]; simp)
  -- of two that come as often, neither comes before the other
  rcases List.append_eq_append_iff.1 (hsplit.symm.trans hsplit') with
    ⟨us, rfl, hus⟩ | ⟨us, rfl, hus⟩
  · cases us with
    | nil => exact (List.cons.inj hus).1
    | cons u us =>
      obtain ⟨rfl, -⟩ := List.cons.inj hus
      have := hfirst' m (by simp)
      omega
  · cases us with
    | nil => exact (List.cons.inj hus).1.symm
    | cons u us =>
      obtain ⟨rfl, -⟩ := List.cons.inj hus
      have := hfirst n (by simp)
      omega

theorem isLeading_of_mostCommon {names : List Text} {name : Text}
    (h : (ofNames names).mostCommon = some name) : IsLeading names name := by
  obtain ⟨e, he, rfl⟩ := Option.map_eq_some_iff.1 h
  rw [entries_ofNames] at he
  obtain ⟨before, after, hsplit, hbefore, hafter⟩ := highest_spec he
  obtain ⟨keys, rest, hkeys, rfl, hrest⟩ := List.map_eq_append_iff.1 hsplit
  obtain ⟨name, keys', rfl, rfl, rfl⟩ := List.map_eq_cons_iff.1 hrest
  simp only [List.forall_mem_map] at hbefore hafter
  have hmem : name ∈ names := List.mem_eraseDups.1 (hkeys ▸ by simp)
  obtain ⟨us, vs, hnames, hu⟩ := List.eq_append_cons_of_mem hmem
  constructor
  · refine ⟨us, vs, hnames, fun other ho => hbefore other ?_⟩
    -- what comes before the name in the list comes before its entry
    have hboth : keys ++ name :: keys' = us.eraseDups ++ ((name :: vs).removeAll us).eraseDups := by
      rw [← hkeys, hnames, List.eraseDups_append]
    have hother := List.mem_eraseDups.2 ho
    rcases List.append_eq_append_iff.1 hboth with ⟨ws, hws, heq⟩ | ⟨ws, rfl, -⟩
    · cases ws with
      | nil => rwa [hws, List.append_nil] at hother
      | cons w ws =>
        obtain ⟨rfl, -⟩ := List.cons.inj heq
        exact absurd (List.mem_eraseDups.1 (hws ▸ by simp)) hu
    · exact List.mem_append_left ws hother
  · intro other ho
    have hother := List.mem_eraseDups.2 ho
    rw [hkeys, List.mem_append, List.mem_cons] at hother
    rcases hother with h | rfl | h
    · exact Nat.le_of_lt (hbefore other h)
    · exact Nat.le_refl _
    · exact hafter other h

/-- The name counted most often is the leading one, and there is none only of no names. -/
theorem mostCommon_ofNames (names : List Text) :
    ((ofNames names).mostCommon = none ↔ names = []) ∧
      ∀ name, (ofNames names).mostCommon = some name ↔ IsLeading names name := by
  have hnone : (ofNames names).mostCommon = none ↔ names = [] := by
    rw [mostCommon, Option.map_eq_none_iff, highest_eq_none_iff, entries_ofNames,
      List.map_eq_nil_iff]
    cases names <;> simp [List.eraseDups_cons]
  refine ⟨hnone, fun name => ⟨isLeading_of_mostCommon, fun h => ?_⟩⟩
  rcases hmost : (ofNames names).mostCommon with _ | other
  · obtain ⟨before, after, hsplit, -⟩ := h.first
    rw [hnone.1 hmost] at hsplit
    simp at hsplit
  · rw [(isLeading_of_mostCommon hmost).unique h]

end Tally

end CleanMarkup

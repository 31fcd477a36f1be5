import CleanMarkup.OpenTags
import Mathlib.Data.List.Nodup

/-!
# The counts of open tags

The counts of the open tags agree with their names (`OpenTags.IsCounted`), whatever is opened and
closed. So closing a name closes what is open inside it, and it, and nothing else
(`closeThrough?_eq_some`); it fails exactly if the name is not open (`closeThrough?_eq_none`).
-/

namespace CleanMarkup

namespace Tally

theorem find?_bump (name other : Text) : ∀ es : List (Text × Nat),
    find? other (bump name es) =
      if other = name then some ((find? name es).getD 0 + 1) else find? other es
  | [] => by
    by_cases h : other = name
    · simp [bump, find?, h]
    · simp [bump, find?, h, Ne.symm h]
  | (key, n) :: es => by
    have ih := find?_bump name other es
    unfold bump
    split_ifs with hk ho ho
    · simp [find?, hk, ho]
    · simp [find?, hk, Ne.symm ho]
    · rw [find?, if_neg (ho ▸ hk), ih, if_pos ho, find?, if_neg hk]
    · rw [find?, find?, ih, if_neg ho]

theorem mem_keys_bump {name key : Text} : ∀ {es : List (Text × Nat)},
    key ∈ (bump name es).map (·.1) → key = name ∨ key ∈ es.map (·.1)
  | [], h => .inl (by simpa [bump] using h)
  | (k, n) :: es, h => by
    unfold bump at h
    split_ifs at h with hk
    · exact .inr h
    · rcases List.mem_cons.1 h with rfl | h
      · exact .inr List.mem_cons_self
      · exact (mem_keys_bump h).imp_right (List.mem_cons_of_mem _)

theorem nodup_bump (name : Text) : ∀ {es : List (Text × Nat)},
    (es.map (·.1)).Nodup → ((bump name es).map (·.1)).Nodup
  | [], _ => List.nodup_singleton name
  | (key, n) :: es, h => by
    obtain ⟨hkey, hes⟩ := List.nodup_cons.1 h
    unfold bump
    split_ifs with hk
    · exact h
    · refine List.nodup_cons.2 ⟨fun hm => ?_, nodup_bump name hes⟩
      rcases mem_keys_bump hm with h | h
      · exact hk h
      · exact hkey h

theorem find?_of_not_mem {name : Text} : ∀ {es : List (Text × Nat)},
    name ∉ es.map (·.1) → find? name es = none
  | [], _ => rfl
  | (key, n) :: es, h => by
    rw [List.map_cons, List.mem_cons, not_or] at h
    rw [find?, if_neg (Ne.symm h.1), find?_of_not_mem h.2]

theorem find?_eq_some_iff {name : Text} {n : Nat} : ∀ {es : List (Text × Nat)},
    (es.map (·.1)).Nodup → (find? name es = some n ↔ (name, n) ∈ es)
  | [], _ => by simp [find?]
  | (key, m) :: es, h => by
    obtain ⟨hkey, hes⟩ := List.nodup_cons.1 h
    unfold find?
    split_ifs with hk
    · subst hk
      have hother : (key, n) ∉ es := fun hn => hkey (List.mem_map.2 ⟨(key, n), hn, rfl⟩)
      simp [hother, eq_comm]
    · rw [find?_eq_some_iff hes, List.mem_cons, or_iff_right]
      exact fun e => hk (congrArg Prod.fst e).symm

theorem find?_drop (name other : Text) : ∀ {es : List (Text × Nat)}, (es.map (·.1)).Nodup →
    find? other (drop name es) =
      if other = name then (find? name es).bind fun n => if n ≤ 1 then none else some (n - 1)
      else find? other es
  | [], _ => by simp [drop, find?]
  | (key, n) :: es, h => by
    obtain ⟨hkey, hes⟩ := List.nodup_cons.1 h
    have ih := find?_drop name other hes
    -- a count of one leaves its entry out, and no second entry of the name takes its place
    unfold drop
    by_cases hk : key = name
    · subst hk
      rw [if_pos rfl]
      by_cases ho : other = key
      · subst ho
        by_cases hn : n ≤ 1
        · simp [hn, find?, find?_of_not_mem hkey]
        · simp [hn, find?]
      · by_cases hn : n ≤ 1
        · simp [hn, find?, ho, Ne.symm ho]
        · simp [hn, find?, ho, Ne.symm ho]
    · rw [if_neg hk]
      by_cases ho : other = name
      · subst ho
        simp [find?, hk, ih]
      · simp [find?, ho, ih]

theorem drop_sublist (name : Text) : ∀ es : List (Text × Nat),
    ((drop name es).map (·.1)).Sublist (es.map (·.1))
  | [] => .slnil
  | (key, n) :: es => by
    unfold drop
    split_ifs
    · exact .cons _ (.refl _)
    · exact .refl _
    · exact .cons_cons _ (drop_sublist name es)

end Tally

namespace OpenTags

/-- Every open name has its count, and no other name has one. -/
structure IsCounted (t : OpenTags) : Prop where
  keys : (t.counts.entries.map (·.1)).Nodup
  counts : ∀ name, Tally.find? name t.counts.entries =
    if t.names.count name = 0 then none else some (t.names.count name)

theorem IsCounted.nothing : IsCounted {} := ⟨List.nodup_nil, fun _ => rfl⟩

theorem IsCounted.contains_iff {t : OpenTags} (h : t.IsCounted) (name : Text) :
    t.contains name = true ↔ name ∈ t.names := by
  rw [OpenTags.contains, Tally.has, h.counts, ← List.count_pos_iff]
  split_ifs with hn
  · simp [hn]
  · simp [Nat.pos_of_ne_zero hn]

theorem IsCounted.mem_entries_iff {t : OpenTags} (h : t.IsCounted) (name : Text) (n : Nat) :
    (name, n) ∈ t.counts.entries ↔ 0 < n ∧ n = t.names.count name := by
  rw [← Tally.find?_eq_some_iff h.keys, h.counts]
  split_ifs with hn
  · rw [hn]
    exact iff_of_false (by simp) fun hpos => by omega
  · rw [Option.some_inj]
    omega

theorem IsCounted.push {t : OpenTags} (h : t.IsCounted) (name : Text) :
    (t.push name).IsCounted where
  keys := Tally.nodup_bump name h.keys
  counts := by
    intro other
    change Tally.find? other (Tally.bump name t.counts.entries) =
      if (name :: t.names).count other = 0 then none else some ((name :: t.names).count other)
    rw [Tally.find?_bump, h.counts, h.counts]
    by_cases ho : other = name
    · subst ho
      rw [if_pos rfl, List.count_cons_self, if_neg (Nat.succ_ne_zero _)]
      by_cases hn : t.names.count other = 0
      · rw [if_pos hn, hn, Option.getD_none]
      · rw [if_neg hn, Option.getD_some]
    · rw [if_neg ho, List.count_cons_of_ne (Ne.symm ho)]

theorem IsCounted.pop {t : OpenTags} (h : t.IsCounted) {name : Text} {names : List Text}
    (ht : t.names = name :: names) : IsCounted ⟨names, t.counts.decrement name⟩ where
  keys := h.keys.sublist (Tally.drop_sublist name t.counts.entries)
  counts := by
    intro other
    change Tally.find? other (Tally.drop name t.counts.entries) =
      if names.count other = 0 then none else some (names.count other)
    rw [Tally.find?_drop name other h.keys, h.counts, h.counts, ht]
    by_cases ho : other = name
    · subst ho
      rw [if_pos rfl, List.count_cons_self, if_neg (Nat.succ_ne_zero _), Option.bind_some,
        Nat.add_sub_cancel]
      split_ifs
      · rfl
      · omega
      · omega
      · rfl
    · rw [if_neg ho, List.count_cons_of_ne (Ne.symm ho)]

theorem pop?_of_nil {t : OpenTags} (ht : t.names = []) : t.pop? = none := by
  rw [pop?, ht]

theorem pop?_of_cons {t : OpenTags} {name : Text} {names : List Text}
    (ht : t.names = name :: names) : t.pop? = some (name, ⟨names, t.counts.decrement name⟩) := by
  rw [pop?, ht]

/-- Closing some tags closes the innermost ones. -/
theorem popOnto_spec : ∀ (n : Nat) (closed : List Text) {t : OpenTags}, t.IsCounted →
    (popOnto closed n t).1 = closed.reverse ++ t.names.take n ∧
      (popOnto closed n t).2.names = t.names.drop n ∧ (popOnto closed n t).2.IsCounted
  | 0, closed, t, h => ⟨by simp [popOnto], rfl, h⟩
  | n + 1, closed, t, h => by
    rcases ht : t.names with _ | ⟨name, names⟩
    · simp only [popOnto, pop?_of_nil ht, List.take_nil, List.append_nil, List.drop_nil]
      exact ⟨trivial, ht, h⟩
    · have ih := popOnto_spec n (name :: closed) (h.pop ht)
      simpa [popOnto, pop?_of_cons ht] using ih

theorem depthOf?_eq_none {t : OpenTags} (h : t.IsCounted) {name : Text} (hn : name ∉ t.names) :
    t.depthOf? name = none :=
  if_neg fun hc => hn ((h.contains_iff name).1 hc)

theorem depthOf?_eq_some {t : OpenTags} (h : t.IsCounted) {name : Text}
    {inside outside : List Text} (ht : t.names = inside ++ name :: outside) (hi : name ∉ inside) :
    t.depthOf? name = some (inside.length + 1) := by
  have hfind : inside.findIdx? (· = name) = none := by
    rw [List.findIdx?_eq_none_iff]
    exact fun m hm => by simpa using fun e : m = name => hi (e ▸ hm)
  unfold depthOf?
  rw [if_pos ((h.contains_iff name).2 (ht ▸ List.mem_append_right _ List.mem_cons_self)), ht,
    List.findIdx?_append, hfind, List.findIdx?_cons]
  simp

theorem closeThrough?_eq_none {t : OpenTags} (h : t.IsCounted) {name : Text}
    (hn : name ∉ t.names) : t.closeThrough? name = none := by
  rw [closeThrough?, depthOf?_eq_none h hn]
  rfl

/-- Closing a name closes all up to the innermost tag of that name. -/
theorem closeThrough?_eq_some {t : OpenTags} (h : t.IsCounted) {name : Text}
    {inside outside : List Text} (ht : t.names = inside ++ name :: outside) (hi : name ∉ inside) :
    ∃ rest, t.closeThrough? name = some (inside ++ [name], rest) ∧ rest.names = outside ∧
      rest.IsCounted := by
  obtain ⟨h1, h2, h3⟩ := popOnto_spec (inside.length + 1) [] h
  have hsplit : inside ++ name :: outside = (inside ++ [name]) ++ outside := by simp
  have hlen : (inside ++ [name]).length = inside.length + 1 := by simp
  rw [ht, hsplit, ← hlen, List.take_left] at h1
  rw [ht, hsplit, ← hlen, List.drop_left] at h2
  rw [hlen] at h1 h2
  refine ⟨(popMany (inside.length + 1) t).2, ?_, h2, h3⟩
  rw [closeThrough?, depthOf?_eq_some h ht hi, Option.map_some]
  exact congrArg some (Prod.ext h1 rfl)

/-- Closing as many tags as are open closes all of them. -/
theorem popMany_all {t : OpenTags} (h : t.IsCounted) :
    (t.popMany t.names.length).1 = t.names := by
  unfold popMany
  rw [(popOnto_spec t.names.length [] h).1, List.take_length]
  rfl

end OpenTags

end CleanMarkup

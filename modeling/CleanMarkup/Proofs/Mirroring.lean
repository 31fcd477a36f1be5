import CleanMarkup.Proofs.Counting

/-!
# Open tags as a plain list

Tags are opened and closed one at a time, in any order. The names and their counts change apart from
each other, and what is asked of the open tags is looked up in the one or in the other. All of it is
answered as by a list that grows and shrinks at its head (`mirrors_performAll`), because the counts
agree with the names throughout (`isCounted_performAll`). Closing a name is the same as closing
innermost tags until one of that name is closed (`rest_of_closeThrough?`).
-/

namespace CleanMarkup

namespace OpenTags

/-- What can be done to the open tags. -/
inductive Operation
  | push (name : Text)
  | pop
  deriving DecidableEq

/-- The open tags after an operation. -/
def perform (t : OpenTags) : Operation → OpenTags
  | .push name => t.push name
  | .pop => t.pop?.elim t (·.2)

/-- The open tags after some operations. -/
def performAll (t : OpenTags) (ops : List Operation) : OpenTags := ops.foldl perform t

/-- A plain list of names after an operation. -/
def Operation.act (stack : List Text) : Operation → List Text
  | push name => name :: stack
  | pop => stack.tail

/-- A plain list of names after some operations, from the empty one. -/
def plain (ops : List Operation) : List Text := ops.foldl Operation.act []

/-- The innermost tag of this name stands between these. -/
structure StandsBetween (name : Text) (inside outside stack : List Text) : Prop where
  split : stack = inside ++ name :: outside
  innermost : name ∉ inside

/-- The open tags answer as a plain list of names does. -/
structure Mirrors (stack : List Text) (t : OpenTags) : Prop where
  names : t.names = stack
  /-- No name has two counts. -/
  keys : (t.counts.entries.map (·.1)).Nodup
  /-- Each name is counted as often as it is open, and there is no count of zero to take from. -/
  counts : ∀ name n, (name, n) ∈ t.counts.entries ↔ 0 < n ∧ n = stack.count name
  contains : ∀ name, t.contains name = true ↔ name ∈ stack
  popped : t.pop?.map (·.1) = stack.head?
  depthless : ∀ name, t.depthOf? name = none ↔ name ∉ stack
  depth : ∀ name depth, t.depthOf? name = some depth ↔
    ∃ inside outside, StandsBetween name inside outside stack ∧ depth = inside.length + 1
  unclosed : ∀ name, t.closeThrough? name = none ↔ name ∉ stack
  /-- Closing a name pops as many tags as its depth says, innermost first and the one of that name
  last, and what is around that one stays. -/
  closed : ∀ name depth, t.depthOf? name = some depth → ∃ inside outside rest,
    StandsBetween name inside outside stack ∧
    t.closeThrough? name = some (inside ++ [name], rest) ∧ (inside ++ [name]).length = depth ∧
    rest.names = outside ∧ rest = t.performAll (.replicate depth .pop)

variable {t : OpenTags} {name : Text}

section Operations

theorem IsCounted.perform (h : t.IsCounted) (op : Operation) : (t.perform op).IsCounted := by
  cases op with
  | push name => exact h.push name
  | pop =>
    rcases ht : t.names with _ | ⟨name, names⟩
    · rw [OpenTags.perform, pop?_of_nil ht, Option.elim_none]
      exact h
    · rw [OpenTags.perform, pop?_of_cons ht, Option.elim_some]
      exact h.pop ht

theorem names_perform (t : OpenTags) (op : Operation) : (t.perform op).names = op.act t.names := by
  cases op with
  | push name => rfl
  | pop =>
    rcases ht : t.names with _ | ⟨name, names⟩
    · rw [perform, pop?_of_nil ht, Option.elim_none]
      exact ht
    · rw [perform, pop?_of_cons ht, Option.elim_some]
      rfl

theorem isCounted_performAll (h : t.IsCounted) (ops : List Operation) :
    (t.performAll ops).IsCounted := by
  induction ops generalizing t with
  | nil => exact h
  | cons op ops ih => exact ih (h.perform op)

theorem names_performAll (t : OpenTags) (ops : List Operation) :
    (t.performAll ops).names = ops.foldl Operation.act t.names := by
  induction ops generalizing t with
  | nil => rfl
  | cons op ops ih =>
    change ((t.perform op).performAll ops).names = ops.foldl Operation.act (op.act t.names)
    rw [ih, names_perform]

/-- Where nothing is open nothing is closed. -/
theorem performAll_pop_of_nothing (h : t.pop? = none) (n : Nat) :
    t.performAll (.replicate n .pop) = t := by
  induction n with
  | zero => rfl
  | succ n ih =>
    have hperform : t.perform .pop = t := by rw [OpenTags.perform, h, Option.elim_none]
    rw [List.replicate_succ, performAll, List.foldl_cons, hperform]
    exact ih

/-- What closing some tags leaves open is what closing them one at a time leaves open. -/
theorem popOnto_snd : ∀ (n : Nat) (closed : List Text) (t : OpenTags),
    (popOnto closed n t).2 = t.performAll (.replicate n .pop)
  | 0, closed, t => rfl
  | n + 1, closed, t => by
    rcases hp : t.pop? with _ | ⟨name, rest⟩
    · rw [performAll_pop_of_nothing hp]
      simp only [popOnto, hp]
    · have hperform : t.perform .pop = rest := by rw [OpenTags.perform, hp, Option.elim_some]
      rw [List.replicate_succ, performAll, List.foldl_cons, hperform]
      simp only [popOnto, hp]
      exact popOnto_snd n (name :: closed) rest

end Operations

section Questions

theorem pop?_map_fst (t : OpenTags) : t.pop?.map (·.1) = t.names.head? := by
  rcases ht : t.names with _ | ⟨name, names⟩
  · rw [pop?_of_nil ht]
    rfl
  · rw [pop?_of_cons ht]
    rfl

theorem IsCounted.depthOf?_eq_none_iff (h : t.IsCounted) :
    t.depthOf? name = none ↔ name ∉ t.names := by
  refine ⟨fun hdepth hm => ?_, depthOf?_eq_none h⟩
  obtain ⟨inside, outside, hsplit, hi⟩ := List.eq_append_cons_of_mem hm
  rw [depthOf?_eq_some h hsplit hi] at hdepth
  cases hdepth

theorem IsCounted.depthOf?_eq_some_iff (h : t.IsCounted) {depth : Nat} :
    t.depthOf? name = some depth ↔
      ∃ inside outside, StandsBetween name inside outside t.names ∧ depth = inside.length + 1 := by
  constructor
  · intro hdepth
    have hm : name ∈ t.names := by
      by_contra hm
      rw [depthOf?_eq_none h hm] at hdepth
      cases hdepth
    obtain ⟨inside, outside, hsplit, hi⟩ := List.eq_append_cons_of_mem hm
    rw [depthOf?_eq_some h hsplit hi] at hdepth
    exact ⟨inside, outside, ⟨hsplit, hi⟩, (Option.some.inj hdepth).symm⟩
  · rintro ⟨inside, outside, hs, rfl⟩
    exact depthOf?_eq_some h hs.split hs.innermost

theorem IsCounted.closeThrough?_eq_none_iff (h : t.IsCounted) :
    t.closeThrough? name = none ↔ name ∉ t.names := by
  rw [closeThrough?, Option.map_eq_none_iff, h.depthOf?_eq_none_iff]

/-- What closing a name leaves open is what closing as many tags as its depth says leaves open. -/
theorem rest_of_closeThrough? {depth : Nat} (hdepth : t.depthOf? name = some depth)
    {closed : List Text} {rest : OpenTags} (hclose : t.closeThrough? name = some (closed, rest)) :
    rest = t.performAll (.replicate depth .pop) := by
  rw [closeThrough?, hdepth, Option.map_some, Option.some_inj] at hclose
  rw [← popOnto_snd depth [] t, ← popMany, hclose]

end Questions

/-- Whatever is opened and closed, in any order, the open tags answer as the plain list does. -/
theorem mirrors_performAll (ops : List Operation) : Mirrors (plain ops) (performAll {} ops) := by
  have h : (performAll {} ops).IsCounted := isCounted_performAll .nothing ops
  have hnames : (performAll {} ops).names = plain ops := names_performAll {} ops
  rw [← hnames]
  generalize performAll {} ops = t at h
  refine ⟨rfl, h.keys, h.mem_entries_iff, h.contains_iff, pop?_map_fst t,
    fun _ => h.depthOf?_eq_none_iff, fun _ _ => h.depthOf?_eq_some_iff,
    fun _ => h.closeThrough?_eq_none_iff, ?_⟩
  intro name depth hdepth
  obtain ⟨inside, outside, hs, hlength⟩ := h.depthOf?_eq_some_iff.1 hdepth
  obtain ⟨rest, hclose, hrest, -⟩ := closeThrough?_eq_some h hs.split hs.innermost
  exact ⟨inside, outside, rest, hs, hclose, by simp [hlength], hrest,
    rest_of_closeThrough? hdepth hclose⟩

example : (performAll {} [.push "div".toList, .push "b".toList, .push "div".toList,
    .pop]).closeThrough? "div".toList =
      some (["b".toList, "div".toList], {}) := by decide

end OpenTags

end CleanMarkup

import CleanMarkup.Proofs.Containment
import CleanMarkup.Proofs.Faults
import CleanMarkup.Proofs.Keys

/-!
# Where violations come from

The events before a violation say where it comes from (`blamed`): from the token that was met last
and, if an address was judged last, from that attribute. So the violations in attributes come from
the attributes that they are found in (`exists_of_mem_blamed_filter`), and each is counted under the
name of the address or else of the tag (`nameOf_of_mem_faults`).
-/

namespace CleanMarkup

/-- The name of a tag, or of what begins like one. A comment has none. -/
def Token.name? : Token → Option Text
  | .comment _ => none
  | .opening name _ _ _ | .closing name _ => some name
  | .text raw => some (nameBehind (raw.drop 1))

/-- Where a violation comes from. -/
structure Origin where
  /-- The token that was met last. -/
  token : Option Token := none
  /-- The attribute that was judged last, if it has to be an address. -/
  address : Option Text := none
  deriving DecidableEq

namespace Origin

/-- Where a violation behind one more event comes from. -/
def next (o : Origin) : Event → Origin
  | .token t => { token := some t }
  | .ruled _ attr rule =>
    { token := o.token, address := if rule.action = .requireUrl then some attr else none }
  | .asked _ _ _ | .declarationDropped _ _ _ | .suppressed _ | .html _ | .text _ | .val _
  | .violation _ => o

/-- The name that the violation has to be counted under: that of the address, or else of the
token. -/
def name? (o : Origin) : Option Text := o.address <|> o.token.bind Token.name?

theorem next_of_isRemark {e : Event} (h : e.IsRemark) (o : Origin) : o.next e = o := by
  cases e with
  | token | ruled => exact h.elim
  | _ => rfl

end Origin

/-- The violations that events find, each with where it comes from. -/
def blamed (o : Origin) : List Event → List (Origin × Text)
  | [] => []
  | e :: es => (violated [e]).map (o, ·) ++ blamed (o.next e) es

theorem map_snd_blamed (o : Origin) (es : List Event) :
    (blamed o es).map (·.2) = violated es := by
  induction es generalizing o with
  | nil => rfl
  | cons e es ih =>
    rw [blamed, violated_cons e es, List.map_append, ih, List.map_map]
    exact congrArg (· ++ violated es) (List.map_id (violated [e]))

theorem blamed_append (o : Origin) (es fs : List Event) :
    blamed o (es ++ fs) = blamed o es ++ blamed (es.foldl Origin.next o) fs := by
  induction es generalizing o with
  | nil => rfl
  | cons e es ih => rw [List.cons_append, blamed, blamed, ih, List.append_assoc, List.foldl_cons]

theorem blamed_eq_nil {es : List Event} (h : violated es = []) (o : Origin) : blamed o es = [] := by
  have hmap := map_snd_blamed o es
  rwa [h, List.map_eq_nil_iff] at hmap

theorem ne_nil_of_mem_blamed {o : Origin} {es : List Event} {q : Origin × Text}
    (h : q ∈ blamed o es) : q.2 ≠ [] := by
  have hmem := List.mem_map_of_mem (f := (·.2)) h
  rw [map_snd_blamed] at hmem
  obtain ⟨e, -, he⟩ := List.mem_filterMap.1 hmem
  cases e with
  | violation v =>
    simp only [Option.ite_none_left_eq_some, Option.some.injEq] at he
    exact he.2 ▸ he.1
  | _ => simp at he

theorem eq_of_mem_blamed {o : Origin} {v : Text} {es : List Event} (hes : violated es = [])
    {q : Origin × Text} (h : q ∈ blamed o (.violation v :: es)) : q = (o, v) := by
  have hv := ne_nil_of_mem_blamed h
  rw [blamed, blamed_eq_nil hes, List.append_nil] at h
  obtain ⟨w, hw, rfl⟩ := List.mem_map.1 h
  by_cases hnil : v = []
  · simp [violated, hnil] at hw
  · simp only [violated, List.filterMap_cons, hnil, ↓reduceIte, List.filterMap_nil,
      List.mem_singleton] at hw
    rw [hw]

theorem blamed_remarks {es : List Event} (h : ∀ e ∈ es, e.IsRemark) (o : Origin) :
    blamed o es = (violated es).map (o, ·) ∧ es.foldl Origin.next o = o := by
  induction es with
  | nil => exact ⟨rfl, rfl⟩
  | cons e es ih =>
    obtain ⟨hblamed, hnext⟩ := ih fun f hf => h f (List.mem_cons_of_mem e hf)
    have he := Origin.next_of_isRemark (h e List.mem_cons_self) o
    rw [blamed, List.foldl_cons, he, hblamed, hnext, violated_cons e es, List.map_append]
    exact ⟨rfl, rfl⟩

namespace AttributeFilter

variable {f : AttributeFilter} {tag : Text} {a : Attribute}

/-- Where the violations in an attribute come from. -/
def origin (tag : Text) (o : Origin) (a : Attribute) : Origin :=
  o.next (.ruled tag a.name (Rule.of tag a.name))

theorem blamed_filterOne (f : AttributeFilter) (tag : Text) (o : Origin) (a : Attribute) :
    blamed o (f.filterOne tag a).events = (f.faults tag a).map (origin tag o a, ·) ∧
      (f.filterOne tag a).events.foldl Origin.next o = origin tag o a := by
  obtain ⟨es, hes, hremark⟩ := f.exists_remarks tag a
  have hfaults : violated es = f.faults tag a := by
    rw [← violated_filterOne, hes]
    rfl
  obtain ⟨hblamed, hnext⟩ := blamed_remarks hremark (origin tag o a)
  rw [hes, ← hfaults, ← hblamed]
  exact ⟨rfl, hnext⟩

theorem exists_of_mem_blamed_filter {o : Origin} {body : Text} {q : Origin × Text}
    (h : q ∈ blamed o (f.filter tag body).events) :
    ∃ a ∈ Attribute.all body, q.2 ∈ f.faults tag a ∧ q.1 = origin tag o a := by
  have hone := f.blamed_filterOne tag
  have hevents : (f.filter tag body).events =
      (Attribute.all body).flatMap fun a => (f.filterOne tag a).events := List.flatMap_map _ _ _
  rw [hevents] at h
  generalize Attribute.all body = as at h ⊢
  induction as generalizing o with
  | nil => simp [blamed] at h
  | cons a as ih =>
    rw [List.flatMap_cons, blamed_append, (hone o a).1, (hone o a).2] at h
    rcases List.mem_append.1 h with h | h
    · obtain ⟨v, hv, rfl⟩ := List.mem_map.1 h
      exact ⟨a, List.mem_cons_self, hv, rfl⟩
    · -- the attribute before makes no difference to where the violations in the others come from
      obtain ⟨b, hb, hv, ho⟩ := ih h
      exact ⟨b, List.mem_cons_of_mem a hb, hv, ho⟩

/-- A violation in an attribute is counted under the name of the address or else of the tag. -/
theorem nameOf_of_mem_faults {v : Text} (htag : IsName isAttributeChar tag)
    (ha : IsName isAttributeChar a.name) (h : v ∈ f.faults tag a) :
    Report.nameOf v =
      if (Rule.of tag a.name).action = .requireUrl then a.name else tag := by
  unfold faults at h
  by_cases homits : Omits tag a
  · have haction : (Rule.of tag a.name).action ≠ .requireUrl := by
      rcases homits with hdrop | ⟨hdimension, -⟩
      · simp [hdrop]
      · simp [hdimension]
    rw [if_pos homits, List.mem_singleton, List.append_assoc] at h
    rw [if_neg haction, h]
    exact Report.nameOf_spaced htag _
  · rw [if_neg homits] at h
    split at h
    · rename_i haction
      rw [if_pos haction]
      by_cases hpasses : f.Passes tag a.value
      · simp [hpasses] at h
      · rw [if_neg hpasses, List.mem_singleton] at h
        rw [h]
        exact Report.nameOf_spaced ha _
    · rename_i haction
      obtain ⟨d, -, rfl⟩ := List.mem_map.1 h
      rw [if_neg (by simp [haction]), List.append_assoc]
      exact Report.nameOf_spaced htag _
    · simp at h
    · simp at h
    · simp at h

end AttributeFilter

end CleanMarkup

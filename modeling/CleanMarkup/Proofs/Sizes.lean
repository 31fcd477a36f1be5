import CleanMarkup.Proofs.Scans
import Mathlib.Algebra.GroupWithZero.Nat

/-!
# The size of what is left of attributes

The attributes of a body, without the blanks around them, have no more characters than the body
(`Attribute.sum_size_le`), and likewise the declarations of a style (`Declaration.sum_size_le`). What
is left of an attribute is at most six times as long as it (`AttributeFilter.length_filterOne_le`),
so what is left of a body is at most six times as long as the body
(`AttributeFilter.length_filter_le`).
-/

namespace CleanMarkup

/-- The pieces that are read off a text are no larger than it, if each is no larger than what is
read off for it. -/
theorem Reader.sum_all_le {β : Type} {read : Reader (Option β)} {size : β → Nat}
    (hread : ∀ s b r, read s = some (some b, r) → size b + r.1.length ≤ s.length) (s : Text) :
    (((read.all s).filterMap id).map size).sum ≤ s.length := by
  induction h : s.length using Nat.strongRecOn generalizing s with
  | _ n ih =>
    rcases hs : read s with _ | ⟨b, r⟩
    · simp [Reader.all_eq_nil hs]
    · have hlt := r.2
      have hrest := ih r.1.length (h ▸ hlt) r.1 rfl
      rw [Reader.all_eq_cons hs]
      rcases b with _ | b
      · rw [List.filterMap_cons_none rfl]
        omega
      · have hone := hread s b r hs
        rw [List.filterMap_cons_some (show id (some b) = some b from rfl), List.map_cons,
          List.sum_cons]
        omega

theorem Text.length_flatMap_le {α : Type} {f : α → Text} {size : α → Nat} {k : Nat} :
    ∀ {l : List α}, (∀ a ∈ l, (f a).length ≤ k * size a) →
      (l.flatMap f).length ≤ k * (l.map size).sum
  | [], _ => Nat.zero_le _
  | a :: l, h => by
    obtain ⟨ha, hl⟩ := List.forall_mem_cons.1 h
    have hrest := length_flatMap_le hl
    rw [List.flatMap_cons, List.length_append, List.map_cons, List.sum_cons, Nat.mul_add]
    omega

namespace Text

theorem length_asciiLower (s : Text) : s.asciiLower.length = s.length := List.length_map _

theorem length_cut (p : Char → Bool) (s : Text) :
    (s.takeWhile p).length + (s.dropWhile p).length = s.length := by
  rw [← List.length_append, List.takeWhile_append_dropWhile]

theorem length_trim_le (s : Text) : s.trim.length ≤ s.length := by
  have hstart := length_dropWhile_le isBlank s
  have hend := length_dropWhile_le isBlank (s.dropWhile isBlank).reverse
  rw [List.length_reverse] at hend
  rw [trim, trimEnd, List.length_reverse, trimStart]
  omega

theorem length_entity_le (d : Char) : (entity d).length ≤ 6 := by
  unfold entity
  split <;> simp

/-- A quote is written with six characters, and no character with more. -/
theorem length_encode_le : ∀ s : Text, s.encode.length ≤ 6 * s.length
  | [] => Nat.zero_le _
  | d :: s => by
    have hd := length_entity_le d
    have hs := length_encode_le s
    unfold encode at hs ⊢
    rw [List.flatMap_cons, List.length_append, List.length_cons]
    omega

theorem length_encodeAttribute_le (s : Text) : s.encodeAttribute.length ≤ 6 * s.length := by
  have h := length_encode_le s.unbreak
  rwa [unbreak, List.length_map] at h

theorem length_encodeStyle (s : Text) : s.encodeStyle.length = s.length := by
  rw [encodeStyle, unbreak, List.length_map, List.length_map]

end Text

namespace Declaration

/-- The characters of the declaration: its name, the colon and its value. -/
def size (d : Declaration) : Nat := d.name.length + d.value.length + 1

theorem length_valueAfterColon?_le {s value : Text} (h : valueAfterColon? s = some value) :
    value.length ≤ (s.takeWhile (· != ';')).length := by
  unfold valueAfterColon? at h
  split at h
  · split at h
    · simp at h
    · obtain rfl := Option.some.inj h
      exact Nat.zero_le _
  · split at h
    · simp at h
    · obtain rfl := Option.some.inj h
      exact Nat.zero_le _
  · rename_i c r hne hr
    obtain rfl := Option.some.inj h
    have hc : c ≠ ';' := fun e => hne (by rw [e])
    have hkept : c :: r.takeWhile (· != ';') = (s.dropWhile isBlank).takeWhile (· != ';') := by
      rw [hr, List.takeWhile_cons_of_pos (by simpa using hc)]
    have hblank : ∀ d ∈ s.takeWhile isBlank, (d != ';') = true := by
      intro d hd
      have hb := List.mem_takeWhile_imp hd
      rw [bne_iff_ne]
      rintro rfl
      exact absurd hb (by decide)
    refine (Text.length_trim_le _).trans ?_
    rw [hkept]
    nth_rewrite 2 [← List.takeWhile_append_dropWhile (p := isBlank) (l := s)]
    rw [List.takeWhile_append_of_pos hblank, List.length_append]
    omega

theorem size_of_next {s : Text} {d : Declaration} {r : Shorter s}
    (h : next s = some (some d, r)) : d.size + r.1.length ≤ s.length := by
  match s with
  | [] => simp [next] at h
  | c :: s =>
    rw [next.eq_2] at h
    split at h
    · simp only [] at h
      split at h
      · rename_i t ht hcolon
        split at h
        · rename_i value hvalue
          simp only [Option.some.injEq, Prod.mk.injEq] at h
          obtain ⟨rfl, rfl⟩ := h
          have hname := Text.length_cut isPropertyChar s
          have hlen := length_valueAfterColon?_le hvalue
          have hcut := Text.length_cut (· != ';') t
          have ht' : (':' :: t).length ≤ (s.dropWhile isPropertyChar).length := ht
          have hrest : ((t.dropWhile (· != ';')).drop 1).length ≤
              (t.dropWhile (· != ';')).length := by simp
          change (Text.asciiLower (c :: s.takeWhile isPropertyChar)).length + value.length + 1 +
            ((t.dropWhile (· != ';')).drop 1).length ≤ (c :: s).length
          rw [Text.length_asciiLower]
          simp only [List.length_cons] at ht' ⊢
          omega
        · simp at h
      · simp at h
    · simp at h

theorem sum_size_le (style : Text) : ((all style).map size).sum ≤ style.length :=
  Reader.sum_all_le (fun _ _ _ => size_of_next) style

end Declaration

namespace Attribute

/-- The characters of the attribute: its name, the equals sign and its value in quotes. -/
def size (a : Attribute) : Nat := a.name.length + a.value.length + 3

theorem size_of_next {s : Text} {a : Attribute} {r : Shorter s}
    (h : next s = some (some a, r)) : a.size + r.1.length ≤ s.length := by
  match s with
  | [] => simp [next] at h
  | c :: s =>
    rw [next.eq_2] at h
    split at h
    · simp only [] at h
      split at h
      · rename_i t ht hequals
        split at h
        · rename_i u hu hquote
          split at h
          · rename_i d v hv hvalue
            simp only [Option.some.injEq, Prod.mk.injEq] at h
            obtain ⟨rfl, rfl⟩ := h
            have hname := Text.length_cut isAttributeChar s
            have hcut := Text.length_cut (· != '"') u
            have hend : u.dropWhile (· != '"') = d :: v := congrArg Subtype.val hvalue
            have ht' : ('=' :: t).length ≤ (s.dropWhile isAttributeChar).length := ht
            change (Text.asciiLower (c :: s.takeWhile isAttributeChar)).length +
              (u.takeWhile (· != '"')).length + 3 + v.length ≤ (c :: s).length
            rw [hend] at hcut
            rw [Text.length_asciiLower]
            simp only [List.length_cons] at ht' hu hcut ⊢
            omega
          · simp at h
        · simp at h
      · simp at h
    · simp at h

theorem sum_size_le (body : Text) : ((all body).map size).sum ≤ body.length :=
  Reader.sum_all_le (fun _ _ _ => size_of_next) body

end Attribute

theorem Style.length_filter_le (check : UrlCheck) (schemes : List Text) (tag style : Text) :
    (Style.filter check schemes tag style).1.length ≤ 2 * style.length := by
  have hone : ∀ d ∈ Declaration.all style,
      (filterDeclaration check schemes tag d).1.length ≤ 2 * d.size := by
    intro d _
    unfold filterDeclaration
    split
    · simp only [List.length_append, List.length_cons, List.length_nil, Text.length_encodeStyle,
        Declaration.size]
      omega
    · exact Nat.zero_le _
  have hall := Text.length_flatMap_le hone
  have hsum := Declaration.sum_size_le style
  rw [Style.filter, List.flatMap_map]
  exact hall.trans (Nat.mul_le_mul_left 2 hsum)

namespace AttributeFilter

variable (f : AttributeFilter) (tag : Text)

theorem length_write (name value : Text) :
    (write name value).length = name.length + value.length + 4 := by
  simp [write]
  omega

/-- What is left of an attribute is at most six times as long. -/
theorem length_filterOne_le (a : Attribute) : (f.filterOne tag a).rendered.length ≤ 6 * a.size := by
  have hwrite : ∀ {value : Text}, value.length ≤ 6 * a.value.length →
      (write a.name value).length ≤ 6 * a.size := by
    intro value h
    rw [length_write, Attribute.size]
    omega
  simp only [filterOne]
  rcases (Rule.of tag a.name).action
  · rcases f.accepts tag a.value with ⟨_ | _, events⟩
    · exact hwrite (Nat.zero_le _)
    · exact hwrite (Text.length_encodeAttribute_le a.value)
  · rcases isDimension a.value
    · exact Nat.zero_le _
    · exact hwrite (Nat.le_mul_of_pos_left _ (by omega))
  · have hstyle := Style.length_filter_le f.check f.schemes tag a.value
    exact hwrite (by omega)
  · exact Nat.zero_le _
  · exact hwrite (Text.length_encodeAttribute_le a.value)

theorem length_filter_le (body : Text) :
    (f.filter tag body).rendered.length ≤ 6 * body.length := by
  have hall := Text.length_flatMap_le (l := Attribute.all body)
    fun a _ => f.length_filterOne_le tag a
  have hsum := Attribute.sum_size_le body
  rw [filter, Kept.concat, List.flatMap_map]
  exact hall.trans (Nat.mul_le_mul_left 6 hsum)

end AttributeFilter

end CleanMarkup

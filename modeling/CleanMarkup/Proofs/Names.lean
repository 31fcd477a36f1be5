import CleanMarkup.Attribute
import CleanMarkup.Token

/-!
# Names in lower case

The names of tags, attributes and declarations are runs of their characters in lower case. Lower
case stays within each of the three kinds of characters, so what is read as a name is a name over
them (`IsName.asciiLower`) and is its own lower case, which leaves small letters, digits and marks
(`IsName.isSmall_attribute`, `IsName.isSmall_property`).
-/

namespace CleanMarkup

theorem toLower_of_not_upper {c : Char} (h : ¬ ('A' ≤ c ∧ c ≤ 'Z')) : c.toLower = c := by
  unfold Char.toLower
  exact dif_neg h

theorem toNat_toLower_of_upper {c : Char} (h : 'A' ≤ c ∧ c ≤ 'Z') :
    c.toLower.toNat = c.toNat + 32 := by
  have h1 : 65 ≤ c.toNat := h.1
  have h2 : c.toNat ≤ 90 := h.2
  have hv : c.toLower.val = c.val + 32 := by
    unfold Char.toLower
    exact congrArg Char.val (dif_pos h)
  rw [← Char.toNat_val, hv, UInt32.toNat_add, Char.toNat_val]
  simp only [UInt32.reduceToNat, Nat.reducePow]
  omega

theorem toLower_toLower (c : Char) : c.toLower.toLower = c.toLower := by
  by_cases h : 'A' ≤ c ∧ c ≤ 'Z'
  · have hn := toNat_toLower_of_upper h
    have h1 : 65 ≤ c.toNat := h.1
    apply toLower_of_not_upper
    intro ⟨_, h2⟩
    have h3 : c.toLower.toNat ≤ 90 := h2
    omega
  · rw [toLower_of_not_upper h, toLower_of_not_upper h]

theorem asciiLower_asciiLower (s : Text) : s.asciiLower.asciiLower = s.asciiLower := by
  unfold Text.asciiLower
  rw [List.map_map]
  exact List.map_congr_left fun c _ => toLower_toLower c

theorem isTagChar_toLower {c : Char} (h : isTagChar c = true) : isTagChar c.toLower = true := by
  by_cases hu : 'A' ≤ c ∧ c ≤ 'Z'
  · have hn := toNat_toLower_of_upper hu
    have h1 : 65 ≤ c.toNat := hu.1
    have h2 : c.toNat ≤ 90 := hu.2
    have ha : 'a' ≤ c.toLower := show 97 ≤ c.toLower.toNat by omega
    have hz : c.toLower ≤ 'z' := show c.toLower.toNat ≤ 122 by omega
    simp [isTagChar, ha, hz]
  · rwa [toLower_of_not_upper hu]

theorem isAttributeChar_eq (c : Char) :
    isAttributeChar c = (isTagChar c || c == ':' || c == '-') := rfl

theorem isPropertyChar_eq (c : Char) : isPropertyChar c = (isTagChar c || c == '-') := rfl

theorem isAttributeChar_toLower {c : Char} (h : isAttributeChar c = true) :
    isAttributeChar c.toLower = true := by
  rw [isAttributeChar_eq, Bool.or_eq_true, Bool.or_eq_true, beq_iff_eq, beq_iff_eq] at h
  rcases h with (h | rfl) | rfl
  · rw [isAttributeChar_eq, isTagChar_toLower h]
    rfl
  · rfl
  · rfl

theorem isPropertyChar_toLower {c : Char} (h : isPropertyChar c = true) :
    isPropertyChar c.toLower = true := by
  rw [isPropertyChar_eq, Bool.or_eq_true, beq_iff_eq] at h
  rcases h with h | rfl
  · rw [isPropertyChar_eq, isTagChar_toLower h]
    rfl
  · rfl

theorem isAttributeChar_of_isTagChar {c : Char} (h : isTagChar c = true) :
    isAttributeChar c = true := by
  rw [isAttributeChar_eq, h]
  rfl

theorem isAttributeChar_of_isPropertyChar {c : Char} (h : isPropertyChar c = true) :
    isAttributeChar c = true := by
  rw [isPropertyChar_eq] at h
  rw [isAttributeChar_eq, Bool.or_right_comm, h]
  rfl

theorem toNat_of_isAttributeChar {c : Char} (h : isAttributeChar c = true) :
    45 ≤ c.toNat ∧ c.toNat ≤ 122 := by
  simp only [isAttributeChar, Bool.or_eq_true, Bool.and_eq_true, decide_eq_true_eq,
    beq_iff_eq] at h
  rcases h with (((((⟨h1, h2⟩ | ⟨h1, h2⟩) | ⟨h1, h2⟩) | rfl) | rfl) | rfl)
  · exact ⟨Nat.le_trans (by decide) h1, h2⟩
  · exact ⟨Nat.le_trans (by decide) h1, Nat.le_trans h2 (by decide)⟩
  · exact ⟨Nat.le_trans (by decide) h1, Nat.le_trans h2 (by decide)⟩
  · decide
  · decide
  · decide

theorem isBlank_of_isAttributeChar {c : Char} (h : isAttributeChar c = true) :
    isBlank c = false := by
  have hn := toNat_of_isAttributeChar h
  have hs : (c == ' ') = false := by
    rw [beq_eq_false_iff_ne]
    rintro rfl
    exact absurd hn (by decide)
  simp only [isBlank, hs, Bool.false_or, Bool.or_eq_false_iff, Bool.and_eq_false_iff,
    beq_eq_false_iff_ne, decide_eq_false_iff_not]
  omega

/-- A name over some characters, in lower case. -/
structure IsName (p : Char → Bool) (name : Text) : Prop where
  ne_nil : name ≠ []
  chars : ∀ c ∈ name, p c = true
  lower : name.asciiLower = name

instance (p : Char → Bool) (name : Text) : Decidable (IsName p name) :=
  decidable_of_iff (name ≠ [] ∧ name.all p = true ∧ name.asciiLower = name)
    ⟨fun ⟨hne, hchars, hlower⟩ => ⟨hne, List.all_eq_true.1 hchars, hlower⟩,
      fun h => ⟨h.ne_nil, List.all_eq_true.2 h.chars, h.lower⟩⟩

/-- Lower case makes a name of any run of characters that lower case stays within. -/
theorem IsName.asciiLower {p : Char → Bool} (hp : ∀ c, p c = true → p c.toLower = true)
    {s : Text} (hs : s ≠ []) (h : ∀ c ∈ s, p c = true) : IsName p s.asciiLower where
  ne_nil := by simpa [Text.asciiLower] using hs
  chars := by
    intro c hc
    obtain ⟨d, hd, rfl⟩ := List.mem_map.1 hc
    exact hp d (h d hd)
  lower := asciiLower_asciiLower s

theorem IsName.attribute {name : Text} (h : IsName isTagChar name) :
    IsName isAttributeChar name :=
  ⟨h.ne_nil, fun c hc => isAttributeChar_of_isTagChar (h.chars c hc), h.lower⟩

theorem IsName.not_mem {p : Char → Bool} {name : Text} (h : IsName p name) {c : Char}
    (hc : p c = false) : c ∉ name := by
  intro hm
  rw [h.chars c hm] at hc
  simp at hc

theorem IsName.exists_cons {p : Char → Bool} {name : Text} (h : IsName p name) :
    ∃ c r, name = c :: r ∧ p c = true ∧ ∀ d ∈ r, p d = true := by
  match name, h.ne_nil with
  | c :: r, _ =>
    exact ⟨c, r, rfl, h.chars c List.mem_cons_self, fun d hd =>
      h.chars d (List.mem_cons_of_mem c hd)⟩

theorem IsName.not_upper {p : Char → Bool} {name : Text} (h : IsName p name) {c : Char}
    (hc : c ∈ name) : ¬ ('A' ≤ c ∧ c ≤ 'Z') := by
  intro hu
  have hlower : c.toLower = c :=
    List.map_inj_left.1 (h.lower.trans (List.map_id' name).symm) c hc
  have hn := toNat_toLower_of_upper hu
  rw [hlower] at hn
  omega

/-- A small letter, a digit or one of some marks. -/
def isSmall (marks : Text) (c : Char) : Bool :=
  ('a' ≤ c && c ≤ 'z') || ('0' ≤ c && c ≤ '9') || marks.contains c

theorem IsName.isSmall_attribute {name : Text} (h : IsName isAttributeChar name) {c : Char}
    (hc : c ∈ name) : isSmall ['_', ':', '-'] c = true := by
  have hchar := h.chars c hc
  have hupper := h.not_upper hc
  simp only [isAttributeChar, isSmall, Bool.or_eq_true, Bool.and_eq_true, decide_eq_true_eq,
    List.contains_iff_mem, beq_iff_eq, List.mem_cons, List.not_mem_nil] at hchar ⊢
  simpa only [hupper, or_false, or_assoc] using hchar

theorem IsName.isSmall_property {name : Text} (h : IsName isPropertyChar name) {c : Char}
    (hc : c ∈ name) : isSmall ['_', '-'] c = true := by
  have hchar := h.chars c hc
  have hupper := h.not_upper hc
  simp only [isPropertyChar, isSmall, Bool.or_eq_true, Bool.and_eq_true, decide_eq_true_eq,
    List.contains_iff_mem, beq_iff_eq, List.mem_cons, List.not_mem_nil] at hchar ⊢
  simpa only [hupper, or_false, or_assoc] using hchar

end CleanMarkup

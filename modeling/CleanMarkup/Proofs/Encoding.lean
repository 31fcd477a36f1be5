import CleanMarkup.Text.Entity

/-!
# Encoded text

An entity is a character itself or written with a few characters of its own (`mem_entity`). So an
encoded text holds no quote and no angle bracket (`isMarkupChar_of_mem_encode`), the value of an
attribute no line break either, and encoding twice is encoding once.
-/

namespace CleanMarkup

/-- The characters that entities are written with. -/
def entityChars : Text := ['&', '#', ';', '3', '9', 'g', 'l', 'o', 'q', 't', 'u']

theorem mem_entity {c d : Char} (h : d ∈ entity c) :
    (d = c ∧ isMarkupChar c = false) ∨ d ∈ entityChars := by
  unfold entity at h
  split at h
  · exact .inr ((by decide : ['&', 'q', 'u', 'o', 't', ';'] ⊆ entityChars) h)
  · exact .inr ((by decide : ['&', '#', '3', '9', ';'] ⊆ entityChars) h)
  · exact .inr ((by decide : ['&', 'l', 't', ';'] ⊆ entityChars) h)
  · exact .inr ((by decide : ['&', 'g', 't', ';'] ⊆ entityChars) h)
  · rename_i h1 h2 h3 h4
    refine .inl ⟨List.mem_singleton.1 h, ?_⟩
    simp only [isMarkupChar, Bool.or_eq_false_iff, beq_eq_false_iff_ne]
    exact ⟨⟨⟨h1, h2⟩, h3⟩, h4⟩

namespace Text

theorem isMarkupChar_of_mem_encode {s : Text} {c : Char} (h : c ∈ s.encode) :
    isMarkupChar c = false := by
  obtain ⟨d, -, hd⟩ := List.mem_flatMap.1 h
  rcases mem_entity hd with ⟨rfl, hc⟩ | hc
  · exact hc
  · have hall : entityChars.all (!isMarkupChar ·) := by decide
    simpa using List.all_eq_true.1 hall c hc

theorem not_mem_append_encode {m : Char} (hm : isMarkupChar m = true) {e : Text} (he : m ∉ e)
    (s : Text) : m ∉ e ++ s.encode := by
  intro h
  rcases List.mem_append.1 h with h | h
  · exact he h
  · rw [isMarkupChar_of_mem_encode h] at hm
    simp at hm

theorem encode_encode (s : Text) : s.encode.encode = s.encode :=
  encode_eq_self fun _ => isMarkupChar_of_mem_encode

theorem isLineBreak_of_mem_unbreak {s : Text} {c : Char} (h : c ∈ s.unbreak) :
    isLineBreak c = false := by
  obtain ⟨d, -, hd⟩ := List.mem_map.1 h
  by_cases hb : isLineBreak d = true
  · rw [if_pos hb] at hd
    subst hd
    rfl
  · rw [if_neg hb] at hd
    subst hd
    simpa using hb

theorem unbreak_eq_self {s : Text} (h : ∀ c ∈ s, isLineBreak c = false) : s.unbreak = s := by
  unfold unbreak
  rw [List.map_congr_left (g := id) fun c hc => by rw [h c hc]; rfl, List.map_id]

theorem isLineBreak_of_mem_encodeAttribute {s : Text} {c : Char} (h : c ∈ s.encodeAttribute) :
    isLineBreak c = false := by
  obtain ⟨d, hd, hc⟩ := List.mem_flatMap.1 h
  rcases mem_entity hc with ⟨rfl, -⟩ | hc
  · exact isLineBreak_of_mem_unbreak hd
  · have hall : entityChars.all (!isLineBreak ·) := by decide
    simpa using List.all_eq_true.1 hall c hc

theorem encodeAttribute_eq_self {s : Text}
    (h : ∀ c ∈ s, isMarkupChar c = false ∧ isLineBreak c = false) : s.encodeAttribute = s := by
  rw [encodeAttribute, unbreak_eq_self fun c hc => (h c hc).2,
    encode_eq_self fun c hc => (h c hc).1]

theorem encodeAttribute_encodeAttribute (s : Text) :
    s.encodeAttribute.encodeAttribute = s.encodeAttribute :=
  encodeAttribute_eq_self fun _ h =>
    ⟨isMarkupChar_of_mem_encode h, isLineBreak_of_mem_encodeAttribute h⟩

theorem encodeAttribute_append (s t : Text) :
    (s ++ t).encodeAttribute = s.encodeAttribute ++ t.encodeAttribute := by
  simp only [encodeAttribute, unbreak, List.map_append, encode_append]

end Text

end CleanMarkup

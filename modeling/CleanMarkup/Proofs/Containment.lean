import CleanMarkup.Proofs.Emission

/-!
# Only allowed tags are shown

The markup to show holds text without quotes and brackets and tags of allowed names, and nothing
else. Wherever an angle bracket stands in it, such a tag begins (`tokens_html_contained`).
-/

namespace CleanMarkup

namespace Token

/-- What was read. -/
def raw : Token → Text
  | comment raw | opening _ _ _ raw | closing _ raw | text raw => raw

theorem raw_ofSpan (u : Text) : (ofSpan u).raw = u := by
  unfold ofSpan
  split
  · rfl
  split
  · split
    · rfl
    · rfl
  · split
    · rfl
    · rfl
  · rfl

/-- The token is a tag of an allowed name. -/
def IsAllowedTag (p : Policy) : Token → Prop
  | opening name _ _ _ | closing name _ => p.classify name = .allowed
  | comment _ | text _ => False

/-- The token is text without quotes and brackets or a tag of an allowed name. -/
def IsContained (p : Policy) : Token → Prop
  | text raw => ∀ c ∈ raw, isMarkupChar c = false
  | t => t.IsAllowedTag p

end Token

/-- The name that follows an angle bracket and perhaps a slash. -/
def nameBehind : Text → Text
  | '/' :: r => Text.asciiLower (r.takeWhile isTagChar)
  | r => Text.asciiLower (r.takeWhile isTagChar)

theorem nameBehind_opening {name : Text} (h : IsName isTagChar name) {c : Char}
    (hc : isTagChar c = false) (r : Text) : nameBehind (name ++ c :: r) = name := by
  have hname : Text.asciiLower ((name ++ c :: r).takeWhile isTagChar) = name := by
    rw [takeWhile_stop h.chars hc, h.lower]
  obtain ⟨d, n, rfl, hd, -⟩ := h.exists_cons
  have hs : d ≠ '/' := by
    rintro rfl
    exact absurd hd (by decide)
  unfold nameBehind
  split
  · rename_i heq
    exact absurd (List.cons.inj heq).1 hs
  · exact hname

theorem nameBehind_closing {name : Text} (h : IsName isTagChar name) {c : Char}
    (hc : isTagChar c = false) (r : Text) : nameBehind ('/' :: (name ++ c :: r)) = name := by
  rw [nameBehind, takeWhile_stop h.chars hc, h.lower]

/-- An angle bracket behind a text without one. -/
theorem cut_behind {u r before after : Text} (hu : '<' ∉ u) (h : u ++ r = before ++ '<' :: after) :
    ∃ middle, before = u ++ middle ∧ r = middle ++ '<' :: after := by
  rcases List.append_eq_append_iff.1 h with ⟨middle, hb, hr⟩ | ⟨middle, hb, hr⟩
  · exact ⟨middle, hb, hr⟩
  · match middle with
    | [] => exact ⟨[], by simpa using hb.symm, by simpa using hr.symm⟩
    | d :: middle =>
      obtain ⟨rfl, -⟩ := List.cons.inj hr
      exact absurd (hb ▸ List.mem_append_right _ List.mem_cons_self) hu

/-- Cut at an angle bracket, a text falls into the tokens before it and a tag and the tokens
behind that. -/
def IsCut (p : Policy) (s before after : Text) : Prop :=
  p.classify (nameBehind after) = .allowed ∧
    ∃ t rest, t.IsAllowedTag p ∧ '<' :: after = t.raw ++ rest ∧
      tokens s = tokens before ++ t :: tokens rest

/-- An angle bracket and what follows are read as a tag of an allowed name, whatever is behind. -/
structure ReadsAs (p : Policy) (inside : Text) (t : Token) : Prop where
  noBracket : '<' ∉ inside
  tokens : ∀ r, tokens ('<' :: (inside ++ r)) = t :: CleanMarkup.tokens r
  raw : t.raw = '<' :: inside
  allowed : t.IsAllowedTag p
  name : ∀ r, p.classify (nameBehind (inside ++ r)) = .allowed

theorem readsAs_opening {c : Cleaner} {opened : List Text} {name : Text}
    {attributes : List Attribute} (h : c.MayStand opened name attributes) (slash : Bool) :
    ReadsAs c.policy (name ++ Piece.body attributes slash ++ ['>'])
      (.opening name (Piece.body attributes slash) slash
        (Piece.html (.opening name attributes slash))) where
  noBracket := by
    intro hm
    rcases List.mem_append.1 hm with hm | hm
    · rcases List.mem_append.1 hm with hm | hm
      · exact h.named.not_mem (by decide) hm
      · exact (Piece.isClean_of_mem_body h.isNeat hm).1 rfl
    · exact absurd hm (by decide)
  tokens := Piece.tokens_opening ⟨h.named, h.isNeat⟩
  raw := rfl
  allowed := h.allowed
  name := by
    intro r
    have hbehind : ∃ d s, isTagChar d = false ∧
        Piece.body attributes slash ++ ['>'] ++ r = d :: s := by
      rcases attributes with _ | ⟨a, as⟩
      · rcases slash
        · exact ⟨'>', r, rfl, rfl⟩
        · exact ⟨'/', '>' :: r, rfl, rfl⟩
      · exact ⟨' ', _, rfl, rfl⟩
    obtain ⟨d, s, hd, hs⟩ := hbehind
    rw [List.append_assoc name, List.append_assoc, hs, nameBehind_opening h.named hd]
    exact h.allowed

theorem readsAs_closing {c : Cleaner} {name : Text} (h : c.CanBeOpen name) :
    ReadsAs c.policy ('/' :: name ++ ['>']) (.closing name (Piece.html (.closing name))) where
  noBracket := by
    intro hm
    rcases List.mem_append.1 hm with hm | hm
    · rcases List.mem_cons.1 hm with hm | hm
      · exact absurd hm (by decide)
      · exact h.named.not_mem (by decide) hm
    · exact absurd hm (by decide)
  tokens := Piece.tokens_closing h.named
  raw := rfl
  allowed := h.allowed
  name := by
    intro r
    have hsplit : '/' :: name ++ ['>'] ++ r = '/' :: (name ++ '>' :: r) := by simp
    rw [hsplit, nameBehind_closing h.named (by decide)]
    exact h.allowed

/-- The first angle bracket behind some text is that of the tag that stands there. -/
theorem isCut_tag {p : Policy} {e inside r before after : Text} {t : Token} (he : '<' ∉ e)
    (ht : ReadsAs p inside t)
    (hrest : ∀ {before}, r = before ++ '<' :: after → IsCut p r before after)
    (h : e ++ '<' :: (inside ++ r) = before ++ '<' :: after) :
    IsCut p (e ++ '<' :: (inside ++ r)) before after := by
  have hall : ∀ r, tokens (e ++ '<' :: (inside ++ r)) = textTokens e ++ t :: tokens r := by
    intro r
    rw [Piece.tokens_before_tag he, ht.tokens]
  obtain ⟨middle, rfl, hm⟩ := cut_behind he h
  match middle with
  | [] =>
    obtain ⟨-, rfl⟩ := List.cons.inj hm
    have hbefore : tokens e = textTokens e := by
      have := tokens_text he []
      simpa [tokens, spans_nil] using this
    refine ⟨ht.name r, t, r, ht.allowed, by rw [ht.raw]; rfl, ?_⟩
    rw [hall, List.append_nil, hbefore]
  | d :: middle =>
    obtain ⟨rfl, hinside⟩ := List.cons.inj hm
    obtain ⟨before, rfl, hr⟩ := cut_behind ht.noBracket hinside
    obtain ⟨hn, u, rest, hu, hafter, htokens⟩ := hrest hr
    refine ⟨hn, u, rest, hu, hafter, ?_⟩
    rw [hall, hall, htokens, List.append_assoc, List.cons_append]

/-- Every angle bracket in nested pieces behind some text is that of a tag. -/
theorem isCut_pieces {c : Cleaner} {opened left : List Text} {ps : List Piece}
    (h : Nested c opened ps left) {e before after : Text} (he : '<' ∉ e)
    (hcut : e ++ ps.flatMap Piece.html = before ++ '<' :: after) :
    IsCut c.policy (e ++ ps.flatMap Piece.html) before after := by
  -- a piece of text joins the text in front, which holds no bracket; a tag is where to cut, or
  -- before that
  induction h generalizing e before with
  | nil =>
    rw [List.flatMap_nil, List.append_nil] at hcut
    exact absurd (hcut ▸ List.mem_append_right _ List.mem_cons_self) he
  | text s _ ih =>
    have hs := Text.not_mem_append_encode (by decide) he s
    rw [List.flatMap_cons, Piece.html, ← List.append_assoc] at hcut ⊢
    exact ih hs hcut
  | void slash hs _ _ ih =>
    exact isCut_tag he (readsAs_opening hs slash) (fun h => ih List.not_mem_nil h) hcut
  | opening hs _ _ ih =>
    exact isCut_tag he (readsAs_opening hs false) (fun h => ih List.not_mem_nil h) hcut
  | closing ho _ ih =>
    exact isCut_tag he (readsAs_closing ho) (fun h => ih List.not_mem_nil h) hcut

/-- The markup to show is made of text without quotes and brackets and of allowed tags, and each
angle bracket in it begins such a tag. -/
theorem tokens_html_contained (c : Cleaner) (input : Text) :
    (∀ t ∈ tokens (c.clean input).html, t.IsContained c.policy) ∧
      ∀ before after, (c.clean input).html = before ++ '<' :: after →
        IsCut c.policy (c.clean input).html before after := by
  obtain ⟨ps, hhtml, hnested, -⟩ := c.exists_pieces input
  rw [hhtml]
  constructor
  · intro t ht
    rw [hnested.tokens_html] at ht
    rcases hnested.mem_tokensBehind (by simp) ht with ⟨raw, rfl, hraw⟩ |
      ⟨opened, name, attributes, slash, raw, rfl, hs⟩ | ⟨name, raw, rfl, ho⟩
    · exact hraw
    · exact hs.allowed
    · exact ho.allowed
  · intro before after hcut
    exact isCut_pieces hnested (e := []) List.not_mem_nil hcut

end CleanMarkup

import CleanMarkup.Proofs.Calls

/-!
# Styles that are written again

A style is written with every line break as a space and every double quote as a single one
(`restyle`). No scanner of values tells the two apart: the same code is called, the same references
are opened and closed, and their addresses are changed in the same way (`addresses_map`).
-/

namespace CleanMarkup

/-- A character as a style is written with it. -/
def restyle (c : Char) : Char := if isLineBreak c then ' ' else if c = '"' then '\'' else c

theorem encodeStyle_eq_map (s : Text) : s.encodeStyle = s.map restyle := by
  unfold Text.encodeStyle Text.unbreak
  rw [List.map_map]
  congr 1
  funext c
  simp only [Function.comp, restyle]
  split
  · rfl
  · rfl

theorem restyle_cases (c : Char) :
    restyle c = c ∨ c ∈ ['\n', '\r', '\x0c'] ∧ restyle c = ' ' ∨ c = '"' ∧ restyle c = '\'' := by
  unfold restyle
  split
  · rename_i h
    simp only [isLineBreak, Bool.or_eq_true, beq_iff_eq] at h
    refine .inr (.inl ⟨?_, rfl⟩)
    simpa [or_assoc] using h
  · split
    · exact .inr (.inr ⟨‹_›, rfl⟩)
    · exact .inl rfl

/-- A property of characters that holds of all or none of the line breaks and the space, and of both
or neither of the quotes, is kept. -/
theorem restyle_keeps {β : Type} (p : Char → β)
    (hn : p '\n' = p ' ') (hr : p '\r' = p ' ') (hf : p '\x0c' = p ' ') (hq : p '"' = p '\'')
    (c : Char) : p (restyle c) = p c := by
  rcases restyle_cases c with h | ⟨hc, h⟩ | ⟨rfl, h⟩
  · rw [h]
  · simp only [List.mem_cons, List.not_mem_nil, or_false] at hc
    rcases hc with rfl | rfl | rfl
    · rw [h, hn]
    · rw [h, hr]
    · rw [h, hf]
  · rw [h, hq]

theorem isBlank_restyle (c : Char) : isBlank (restyle c) = isBlank c :=
  restyle_keeps isBlank (by decide) (by decide) (by decide) (by decide) c

theorem isQuote_restyle (c : Char) : Style.isQuote (restyle c) = Style.isQuote c :=
  restyle_keeps Style.isQuote (by decide) (by decide) (by decide) (by decide) c

theorem isWord_restyle (c : Char) : isWord (restyle c) = isWord c :=
  restyle_keeps isWord (by decide) (by decide) (by decide) (by decide) c

theorem restyle_of_not_mem {c : Char} (h : c ∉ ['\n', '\r', '\x0c', '"']) : restyle c = c := by
  rcases restyle_cases c with hc | ⟨hc, -⟩ | ⟨rfl, -⟩
  · exact hc
  · exact absurd (List.mem_append_left ['"'] hc) h
  · exact absurd (by decide) h

/-- The characters that are written differently, and those they are written as. -/
def restyled : Text := ['\n', '\r', '\x0c', '"', ' ', '\'']

/-- Whether a function that leaves those characters alone has some other value stays the same. -/
theorem restyle_eq_iff {g : Char → Char} (hg : restyled.map g = restyled) {m : Char}
    (hm : m ∉ restyled) (c : Char) : g (restyle c) = m ↔ g c = m := by
  have hne : ∀ d ∈ restyled, g d ≠ m := by
    intro d hd e
    exact hm (e ▸ hg ▸ List.mem_map_of_mem hd)
  have hsame : ∀ d ∈ restyled, ∀ e ∈ restyled, (g d = m) = (g e = m) := fun d hd e he =>
    propext (iff_of_false (hne d hd) (hne e he))
  rw [← propext_iff]
  exact restyle_keeps (g · = m) (hsame _ (by decide) _ (by decide))
    (hsame _ (by decide) _ (by decide)) (hsame _ (by decide) _ (by decide))
    (hsame _ (by decide) _ (by decide)) c

namespace Style

theorem wordRest?_map : ∀ (w s : Text), (∀ c ∈ w, c ∉ restyled) →
    wordRest? w (s.map restyle) = (wordRest? w s).map (List.map restyle)
  | [], s, _ => rfl
  | _ :: _, [], _ => rfl
  | c :: w, d :: s, h => by
    have ih := wordRest?_map w s fun e he => h e (List.mem_cons_of_mem c he)
    have hd := restyle_eq_iff (g := plainLetter) (by decide) (h c List.mem_cons_self) d
    simp only [List.map_cons, wordRest?, hd]
    split
    · exact ih
    · rfl

theorem callRest?_map {f : Text} (hf : ∀ c ∈ f, c ∉ restyled) (s : Text) :
    callRest? f (s.map restyle) = (callRest? f s).map (List.map restyle) := by
  unfold callRest?
  rw [wordRest?_map f s hf]
  rcases wordRest? f s with _ | t
  · rfl
  · have ht := Text.trimStart_map isBlank_restyle t
    unfold Text.trimStart at ht
    simp only [Option.map_some, ht]
    rcases t.dropWhile isBlank with _ | ⟨c, r⟩
    · rfl
    · have hc := restyle_eq_iff (g := id) (by decide) (m := '(') (by decide) c
      by_cases h : c = '('
      · subst h
        rfl
      · have hr : restyle c ≠ '(' := fun e => h (hc.1 e)
        rw [List.map_cons]
        split
        · exact absurd (List.cons.inj ‹_›).1 hr
        · split
          · exact absurd (List.cons.inj ‹_›).1 h
          · rfl

theorem urlRest?_map (before : Option Char) (c : Char) (r : Text) :
    urlRest? (before.map restyle) (restyle c) (r.map restyle) =
      (urlRest? before c r).map (List.map restyle) := by
  have hb : (before.map restyle).any isWord = before.any isWord := by
    rcases before with _ | b
    · rfl
    · exact isWord_restyle b
  have hu := restyle_eq_iff (g := plainLetter) (by decide) (m := 'u') (by decide) c
  unfold urlRest?
  simp only [hb, hu]
  split
  · rfl
  · split
    · exact callRest?_map (by simp [restyled]) r
    · rfl

theorem callsCode_map : ∀ s : Text, callsCode (s.map restyle) = callsCode s
  | [] => rfl
  | c :: r => by
    have hall : ∀ f ∈ codeFunctions, ∀ d ∈ f, d ∉ restyled := by simp [codeFunctions, restyled]
    rw [List.map_cons, callsCode, callsCode, callsCode_map r, ← List.map_cons]
    congr 1
    rw [Bool.eq_iff_iff, List.any_eq_true, List.any_eq_true]
    refine exists_congr fun f => and_congr_right fun hf => ?_
    rw [isSome_afterCall?, isSome_afterCall?, callRest?_map (hall f hf), Option.isSome_map]

theorem openedFrom_map : ∀ (before : Option Char) (n : Nat) (s : Text),
    openedFrom (before.map restyle) n (s.map restyle) = openedFrom before n s
  | _, _, [] => rfl
  | before, n, c :: r => by
    rw [List.map_cons, openedFrom, openedFrom, isSome_afterUrl?, isSome_afterUrl?, urlRest?_map,
      Option.isSome_map]
    exact openedFrom_map (some c) _ r

theorem withoutFirstQuote_map (s : Text) :
    withoutFirstQuote (s.map restyle) = (withoutFirstQuote s).map restyle := by
  rcases s with _ | ⟨c, r⟩
  · rfl
  · simp only [List.map_cons, withoutFirstQuote, isQuote_restyle]
    split
    · rfl
    · rfl

theorem withoutLastQuote_map (s : Text) :
    withoutLastQuote (s.map restyle) = (withoutLastQuote s).map restyle := by
  have hlast : (s.map restyle).getLast?.any isQuote = s.getLast?.any isQuote := by
    rw [List.getLast?_map]
    rcases s.getLast? with _ | c
    · rfl
    · exact isQuote_restyle c
  unfold withoutLastQuote
  rw [hlast]
  split
  · exact List.map_dropLast.symm
  · rfl

theorem addressIn_map (s : Text) : addressIn (s.map restyle) = (addressIn s).map restyle := by
  rw [addressIn_eq, Text.trimStart_map isBlank_restyle, withoutFirstQuote_map,
    Text.trimEnd_map isBlank_restyle, withoutLastQuote_map, Text.trim_map isBlank_restyle,
    addressIn_eq]

theorem addressesFrom_map (before : Option Char) (found : List Text) (s : Text) :
    addressesFrom (before.map restyle) (found.map (List.map restyle)) (s.map restyle) =
      (addressesFrom before found s).map (List.map restyle) := by
  induction h : s.length using Nat.strongRecOn generalizing before found s with
  | _ n ih =>
    match s with
    | [] => simp [addressesFrom]
    | c :: r =>
      rw [List.map_cons, addressesFrom_cons, addressesFrom_cons, urlRest?_map]
      rcases hu : urlRest? before c r with _ | inside
      · exact ih r.length (by rw [← h]; simp) (some c) found r rfl
      · have hlen : inside.length ≤ r.length := length_urlRest?_le hu
        have hparen : ∀ d, (restyle d == ')') = (d == ')') := fun d => by
          rw [Bool.eq_iff_iff, beq_iff_eq, beq_iff_eq]
          exact restyle_eq_iff (g := id) (by decide) (by decide) d
        have hstop : (· != ')') ∘ restyle = (· != ')') := funext fun d => congrArg not (hparen d)
        have hcontains : (inside.map restyle).contains ')' = inside.contains ')' := by
          have hparen' : (')' == restyle ·) = (')' == ·) := funext fun d => by
            rw [BEq.comm, hparen, BEq.comm]
          rw [List.contains_map, List.contains_eq_any_beq, hparen']
        simp only [Option.map_some, hcontains]
        split
        · rw [List.takeWhile_map, List.dropWhile_map, hstop, addressIn_map, ← List.map_drop]
          refine ih _ ?_ (some ')') (_ :: found) _ rfl
          have := Text.length_dropWhile_le (· != ')') inside
          rw [← h, List.length_drop, List.length_cons]
          omega
        · rw [List.map_reverse]

theorem opened_map (s : Text) : opened (s.map restyle) = opened s := openedFrom_map none 0 s

theorem addresses_map (s : Text) :
    addresses (s.map restyle) = (addresses s).map (List.map restyle) :=
  addressesFrom_map none [] s

/-- An address without the characters that are written differently is written as it is. -/
theorem map_restyle_eq_self {a : Text} (h : ∀ c ∈ a, c ∉ ['\n', '\r', '\x0c', '"']) :
    a.map restyle = a :=
  (List.map_congr_left fun c hc => restyle_of_not_mem (h c hc)).trans (List.map_id' a)

theorem checkAll_eq_true {check : UrlCheck} {schemes : List Text} :
    ∀ {as : List Text}, (checkAll check schemes as).1 = true ↔ ∀ a ∈ as, check a schemes = true
  | [] => by simp [checkAll]
  | a :: as => by
    have ih : (checkAll check schemes as).1 = true ↔ ∀ a ∈ as, check a schemes = true :=
      checkAll_eq_true
    rw [List.forall_mem_cons, ← ih, checkAll]
    rcases check a schemes with _ | _
    · simp
    · simp

/-- When nothing is wrong with a value. -/
theorem judge_eq_none {check : UrlCheck} {schemes : List Text} {v : Text} :
    (judge check schemes v).1 = none ↔
      (∀ c ∈ v, c ≠ '<' ∧ c ≠ '>' ∧ c ≠ '\\') ∧ callsCode v = false ∧
        opened v = (addresses v).length ∧ ∀ a ∈ addresses v, check a schemes = true := by
  have hmarks : (v.any fun c => c == '<' || c == '>' || c == '\\') = false ↔
      ∀ c ∈ v, c ≠ '<' ∧ c ≠ '>' ∧ c ≠ '\\' := by
    simp only [List.any_eq_false, Bool.not_eq_true, Bool.or_eq_false_iff, beq_eq_false_iff_ne,
      and_assoc]
  rw [← hmarks, ← checkAll_eq_true]
  unfold judge
  rcases v.any fun c => c == '<' || c == '>' || c == '\\' with _ | _
  · rcases callsCode v with _ | _
    · by_cases ho : opened v = (addresses v).length
      · rcases checkAll check schemes (addresses v) with ⟨passed, events⟩
        rcases passed with _ | _ <;> simp [ho]
      · simp [ho]
    · simp
  · simp

/-- A value that may stand may stand as it is written, if no address that passes the check holds a
character that is written differently. -/
theorem judge_encodeStyle {check : UrlCheck} {schemes : List Text}
    (hcheck : ∀ a, check a schemes = true → ∀ c ∈ a, c ∉ ['\n', '\r', '\x0c', '"']) {v : Text}
    (h : (judge check schemes v).1 = none) : (judge check schemes v.encodeStyle).1 = none := by
  obtain ⟨hmarks, hcode, hopened, hpass⟩ := judge_eq_none.1 h
  have haddresses : addresses v.encodeStyle = addresses v := by
    rw [encodeStyle_eq_map, addresses_map]
    exact (List.map_congr_left fun a ha => map_restyle_eq_self (hcheck a (hpass a ha))).trans
      (List.map_id' _)
  rw [judge_eq_none, haddresses, encodeStyle_eq_map, callsCode_map, opened_map]
  refine ⟨fun c hc => ?_, hcode, hopened, hpass⟩
  obtain ⟨d, hd, rfl⟩ := List.mem_map.1 hc
  obtain ⟨h1, h2, h3⟩ := hmarks d hd
  have hiff : ∀ m ∉ restyled, restyle d = m → d = m := fun m hm =>
    (restyle_eq_iff (g := id) (by decide) hm d).1
  exact ⟨fun e => h1 (hiff '<' (by decide) e), fun e => h2 (hiff '>' (by decide) e),
    fun e => h3 (hiff '\\' (by decide) e)⟩

end Style

end CleanMarkup

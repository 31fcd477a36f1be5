import CleanMarkup.Proofs.References
import CleanMarkup.Proofs.Settling

/-!
# What is left of a style is safe

A value that may stand calls no function that runs code, and every reference in it is closed around
an address that passes (`isSafe_of_judge`). A call holds no colon and no semicolon, so one in a
list of declarations is one in the value of a declaration (`exists_call_in_value`), and the list is
as safe as its values (`isSafe_flatMap_write`). With a check that no address passes which is written
differently, that is what is left of any style (`safe_style`).
-/

namespace CleanMarkup

/-- A part of a text without the mark lies before the mark or behind it. -/
theorem append_mark_cases {m : Char} {s t before part behind : Text} (hne : part ≠ [])
    (hm : m ∉ part) (h : s ++ m :: t = before ++ (part ++ behind)) :
    (∃ back, s = before ++ (part ++ back) ∧ behind = back ++ m :: t) ∨
      ∃ front, before = s ++ m :: front ∧ t = front ++ (part ++ behind) := by
  rcases List.append_eq_append_iff.1 h with ⟨front, hbefore, ht⟩ | ⟨front, hs, ht⟩
  · rcases front with _ | ⟨c, front⟩
    · obtain ⟨c, part, rfl⟩ := List.exists_cons_of_ne_nil hne
      obtain ⟨rfl, -⟩ := List.cons.inj ht
      exact absurd List.mem_cons_self hm
    · obtain ⟨rfl, rfl⟩ := List.cons.inj ht
      exact .inr ⟨front, hbefore, rfl⟩
  · rcases List.append_eq_append_iff.1 ht with ⟨back, hfront, hbehind⟩ | ⟨back, hpart, hbehind⟩
    · exact .inl ⟨back, hfront ▸ hs, hbehind⟩
    · rcases back with _ | ⟨c, back⟩
      · exact .inl ⟨[], by rw [hs, hpart]; simp, hbehind.symm⟩
      · obtain ⟨rfl, -⟩ := List.cons.inj hbehind
        rw [hpart] at hm
        simp at hm

namespace Style

/-- The blanks around an address may be taken off before the quotes are. -/
theorem addressIn_eq_trim (s : Text) :
    addressIn s = (withoutLastQuote (withoutFirstQuote s.trim)).trim := by
  have hquote : (withoutFirstQuote s.trimStart).trimEnd = withoutFirstQuote s.trim := by
    rw [Text.trim]
    rcases Text.trimStart_cases s with h | ⟨c, r, h, hc⟩
    · rw [h]
      rfl
    · rw [h, Text.trimEnd_cons hc, withoutFirstQuote, withoutFirstQuote]
      split
      · rfl
      · exact Text.trimEnd_cons hc r
  rw [addressIn_eq, hquote]

/-- No function that runs code is called, and every reference is closed, before any semicolon, around
an address that passes. -/
structure IsSafe (check : UrlCheck) (schemes : List Text) (s : Text) : Prop where
  code : ∀ f ∈ codeFunctions, ∀ before call behind : Text, IsCallOf f call →
    s ≠ before ++ (call ++ behind)
  closed : ∀ before call behind : Text, IsCallOf "url".toList call →
    before.getLast?.any isWord = false → s = before ++ (call ++ behind) →
      ∃ content tail, behind = content ++ ')' :: tail ∧ ')' ∉ content ∧ ';' ∉ content ∧
        check (withoutLastQuote (withoutFirstQuote content.trim)).trim schemes = true

variable {check : UrlCheck} {schemes : List Text}

theorem isSafe_of_judge {v : Text} (h : (judge check schemes v).1 = none) (hv : ';' ∉ v) :
    IsSafe check schemes v := by
  obtain ⟨-, hcode, hopened, hpass⟩ := judge_eq_none.1 h
  constructor
  · intro f hf before call behind hcall hs
    have hcalls := callsCode_eq_true_iff.2 ⟨f, hf, before, call, behind, hcall, hs⟩
    simp [hcode] at hcalls
  · intro before call behind hcall hbefore hs
    obtain ⟨content, tail, rfl, hcontent, haddress⟩ :=
      isClosed_of_opened_eq hopened hcall hbefore hs
    refine ⟨content, tail, rfl, hcontent, fun hsemi => hv ?_, ?_⟩
    · rw [hs]
      simp [hsemi]
    · rw [← addressIn_eq_trim]
      exact hpass _ haddress

/-- A part with a parenthesis of a list of declarations, without a colon or semicolon, is part of a
value. -/
theorem exists_call_in_value {ds : List Declaration} (hds : ∀ d ∈ ds, d.IsRead)
    {before call behind : Text} (hparen : '(' ∈ call) (hcolon : ':' ∉ call) (hsemi : ';' ∉ call)
    (h : ds.flatMap Declaration.write = before ++ (call ++ behind)) :
    ∃ d ∈ ds, ∃ start front back tail, before = start ++ ':' :: front ∧
      d.value = front ++ (call ++ back) ∧ behind = back ++ ';' :: tail := by
  have hne : call ≠ [] := List.ne_nil_of_mem hparen
  induction ds generalizing before with
  | nil => simp [hne] at h
  | cons d ds ih =>
    have hd := hds d List.mem_cons_self
    have hsplit : d.name ++ ':' :: (d.value ++ ';' :: ds.flatMap Declaration.write) =
        before ++ (call ++ behind) := by
      rw [← h]
      simp [Declaration.write]
    rcases append_mark_cases hne hcolon hsplit with ⟨back, hname, -⟩ | ⟨front, rfl, hvalue⟩
    · refine absurd ?_ (hd.name.not_mem (c := '(') rfl)
      rw [hname]
      simp [hparen]
    · rcases append_mark_cases hne hsemi hvalue with ⟨back, hback, rfl⟩ | ⟨front, rfl, hrest⟩
      · exact ⟨d, List.mem_cons_self, d.name, front, back, _, rfl, hback, rfl⟩
      · obtain ⟨e, he, start, front, back, tail, rfl, hback, rfl⟩ :=
          ih (fun e he => hds e (List.mem_cons_of_mem d he)) hrest
        exact ⟨e, List.mem_cons_of_mem d he, d.name ++ ':' :: (d.value ++ ';' :: start), front, back,
          tail, by simp, hback, rfl⟩

/-- The colon before a value is no word character. -/
theorem any_getLast?_value (start front : Text) :
    (start ++ ':' :: front).getLast?.any isWord = front.getLast?.any isWord := by
  rw [List.getLast?_append, List.getLast?_cons, Option.some_or]
  rcases front.getLast? with _ | c
  · rfl
  · rfl

theorem isSafe_flatMap_write {ds : List Declaration} (hds : ∀ d ∈ ds, d.IsRead)
    (hsafe : ∀ d ∈ ds, IsSafe check schemes d.value) :
    IsSafe check schemes (ds.flatMap Declaration.write) := by
  have hin : ∀ {f call before behind : Text}, IsCallOf f call → ':' ∉ f → ';' ∉ f →
      ds.flatMap Declaration.write = before ++ (call ++ behind) →
        ∃ d ∈ ds, ∃ start front back tail, before = start ++ ':' :: front ∧
          d.value = front ++ (call ++ back) ∧ behind = back ++ ';' :: tail :=
    fun hcall hcolon hsemi => exists_call_in_value hds hcall.mem
      (hcall.not_mem hcolon rfl (by decide)) (hcall.not_mem hsemi rfl (by decide))
  constructor
  · intro f hf before call behind hcall h
    have hmarks : ∀ f ∈ codeFunctions, ':' ∉ f ∧ ';' ∉ f := by decide
    obtain ⟨d, hd, _, front, back, _, -, hvalue, -⟩ :=
      hin hcall (hmarks f hf).1 (hmarks f hf).2 h
    exact (hsafe d hd).code f hf front call back hcall hvalue
  · intro before call behind hcall hbefore h
    obtain ⟨d, hd, start, front, back, rest, rfl, hvalue, rfl⟩ :=
      hin hcall (by decide) (by decide) h
    rw [any_getLast?_value] at hbefore
    obtain ⟨content, tail, rfl, hclose⟩ :=
      (hsafe d hd).closed front call back hcall hbefore hvalue
    exact ⟨content, tail ++ ';' :: rest, by simp, hclose⟩

section Plain

variable (hcheck : check.IsPlain)

include hcheck

theorem isSafe_filter (tag style : Text) :
    IsSafe check schemes (Style.filter check schemes tag style).1 := by
  rw [filter_fst]
  refine isSafe_flatMap_write (fun d => isRead_of_mem_kept) fun d hd => ?_
  exact isSafe_of_judge (judge_of_mem_kept hcheck.not_mem hd) (isRead_of_mem_kept hd).value

theorem not_mem_value_of_mem_kept {style : Text} {d : Declaration}
    (h : d ∈ kept check schemes style) :
    ∀ c ∈ d.value, c ∉ [';', '"', '<', '>', '\\', '\n', '\r', '\x0c'] := by
  intro c hc
  have hwritten : c ∈ (Style.filter check schemes [] style).1 := by
    rw [filter_fst]
    exact List.mem_flatMap.2 ⟨d, h, by simp [Declaration.write, hc]⟩
  have hsemi : c ≠ ';' := fun e => (isRead_of_mem_kept h).value (e ▸ hc)
  have hslash := ((judge_eq_none.1 (judge_of_mem_kept hcheck.not_mem h)).1 c hc).2.2
  simpa [hsemi, hslash] using (isClean_of_mem_filter hwritten).not_mem

end Plain

/-- What is left of any style is a list of declarations with names in lower case and values that can
be written in an attribute, among them all that may stand, and it is safe. -/
theorem safe_style (namesHost : Text → Bool) (schemes : List Text) (tag style : Text) :
    ∃ ds : List Declaration,
      (Style.filter (AbsoluteUrl.passes namesHost) schemes tag style).1 =
        ds.flatMap Declaration.write ∧
      (∀ d ∈ ds, d.name ≠ [] ∧ (∀ c ∈ d.name, isSmall ['_', '-'] c = true) ∧
        ∀ c ∈ d.value, c ∉ [';', '"', '<', '>', '\\', '\n', '\r', '\x0c']) ∧
      (∀ d ∈ Declaration.all style,
        (judge (AbsoluteUrl.passes namesHost) schemes d.value).1 = none →
          ⟨d.name, d.value.encodeStyle⟩ ∈ ds) ∧
      IsSafe (AbsoluteUrl.passes namesHost) schemes
        (Style.filter (AbsoluteUrl.passes namesHost) schemes tag style).1 := by
  refine ⟨_, filter_fst _ schemes tag style, fun d hd => ?_, fun d hd => mem_kept hd,
    isSafe_filter (isPlain_passes namesHost) tag style⟩
  have hname := (isRead_of_mem_kept hd).name
  exact ⟨hname.ne_nil, fun c => hname.isSmall_property,
    not_mem_value_of_mem_kept (isPlain_passes namesHost) hd⟩

end Style

end CleanMarkup

import CleanMarkup.Report
import CleanMarkup.Proofs.Names
import CleanMarkup.Proofs.Trimming

/-!
# The names that violations are counted under

A violation that begins with a name, brackets and slashes aside, is counted under that name exactly
if what follows the name is blank then or begins with a space (`nameOf_eq_iff`). Anything else makes
the name longer, since no character is lost when a text is put in lower case
(`length_le_length_lower`).
-/

namespace CleanMarkup

theorem RunTable.forall_mem_ofString {l : Text} {p : Run → Prop} [DecidablePred p]
    (h : ((Text.splitAt (fun c => c == ' ' || c == '\n') l).filter (!·.isEmpty)).all
      (fun s => decide (p (Run.ofText s))) = true) :
    ∀ r ∈ (ofString (String.ofList l)).runs, p r := by
  intro r hr
  rw [ofString, String.toList_ofList, List.mem_toArray] at hr
  obtain ⟨s, hs, rfl⟩ := List.mem_map.1 hr
  exact of_decide_eq_true (List.all_eq_true.1 h s hs)

theorem RunTable.mem_of_find? {t : RunTable} {n : Nat} {r : Run} (h : t.find? n = some r) :
    r ∈ t.runs := by
  unfold find? at h
  split at h
  · simp at h
  · exact Array.mem_of_getElem? (Option.filter_eq_some_iff.1 h).1

namespace Lowercase

set_option maxRecDepth 20000 in
theorem image_ne_nil : ∀ r ∈ lowerImages.runs, r.image ≠ [] := by
  unfold lowerImages
  -- the literal is taken for the list of its characters, which need not be decoded then
  exact RunTable.forall_mem_ofString (by decide +kernel)

theorem ofChar_ne_nil (c : Char) : ofChar c ≠ [] := by
  unfold ofChar
  split
  · simp
  · rcases h : lowerImages.image? c with _ | s
    · simp
    · obtain ⟨r, hr, rfl⟩ := Option.map_eq_some_iff.1 h
      have himage := image_ne_nil r (RunTable.mem_of_find? hr)
      unfold Run.imageOf
      split
      · contradiction
      · simp

theorem length_le_length_extend (done before s : Text) :
    done.length + s.length ≤ (extend done before s).length := by
  induction s generalizing done before with
  | nil => simp [extend]
  | cons c s ih =>
    rw [extend, List.length_cons]
    generalize himage : (if c = 'Σ' then [sigma before s] else ofChar c) = image
    have hpos : 0 < image.length := by
      rw [List.length_pos_iff, ← himage]
      split
      · simp
      · exact ofChar_ne_nil c
    have hrest := ih (image.reverse ++ done) (c :: before)
    rw [List.length_append, List.length_reverse] at hrest
    omega

end Lowercase

theorem Text.length_le_length_lower (s : Text) : s.length ≤ s.lower.length := by
  unfold lower
  split
  · rw [asciiLower, List.length_map]
  · simpa using Lowercase.length_le_length_extend [] [] s

namespace Report

/-- A text without brackets and slashes. -/
def bare (s : Text) : Text := s.filter fun c => !(c == '<' || c == '>' || c == '/')

/-- What may follow a name that a violation is counted under. -/
def EndsName (s : Text) : Prop :=
  (∀ c ∈ bare s, isBlank c = true) ∨ (bare s).head? = some ' '

theorem bare_append (s t : Text) : bare (s ++ t) = bare s ++ bare t := List.filter_append _ _

theorem endsName_bracket {s : Text} : EndsName (s ++ ['>']) ↔ EndsName s := by
  have hbracket : bare ['>'] = [] := rfl
  rw [EndsName, bare_append, hbracket, List.append_nil, EndsName]

theorem takeWhile_trimEnd_eq_nil_iff {s : Text} : s.trimEnd.takeWhile (· != ' ') = [] ↔
    (∀ c ∈ s, isBlank c = true) ∨ s.head? = some ' ' := by
  obtain ⟨blanks, hs⟩ : s.trimEnd <+: s := List.rdropWhile_prefix isBlank s
  constructor
  · intro h
    rcases hend : s.trimEnd with _ | ⟨c, t⟩
    · left
      rw [Text.trimEnd, List.reverse_eq_nil_iff, List.dropWhile_eq_nil_iff] at hend
      exact fun c hc => hend c (List.mem_reverse.2 hc)
    · right
      rw [hend] at h hs
      have hc : c = ' ' := by
        by_contra hc
        rw [List.takeWhile_cons_of_pos (by simpa using hc)] at h
        simp at h
      rw [← hs, hc]
      rfl
  · rintro (hblank | hhead)
    · have hnil : s.trimEnd = [] := by
        rw [Text.trimEnd, List.reverse_eq_nil_iff, List.dropWhile_eq_nil_iff]
        exact fun c hc => hblank c (List.mem_reverse.1 hc)
      rw [hnil]
      rfl
    · rcases hend : s.trimEnd with _ | ⟨c, t⟩
      · rfl
      · rw [hend] at hs
        rw [← hs] at hhead
        obtain rfl := Option.some.inj hhead
        rfl

section Name

variable {name : Text} (hne : name ≠ []) (hname : ∀ c ∈ name, isAttributeChar c = true)

include hname

theorem bare_name : bare name = name := by
  refine List.filter_eq_self.2 fun c hc => ?_
  have hchar := hname c hc
  rw [Bool.not_eq_true', Bool.or_eq_false_iff, Bool.or_eq_false_iff]
  refine ⟨⟨?_, ?_⟩, ?_⟩ <;> rw [beq_eq_false_iff_ne] <;> rintro rfl <;>
    exact absurd hchar (by decide)

theorem lower_name : name.lower = name.asciiLower := by
  refine Text.lower_of_ascii (List.all_eq_true.2 fun c hc => ?_)
  have hlt := (toNat_of_isAttributeChar (hname c hc)).2
  rw [decide_eq_true_eq]
  omega

theorem trimEnd_name_append (r : Text) : (name ++ r).trimEnd = name ++ r.trimEnd := by
  induction name with
  | nil => rfl
  | cons c name ih =>
    have hc := isBlank_of_isAttributeChar (hname c List.mem_cons_self)
    rw [List.cons_append, Text.trimEnd_cons hc, ih fun d hd => hname d (List.mem_cons_of_mem c hd),
      List.cons_append]

include hne

theorem nameOf_eq {v r : Text} (hv : bare v = name ++ r) :
    nameOf v = Text.lower (name ++ r.trimEnd.takeWhile (· != ' ')) := by
  have hstart : (name ++ r).trimStart = name ++ r := by
    obtain ⟨c, t, rfl⟩ := List.exists_cons_of_ne_nil hne
    have hc := isBlank_of_isAttributeChar (hname c List.mem_cons_self)
    exact List.dropWhile_cons_of_neg (by simp [hc])
  have hspace : ∀ c ∈ name, (c != ' ') = true := fun c hc => by
    rw [bne_iff_ne]
    rintro rfl
    exact absurd (hname ' ' hc) (by decide)
  change Text.lower ((bare v).trim.takeWhile (· != ' ')) = _
  rw [hv, Text.trim, hstart, trimEnd_name_append hname, List.takeWhile_append_of_pos hspace]

/-- A violation that begins with a name is counted under it exactly if what follows ends the
name. -/
theorem nameOf_eq_iff {lead rest : Text} (hlead : bare lead = []) :
    nameOf (lead ++ name ++ rest) = name.asciiLower ↔ EndsName rest := by
  have hv : bare (lead ++ name ++ rest) = name ++ bare rest := by
    rw [bare_append, bare_append, hlead, bare_name hname, List.nil_append]
  rw [nameOf_eq hne hname hv, EndsName, ← takeWhile_trimEnd_eq_nil_iff]
  constructor
  · intro h
    have hlength := Text.length_le_length_lower (name ++ (bare rest).trimEnd.takeWhile (· != ' '))
    rw [h, Text.asciiLower, List.length_map, List.length_append] at hlength
    exact List.eq_nil_of_length_eq_zero (by omega)
  · intro h
    rw [h, List.append_nil, lower_name hname]

end Name

theorem nameOf_eq_of_isName {lead name rest : Text} (hlead : bare lead = [])
    (h : IsName isAttributeChar name) (hrest : EndsName rest) :
    nameOf (lead ++ name ++ rest) = name := by
  rw [(nameOf_eq_iff h.ne_nil h.chars hlead).2 hrest, h.lower]

theorem nameOf_spaced {name : Text} (h : IsName isAttributeChar name) (rest : Text) :
    nameOf (name ++ ' ' :: rest) = name := by
  have hrest : EndsName (' ' :: rest) := .inr rfl
  have hlead := nameOf_eq_of_isName (rfl : bare [] = []) h hrest
  rwa [List.nil_append] at hlead

/-- Recording the violation adds one to the count of the name, and to no other count. -/
def CountsAs (v name : Text) : Prop :=
  ∀ (r : Report) (key : Text),
    (r.addViolation v).tally.count key = r.tally.count key + if key = name then 1 else 0

theorem countsAs_iff {v name : Text} (hv : v ≠ []) : CountsAs v name ↔ nameOf v = name := by
  constructor
  · intro h
    have hcount := h (fresh 1) (nameOf v)
    rw [count_addViolation _ hv, if_pos rfl] at hcount
    by_contra hne
    rw [if_neg hne] at hcount
    omega
  · rintro rfl r key
    exact count_addViolation r hv key

end Report

end CleanMarkup

import CleanMarkup.Proofs.Acceptance
import CleanMarkup.Proofs.Finding
import CleanMarkup.Proofs.Names
import CleanMarkup.Proofs.Survivors

/-!
# The scheme of an address

The check cuts an address at its first `://`, and whoever follows a link reads the scheme up to the
first colon. A scheme that may be set holds no colon, so the two are the same: what passes begins
with a scheme that is set (`AbsoluteUrl.HasScheme`). It holds no character that would be written as
another either, and so is put out as it has been checked. Of the schemes that are set it matters
only which there are, up to case, and more of them let no less pass (`AbsoluteUrl.passes_schemes`).
-/

namespace CleanMarkup

namespace Settings

theorem validate_eq_ok_iff {s : Settings} :
    s.validate = .ok () ↔ ∀ scheme ∈ s.schemes, isScheme scheme = true := by
  have hbad : s.badScheme? = none ↔ ∀ scheme ∈ s.schemes, isScheme scheme = true := by
    simp [badScheme?]
  rw [← hbad, validate]
  rcases s.badScheme? with _ | scheme <;> simp

theorem colon_not_mem_of_isScheme {s : Text} (h : isScheme s = true) : ':' ∉ s := by
  cases s with
  | nil => simp [isScheme] at h
  | cons c r =>
    rw [isScheme, Bool.and_eq_true, List.all_eq_true] at h
    rw [List.mem_cons, not_or]
    refine ⟨?_, fun hm => absurd (h.2 ':' hm) (by decide)⟩
    rintro rfl
    exact absurd h.1 (by decide)

end Settings

theorem eq_colon_of_toLower {c : Char} (h : c.toLower = ':') : c = ':' := by
  by_cases hu : 'A' ≤ c ∧ c ≤ 'Z'
  · have hn := toNat_toLower_of_upper hu
    have hA : 65 ≤ c.toNat := hu.1
    rw [h] at hn
    have hcolon : ':'.toNat = 58 := rfl
    omega
  · rwa [toLower_of_not_upper hu] at h

/-- Letter case makes no colons. -/
theorem colon_not_mem_of_sameIgnoringCase {s t : Text} (h : Text.sameIgnoringCase s t = true)
    (hs : ':' ∉ s) : ':' ∉ t := by
  intro ht
  rw [Text.sameIgnoringCase, beq_iff_eq] at h
  have hlower : ':' ∈ s.asciiLower := h ▸ List.mem_map_of_mem (f := Char.toLower) ht
  obtain ⟨c, hc, hcolon⟩ := List.mem_map.1 hlower
  exact hs (eq_colon_of_toLower hcolon ▸ hc)

namespace AbsoluteUrl

variable {namesHost : Text → Bool} {candidate : Text} {schemes : List Text}

/-- The scheme of an address, as it is read wherever the address is followed. -/
def schemeOf (candidate : Text) : Text := candidate.takeWhile (· != ':')

/-- The scheme of the address is one of those given, and behind its colon two slashes and something
that is no slash follow. -/
structure HasScheme (schemes : List Text) (candidate : Text) : Prop where
  listed : ∃ s ∈ schemes, s.asciiLower = (schemeOf candidate).asciiLower
  authority : ∃ c rest, c ≠ '/' ∧ candidate = schemeOf candidate ++ "://".toList ++ c :: rest

/-- No character of the address is a blank, a control, or one that markup is written with. -/
def IsBare (candidate : Text) : Prop :=
  ∀ c ∈ candidate, isBlank c = false ∧ isControl c = false ∧
    c ∉ ['"', '\'', '<', '>', '\\', '\x60']

theorem passes_iff : passes namesHost candidate schemes = true ↔
    (∀ c ∈ candidate, isRefused c = false) ∧ namesHost candidate = true ∧
      ∃ scheme rest, Text.splitOnce? "://".toList candidate = some (scheme, rest) ∧
        (∃ s ∈ schemes, Text.sameIgnoringCase s scheme = true) ∧
          rest.head?.any (· != '/') = true := by
  unfold passes
  rcases hsplit : Text.splitOnce? "://".toList candidate with _ | ⟨scheme, rest⟩
  · simp
  · simp only [Bool.and_eq_true, Bool.not_eq_true', List.any_eq_false, Bool.not_eq_true,
      List.any_eq_true, Option.some.injEq, Prod.mk.injEq]
    constructor
    · rintro ⟨hplain, ⟨hlisted, hrest⟩, hhost⟩
      exact ⟨hplain, hhost, scheme, rest, ⟨rfl, rfl⟩, hlisted, hrest⟩
    · rintro ⟨hplain, hhost, _, _, ⟨rfl, rfl⟩, hlisted, hrest⟩
      exact ⟨hplain, ⟨hlisted, hrest⟩, hhost⟩

theorem passes_mono {ss ts : List Text}
    (h : ∀ s ∈ ss, ∃ t ∈ ts, Text.sameIgnoringCase s t = true)
    (hp : passes namesHost candidate ss = true) : passes namesHost candidate ts = true := by
  obtain ⟨hplain, hhost, scheme, rest, hsplit, ⟨s, hs, hsame⟩, hrest⟩ := passes_iff.1 hp
  obtain ⟨t, ht, hst⟩ := h s hs
  refine passes_iff.2 ⟨hplain, hhost, scheme, rest, hsplit, ⟨t, ht, ?_⟩, hrest⟩
  rw [Text.sameIgnoringCase, beq_iff_eq] at hsame hst ⊢
  exact hst.symm.trans hsame

theorem passes_of_subset {ss ts : List Text}
    (h : ss.map Text.asciiLower ⊆ ts.map Text.asciiLower)
    (hp : passes namesHost candidate ss = true) : passes namesHost candidate ts = true := by
  refine passes_mono (fun s hs => ?_) hp
  obtain ⟨t, ht, he⟩ := List.mem_map.1 (h (List.mem_map_of_mem hs))
  exact ⟨t, ht, by rw [Text.sameIgnoringCase, he, beq_self_eq_true]⟩

theorem hasScheme_of_passes (hschemes : ∀ s ∈ schemes, Settings.isScheme s = true)
    (h : passes namesHost candidate schemes = true) : HasScheme schemes candidate := by
  obtain ⟨-, -, scheme, rest, hsplit, ⟨s, hs, hsame⟩, hrest⟩ := passes_iff.1 h
  have hcandidate := Text.append_of_splitOnce? (by decide) hsplit
  have hcolon := colon_not_mem_of_sameIgnoringCase hsame
    (Settings.colon_not_mem_of_isScheme (hschemes s hs))
  have hscheme : schemeOf candidate = scheme := by
    rw [hcandidate]
    exact takeWhile_stop (forall_ne_of_not_mem hcolon) rfl
  cases rest with
  | nil => simp at hrest
  | cons c rest =>
    refine ⟨⟨s, hs, ?_⟩, c, rest, by simpa using hrest, ?_⟩
    · rw [hscheme]
      simpa [Text.sameIgnoringCase] using hsame
    · rw [hscheme, List.append_assoc]
      exact hcandidate

theorem isBare_of_passes (h : passes namesHost candidate schemes = true) : IsBare candidate := by
  intro c hc
  have hrefused := (passes_iff.1 h).1 c hc
  simpa [isRefused, and_assoc] using hrefused

/-- What passes is put out as it is. -/
theorem rendered_of_passes {f : AttributeFilter} {tag name : Text}
    (haction : (Rule.of tag name).action = .requireUrl)
    (hcheck : f.check = passes namesHost) (h : f.check candidate f.schemes = true) :
    (f.filterOne tag ⟨name, candidate⟩).rendered = AttributeFilter.write name candidate := by
  have hpasses : f.Passes tag candidate := .inl h
  have hplain : f.check.IsPlain := hcheck ▸ isPlain_passes namesHost
  rw [f.rendered_filterOne, f.survivor?_address haction,
    if_pos (AttributeFilter.accepts_iff.2 hpasses), Text.encodeAttribute_eq_self (hplain h)]
  simp [Attribute.write]

/-- With any schemes that may be set, an address that passes has one of them up to its first colon,
and is written without change. Whether one passes depends on which schemes there are up to case, and
where there are more of them all that passed passes still. -/
theorem passes_schemes (namesHost : Text → Bool) :
    (∀ (settings : Settings) (candidate : Text), settings.validate = .ok () →
      passes namesHost candidate settings.schemes = true →
        HasScheme settings.schemes candidate ∧ IsBare candidate ∧
          candidate.encodeAttribute = candidate ∧
          ∀ (f : AttributeFilter) (tag name : Text), f.check = passes namesHost →
            f.schemes = settings.schemes → (Rule.of tag name).action = .requireUrl →
              (f.filterOne tag ⟨name, candidate⟩).rendered =
                AttributeFilter.write name candidate) ∧
      (∀ (ss ts : List Text) (candidate : Text),
        ss.map Text.asciiLower ⊆ ts.map Text.asciiLower →
          passes namesHost candidate ss = true → passes namesHost candidate ts = true) ∧
      ∀ (ss ts : List Text) (candidate : Text),
        (∀ s, s ∈ ss.map Text.asciiLower ↔ s ∈ ts.map Text.asciiLower) →
          passes namesHost candidate ss = passes namesHost candidate ts := by
  refine ⟨fun settings candidate hvalid h => ⟨?_, isBare_of_passes h, ?_, ?_⟩,
    fun ss ts candidate => passes_of_subset, fun ss ts candidate h => ?_⟩
  · exact hasScheme_of_passes (Settings.validate_eq_ok_iff.1 hvalid) h
  · exact Text.encodeAttribute_eq_self (isPlain_passes namesHost h)
  · intro f tag name hcheck hschemes haction
    exact rendered_of_passes haction hcheck (by rw [hcheck, hschemes, h])
  · exact Bool.eq_iff_iff.2 ⟨passes_of_subset fun s => (h s).1, passes_of_subset fun s => (h s).2⟩

/-- A colon and slashes further on make no difference, and neither does the case of the scheme. -/
theorem passes_schemes_https :
    let settings : Settings := { schemes := ["ftp".toList, "HTTPS".toList] }
    let candidate := "https://a.b/javascript://c".toList
    settings.validate = .ok () ∧ check candidate settings.schemes = true ∧
      HasScheme settings.schemes candidate ∧ IsBare candidate ∧
      (AttributeFilter.filterOne ⟨check, settings.schemes, false⟩ "a".toList
        ⟨"href".toList, candidate⟩).rendered = " href=\"https://a.b/javascript://c\"".toList := by
  intro settings candidate
  have hvalid : settings.validate = .ok () := by decide
  have hpasses : check candidate settings.schemes = true := by decide +kernel
  obtain ⟨hscheme, hbare, -, hrendered⟩ :=
    (passes_schemes Url.namesHost).1 settings candidate hvalid hpasses
  have haction : (Rule.of "a".toList "href".toList).action = .requireUrl := by decide
  exact ⟨hvalid, hpasses, hscheme, hbare,
    hrendered ⟨check, settings.schemes, false⟩ "a".toList "href".toList rfl rfl haction⟩

end AbsoluteUrl

end CleanMarkup

import CleanMarkup.Attribute
import CleanMarkup.Url
import CleanMarkup.Proofs.Encoding
import CleanMarkup.Proofs.Runs

/-!
# Accepted addresses

A value is accepted as the address of a tag if it passes the check as it is or, in a link, if it
is a mail address whose domain passes as a web address (`accepts_iff`). Where no address passes
that would be written with an entity, an accepted value is still accepted once it is written
(`Passes.encodeAttribute`); the check in use is like that (`isPlain_passes`).
-/

namespace CleanMarkup

/-- No address that passes holds a quote, an angle bracket or a line break. -/
def UrlCheck.IsPlain (check : UrlCheck) : Prop :=
  ∀ {a : Text} {schemes : List Text}, check a schemes = true →
    ∀ c ∈ a, isMarkupChar c = false ∧ isLineBreak c = false

theorem isPlain_passes (namesHost : Text → Bool) :
    UrlCheck.IsPlain (AbsoluteUrl.passes namesHost) := by
  intro a schemes h c hc
  unfold AbsoluteUrl.passes at h
  rw [Bool.and_eq_true, Bool.not_eq_true', List.any_eq_false] at h
  have hr := h.1 c hc
  simp only [AbsoluteUrl.isRefused, Bool.or_eq_true, not_or, beq_iff_eq] at hr
  obtain ⟨⟨⟨⟨⟨⟨⟨-, hcontrol⟩, hq⟩, ha⟩, hl⟩, hg⟩, -⟩, -⟩ := hr
  refine ⟨by simp [isMarkupChar, hq, ha, hl, hg], ?_⟩
  simp only [isLineBreak, Bool.or_eq_false_iff, beq_eq_false_iff_ne]
  refine ⟨⟨?_, ?_⟩, ?_⟩ <;> rintro rfl <;> exact hcontrol rfl

namespace AttributeFilter

variable {f : AttributeFilter}

/-- The value of a tag passes as a mail address: its domain, which is all that follows the first
`@`, passes as a web address. -/
structure PassesAsMail (f : AttributeFilter) (tag user domain : Text) : Prop where
  link : tag = "a".toList
  mailLinks : f.mailLinks = true
  scheme : Text.asciiLower ((user ++ '@' :: domain).take 7) = "mailto:".toList
  user : '@' ∉ user
  domain : f.check ("http://www.".toList ++ domain) ["http".toList] = true

/-- The value passes as an address of a tag. -/
def Passes (f : AttributeFilter) (tag value : Text) : Prop :=
  f.check value f.schemes = true ∨
    ∃ user domain : Text, value = user ++ '@' :: domain ∧ f.PassesAsMail tag user domain

theorem mailAddress?_eq_some {value address : Text} :
    mailAddress? value = some address ↔
      ∃ user domain : Text, value = user ++ '@' :: domain ∧ '@' ∉ user ∧
        Text.asciiLower (value.take 7) = "mailto:".toList ∧
          address = "http://www.".toList ++ domain := by
  constructor
  · intro h
    unfold mailAddress? at h
    split at h
    · rename_i c domain hd
      split at h
      · rename_i hm
        have hc := List.head?_dropWhile_not (· != '@') value
        rw [hd] at hc
        obtain rfl : c = '@' := by simpa using hc
        refine ⟨value.takeWhile (· != '@'), domain, ?_, ?_, by simpa using hm, ?_⟩
        · rw [← hd, List.takeWhile_append_dropWhile]
        · intro hu
          simpa using List.mem_takeWhile_imp hu
        · exact (Option.some.inj h).symm
      · simp at h
    · simp at h
  · rintro ⟨user, domain, rfl, hu, hm, rfl⟩
    have hd : (user ++ '@' :: domain).dropWhile (· != '@') = '@' :: domain :=
      dropWhile_stop (forall_ne_of_not_mem hu) (by simp)
    unfold mailAddress?
    rw [hd]
    simp only [hm, beq_self_eq_true, ↓reduceIte]

theorem accepts_iff {tag value : Text} : (f.accepts tag value).1 = true ↔ f.Passes tag value := by
  unfold accepts Passes
  simp only []
  split
  · rename_i h
    exact iff_of_true rfl (.inl h)
  rename_i h
  rw [or_iff_right h]
  split
  · rename_i hlink
    rw [Bool.and_eq_true, beq_iff_eq] at hlink
    split
    · rename_i address hm
      obtain ⟨user, domain, rfl, hu, hs, rfl⟩ := mailAddress?_eq_some.1 hm
      refine ⟨fun hc => ⟨user, domain, rfl, hlink.2, hlink.1, hs, hu, hc⟩, ?_⟩
      rintro ⟨user', domain', he, hp⟩
      have hm' := mailAddress?_eq_some.2 ⟨user', domain', he, hp.user, hs, rfl⟩
      rw [hm, Option.some.injEq] at hm'
      rw [hm']
      exact hp.domain
    · rename_i hm
      refine iff_of_false (by simp) ?_
      rintro ⟨user, domain, rfl, hp⟩
      rw [mailAddress?_eq_some.2 ⟨user, domain, rfl, hp.user, hp.scheme, rfl⟩] at hm
      simp at hm
  · rename_i hlink
    refine iff_of_false (by simp) ?_
    rintro ⟨user, domain, -, hp⟩
    exact hlink (by simp [hp.mailLinks, hp.link])

instance (f : AttributeFilter) (tag value : Text) : Decidable (f.Passes tag value) :=
  decidable_of_iff _ accepts_iff

/-- The start of a mail address is written as it is. -/
theorem take_encodeAttribute {s : Text} (h : Text.asciiLower (s.take 7) = "mailto:".toList) :
    s.encodeAttribute.take 7 = s.take 7 := by
  have hletters : ∀ c ∈ s.take 7, isMarkupChar c = false ∧ isLineBreak c = false := by
    intro c hc
    have hl : c.toLower ∈ "mailto:".toList := h ▸ List.mem_map_of_mem hc
    constructor
    · rcases hm : isMarkupChar c
      · rfl
      · simp only [isMarkupChar, Bool.or_eq_true, beq_iff_eq] at hm
        rcases hm with ((rfl | rfl) | rfl) | rfl <;> exact absurd hl (by decide)
    · rcases hb : isLineBreak c
      · rfl
      · simp only [isLineBreak, Bool.or_eq_true, beq_iff_eq] at hb
        rcases hb with (rfl | rfl) | rfl <;> exact absurd hl (by decide)
  have hlen : (s.take 7).length = 7 := by
    have := congrArg List.length h
    rwa [Text.asciiLower, List.length_map] at this
  have hsplit := Text.encodeAttribute_append (s.take 7) (s.drop 7)
  rw [List.take_append_drop, Text.encodeAttribute_eq_self hletters] at hsplit
  rw [hsplit, List.take_append_of_le_length (Nat.le_of_eq hlen.symm),
    List.take_of_length_le (Nat.le_of_eq hlen)]

/-- What passes still passes once it is written. -/
theorem Passes.encodeAttribute (hcheck : f.check.IsPlain) {tag value : Text}
    (h : f.Passes tag value) : f.Passes tag value.encodeAttribute := by
  rcases h with h | ⟨user, domain, rfl, hp⟩
  · rw [Text.encodeAttribute_eq_self (hcheck h)]
    exact .inl h
  · have hd : domain.encodeAttribute = domain :=
      Text.encodeAttribute_eq_self fun c hc => hcheck hp.domain c (List.mem_append_right _ hc)
    have hsplit : (user ++ '@' :: domain).encodeAttribute =
        user.encodeAttribute ++ '@' :: domain := by
      rw [Text.encodeAttribute_append, ← List.singleton_append, Text.encodeAttribute_append, hd]
      rfl
    refine .inr ⟨user.encodeAttribute, domain, hsplit, hp.link, hp.mailLinks, ?_, ?_, hp.domain⟩
    · rw [← hsplit, take_encodeAttribute hp.scheme]
      exact hp.scheme
    · intro hm
      obtain ⟨c, hc, hm⟩ := List.mem_flatMap.1 hm
      rcases mem_entity hm with ⟨rfl, -⟩ | hm
      · obtain ⟨d, hd, he⟩ := List.mem_map.1 hc
        split at he
        · exact absurd he (by decide)
        · exact hp.user (he ▸ hd)
      · exact absurd hm (by decide)

end AttributeFilter

end CleanMarkup

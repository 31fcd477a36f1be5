import CleanMarkup.Proofs.Restyling

/-!
# Where functions are called and references are opened

A call is a function in whatever case, blanks and a parenthesis. The scan for functions that run
code finds every call of them (`callsCode_eq_true_iff`). A reference is opened by a call of `url`
that no word character stands before, and the scan for references counts what they are opened in
front of (`openedFrom_eq`). The scan for addresses goes on behind the parenthesis that closes one, so
it may pass over references. If it finds as many as are opened it has passed over none, and then all
of them are closed around an address that was found (`isClosed_of_opened_eq`).
-/

namespace CleanMarkup

namespace Style

/-- A call of the function, up to its parenthesis. -/
def IsCallOf (function call : Text) : Prop :=
  ∃ word blanks, call = word ++ blanks ++ ['('] ∧ word.map plainLetter = function ∧
    ∀ c ∈ blanks, isBlank c = true

theorem wordRest?_eq_some_iff : ∀ {w s r : Text},
    wordRest? w s = some r ↔ ∃ word, s = word ++ r ∧ word.map plainLetter = w
  | [], s, r => by simp [wordRest?]
  | w :: ws, [], r => by
    refine iff_of_false (by simp [wordRest?]) ?_
    rintro ⟨word, hs, hword⟩
    rw [List.append_eq_nil_iff.1 hs.symm |>.1] at hword
    simp at hword
  | w :: ws, c :: s, r => by
    rw [wordRest?, Option.ite_none_right_eq_some, wordRest?_eq_some_iff]
    constructor
    · rintro ⟨rfl, word, rfl, rfl⟩
      exact ⟨c :: word, rfl, rfl⟩
    · rintro ⟨_ | ⟨d, word⟩, hs, hword⟩
      · simp at hword
      · obtain ⟨rfl, rfl⟩ := List.cons.inj hs
        obtain ⟨hd, hword⟩ := List.cons.inj hword
        exact ⟨hd, word, rfl, hword⟩

theorem callRest?_eq_some_iff {f s r : Text} :
    callRest? f s = some r ↔ ∃ call, IsCallOf f call ∧ s = call ++ r := by
  unfold callRest?
  constructor
  · rcases hw : wordRest? f s with _ | t
    · simp
    · obtain ⟨word, rfl, hword⟩ := wordRest?_eq_some_iff.1 hw
      simp only
      split
      · rename_i r' hd
        rintro he
        obtain rfl := Option.some.inj he
        refine ⟨word ++ t.takeWhile isBlank ++ ['('], ⟨word, _, rfl, hword, fun c =>
          List.mem_takeWhile_imp⟩, ?_⟩
        have ht := List.takeWhile_append_dropWhile (p := isBlank) (l := t)
        rw [hd] at ht
        nth_rewrite 1 [← ht]
        simp
      · simp
  · rintro ⟨_, ⟨word, blanks, rfl, hword, hblanks⟩, rfl⟩
    have hw : wordRest? f (word ++ blanks ++ ['('] ++ r) = some (blanks ++ '(' :: r) :=
      wordRest?_eq_some_iff.2 ⟨word, by simp, hword⟩
    rw [hw]
    simp only [dropWhile_stop (c := '(') (r := r) hblanks rfl]

theorem IsCallOf.ne_nil {f call : Text} (h : IsCallOf f call) : call ≠ [] := by
  obtain ⟨word, blanks, rfl, -⟩ := h
  simp

/-- A call has the parenthesis. -/
theorem IsCallOf.mem {f call : Text} (h : IsCallOf f call) : '(' ∈ call := by
  obtain ⟨word, blanks, rfl, -⟩ := h
  simp

theorem IsCallOf.not_mem {f call : Text} (h : IsCallOf f call) {m : Char}
    (hf : plainLetter m ∉ f) (hblank : isBlank m = false) (hparen : m ≠ '(') : m ∉ call := by
  obtain ⟨word, blanks, rfl, rfl, hblanks⟩ := h
  intro hm
  simp only [List.mem_append, List.mem_singleton] at hm
  rcases hm with (hm | hm) | hm
  · exact hf (List.mem_map_of_mem hm)
  · rw [hblanks m hm] at hblank
    simp at hblank
  · exact hparen hm

/-- Code is called exactly if there is a call of a function that runs code. -/
theorem callsCode_eq_true_iff {s : Text} : callsCode s = true ↔
    ∃ f ∈ codeFunctions, ∃ before call behind, IsCallOf f call ∧ s = before ++ (call ++ behind) := by
  induction s with
  | nil =>
    refine iff_of_false (by simp [callsCode]) ?_
    rintro ⟨f, -, before, call, behind, hcall, hs⟩
    simp [hcall.ne_nil] at hs
  | cons c r ih =>
    rw [callsCode, Bool.or_eq_true, List.any_eq_true, ih]
    constructor
    · rintro (⟨f, hf, hcall⟩ | ⟨f, hf, before, call, behind, hcall, rfl⟩)
      · rw [isSome_afterCall?, Option.isSome_iff_exists] at hcall
        obtain ⟨behind, hbehind⟩ := hcall
        obtain ⟨call, hcall, hs⟩ := callRest?_eq_some_iff.1 hbehind
        exact ⟨f, hf, [], call, behind, hcall, hs⟩
      · exact ⟨f, hf, c :: before, call, behind, hcall, rfl⟩
    · rintro ⟨f, hf, _ | ⟨d, before⟩, call, behind, hcall, hs⟩
      · refine .inl ⟨f, hf, ?_⟩
        rw [isSome_afterCall?, callRest?_eq_some_iff.2 ⟨call, hcall, hs⟩]
        rfl
      · exact .inr ⟨f, hf, before, call, behind, hcall, (List.cons.inj hs).2⟩

theorem urlRest?_eq (before : Option Char) (c : Char) (r : Text) :
    urlRest? before c r =
      if before.any isWord then none else callRest? "url".toList (c :: r) := by
  unfold urlRest? callRest?
  split
  · rfl
  · have hword : wordRest? "url".toList (c :: r) =
        if plainLetter c = 'u' then wordRest? "rl".toList r else none := rfl
    rw [hword]
    split
    · rfl
    · rfl

/-- What follows the parenthesis of each reference that is opened, in a text that follows
`before`. -/
def insides (before : Option Char) : Text → List Text
  | [] => []
  | c :: r => (urlRest? before c r).toList ++ insides (some c) r

theorem openedFrom_eq (before : Option Char) (n : Nat) (s : Text) :
    openedFrom before n s = n + (insides before s).length := by
  induction s generalizing before n with
  | nil => rfl
  | cons c r ih =>
    rw [openedFrom, insides, ih, isSome_afterUrl?, List.length_append]
    rcases urlRest? before c r with _ | inside
    · simp
    · simp only [Option.isSome_some, ↓reduceIte, Option.toList_some, List.length_singleton]
      omega

/-- References that are opened in the second part of a text come last. -/
theorem insides_append (before : Option Char) (s t : Text) :
    ∃ front, insides before (s ++ t) = front ++ insides (s.getLast?.or before) t := by
  induction s generalizing before with
  | nil => exact ⟨[], rfl⟩
  | cons c s ih =>
    obtain ⟨front, hfront⟩ := ih (some c)
    have hlast : (c :: s).getLast?.or before = s.getLast?.or (some c) := by
      rw [List.getLast?_cons]
      rcases s.getLast? with _ | d
      · rfl
      · rfl
    exact ⟨(urlRest? before c (s ++ t)).toList ++ front, by
      rw [hlast, List.cons_append, insides, hfront, List.append_assoc]⟩

theorem mem_insides {before call inside : Text} (hcall : IsCallOf "url".toList call)
    (hbefore : before.getLast?.any isWord = false) :
    inside ∈ insides none (before ++ (call ++ inside)) := by
  obtain ⟨front, hfront⟩ := insides_append none before (call ++ inside)
  rw [hfront, Option.or_none]
  refine List.mem_append_right front ?_
  obtain ⟨c, r, hcr⟩ := List.exists_cons_of_ne_nil (List.append_ne_nil_of_left_ne_nil hcall.ne_nil
    inside)
  rw [hcr, insides, urlRest?_eq, if_neg (by simp [hbefore]), ← hcr,
    callRest?_eq_some_iff.2 ⟨call, hcall, rfl⟩]
  exact List.mem_cons_self

theorem suffix_of_urlRest? {before : Option Char} {c : Char} {r inside : Text}
    (h : urlRest? before c r = some inside) : inside <:+ r := by
  rw [urlRest?_eq, Option.ite_none_left_eq_some] at h
  obtain ⟨call, hcall, hr⟩ := callRest?_eq_some_iff.1 h.2
  obtain ⟨d, rest, rfl⟩ := List.exists_cons_of_ne_nil hcall.ne_nil
  exact ⟨rest, (List.cons.inj hr).2.symm⟩

/-- What is opened behind a reference that is closed is opened last. -/
theorem insides_behind {before : Option Char} {c : Char} {r content tail : Text}
    (h : urlRest? before c r = some (content ++ ')' :: tail)) :
    ∃ front, insides (some c) r = front ++ insides (some ')') tail := by
  obtain ⟨call, hr⟩ := suffix_of_urlRest? h
  obtain ⟨front, hfront⟩ := insides_append (some c) (call ++ content ++ [')']) tail
  refine ⟨front, ?_⟩
  rw [← hr]
  simpa using hfront

/-- The reference with this inside is closed around one of the addresses. -/
def IsClosed (addresses : List Text) (inside : Text) : Prop :=
  ∃ content tail, inside = content ++ ')' :: tail ∧ ')' ∉ content ∧ addressIn content ∈ addresses

theorem IsClosed.mono {as bs : List Text} (h : as ⊆ bs) {inside : Text}
    (hc : IsClosed as inside) : IsClosed bs inside := by
  obtain ⟨content, tail, hinside, hcontent, haddress⟩ := hc
  exact ⟨content, tail, hinside, hcontent, h haddress⟩

theorem addressesFrom_closed {before : Option Char} {c : Char} {r content tail : Text}
    (hu : urlRest? before c r = some (content ++ ')' :: tail)) (hcontent : ')' ∉ content)
    (found : List Text) : addressesFrom before found (c :: r) =
      addressesFrom (some ')') (addressIn content :: found) tail := by
  have hrun := forall_ne_of_not_mem hcontent
  rw [addressesFrom_cons, hu]
  simp only [takeWhile_stop (c := ')') hrun rfl, dropWhile_stop (c := ')') hrun rfl]
  exact if_pos (by simp)

theorem addressesFrom_open {before : Option Char} {c : Char} {r inside : Text}
    (hu : urlRest? before c r = some inside) (hinside : ')' ∉ inside) (found : List Text) :
    addressesFrom before found (c :: r) = found.reverse := by
  rw [addressesFrom_cons, hu]
  exact if_neg (by simpa using hinside)

/-- No more addresses are found than references are opened, and if as many, all are closed. -/
theorem exists_addressesFrom (before : Option Char) (found : List Text) (s : Text) :
    ∃ as, addressesFrom before found s = found.reverse ++ as ∧
      as.length ≤ (insides before s).length ∧
      (as.length = (insides before s).length → ∀ i ∈ insides before s, IsClosed as i) := by
  induction h : s.length using Nat.strongRecOn generalizing before found s with
  | _ n ih =>
    match s with
    | [] => exact ⟨[], by simp [addressesFrom], Nat.le_refl 0, fun _ _ hi => by simp [insides] at hi⟩
    | c :: r =>
      rw [insides]
      rcases hu : urlRest? before c r with _ | inside
      · rw [addressesFrom_cons, hu]
        exact ih r.length (by rw [← h]; simp) (some c) found r rfl
      by_cases hclosed : ')' ∈ inside
      · obtain ⟨content, tail, rfl, hcontent⟩ := List.eq_append_cons_of_mem hclosed
        obtain ⟨front, hopened⟩ := insides_behind hu
        have hlen : tail.length < n := by
          have hle := (suffix_of_urlRest? hu).length_le
          rw [List.length_append, List.length_cons] at hle
          rw [← h, List.length_cons]
          omega
        obtain ⟨as, has, hle, hall⟩ := ih tail.length hlen (some ')') (addressIn content :: found)
          tail rfl
        simp only [hopened, Option.toList_some, List.length_append, List.length_cons,
          List.length_nil]
        refine ⟨addressIn content :: as, ?_, by rw [List.length_cons]; omega, fun he i hi => ?_⟩
        · rw [addressesFrom_closed hu hcontent, has, List.reverse_cons, List.append_assoc]
          rfl
        · -- As many addresses as references: none is opened inside this one.
          rw [List.length_cons] at he
          have hnone : front = [] := List.eq_nil_of_length_eq_zero (by omega)
          rw [hnone, List.nil_append] at hi
          rcases List.mem_cons.1 hi with rfl | hi
          · exact ⟨content, tail, rfl, hcontent, List.mem_cons_self⟩
          · exact (hall (by omega) i hi).mono (List.subset_cons_self _ _)
      · refine ⟨[], by simp [addressesFrom_open hu hclosed], by simp, fun he => ?_⟩
        simp at he

/-- If as many addresses are found as references are opened, every reference is closed around one of
them. -/
theorem isClosed_of_opened_eq {s : Text} (h : opened s = (addresses s).length)
    {before call inside : Text} (hcall : IsCallOf "url".toList call)
    (hbefore : before.getLast?.any isWord = false) (hs : s = before ++ (call ++ inside)) :
    IsClosed (addresses s) inside := by
  obtain ⟨as, has, -, hall⟩ := exists_addressesFrom none [] s
  have haddresses : addresses s = as := has
  rw [opened, openedFrom_eq, Nat.zero_add, haddresses] at h
  rw [haddresses]
  exact hall h.symm inside (hs ▸ mem_insides hcall hbefore)

end Style

end CleanMarkup

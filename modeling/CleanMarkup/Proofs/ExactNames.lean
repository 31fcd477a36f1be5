import CleanMarkup.Policy
import CleanMarkup.Proofs.Matching
import CleanMarkup.Proofs.Words

/-!
# Exact names

The source that is made of names is read as the names between the two ends of a text, whatever
characters are in them, and nothing can be wrong with it but its size (`Pattern.parse_oneOf`). So it
is found in these names and in no other text (`Pattern.foundIn_oneOf`), and a policy of names asks
only whether a name is among them (`Policy.classify_ofNames`).
-/

namespace CleanMarkup

namespace Pattern

namespace Expr

variable {before after : Option Char} {s : Text}

/-- The characters of a text one after another. -/
def literal (s : Text) : Expr := .ofList (s.map fun c => .one (.one c))

/-- The expression between the two ends of the text. -/
def anchored (e : Expr) : Expr := .ofList [.look .textStart, e, .look .textEnd]

theorem matches_literal {name : Text} :
    (literal name).toTree.Matches before s after ↔ s = name := by
  induction name generalizing before s with
  | nil => exact Iff.rfl
  | cons c name ih =>
    constructor
    · rintro ⟨_, v, rfl, ⟨d, rfl, hd⟩, hv⟩
      rw [eq_of_beq hd, ih.1 hv]
      rfl
    · rintro rfl
      exact ⟨[c], name, rfl, ⟨c, rfl, beq_self_eq_true c⟩, ih.2 rfl⟩

theorem matches_anchored {e : Expr} : e.anchored.toTree.Matches before s after ↔
    before = none ∧ after = none ∧ e.toTree.Matches none s none := by
  constructor
  · rintro ⟨_, _, rfl, ⟨rfl, hbefore⟩, u, _, rfl, he, _, _, rfl, ⟨rfl, hafter⟩, rfl⟩
    obtain rfl : before = none := Option.isNone_iff_eq_none.1 hbefore
    obtain rfl : after = none := Option.isNone_iff_eq_none.1 hafter
    exact ⟨rfl, rfl, by simpa using he⟩
  · rintro ⟨rfl, rfl, he⟩
    exact ⟨[], s, rfl, ⟨rfl, rfl⟩, s, [], by simp, he, [], [], rfl, ⟨rfl, rfl⟩, rfl⟩

theorem matches_choice {earlier : List Expr} {last : Expr} :
    (choice earlier last).toTree.Matches before s after ↔
      (∃ e ∈ earlier, e.toTree.Matches before s after) ∨ last.toTree.Matches before s after := by
  unfold choice
  induction earlier generalizing last with
  | nil => simp
  | cons e earlier ih =>
    rw [List.foldl_cons, ih, List.exists_mem_cons_iff, or_assoc]
    exact or_left_comm

end Expr

/-- What is read of one character. -/
def Piece.ofChar (c : Char) : Piece := { expr := .one (.one c), depth := 0 }

namespace Branches

/-- With the characters of a text at the end of the current branch. -/
def addText (b : Branches) (s : Text) : Branches :=
  { b with pieces := (s.map Piece.ofChar).reverse ++ b.pieces }

/-- With a branch for each of the texts. -/
def addBranches (b : Branches) (texts : List Text) : Branches :=
  texts.foldl (fun b s => b.split.addText s) b

/-- One branch for each of the texts. -/
def ofTexts (first : Text) (rest : List Text) : Branches := (addText {} first).addBranches rest

/-- The start of the text. -/
def start : Branches := { pieces := [{ expr := .look .textStart, depth := 0 }] }

/-- What is read of branches in a group between the two ends of the text. -/
def anchored (b : Branches) : Branches :=
  (start.add { expr := b.whole.expr, depth := b.whole.depth + 1 }).add
    { expr := .look .textEnd, depth := 0 }

theorem addText_cons (b : Branches) (c : Char) (s : Text) :
    b.addText (c :: s) = (b.add (.ofChar c)).addText s := by
  simp [addText, add]

variable {b : Branches}

theorem expr_branch_addText (hb : b.pieces = []) (s : Text) :
    (b.addText s).branch.expr = .literal s := by
  simp [branch, addText, hb, Expr.literal, Piece.ofChar, Function.comp_def]

section Depth

theorem foldl_max_le {n : Nat} {depths : List Nat} (h : ∀ d ∈ depths, d ≤ n) {start : Nat}
    (hstart : start ≤ n) : depths.foldl max start ≤ n := by
  induction depths generalizing start with
  | nil => exact hstart
  | cons d depths ih =>
    rw [List.forall_mem_cons] at h
    exact ih h.2 (max_le hstart h.1)

/-- All branches are rows of characters. -/
structure IsFlat (b : Branches) : Prop where
  earlier : ∀ p ∈ b.earlier, p.depth ≤ 1
  pieces : ∀ p ∈ b.pieces, p.depth = 0

theorem IsFlat.depth_branch_le (hb : b.IsFlat) : b.branch.depth ≤ 1 := by
  have hdeepest : (b.pieces.map (·.depth)).foldl max 0 ≤ 0 :=
    foldl_max_le (by simpa using hb.pieces) le_rfl
  unfold branch
  dsimp only
  split_ifs <;> omega

theorem IsFlat.split (hb : b.IsFlat) : b.split.IsFlat :=
  ⟨List.forall_mem_cons.2 ⟨hb.depth_branch_le, hb.earlier⟩, by simp [Branches.split]⟩

theorem IsFlat.addText (hb : b.IsFlat) (s : Text) : (b.addText s).IsFlat := by
  refine ⟨hb.earlier, ?_⟩
  rw [Branches.addText, List.forall_mem_append]
  exact ⟨by simp [Piece.ofChar], hb.pieces⟩

theorem IsFlat.addBranches (hb : b.IsFlat) (texts : List Text) : (b.addBranches texts).IsFlat := by
  induction texts generalizing b with
  | nil => exact hb
  | cons s texts ih => exact ih (hb.split.addText s)

theorem IsFlat.depth_whole_le (hb : b.IsFlat) : b.whole.depth ≤ 2 := by
  have hlast := hb.depth_branch_le
  have hdeepest : (b.earlier.map (·.depth)).foldl max b.branch.depth ≤ 1 :=
    foldl_max_le (by simpa using hb.earlier) hlast
  unfold whole
  dsimp only
  split_ifs <;> omega

theorem IsFlat.depth_whole_anchored_le (hb : b.IsFlat) : b.anchored.whole.depth ≤ 4 := by
  have hwhole := hb.depth_whole_le
  have hdepth : b.anchored.whole.depth = max (max 0 (b.whole.depth + 1)) 0 + 1 := rfl
  omega

theorem isFlat_ofTexts (first : Text) (rest : List Text) : (ofTexts first rest).IsFlat :=
  (IsFlat.addText (b := {}) ⟨by simp, by simp⟩ first).addBranches rest

end Depth

section Matches

variable {before after : Option Char} {s : Text}

theorem matches_whole : b.whole.expr.toTree.Matches before s after ↔
    (∃ p ∈ b.earlier, p.expr.toTree.Matches before s after) ∨
      b.branch.expr.toTree.Matches before s after := by
  rw [whole, Expr.matches_choice]
  simp

theorem matches_addBranches (texts : List Text) :
    (b.addBranches texts).whole.expr.toTree.Matches before s after ↔
      b.whole.expr.toTree.Matches before s after ∨ s ∈ texts := by
  induction texts generalizing b with
  | nil => simp [addBranches]
  | cons name texts ih =>
    -- the branch that was the last is now an earlier one, and the last one is the name
    have hnext : (b.split.addText name).whole.expr.toTree.Matches before s after ↔
        b.whole.expr.toTree.Matches before s after ∨ s = name := by
      rw [matches_whole, expr_branch_addText rfl, Expr.matches_literal, matches_whole]
      simp only [addText, split, List.exists_mem_cons_iff, or_comm]
    rw [addBranches, List.foldl_cons, ← addBranches, ih, hnext, List.mem_cons, or_assoc]

theorem matches_ofTexts {first : Text} {rest : List Text} :
    (ofTexts first rest).whole.expr.toTree.Matches before s after ↔ s ∈ first :: rest := by
  rw [ofTexts, matches_addBranches, matches_whole, expr_branch_addText rfl, Expr.matches_literal,
    List.mem_cons]
  simp [addText]

end Matches

end Branches

section Reading

/-- What means nothing in patterns stands for itself. -/
theorem readPiece_of_not_isMeta {p : Progress} {c : Char} {s : Text} (h : isMeta c = false) :
    readPiece p c s = .ok (p.addChar c, .all s) := by
  unfold readPiece
  split
  all_goals first | rfl | exact absurd h (by decide)

/-- What means something stands for itself behind a backslash. -/
theorem escape_of_isMeta {f : Flags} {c : Char} {s : Text} (h : isMeta c = true) :
    escape f (c :: s) = .ok (.literal c, .tail c s) := by
  unfold escape
  dsimp only
  split
  all_goals try exact absurd h (by decide)
  -- the letters are gone, among them those of the controls
  have hcontrol : controlOf? c = none := by
    unfold controlOf?
    split
    all_goals first | rfl | exact absurd h (by decide)
  rw [hcontrol]
  simp [isEscapable, h]

theorem readPiece_backslash {p : Progress} {c : Char} {s : Text} (h : isMeta c = true) :
    readPiece p '\\' (c :: s) = .ok (p.addChar c, .tail c s) := by
  change (escape p.flags (c :: s) >>= _) = _
  rw [escape_of_isMeta h]
  rfl

theorem skip_eq_all {f : Flags} (hf : f.layout = false) (s : Text) : skip f s = .all s := by
  rw [skip, hf]
  rfl

/-- A character in front of a pattern in which blanks mean something. -/
theorem readOn_cons {p q : Progress} {c : Char} {s r : Text} {hr : r.length ≤ s.length}
    (hp : p.flags.layout = false) (h : readPiece p c s = .ok (q, ⟨r, hr⟩)) :
    readOn p (c :: s) = readOn q r := by
  rw [readOn, skip_eq_all hp]
  simp only [Rest.all, h]
  rfl

theorem readOn_nil {p : Progress} (hp : p.flags.layout = false) : readOn p [] = .ok p := by
  rw [readOn, skip_eq_all hp]
  rfl

variable {b : Branches} {outer : List OpenGroup}

theorem readOn_escaped (name s : Text) :
    readOn { current := b, outer } (escaped name ++ s) =
      readOn { current := b.addText name, outer } s := by
  induction name generalizing b with
  | nil => rfl
  | cons c name ih =>
    rw [escaped, List.flatMap_cons, ← escaped, List.append_assoc, Branches.addText_cons, ← ih]
    split_ifs with hc
    · exact readOn_cons rfl (readPiece_backslash hc)
    · exact readOn_cons rfl (readPiece_of_not_isMeta (Bool.not_eq_true _ ▸ hc))

theorem readOn_branches (names : List Text) (s : Text) :
    readOn { current := b, outer } (names.flatMap (fun name => '|' :: escaped name) ++ s) =
      readOn { current := b.addBranches names, outer } s := by
  induction names generalizing b with
  | nil => rfl
  | cons name names ih =>
    rw [List.flatMap_cons, List.append_assoc, List.cons_append, Branches.addBranches,
      List.foldl_cons, ← Branches.addBranches, ← ih, ← readOn_escaped]
    exact readOn_cons rfl rfl

/-- What is read of the source that is made of names. Without names it is a character that is
neither blank nor not blank. -/
def Branches.oneOf : List Text → Branches
  | [] =>
    let noOther : CharClass := .complement (.ofList [.blank, .complement .blank])
    { pieces := [{ expr := .one noOther, depth := 2 }] }
  | first :: rest => (ofTexts first rest).anchored

/-- What is made of that. -/
def Expr.oneOf (names : List Text) : Expr := (Branches.oneOf names).whole.expr

theorem Branches.depth_oneOf_le (names : List Text) : (oneOf names).whole.depth ≤ 4 := by
  cases names with
  | nil => decide
  | cons first rest => exact (isFlat_ofTexts first rest).depth_whole_anchored_le

theorem Expr.matches_oneOf {names : List Text} {before after : Option Char} {s : Text} :
    (Expr.oneOf names).toTree.Matches before s after ↔
      before = none ∧ after = none ∧ s ∈ names := by
  cases names with
  | nil =>
    refine iff_of_false ?_ (by simp)
    rintro ⟨_, _, -, ⟨c, -, hc⟩, -⟩
    simp [CharClass.has, CharClass.ofList] at hc
  | cons first rest =>
    change (anchored _).toTree.Matches before s after ↔ _
    rw [matches_anchored, Branches.matches_ofTexts]

theorem oneOf_cons (first : Text) (rest : List Text) : oneOf (first :: rest) =
    '^' :: '(' :: '?' :: ':' :: (escaped first ++
      (rest.flatMap (fun name => '|' :: escaped name) ++ [')', '$'])) := by
  rw [oneOf, List.map_cons, Text.join_cons, List.flatMap_map]
  simp

theorem readOn_oneOf (names : List Text) :
    readOn {} (oneOf names) = .ok { current := .oneOf names } := by
  cases names with
  | nil => cbv
  | cons first rest =>
    calc readOn {} (oneOf (first :: rest))
        = readOn { current := {}, outer := [⟨{}, .start⟩] } (escaped first ++
            (rest.flatMap (fun name => '|' :: escaped name) ++ [')', '$'])) := by
          rw [oneOf_cons]
          exact (readOn_cons rfl rfl).trans (readOn_cons rfl rfl)
      _ = readOn { current := .ofTexts first rest, outer := [⟨{}, .start⟩] } [')', '$'] := by
          rw [readOn_escaped, readOn_branches, Branches.ofTexts]
      _ = .ok { current := (Branches.ofTexts first rest).anchored } :=
          (readOn_cons rfl rfl).trans ((readOn_cons rfl rfl).trans (readOn_nil rfl))

theorem parse_oneOf (names : List Text) : parse (oneOf names) =
    if Expr.sizeLimit < (Expr.oneOf names).size then .error .size else .ok (.oneOf names) := by
  have hdepth := Branches.depth_oneOf_le names
  rw [parse, readOn_oneOf]
  change (if depthLimit < (Branches.oneOf names).whole.depth then _ else _) = _
  rw [if_neg (by unfold depthLimit; omega)]
  rfl

end Reading

/-- Nothing can be wrong with names but the room they take. -/
theorem compile_oneOf (names : List Text) : compile (oneOf names) =
    if Expr.sizeLimit < (Expr.oneOf names).size then .error .size
    else .ok { source := oneOf names, tree := (Expr.oneOf names).toTree } := by
  rw [compile, parse_oneOf]
  split_ifs
  · rfl
  · rfl

/-- Names are found in themselves and in no other text. -/
theorem foundIn_oneOf {names : List Text} {p : Pattern} (h : compile (oneOf names) = .ok p)
    (s : Text) : p.foundIn s = true ↔ s ∈ names := by
  rw [foundIn_iff h]
  rw [compile_oneOf] at h
  split_ifs at h
  cases h
  simp only [Expr.matches_oneOf, List.getLast?_eq_none_iff, List.head?_eq_none_iff]
  constructor
  · rintro ⟨_, _, rfl, u, _, rfl, rfl, rfl, hu⟩
    simpa using hu
  · intro hs
    exact ⟨[], s, rfl, s, [], by simp, rfl, rfl, hs⟩

end Pattern

namespace Policy

theorem ofPatterns_eq_ok_iff {allowed forbidden : Text} {p : Policy} :
    ofPatterns allowed forbidden = .ok p ↔
      Pattern.compile allowed = .ok p.allowed ∧ Pattern.compile forbidden = .ok p.forbidden := by
  obtain ⟨pa, pf⟩ := p
  unfold ofPatterns
  rcases Pattern.compile allowed with _ | a <;> rcases Pattern.compile forbidden with _ | f <;>
    simp [Except.mapError, bind, Except.bind]

variable {allowed forbidden : List Text} {p : Policy}

/-- The names take no more room than a pattern may. -/
def Fits (names : List Text) : Prop :=
  (Pattern.Expr.oneOf (names.map Text.lower)).size ≤ Pattern.Expr.sizeLimit

instance (names : List Text) : Decidable (Fits names) := Nat.decLe _ _

theorem exists_ofNames_iff :
    (∃ p, ofNames allowed forbidden = .ok p) ↔ Fits allowed ∧ Fits forbidden := by
  simp only [ofNames, ofPatterns_eq_ok_iff, Pattern.compile_oneOf, Fits]
  constructor
  · rintro ⟨p, ha, hf⟩
    split_ifs at ha hf
    exact ⟨Nat.not_lt.1 ‹_›, Nat.not_lt.1 ‹_›⟩
  · rintro ⟨ha, hf⟩
    exact ⟨⟨_, _⟩, if_neg (Nat.not_lt.2 ha), if_neg (Nat.not_lt.2 hf)⟩

theorem eq_badPattern_of_ofNames {e : SetupError} (h : ofNames allowed forbidden = .error e) :
    ∃ part, e = .badPattern part .size := by
  simp only [ofNames, ofPatterns, Pattern.compile_oneOf] at h
  split_ifs at h
  · cases h
    exact ⟨.allowed, rfl⟩
  · cases h
    exact ⟨.allowed, rfl⟩
  · cases h
    exact ⟨.forbidden, rfl⟩
  · cases h

theorem foundIn_allowed_ofNames (h : ofNames allowed forbidden = .ok p) (name : Text) :
    p.allowed.foundIn name = true ↔ name ∈ allowed.map Text.lower :=
  Pattern.foundIn_oneOf (ofPatterns_eq_ok_iff.1 h).1 name

theorem foundIn_forbidden_ofNames (h : ofNames allowed forbidden = .ok p) (name : Text) :
    p.forbidden.foundIn name = true ↔ name ∈ forbidden.map Text.lower :=
  Pattern.foundIn_oneOf (ofPatterns_eq_ok_iff.1 h).2 name

theorem classify_eq_ite (h : ofNames allowed forbidden = .ok p) (name : Text) : p.classify name =
    if name ∈ forbidden.map Text.lower then .forbidden
    else if name ∈ allowed.map Text.lower then .allowed
    else .unknown := by
  unfold classify
  simp only [foundIn_allowed_ofNames h, foundIn_forbidden_ofNames h]

/-- A policy of names forbids the forbidden names in lower case, allows the allowed ones that are
not among them, and knows no other. Names that are not given match nothing, and neither the order of
the names nor how often they are given matters. -/
theorem classify_ofNames (h : ofNames allowed forbidden = .ok p) :
    (∀ name, p.classify name =
      if name ∈ forbidden.map Text.lower then .forbidden
      else if name ∈ allowed.map Text.lower then .allowed
      else .unknown) ∧
    (allowed = [] → ∀ name, p.allowed.foundIn name = false) ∧
    (forbidden = [] → ∀ name, p.forbidden.foundIn name = false) ∧
    ∀ {allowed' forbidden' : List Text} {q : Policy}, ofNames allowed' forbidden' = .ok q →
      (∀ s, s ∈ allowed' ↔ s ∈ allowed) → (∀ s, s ∈ forbidden' ↔ s ∈ forbidden) →
      ∀ name, q.classify name = p.classify name := by
  refine ⟨classify_eq_ite h, ?_, ?_, ?_⟩
  · rintro rfl name
    simpa using foundIn_allowed_ofNames h name
  · rintro rfl name
    simpa using foundIn_forbidden_ofNames h name
  · intro allowed' forbidden' q hq ha hf name
    rw [classify_eq_ite hq, classify_eq_ite h]
    simp only [List.mem_map, ha, hf]

theorem classify_ofNames_marks :
    ∃ p q r, ofNames ["A.b".toList, []] ["a*".toList, "x|y\n".toList] = .ok p ∧
      ofNames [[], "A.b".toList, []] ["x|y\n".toList, "a*".toList] = .ok q ∧
      ofNames [] ["A".toList] = .ok r ∧
      p.classify "a.b".toList = .allowed ∧ p.classify "aab".toList = .unknown ∧
      p.classify [] = .allowed ∧ p.classify "a*".toList = .forbidden ∧
      p.classify "x".toList = .unknown ∧ p.classify "x|y\n".toList = .forbidden ∧
      (∀ name, q.classify name = p.classify name) ∧ ∀ name, r.allowed.foundIn name = false := by
  obtain ⟨p, hp⟩ : ∃ p, ofNames ["A.b".toList, []] ["a*".toList, "x|y\n".toList] = .ok p :=
    exists_ofNames_iff.2 ⟨by decide +kernel, by decide +kernel⟩
  obtain ⟨q, hq⟩ : ∃ q, ofNames [[], "A.b".toList, []] ["x|y\n".toList, "a*".toList] = .ok q :=
    exists_ofNames_iff.2 ⟨by decide +kernel, by decide +kernel⟩
  obtain ⟨r, hr⟩ : ∃ r, ofNames [] ["A".toList] = .ok r :=
    exists_ofNames_iff.2 ⟨by decide +kernel, by decide +kernel⟩
  have hsame : ∀ name, q.classify name = p.classify name :=
    (classify_ofNames hp).2.2.2 hq (by simp [or_comm]) (by simp [or_comm])
  refine ⟨p, q, r, hp, hq, hr, ?_, ?_, ?_, ?_, ?_, ?_, hsame, (classify_ofNames hr).2.1 rfl⟩
  all_goals
    rw [(classify_ofNames hp).1]
    decide +kernel

/-- The policy where none is given is the one of its names. -/
theorem ofNames_standard : ofNames standardAllowed standardForbidden = .ok standard := by
  obtain ⟨p, hp⟩ : ∃ p, ofNames standardAllowed standardForbidden = .ok p :=
    exists_ofNames_iff.2 ⟨by decide +kernel, by decide +kernel⟩
  rw [standard, hp]

theorem classify_standard (name : Text) : standard.classify name =
    if name ∈ standardForbidden then .forbidden
    else if name ∈ standardAllowed then .allowed
    else .unknown := by
  have ha : standardAllowed.map Text.lower = standardAllowed := by decide +kernel
  have hf : standardForbidden.map Text.lower = standardForbidden := by decide +kernel
  rw [classify_eq_ite ofNames_standard, ha, hf]

end Policy

end CleanMarkup

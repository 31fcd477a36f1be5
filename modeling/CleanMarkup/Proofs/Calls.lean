import CleanMarkup.Proofs.Scans

/-!
# Calls in the value of a declaration

What follows a word, a call or a reference, as a plain text. The readers that carry the length of
their rest find the same (`afterWord?_val`, `afterCall?_val`, `afterUrl?_val`), and the addresses of
a value are given by it (`addressesFrom_cons`).
-/

namespace CleanMarkup

namespace Style

/-- What follows a word, as a text. -/
def wordRest? : (word s : Text) → Option Text
  | [], s => some s
  | w :: ws, c :: r => if plainLetter c = w then wordRest? ws r else none
  | _ :: _, [] => none

/-- What follows a call, as a text. -/
def callRest? (function s : Text) : Option Text :=
  match wordRest? function s with
  | none => none
  | some t =>
    match t.dropWhile isBlank with
    | '(' :: r => some r
    | _ => none

/-- What follows `url(` at the start of `c :: r`, as a text. -/
def urlRest? (before : Option Char) (c : Char) (r : Text) : Option Text :=
  if before.any isWord then none
  else if plainLetter c = 'u' then callRest? "rl".toList r
  else none

/-- Without one quote at the start. -/
def withoutFirstQuote : Text → Text
  | [] => []
  | c :: r => if isQuote c then r else c :: r

/-- Without one quote at the end. -/
def withoutLastQuote (s : Text) : Text := if s.getLast?.any isQuote then s.dropLast else s

theorem addressIn_eq (s : Text) :
    addressIn s = (withoutLastQuote (withoutFirstQuote s.trimStart).trimEnd).trim := rfl

theorem afterWord?_val : ∀ w s : Text, (afterWord? w s).map (·.1) = wordRest? w s
  | [], s => rfl
  | _ :: _, [] => rfl
  | w :: ws, c :: r => by
    unfold afterWord? wordRest?
    split
    · rw [← afterWord?_val ws r]
      rcases afterWord? ws r with _ | t <;> rfl
    · rfl

theorem afterCall?_val (f s : Text) : (afterCall? f s).map (·.1) = callRest? f s := by
  unfold afterCall? callRest?
  rw [← afterWord?_val]
  rcases afterWord? f s with _ | t
  · rfl
  · simp only [Option.map_some]
    split
    · rename_i r h heq
      have hd : t.1.dropWhile isBlank = '(' :: r := congrArg Subtype.val heq
      rw [hd]
      rfl
    · rename_i hne
      split
      · rename_i r hd
        exact absurd (Rest.dropWhile_eq hd) (hne r _)
      · rfl

theorem afterUrl?_val (before : Option Char) (c : Char) (r : Text) :
    (afterUrl? before c r).map (·.1) = urlRest? before c r := by
  unfold afterUrl? urlRest?
  split
  · rfl
  · split
    · exact afterCall?_val _ r
    · rfl

theorem isSome_afterCall? (f s : Text) : (afterCall? f s).isSome = (callRest? f s).isSome := by
  rw [← afterCall?_val, Option.isSome_map]

theorem isSome_afterUrl? (before : Option Char) (c : Char) (r : Text) :
    (afterUrl? before c r).isSome = (urlRest? before c r).isSome := by
  rw [← afterUrl?_val, Option.isSome_map]

theorem length_urlRest?_le {before : Option Char} {c : Char} {r inside : Text}
    (h : urlRest? before c r = some inside) : inside.length ≤ r.length := by
  rw [← afterUrl?_val] at h
  obtain ⟨t, -, rfl⟩ := Option.map_eq_some_iff.1 h
  exact t.2

theorem addressesFrom_cons (before : Option Char) (found : List Text) (c : Char) (r : Text) :
    addressesFrom before found (c :: r) =
      match urlRest? before c r with
      | none => addressesFrom (some c) found r
      | some inside =>
        if inside.contains ')' then
          addressesFrom (some ')') (addressIn (inside.takeWhile (· != ')')) :: found)
            ((inside.dropWhile (· != ')')).drop 1)
        else found.reverse := by
  rw [addressesFrom, ← afterUrl?_val]
  rcases afterUrl? before c r with _ | inside
  · rfl
  · rfl

end Style

end CleanMarkup

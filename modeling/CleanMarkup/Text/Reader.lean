import CleanMarkup.Text.Basic

/-!
# Reading a text piece by piece

A `Reader` takes one piece off the front of a text and hands back a shorter rest, or finds
nothing. `Reader.all` repeats it: it is `[]` where the reader finds nothing (`Reader.all_eq_nil`)
and otherwise the piece followed by all pieces of the rest (`Reader.all_eq_cons`).
-/

namespace CleanMarkup

/-- A rest that is no longer than `s`. -/
abbrev Rest (s : Text) := { r : Text // r.length ≤ s.length }

/-- A rest that is strictly shorter than `s`. -/
abbrev Shorter (s : Text) := { r : Text // r.length < s.length }

theorem Text.length_dropWhile_le (p : Char → Bool) (s : Text) :
    (s.dropWhile p).length ≤ s.length :=
  (List.dropWhile_sublist p).length_le

namespace Rest

/-- All of the text. -/
def all (s : Text) : Rest s := ⟨s, Nat.le_refl _⟩

/-- Nothing of the text. -/
def nothing (s : Text) : Rest s := ⟨[], Nat.zero_le _⟩

/-- All but the first character. -/
def tail (c : Char) (r : Text) : Rest (c :: r) := ⟨r, Nat.le_succ _⟩

/-- What follows the first character of a rest. -/
def behind {s : Text} {c : Char} {r : Text} (h : (c :: r).length ≤ s.length) : Rest s :=
  ⟨r, Nat.le_of_succ_le h⟩

/-- A rest of a rest. -/
def trans {s : Text} (t : Rest s) (u : Rest t.1) : Rest s := ⟨u.1, Nat.le_trans u.2 t.2⟩

/-- The text from the first character on that does not satisfy `p`. -/
def dropWhile (p : Char → Bool) (s : Text) : Rest s :=
  ⟨s.dropWhile p, Text.length_dropWhile_le p s⟩

/-- The text without its first `n` characters. -/
def drop (n : Nat) (s : Text) : Rest s := ⟨s.drop n, by simp⟩

/-- The text after the first character that does not satisfy `p`. -/
def dropThrough (p : Char → Bool) (s : Text) : Rest s := (dropWhile p s).trans (drop 1 _)

end Rest

namespace Shorter

/-- A rest of all but the first character. -/
def ofTail (c : Char) {r : Text} (t : Rest r) : Shorter (c :: r) := ⟨t.1, Nat.lt_succ_of_le t.2⟩

/-- The text without its first characters, of which there is one at least. -/
def drop {n : Nat} (c : Char) (r : Text) (h : 0 < n) : Shorter (c :: r) :=
  ⟨(c :: r).drop n, by simp only [List.length_drop, List.length_cons]; omega⟩

/-- A rest of what follows the first character of a rest. -/
def behind {s : Text} {c : Char} {r : Text} (h : (c :: r).length ≤ s.length) (t : Rest r) :
    Shorter s :=
  ⟨t.1, Nat.lt_of_lt_of_le (Nat.lt_succ_of_le t.2) h⟩

end Shorter

/-- Takes one piece off the front of a text. -/
abbrev Reader (β : Type) := (s : Text) → Option (β × Shorter s)

namespace Reader

variable {β : Type}

/-- All pieces of `s`, after those already read (newest first). -/
def collect (read : Reader β) (done : List β) (s : Text) : List β :=
  match read s with
  | none => done.reverse
  | some (b, ⟨r, _⟩) => collect read (b :: done) r
termination_by s.length

/-- The pieces of `s` in order, until the reader finds nothing. -/
def all (read : Reader β) (s : Text) : List β := collect read [] s

theorem collect_eq (read : Reader β) (done : List β) (s : Text) :
    collect read done s = done.reverse ++ all read s := by
  induction h : s.length using Nat.strongRecOn generalizing s done with
  | _ n ih =>
    rw [all, collect, collect]
    rcases read s with _ | ⟨b, r, hr⟩
    · simp
    · simp only
      rw [ih r.length (h ▸ hr) (b :: done) r rfl, ih r.length (h ▸ hr) [b] r rfl]
      simp

theorem all_eq_nil {read : Reader β} {s : Text} (h : read s = none) : all read s = [] := by
  rw [all, collect, h]
  rfl

theorem all_eq_cons {read : Reader β} {s : Text} {b : β} {r : Shorter s}
    (h : read s = some (b, r)) : all read s = b :: all read r.1 := by
  rw [all, collect, h]
  exact collect_eq read [b] r.1

end Reader

end CleanMarkup

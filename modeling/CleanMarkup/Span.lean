import CleanMarkup.Text.Reader

/-!
# Spans

Markup is cut into spans: runs of text without `<`, comments from `<!--` through the first `-->`
that begins at the third character or later, and tags from any other `<` through the first `>`.
An open end swallows the rest. The spans are `spans_nil` and `spans_cons`; together they are the
input (`flatten_spans`).
-/

namespace CleanMarkup

namespace Span

/-- What opens a comment. -/
def commentOpen : Text := ['<', '!', '-', '-']

/-- What closes a comment. -/
def commentClose : Text := ['-', '-', '>']

/-- The number of characters through the first `marker` at `start` or later, or all of them. -/
def lengthThrough (marker : Text) (start : Nat) (s : Text) : Nat :=
  match Text.find? marker (s.drop start) with
  | some i => start + i + marker.length
  | none => s.length

/-- The number of characters in the first span. -/
def firstLength (s : Text) : Nat :=
  if commentOpen.isPrefixOf s then lengthThrough commentClose 2 s
  else if s.head? = some '<' then lengthThrough ['>'] 1 s
  else (s.takeWhile (· != '<')).length

theorem firstLength_pos (c : Char) (r : Text) : 0 < firstLength (c :: r) := by
  unfold firstLength
  split
  · unfold lengthThrough
    split
    · omega
    · simp
  · split
    · unfold lengthThrough
      split
      · omega
      · simp
    · rename_i h
      have hc : c ≠ '<' := fun e => h (by simp [e])
      simp [hc]

/-- The first span and what follows it. -/
def first : Reader Text
  | [] => none
  | c :: r => some ((c :: r).take (firstLength (c :: r)), .drop c r (firstLength_pos c r))

end Span

/-- The spans of a text, in order. -/
def spans (s : Text) : List Text := Span.first.all s

theorem spans_nil : spans [] = [] := Reader.all_eq_nil (show Span.first [] = none from rfl)

theorem spans_cons (c : Char) (r : Text) :
    spans (c :: r) = (c :: r).take (Span.firstLength (c :: r)) ::
      spans ((c :: r).drop (Span.firstLength (c :: r))) :=
  Reader.all_eq_cons (show Span.first (c :: r) = some (_, .drop c r _) from rfl)

theorem flatten_spans (s : Text) : (spans s).flatten = s := by
  induction h : s.length using Nat.strongRecOn generalizing s with
  | _ n ih =>
    match s with
    | [] => rw [spans_nil]; rfl
    | c :: r =>
      have hp := Span.firstLength_pos c r
      rw [spans_cons, List.flatten_cons, ih _ _ _ rfl, List.take_append_drop]
      rw [← h, List.length_drop, List.length_cons]
      omega

end CleanMarkup

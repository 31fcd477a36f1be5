import CleanMarkup.Proofs.Finds
import CleanMarkup.Proofs.Names
import CleanMarkup.Proofs.Trimming

/-!
# Attributes and declarations are found where they are written

The attributes of a text are the pairs `name="value"` that are found in it from left to right, and
its declarations the pairs `name: value` up to a semicolon or the end (`Attribute.finds_iff_eq_all`,
`Declaration.finds_iff_eq_all`). So an attribute that is written with its name in lower case is read
as it was written (`Attribute.all_write`). So is a declaration, unless its value is empty
(`Declaration.all_write`): nothing stands between its colon and its semicolon then, and it is passed
over. Whatever is read has a name in lower case, and a value without the character that ends it.
-/

namespace CleanMarkup

theorem Rest.dropWhile_eq {p : Char → Bool} {s t : Text} (h : s.dropWhile p = t) :
    Rest.dropWhile p s = ⟨t, h ▸ Text.length_dropWhile_le p s⟩ := Subtype.ext h

theorem isAttributeChar_of_isBlank {c : Char} (h : isBlank c = true) :
    isAttributeChar c = false := by
  rcases hc : isAttributeChar c
  · rfl
  · rw [isBlank_of_isAttributeChar hc] at h
    simp at h

namespace Attribute

/-- An equals sign, perhaps between blanks, and the value in double quotes. -/
def GivesValue (value t _rest : Text) : Prop :=
  ∃ front back : Text, t = front ++ '=' :: (back ++ '"' :: (value ++ ['"'])) ∧
    (∀ d ∈ front, isBlank d = true) ∧ (∀ d ∈ back, isBlank d = true) ∧ '"' ∉ value

/-- The text is the attribute as it may be written: its name in any case, and its value. -/
def IsWritten : Attribute → Text → Text → Prop :=
  Named isAttributeChar GivesValue fun name value => ⟨name.asciiLower, value⟩

theorem exists_givesValue {s t u w : Text} (hequals : s.dropWhile isBlank = '=' :: t)
    (hquote : t.dropWhile isBlank = '"' :: u) (hends : u.dropWhile (· != '"') = '"' :: w) :
    ∃ value gives, s = gives ++ w ∧ GivesValue value gives w := by
  obtain ⟨front, rfl, hfront⟩ := exists_run hequals
  obtain ⟨back, rfl, hback⟩ := exists_run hquote
  obtain ⟨value, rfl, hvalue⟩ := exists_run hends
  refine ⟨value, front ++ '=' :: (back ++ '"' :: (value ++ ['"'])), by simp, ?_⟩
  exact ⟨front, back, rfl, hfront, hback, fun hq => by simpa using hvalue _ hq⟩

theorem isNaming : next.IsNaming isAttributeChar GivesValue
    fun name value => ⟨name.asciiLower, value⟩ where
  nil := rfl
  start := by
    rintro value t r ⟨_ | ⟨d, front⟩, back, rfl, hfront, -⟩
    · exact ⟨'=', _, rfl, rfl⟩
    · exact ⟨d, _, rfl, isAttributeChar_of_isBlank (hfront d List.mem_cons_self)⟩
  other r hc := by
    rw [Reader.step, next.eq_2, if_neg (by simp [hc])]
    rfl
  valued := by
    rintro c r value t s hc hsplit ⟨front, back, rfl, hfront, hback, hv⟩
    have hequals : (Rest.dropWhile isAttributeChar r).1.dropWhile isBlank =
        '=' :: (back ++ '"' :: (value ++ '"' :: s)) := by
      rw [Rest.dropWhile_eq hsplit]
      simpa using dropWhile_stop (c := '=') hfront rfl
    have hquote : (back ++ '"' :: (value ++ '"' :: s)).dropWhile isBlank =
        '"' :: (value ++ '"' :: s) := dropWhile_stop hback rfl
    have hends := forall_ne_of_not_mem hv
    have hvalue : (value ++ '"' :: s).dropWhile (· != '"') = '"' :: s := dropWhile_stop hends rfl
    rw [Reader.step, next.eq_2, if_pos hc]
    simp only [Rest.dropWhile_eq hequals, Rest.dropWhile_eq hquote, Rest.dropWhile_eq hvalue,
      takeWhile_stop hends (c := '"') rfl]
    rfl
  bare := by
    intro c r hc hbare
    rw [Reader.step, next.eq_2, if_pos hc]
    simp only []
    split
    · rename_i s _ hequals
      split
      · rename_i t _ hquote
        split
        · rename_i e u _ hends
          -- all three are there, and so a value
          have hend : t.dropWhile (· != '"') = e :: u := congrArg Subtype.val hends
          rcases dropWhile_ne_cases '"' t with hnil | ⟨w, hcons⟩
          · simp [hnil] at hend
          · obtain ⟨value, gives, hsplit, hgives⟩ := exists_givesValue
              (congrArg Subtype.val hequals) (congrArg Subtype.val hquote) hcons
            exact absurd hgives (hbare _ _ _ hsplit)
        · rfl
      · rfl
    · rfl

/-- The attributes of a text are those that are found in it. -/
theorem finds_iff_eq_all {as : List Attribute} {s : Text} : Finds IsWritten as s ↔ as = all s :=
  isNaming.finds_iff

theorem all_nil : all [] = [] := (isNaming.finds_iff.1 (.nothing (isGap_nil []))).symm

theorem all_skip {c : Char} (hc : isAttributeChar c = false) (r : Text) : all (c :: r) = all r :=
  isNaming.all_skip hc r

theorem all_write {name value : Text} (h : IsName isAttributeChar name) (hv : '"' ∉ value)
    (r : Text) :
    all (AttributeFilter.write name value ++ r) = ⟨name, value⟩ :: all r := by
  have hw : AttributeFilter.write name value ++ r =
      ' ' :: (name ++ '=' :: '"' :: (value ++ ['"']) ++ r) := by
    simp [AttributeFilter.write]
  have hwritten : IsWritten ⟨name, value⟩ (name ++ '=' :: '"' :: (value ++ ['"'])) r :=
    ⟨name, value, _, rfl, h.ne_nil, h.chars, ⟨[], [], rfl, by simp, by simp, hv⟩, by simp [h.lower]⟩
  rw [hw, all_skip rfl]
  exact isNaming.all_named hwritten

/-- What an attribute that has been read looks like. -/
structure IsRead (a : Attribute) : Prop where
  name : IsName isAttributeChar a.name
  value : '"' ∉ a.value

theorem isRead_of_mem_all {s : Text} {a : Attribute} (h : a ∈ all s) : a.IsRead := by
  obtain ⟨m, r, name, value, t, -, hne, hname, ⟨-, -, -, -, -, hv⟩, rfl⟩ :=
    (finds_iff_eq_all.2 rfl).forall_mem a h
  exact ⟨.asciiLower (p := isAttributeChar) (fun _ => isAttributeChar_toLower) hne hname, hv⟩

end Attribute

namespace Declaration

/-- A declaration as it is written. -/
def write (d : Declaration) : Text := d.name ++ ':' :: d.value ++ [';']

/-- A colon, perhaps with blanks in front, and the value with any blanks around it, up to a
semicolon or the end. At least one character stands there. -/
def GivesValue (value t rest : Text) : Prop :=
  ∃ front content fin : Text, t = front ++ ':' :: (content ++ fin) ∧
    (∀ d ∈ front, isBlank d = true) ∧ content ≠ [] ∧ ';' ∉ content ∧
    (fin = [';'] ∨ fin = [] ∧ rest = []) ∧ value = content.trim

/-- The text is the declaration as it may be written: its name in any case, and its value. -/
def IsWritten : Declaration → Text → Text → Prop :=
  Named isPropertyChar GivesValue fun name value => ⟨name.asciiLower, value⟩

/-- Whatever blanks begin it, the value is all that stands up to the semicolon, trimmed. -/
theorem valueAfterColon?_eq (s : Text) : valueAfterColon? s =
    if s.takeWhile (· != ';') = [] then none else some (Text.trim (s.takeWhile (· != ';'))) := by
  obtain ⟨t, ht⟩ : ∃ t, s.dropWhile isBlank = t := ⟨_, rfl⟩
  obtain ⟨blanks, rfl, hblanks⟩ := exists_run ht
  have hsemi : ∀ d ∈ blanks, (d != ';') = true := fun d hd => by
    rw [bne_iff_ne]
    rintro rfl
    exact absurd (hblanks ';' hd) (by decide)
  have hrun : (blanks ++ t).takeWhile (· != ';') = blanks ++ t.takeWhile (· != ';') :=
    List.takeWhile_append_of_pos hsemi
  have htrim : Text.trim (blanks ++ t.takeWhile (· != ';')) =
      Text.trim (t.takeWhile (· != ';')) := by
    rw [Text.trim, Text.trim, Text.trimStart, List.dropWhile_append_of_pos hblanks, Text.trimStart]
  unfold valueAfterColon?
  rw [ht, hrun, htrim]
  rcases t with _ | ⟨c, r⟩
  · rcases blanks with _ | ⟨d, blanks⟩ <;> rfl
  by_cases hc : c = ';'
  · subst hc
    rcases blanks with _ | ⟨d, blanks⟩
    · rfl
    · have hfirst : (d :: blanks ++ ';' :: r).head? ≠ some ';' := by
        simpa using hsemi d List.mem_cons_self
      exact (if_neg hfirst).trans (if_neg (List.cons_ne_nil _ _)).symm
  · rw [List.takeWhile_cons_of_pos (by simpa using hc), if_neg (by simp)]
    split <;> simp_all

theorem exists_givesValue {s t : Text} (hcolon : s.dropWhile isBlank = ':' :: t)
    (hne : t.takeWhile (· != ';') ≠ []) :
    ∃ value gives r, s = gives ++ r ∧ GivesValue value gives r := by
  obtain ⟨front, rfl, hfront⟩ := exists_run hcolon
  have hsemi : ';' ∉ t.takeWhile (· != ';') := fun h => by simpa using List.mem_takeWhile_imp h
  have hcut := List.takeWhile_append_dropWhile (p := (· != ';')) (l := t)
  generalize t.takeWhile (· != ';') = content at hne hsemi hcut
  rcases dropWhile_ne_cases ';' t with hend | ⟨r, hend⟩
  · rw [hend] at hcut
    subst hcut
    refine ⟨Text.trim content, front ++ ':' :: (content ++ []), [], by simp, ?_⟩
    exact ⟨front, content, [], rfl, hfront, hne, hsemi, .inr ⟨rfl, rfl⟩, rfl⟩
  · rw [hend] at hcut
    subst hcut
    refine ⟨Text.trim content, front ++ ':' :: (content ++ [';']), r, by simp, ?_⟩
    exact ⟨front, content, [';'], rfl, hfront, hne, hsemi, .inl rfl, rfl⟩

theorem isNaming : next.IsNaming isPropertyChar GivesValue
    fun name value => ⟨name.asciiLower, value⟩ where
  nil := rfl
  start := by
    rintro value t r ⟨_ | ⟨d, front⟩, content, fin, rfl, hfront, -⟩
    · exact ⟨':', _, rfl, rfl⟩
    · have hd := isAttributeChar_of_isBlank (hfront d List.mem_cons_self)
      refine ⟨d, _, rfl, ?_⟩
      rcases hp : isPropertyChar d
      · rfl
      · rw [isAttributeChar_of_isPropertyChar hp] at hd
        simp at hd
  other r hc := by
    rw [Reader.step, next.eq_2, if_neg (by simp [hc])]
    rfl
  valued := by
    rintro c r value t s hc hsplit ⟨front, content, fin, rfl, hfront, hne, hsemi, hfin, rfl⟩
    have hcolon : (Rest.dropWhile isPropertyChar r).1.dropWhile isBlank =
        ':' :: (content ++ (fin ++ s)) := by
      rw [Rest.dropWhile_eq hsplit]
      simpa using dropWhile_stop (c := ':') hfront rfl
    have hends := forall_ne_of_not_mem hsemi
    have hcut : (content ++ (fin ++ s)).takeWhile (· != ';') = content ∧
        ((content ++ (fin ++ s)).dropWhile (· != ';')).drop 1 = s := by
      rcases hfin with rfl | ⟨rfl, rfl⟩
      · have hstop : ([';'] ++ s : Text) = ';' :: s := rfl
        rw [hstop, takeWhile_stop hends rfl, dropWhile_stop hends rfl]
        exact ⟨rfl, rfl⟩
      · rw [List.append_nil, List.append_nil, List.takeWhile_eq_self_iff.2 hends,
          List.dropWhile_eq_nil_iff.2 hends]
        exact ⟨rfl, rfl⟩
    have hvalue : valueAfterColon? (content ++ (fin ++ s)) = some content.trim := by
      rw [valueAfterColon?_eq, hcut.1, if_neg hne]
    rw [Reader.step, next.eq_2, if_pos hc]
    simp only [Rest.dropWhile_eq hcolon, hvalue, Option.map_some]
    exact congrArg (fun rest => some (_, rest)) hcut.2
  bare := by
    intro c r hc hbare
    rw [Reader.step, next.eq_2, if_pos hc]
    simp only []
    split
    · rename_i s _ hcolon
      split
      · rename_i value hvalue
        rw [valueAfterColon?_eq] at hvalue
        split_ifs at hvalue with hne
        obtain ⟨value, gives, rest, hsplit, hgives⟩ :=
          exists_givesValue (congrArg Subtype.val hcolon) hne
        exact absurd hgives (hbare _ _ _ hsplit)
      · rfl
    · rfl

/-- The declarations of a style are those that are found in it. -/
theorem finds_iff_eq_all {ds : List Declaration} {s : Text} : Finds IsWritten ds s ↔ ds = all s :=
  isNaming.finds_iff

theorem all_nil : all [] = [] := (isNaming.finds_iff.1 (.nothing (isGap_nil []))).symm

theorem all_skip {c : Char} (hc : isPropertyChar c = false) (r : Text) : all (c :: r) = all r :=
  isNaming.all_skip hc r

/-- What a declaration that has been read looks like. -/
structure IsRead (d : Declaration) : Prop where
  name : IsName isPropertyChar d.name
  value : ';' ∉ d.value
  trimmed : d.value.trim = d.value

/-- Nothing between a colon and a semicolon is no value. -/
theorem not_givesValue {value t s r : Text} (h : ':' :: ';' :: r = t ++ s) :
    ¬ GivesValue value t s := by
  rintro ⟨_ | ⟨d, front⟩, content, fin, rfl, hfront, hne, hsemi, -⟩
  · obtain ⟨d, content, rfl⟩ := List.exists_cons_of_ne_nil hne
    obtain ⟨rfl, -⟩ := List.cons.inj (List.cons.inj h).2
    exact hsemi List.mem_cons_self
  · obtain ⟨rfl, -⟩ := List.cons.inj h
    exact absurd (hfront ':' List.mem_cons_self) (by decide)

/-- A declaration that is written is read back if it has a value, and passed over if not. -/
theorem all_write {d : Declaration} (h : d.IsRead) (r : Text) :
    all (d.write ++ r) = if d.value = [] then all r else d :: all r := by
  obtain ⟨name, value⟩ := d
  obtain ⟨hname, hv, ht⟩ := h
  simp only at hname hv ht
  split
  · rename_i hnil
    simp only at hnil
    subst hnil
    have hw : write ⟨name, []⟩ ++ r = name ++ ':' :: ';' :: r := by simp [write]
    have hgap : IsGap IsWritten name (':' :: ';' :: r) :=
      isNaming.isGap_run hname.chars rfl fun _ _ _ => not_givesValue
    have hpassed := isNaming.finds_iff.1 ((isNaming.finds_all _).skip hgap)
    rw [hw]
    exact hpassed.symm.trans ((all_skip rfl _).trans (all_skip rfl r))
  · rename_i hne
    have hw : write ⟨name, value⟩ ++ r = name ++ ':' :: (value ++ [';']) ++ r := by simp [write]
    rw [hw]
    have hwritten : IsWritten ⟨name, value⟩ (name ++ ':' :: (value ++ [';'])) r :=
      ⟨name, value, _, rfl, hname.ne_nil, hname.chars,
        ⟨[], value, [';'], rfl, by simp, hne, hv, .inl rfl, ht.symm⟩, by simp [hname.lower]⟩
    exact isNaming.all_named hwritten

theorem isRead_of_mem_all {s : Text} {d : Declaration} (h : d ∈ all s) : d.IsRead := by
  obtain ⟨m, r, name, value, t, -, hne, hname, ⟨-, content, -, -, -, -, hsemi, -, rfl⟩, rfl⟩ :=
    (finds_iff_eq_all.2 rfl).forall_mem d h
  exact ⟨.asciiLower (p := isPropertyChar) (fun _ => isPropertyChar_toLower) hne hname,
    fun hd => hsemi (Text.mem_of_mem_trim hd), Text.trim_trim content⟩

end Declaration

end CleanMarkup

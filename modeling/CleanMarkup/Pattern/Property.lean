import CleanMarkup.Pattern.CharClass
import CleanMarkup.Unicode.Script

/-!
# Named properties

`\p` names a set of characters by a category, a script or a binary property. Names are compared
without regard to case, blanks, underscores, hyphens and a leading `is`.
-/

namespace CleanMarkup

namespace Pattern

/-- A name as it is compared. -/
def looseName (s : Text) : Text :=
  let marked := Text.asciiLower (s.take 2) == ['i', 's']
  let kept := (if marked then s.drop 2 else s).filter fun c =>
    c != ' ' && c != '_' && c != '-' && c.toNat < 128
  let name := Text.asciiLower kept
  if marked && name == ['c'] then ['i', 's', 'c'] else name

/-- The table that goes by a name. -/
def tableNamed? (tables : List NamedTable) (name : String) : Option CharClass :=
  (tables.find? (·.names.contains name)).map (.table ·.table)

/-- The set of a category, a group of categories, or one of the sets that stand beside them. -/
def categoryNamed? (name : String) : Option CharClass :=
  match name with
  | "any" => some .everything
  | "ascii" => some (.range '\x00' '\x7f')
  | "assigned" => some (.complement (.table Category.unassigned))
  | _ =>
    match Category.groups.find? (·.1.contains name) with
    | some (_, members) =>
      some (.ofList (members.filterMap (tableNamed? Category.all)))
    | none => tableNamed? Category.all name

/-- The set that a bare name stands for: a property, else a category, else a script. The short
names of two categories are also short names of other things and mean the category. -/
def propertyNamed? (name : Text) : Option CharClass :=
  let name := String.ofList (looseName name)
  let property := if name == "cf" || name == "sc" || name == "lc" then none
    else tableNamed? Property.all name
  property <|> categoryNamed? name <|> tableNamed? Script.all name

/-- The set of a named value of a property. -/
def propertyValue? (name value : Text) : Option CharClass :=
  let value := String.ofList (looseName value)
  match String.ofList (looseName name) with
  | "gc" | "generalcategory" => categoryNamed? value
  | "sc" | "script" => tableNamed? Script.all value
  | _ => none

/-- The set that the text in the braces of `\p` stands for: a name, or a name and a value with
`=`, `:` or `!=` between them. -/
def propertyOf? (s : Text) : Option CharClass :=
  match Text.splitOnce? ['!', '='] s with
  | some (name, value) => (propertyValue? name value).map .complement
  | none =>
    match Text.splitOnce? [':'] s with
    | some (name, value) => propertyValue? name value
    | none =>
      match Text.splitOnce? ['='] s with
      | some (name, value) => propertyValue? name value
      | none => propertyNamed? s

end Pattern

end CleanMarkup

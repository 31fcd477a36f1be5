import CleanMarkup.Report
import CleanMarkup.SetupError

/-!
# Settings

What can be set besides the policy: how many violations are recorded, which schemes addresses may
have, and whether mail addresses count as links.
-/

namespace CleanMarkup

/-- Settings of a cleaner. -/
structure Settings where
  /-- How many violations are recorded. -/
  limit : Nat := Report.standardLimit
  /-- The schemes that addresses may have. -/
  schemes : List Text := ["http".toList, "https".toList]
  /-- Links to mail addresses are checked by their domain. -/
  mailLinks : Bool := true
  deriving DecidableEq

namespace Settings

/-- Settings with some values given, as they are. -/
def ofGiven (limit : Option Nat) (schemes : Option (List Text)) (mailLinks : Option Bool) :
    Settings :=
  let standard : Settings := {}
  { limit := limit.getD standard.limit
    schemes := schemes.getD standard.schemes
    mailLinks := mailLinks.getD standard.mailLinks }

/-- Settings with some values given, of which the limit is made at least one. -/
def build (limit : Option Nat) (schemes : Option (List Text)) (mailLinks : Option Bool) :
    Settings :=
  let given := ofGiven limit schemes mailLinks
  { given with limit := max given.limit 1 }

/-- A letter of ASCII and then letters, digits and the signs `+`, `-` and `.`. -/
def isScheme : Text → Bool
  | [] => false
  | c :: r => c.isAlpha && r.all fun c => c.isAlphanum || c == '+' || c == '-' || c == '.'

/-- The first scheme that is none. -/
def badScheme? (s : Settings) : Option Text := s.schemes.find? (!isScheme ·)

/-- Every scheme is one. -/
def validate (s : Settings) : Except SetupError Unit :=
  match s.badScheme? with
  | some scheme => .error (.badScheme scheme)
  | none => .ok ()

end Settings

end CleanMarkup

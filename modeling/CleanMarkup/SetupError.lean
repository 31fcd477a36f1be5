import CleanMarkup.Pattern.Error
import CleanMarkup.Text.Quoted

/-!
# What can go wrong in setting up

Cleaning never fails. A pattern of a policy may not compile, and a scheme may be none.
-/

namespace CleanMarkup

/-- The two lists of a policy. -/
inductive PolicyPart
  | allowed | forbidden
  deriving DecidableEq

/-- Why a cleaner cannot be set up. -/
inductive SetupError
  | badPattern (part : PolicyPart) (fault : Pattern.Fault)
  | badScheme (scheme : Text)
  deriving DecidableEq

namespace SetupError

/-- The error in words, without the details of a pattern. -/
def message : SetupError → Text
  | badPattern .allowed _ => "Invalid allowed tag pattern".toList
  | badPattern .forbidden _ => "Invalid forbidden tag pattern".toList
  | badScheme scheme => "Invalid URL scheme: ".toList ++ scheme.quoted

end SetupError

end CleanMarkup

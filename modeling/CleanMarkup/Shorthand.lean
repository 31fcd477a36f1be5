import CleanMarkup.Cleaner
import CleanMarkup.Url

/-!
# Shorthand

Cleaning with the standard policy, settings and check of addresses.
-/

namespace CleanMarkup

namespace Cleaner

/-- The cleaner of a policy with nothing else set. -/
def ofPolicy (policy : Policy) : Cleaner := { policy, settings := {}, check := AbsoluteUrl.check }

/-- The cleaner where nothing is set. -/
def standard : Cleaner := ofPolicy .standard

/-- A cleaner of a policy and settings, whose schemes have to be schemes. -/
def ofSettings (policy : Policy) (settings : Settings) (check : UrlCheck) :
    Except SetupError Cleaner := do
  settings.validate
  .ok { policy, settings, check }

end Cleaner

/-- The markup that is safe to show. -/
def cleanHtml (input : Text) : Text := (Cleaner.standard.clean input).html

/-- Nothing in the markup is a violation. -/
def isClean (input : Text) : Bool := (Cleaner.standard.clean input).isValid

/-- The words of the markup. -/
def plainWords (input : Text) : Text := (Cleaner.standard.clean input).text

/-- Markup that is not trusted is cleaned; other markup stays as it is. -/
def cleanUnlessTrusted (untrusted : Bool) (input : Text) : Text :=
  if untrusted then cleanHtml input else input

end CleanMarkup

import CleanMarkup.Cleaner

/-!
# Summaries

How a policy and a cleaner are shown on one line.
-/

namespace CleanMarkup

/-- A pattern by its source. -/
def Pattern.summary (p : Pattern) : Text := "Regex(".toList ++ p.source.quoted ++ ")".toList

/-- A policy by its patterns. -/
def Policy.summary (p : Policy) : Text :=
  "Policy \x7b allowed: ".toList ++ p.allowed.summary ++ ", forbidden: ".toList ++
    p.forbidden.summary ++ " \x7d".toList

/-- Settings by their values. -/
def Settings.summary (s : Settings) : Text :=
  "SanitizerOptions \x7b max_violations_tracked: ".toList ++ Text.ofNat s.limit ++
    ", allowed_url_schemes: ".toList ++ Text.quotedList s.schemes ++ ", rewrite_mailto: ".toList ++
    (if s.mailLinks then "true" else "false").toList ++ " \x7d".toList

/-- A cleaner by its policy and settings. -/
def Cleaner.summary (c : Cleaner) : Text :=
  "Sanitizer \x7b policy: ".toList ++ c.policy.summary ++ ", options: ".toList ++
    c.settings.summary ++ ", .. \x7d".toList

end CleanMarkup

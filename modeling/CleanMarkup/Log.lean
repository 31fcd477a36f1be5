import CleanMarkup.Cleaner

/-!
# Logs

What is logged about cleaning. Tokens and the handling of attributes are for tracing; violations
and the result are worth a look while debugging.
-/

namespace CleanMarkup

/-- How much is logged: tracing includes debugging. -/
inductive LogLevel
  | debug | trace
  deriving DecidableEq

/-- A line of the log. -/
structure LogRecord where
  level : LogLevel
  message : Text
  deriving DecidableEq

namespace Event

/-- The line that an event leaves in the log, if any. -/
def logRecord? : Event → Option LogRecord
  | .token t => some ⟨.trace, "token ".toList ++ t.describe⟩
  | .ruled tag attr rule =>
    some ⟨.trace, '<' :: tag ++ ' ' :: attr ++ "> matched rule ".toList ++ rule.label.quoted⟩
  | .declarationDropped name value fault =>
    some ⟨.trace, "dropping style ".toList ++ name ++ ':' :: value ++ " (".toList ++
      fault.words ++ ")".toList⟩
  | .suppressed tag =>
    some ⟨.trace, "suppressing <".toList ++ tag ++ "> without a valid url".toList⟩
  | .violation v =>
    if v.isEmpty then none
    else some ⟨.debug, "rejected ".toList ++ (Report.nameOf v).quoted ++ " (".toList ++ v ++
      ")".toList⟩
  | .asked _ _ _ | .html _ | .text _ | .val _ => none

end Event

namespace Report

/-- The line in the log when the verdict is settled. -/
def logRecord (r : Report) : LogRecord :=
  ⟨.debug, "sanitized ".toList ++ Text.ofNat r.length ++ " chars, ".toList ++
    Text.ofNat r.ledger.size ++ " violation(s), risk score ".toList ++ Text.ofNat r.risk⟩

end Report

namespace Cleaner

/-- The log of cleaning a text. -/
def log (c : Cleaner) (level : LogLevel) (input : Text) : List LogRecord :=
  let records := (c.events input).filterMap Event.logRecord? ++ [(c.clean input).logRecord]
  match level with
  | .trace => records
  | .debug => records.filter (·.level = .debug)

/-- The checks of addresses that were made while a text was cleaned, in order. -/
def checks (es : List Event) : List (Text × List Text × Bool) :=
  es.filterMap fun
    | .asked candidate schemes answer => some (candidate, schemes, answer)
    | _ => none

end Cleaner

end CleanMarkup

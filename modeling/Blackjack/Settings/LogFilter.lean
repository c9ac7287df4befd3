import Blackjack.Text.Blank

/-!
# The log filter

The filter directive is the configured log level without surrounding white space; where nothing is
configured, or only white space, it is the default.
-/

namespace Blackjack

/-- The directive where no log level is configured. -/
def defaultLogFilter : String := "info"

/-- The directive for a configured log level. -/
def logFilter (level : Option String) : String :=
  match Text.trim (level.getD "").toList with
  | [] => defaultLogFilter
  | directive => String.ofList directive

end Blackjack

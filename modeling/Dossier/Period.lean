/-!
# Periods

How often a document is collected.
-/

set_option autoImplicit false

namespace Dossier

inductive Period where
  | daily
  | weekly
  | monthly
  | quarterly
  | yearly
  deriving DecidableEq, Repr, Inhabited

namespace Period

def name : Period → String
  | .daily => "daily"
  | .weekly => "weekly"
  | .monthly => "monthly"
  | .quarterly => "quarterly"
  | .yearly => "yearly"

def options : List (String × Period) :=
  [.daily, .weekly, .monthly, .quarterly, .yearly].map fun p => (p.name, p)

end Period

end Dossier

import Dossier.Value.Basic

/-!
# Scopes

The scope in which the texts of one request are resolved: messages, constants, the criteria and
the lookups fetched so far. Some option values have a meaning of their own.
-/

set_option autoImplicit false

namespace Dossier

/-- The option values that choose all, any or none of a set, or stand for an optional value that
was not chosen. -/
def idAll : String := "fbd4bc94-23b7-40fa-b3bc-b3a0e7faf173"

def idAny : String := "3cc42087-3b95-4b7e-82e4-d2d8466daa8f"

def idNone : String := "deeee249-c2eb-4598-8824-3db79927c7a6"

def idUndefined : String := "a9e2b542-33b8-4dde-93d6-7eb97d395c08"

def constants : Fields :=
  [("ID_ALL", .text idAll), ("ID_ANY", .text idAny), ("ID_NONE", .text idNone),
    ("ID_UNDEFINED", .text idUndefined)]

abbrev Messages := List (String × String)

def Messages.toFields (messages : Messages) : Fields :=
  messages.map fun (key, s) => (key, .text s)

def Scope.start (criteria messages : Fields) : Fields :=
  [("messages", .object messages), ("constants", .object constants),
    ("criteria", .object criteria), ("lookups", .object [])]

end Dossier

import Dossier.Host.EnvFile

/-!
# Where settings come from

A setting is looked up by its name among the variables of the process and then among the bindings
of an environment file. Names are compared without regard to case.
-/

set_option autoImplicit false

namespace Dossier

/-- A name without regard to case. The Kelvin sign is a letter K. -/
def foldedName (s : String) : List Char :=
  s.toList.map fun c => if c = '\u212A' then 'k' else c.toLower

/-- The value of a name; of several that differ in case the last counts. -/
def lastNamed? {α : Type} (entries : List (String × α)) (name : String) : Option α :=
  (entries.reverse.find? fun entry => foldedName entry.1 == foldedName name).map Prod.snd

structure Surroundings where
  process : Variables
  file : EnvFile.Bindings
  deriving Repr, Inhabited

namespace Surroundings

/-- The value for a name in the environment file; a key without a value sets nothing. -/
def filed? (s : Surroundings) (name : String) : Option String := (lastNamed? s.file name).join

/-- The value for a name; the process comes first. -/
def valueOf? (s : Surroundings) (name : String) : Option String :=
  (lastNamed? s.process name).or (s.filed? name)

end Surroundings

end Dossier

import Dossier.Host.Settings

/-!
# Setting up the log

The log has a level and sinks, of which some belong to the program around it. Setting it up puts one
sink in the place of all that earlier setups attached, so it may be done any number of times.
-/

set_option autoImplicit false

namespace Dossier.Log

structure Sink where
  own : Bool
  format : LogFormat
  deriving DecidableEq, Repr

structure Logger where
  level : Option LogLevel
  sinks : List Sink
  deriving Repr

namespace Logger

def untouched : Logger := ⟨none, []⟩

def setUp (s : Settings) (l : Logger) : Logger where
  level := some s.logLevel
  sinks := l.sinks.filter (!·.own) ++ [⟨true, s.logFormat⟩]

theorem setUp_own (s : Settings) (l : Logger) :
    (l.setUp s).sinks.filter (·.own) = [⟨true, s.logFormat⟩] := by
  simp [setUp, List.filter_append, List.filter_filter]

theorem setUp_setUp (s s' : Settings) (l : Logger) : (l.setUp s').setUp s = l.setUp s := by
  simp [setUp, List.filter_append, List.filter_filter]

end Logger

def formatterName : LogFormat → String
  | .json => "JsonFormatter"
  | .text => "Formatter"

end Dossier.Log

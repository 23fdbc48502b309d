import Dossier.Calendar.Moment

/-!
# Time zones

A zone gives, for every instant, the offset from universal time in force there and its short name.
Zones are found by name in a database that belongs to the system: its offsets are not known here,
only that they depend on nothing but the instant. A name may be unknown to the database or be no
name of a zone at all. The database is a tree of files, so a name may also lead to a folder or be
too long for a file.
-/

set_option autoImplicit false

namespace Dossier.Calendar

structure LocalTime where
  offset : Int
  name : String
  deriving DecidableEq, Repr, Inhabited

abbrev Zone := Int → LocalTime

def Zone.universal : Zone := fun _ => ⟨0, "UTC"⟩

inductive Zones.Found where
  | zone (z : Zone)
  | unknown
  | malformed
  | folder
  | tooLong

structure Zones where
  find : String → Zones.Found

namespace Zones

def utc : Zones where
  find name := if name = "UTC" then .zone .universal else .unknown

end Zones

end Dossier.Calendar

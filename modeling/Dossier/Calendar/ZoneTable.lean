import Dossier.Calendar.Zone
import Dossier.Host.Folder

/-!
# A small zone database

The zones that the command line brings along, by their names in the time zone database, which are
read exactly as written; any other name is unknown to it. A rule has a standard time and may have a
daylight time, which starts and ends on a numbered Sunday of a month. Each zone has the rule in
force since 2019; earlier periods are given where the rule differed. Nothing is proved from these
entries: the results about dates hold for every database.
-/

set_option autoImplicit false

namespace Dossier.Calendar

structure Change where
  month : Nat
  week : Nat
  second : Int
  deriving DecidableEq, Repr

/-- A rule for the whole of a period. Daylight time starts at a standard time of day and ends at a
daylight time of day. -/
structure Rule where
  standard : LocalTime
  daylight : Option (LocalTime × Change × Change)
  deriving Repr

structure Periods where
  past : List (Int × Rule)
  rule : Rule
  deriving Repr

namespace Change

def reading (c : Change) (year : Nat) : Int :=
  let first : Int := (Date.ordinal ⟨year, c.month, 1⟩ : Nat)
  let sunday := first + (6 - Date.weekday first : Nat)
  let last := first + daysInMonth year c.month - 1
  let day := sunday + 7 * (c.week - 1 : Nat)
  let day := if last < day then day - 7 else day
  day * 86400 + c.second

end Change

namespace Rule

/-- The local time at an instant in seconds, in a year of universal time. In the southern half
of the world daylight time holds at both ends of the year. -/
def localTime (r : Rule) (second : Int) (year : Nat) : LocalTime :=
  match r.daylight with
  | none => r.standard
  | some (summer, start, finish) =>
    let start := start.reading year - r.standard.offset
    let finish := finish.reading year - summer.offset
    let inside :=
      if start < finish then decide (start ≤ second) && decide (second < finish)
      else decide (second < finish) || decide (start ≤ second)
    if inside then summer else r.standard

end Rule

namespace Periods

def ruleAt (p : Periods) (second : Int) : Rule :=
  match p.past.find? (fun period => decide (second < period.1)) with
  | some (_, rule) => rule
  | none => p.rule

def zone (p : Periods) : Zone := fun instant =>
  let second := instant / microsPerSecond
  let year := ((Moment.ofReading? instant).map (·.1.year)).getD 1
  (p.ruleAt second).localTime second year

def clock (hour minute : Int) : Int := (hour * 60 + minute) * 60

def fixed (offset : Int) (name : String) : Periods := ⟨[], ⟨⟨offset, name⟩, none⟩⟩

def northAmerica (hour minute : Int) (standard summer : String) : Rule :=
  ⟨⟨clock hour minute, standard⟩,
    some (⟨clock (hour + 1) minute, summer⟩, ⟨3, 2, clock 2 0⟩, ⟨11, 1, clock 2 0⟩)⟩

def europe (hour : Int) (standard summer : String) : Rule :=
  ⟨⟨clock hour 0, standard⟩,
    some (⟨clock (hour + 1) 0, summer⟩, ⟨3, 5, clock (hour + 1) 0⟩, ⟨10, 5, clock (hour + 2) 0⟩)⟩

def australia (hour minute : Int) (standard summer : String) : Rule :=
  ⟨⟨clock hour minute, standard⟩,
    some (⟨clock (hour + 1) minute, summer⟩, ⟨10, 1, clock 2 0⟩, ⟨4, 1, clock 3 0⟩)⟩

def newYorkBefore2007 : Rule :=
  ⟨⟨clock (-5) 0, "EST"⟩,
    some (⟨clock (-4) 0, "EDT"⟩, ⟨4, 1, clock 2 0⟩, ⟨10, 5, clock 2 0⟩)⟩

/-- Until February 2019 daylight time ran from the first Sunday of November to the third Sunday
of February. -/
def saoPauloBefore2019 : Rule :=
  ⟨⟨clock (-3) 0, "-03"⟩,
    some (⟨clock (-2) 0, "-02"⟩, ⟨11, 1, clock 0 0⟩, ⟨2, 3, clock 0 0⟩)⟩

def londonPast : List (Int × Rule) :=
  [(epochSeconds - 37242000, europe 0 "GMT" "BST"),
   (epochSeconds + 57722400, ⟨⟨clock 1 0, "BST"⟩, none⟩)]

def newYork : Periods :=
  ⟨[(epochSeconds + 1167627600, newYorkBefore2007)], northAmerica (-5) 0 "EST" "EDT"⟩

def saoPaulo : Periods :=
  ⟨[(epochSeconds + 1550368800, saoPauloBefore2019)], ⟨⟨clock (-3) 0, "-03"⟩, none⟩⟩

def tokyo : Periods :=
  ⟨[(epochSeconds - 2587712400, ⟨⟨33539, "LMT"⟩, none⟩)], ⟨⟨clock 9 0, "JST"⟩, none⟩⟩

def dublin : Rule :=
  ⟨⟨clock 1 0, "IST"⟩,
    some (⟨0, "GMT"⟩, ⟨10, 5, clock 2 0⟩, ⟨3, 5, clock 1 0⟩)⟩

def lordHowe : Rule :=
  ⟨⟨clock 10 30, "+1030"⟩,
    some (⟨clock 11 0, "+11"⟩, ⟨10, 1, clock 2 0⟩, ⟨4, 1, clock 2 0⟩)⟩

def auckland : Rule :=
  ⟨⟨clock 12 0, "NZST"⟩,
    some (⟨clock 13 0, "NZDT"⟩, ⟨9, 5, clock 2 0⟩, ⟨4, 1, clock 3 0⟩)⟩

def chatham : Rule :=
  ⟨⟨clock 12 45, "+1245"⟩,
    some (⟨clock 13 45, "+1345"⟩, ⟨9, 5, clock 2 45⟩, ⟨4, 1, clock 3 45⟩)⟩

def table : List (String × Periods) :=
  [("UTC", fixed 0 "UTC"), ("Etc/UTC", fixed 0 "UTC"), ("GMT", fixed 0 "GMT"),
   ("America/New_York", newYork),
   ("America/Chicago", ⟨[], northAmerica (-6) 0 "CST" "CDT"⟩),
   ("America/Denver", ⟨[], northAmerica (-7) 0 "MST" "MDT"⟩),
   ("America/Los_Angeles", ⟨[], northAmerica (-8) 0 "PST" "PDT"⟩),
   ("US/Pacific", ⟨[], northAmerica (-8) 0 "PST" "PDT"⟩),
   ("America/Phoenix", fixed (clock (-7) 0) "MST"),
   ("America/Halifax", ⟨[], northAmerica (-4) 0 "AST" "ADT"⟩),
   ("America/St_Johns", ⟨[], northAmerica (-3) (-30) "NST" "NDT"⟩),
   ("America/Sao_Paulo", saoPaulo),
   ("Europe/London", ⟨londonPast, europe 0 "GMT" "BST"⟩),
   ("Europe/Dublin", ⟨[], dublin⟩),
   ("Europe/Paris", ⟨[], europe 1 "CET" "CEST"⟩),
   ("Europe/Berlin", ⟨[], europe 1 "CET" "CEST"⟩),
   ("Europe/Athens", ⟨[], europe 2 "EET" "EEST"⟩),
   ("Asia/Tokyo", tokyo),
   ("Asia/Kolkata", fixed (clock 5 30) "IST"),
   ("Asia/Calcutta", fixed (clock 5 30) "IST"),
   ("Asia/Kathmandu", fixed (clock 5 45) "+0545"),
   ("Asia/Dubai", fixed (clock 4 0) "+04"),
   ("Asia/Shanghai", fixed (clock 8 0) "CST"),
   ("Asia/Singapore", fixed (clock 8 0) "+08"),
   ("Australia/Sydney", ⟨[], australia 10 0 "AEST" "AEDT"⟩),
   ("Australia/Adelaide", ⟨[], australia 9 30 "ACST" "ACDT"⟩),
   ("Australia/Lord_Howe", ⟨[], lordHowe⟩),
   ("Pacific/Auckland", ⟨[], auckland⟩),
   ("Pacific/Chatham", ⟨[], chatham⟩),
   ("Pacific/Kiritimati", fixed (clock 14 0) "+14"),
   ("Pacific/Honolulu", fixed (clock (-10) 0) "HST"),
   ("Etc/GMT+5", fixed (clock (-5) 0) "-05"),
   ("Etc/GMT-14", fixed (clock 14 0) "+14")]

def regions : List String :=
  ["Africa", "America", "America/Argentina", "America/Indiana", "America/Kentucky",
   "America/North_Dakota", "Antarctica", "Arctic", "Asia", "Atlantic", "Australia", "Brazil",
   "Canada", "Chile", "Etc", "Europe", "Indian", "Mexico", "Pacific", "US"]

def nameParts (name : String) : Option String × String :=
  let chars := name.toList.reverse
  let inner := chars.takeWhile (· != '/')
  match chars.drop inner.length with
  | [] => (none, name)
  | _ :: region => (some (String.ofList region.reverse), String.ofList inner.reverse)

end Periods

/-- The zones of the table. The name of a region leads to a folder, and a name inside a region, or
inside none, may be too long. -/
def Zones.table : Zones where
  find name :=
    let (region, inner) := Periods.nameParts name
    if Periods.regions.contains name then .folder
    else if inner.utf8ByteSize > Folder.nameLimit && region.all Periods.regions.contains then
      .tooLong
    else
      match Periods.table.lookup name with
      | some p => .zone p.zone
      | none => .unknown

end Dossier.Calendar

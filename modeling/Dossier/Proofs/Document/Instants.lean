import Dossier.Proofs.Calendar.Universal
import Dossier.Proofs.Host.Frame
import Dossier.Document.Format

/-!
# Dates that are shown alike

A date is shown by its instant, so values that name one instant are shown alike in every zone, a
moment and its text among them unless the offset is of less than a second. By universal time the
text gives back the minute.
-/

set_option autoImplicit false

namespace Dossier.Format

open Run Calendar

variable {zones : Zones} {a b v : Value} {m n : Moment} {viewer : Viewer}

theorem isTruthy_of_momentOf? (hv : momentOf? v = some m) : v.isTruthy = true := by
  cases v with
  | moment _ => rfl
  | date _ => rfl
  | text s =>
    rw [Value.isTruthy, bne_iff_ne]
    rintro rfl
    cases hv
  | _ => cases hv

def instant (zones : Zones) (instant : ℤ) (viewer : Viewer) : Run (Option String) := do
  let name ← zoneName viewer.timeZone
  let zone ← lift (zone zones name)
  some <$> lift (showInstant zone instant)

theorem date_eq_instant (hv : momentOf? v = some m) (viewer : Viewer) :
    date zones v viewer = instant zones m.instant viewer := by
  rw [date, if_pos (isTruthy_of_momentOf? hv), hv]
  rfl

theorem date_congr (ha : momentOf? a = some m) (hb : momentOf? b = some n)
    (h : m.instant = n.instant) (viewer : Viewer) : date zones a viewer = date zones b viewer := by
  rw [date_eq_instant ha, date_eq_instant hb, h]

def Readable (offset : Option ℤ) : Prop :=
  ∀ micros, offset = some micros → micros = 0 ∨ microsPerSecond ≤ micros.natAbs

theorem readOffset_of_readable {offset : Option ℤ} (h : Readable offset) :
    offset.map Iso.readOffset = offset := by
  cases offset with
  | none => rfl
  | some micros =>
    rw [Option.map_some, Iso.readOffset]
    rcases h micros rfl with rfl | hlarge
    · rfl
    · rw [if_neg (not_lt.mpr hlarge)]

/-- A moment and its text are shown alike. -/
theorem date_momentText (hm : m.Valid) (hoffset : Readable m.offset) (viewer : Viewer) :
    date zones (.moment m) viewer =
      date zones (.text (String.ofList (Iso.momentChars 'T' m))) viewer := by
  have htext := momentOf?_momentText hm
  rw [readOffset_of_readable hoffset] at htext
  exact date_congr rfl htext rfl viewer

/-! ## Universal time -/

def NamesUniversal (zones : Zones) (name : String) : Prop :=
  zones.find name = .zone .universal ∨ zones.find name = .unknown ∨ zones.find name = .malformed

theorem zone_universal {name : String} (hname : NamesUniversal zones name) :
    zone zones name = .ok .universal := by
  unfold zone
  rcases hname with hname | hname | hname <;> rw [hname]

section Universal

variable {h : Host} {name : String} (hviewer : (zoneName viewer.timeZone h).1 = .ok name)
  (hname : NamesUniversal zones name)
include hviewer hname

theorem instant_universal (i : ℤ) :
    (instant zones i viewer h).1 = (showInstant .universal i).map some := by
  rw [instant, bind_of_ok hviewer, zone_universal hname, bind_apply, lift_apply]
  dsimp only
  rw [map_apply, lift_apply]

/-- By universal time values are shown alike when their instants lie in one minute, and not else. -/
theorem date_universal_iff (ha : momentOf? a = some m) (hb : momentOf? b = some n) :
    (∃ s, (date zones a viewer h).1 = .ok (some s) ∧ (date zones b viewer h).1 = .ok (some s)) ↔
      InYears m.instant ∧ m.instant / microsPerMinute = n.instant / microsPerMinute := by
  rw [date_eq_instant ha, date_eq_instant hb, instant_universal hviewer hname,
    instant_universal hviewer hname, ← showInstant_universal_iff]
  have hshown (x : Except Failure String) (s : String) : x.map some = .ok (some s) ↔ x = .ok s := by
    cases x <;> simp [Except.map]
  simp only [hshown]

theorem date_universal_out (ha : momentOf? a = some m) (hout : ¬ InYears m.instant) :
    (date zones a viewer h).1 = .error (.fault .dateOutOfRange) := by
  rw [date_eq_instant ha, instant_universal hviewer hname, showInstant_universal_out hout]
  rfl

end Universal

def reader : Viewer := ⟨some "UTC", none, none⟩

end Dossier.Format

import Dossier.Value.Wire

/-!
# JSON on the wire

A value that came in as JSON holds no dates and no times, and when its numbers are finite it goes
out as it came.
-/

set_option autoImplicit false

namespace Dossier.Value

mutual

def isJson : Value → Bool
  | .float x => x.isFinite
  | .date _ => false
  | .moment _ => false
  | .clock _ => false
  | .list items => isJsonItems items
  | .object fields => isJsonFields fields
  | _ => true

def isJsonItems : List Value → Bool
  | [] => true
  | v :: rest => isJson v && isJsonItems rest

def isJsonFields : Fields → Bool
  | [] => true
  | (_, v) :: rest => isJson v && isJsonFields rest

end

theorem isJsonItems_iff {items : List Value} :
    isJsonItems items = true ↔ ∀ v ∈ items, v.isJson = true := by
  induction items with
  | nil => simp [isJsonItems]
  | cons v rest ih => simp [isJsonItems, ih]

theorem isJsonFields_iff {fields : Fields} :
    isJsonFields fields = true ↔ ∀ entry ∈ fields, entry.2.isJson = true := by
  induction fields with
  | nil => simp [isJsonFields]
  | cons entry rest ih =>
    obtain ⟨key, v⟩ := entry
    simp [isJsonFields, ih]

mutual

/-- JSON goes out as it came. -/
theorem toWire_of_isJson : ∀ {v : Value}, v.isJson = true → v.toWire = v
  | .float _, hv => if_pos hv
  | .list _, hv => congrArg Value.list (toWireItems_of_isJson hv)
  | .object _, hv => congrArg Value.object (toWireFields_of_isJson hv)
  | .null, _ => rfl
  | .bool _, _ => rfl
  | .int _, _ => rfl
  | .text _, _ => rfl

theorem toWireItems_of_isJson : ∀ {items : List Value}, isJsonItems items = true →
    toWireItems items = items
  | [], _ => rfl
  | v :: rest, hitems => by
    obtain ⟨hv, hrest⟩ := Bool.and_eq_true_iff.mp hitems
    rw [toWireItems, toWire_of_isJson hv, toWireItems_of_isJson hrest]

theorem toWireFields_of_isJson : ∀ {fields : Fields}, isJsonFields fields = true →
    toWireFields fields = fields
  | [], _ => rfl
  | (key, v) :: rest, hfields => by
    obtain ⟨hv, hrest⟩ := Bool.and_eq_true_iff.mp hfields
    rw [toWireFields, toWire_of_isJson hv, toWireFields_of_isJson hrest]

end

/-- A free-form entry is written as it came, unless it is null. -/
theorem free_of_isJson {v : Value} (hv : v.isJson = true) :
    v.free = if v.isNull then none else some v := by
  cases v with
  | null => rfl
  | _ => exact congrArg some (toWire_of_isJson hv)

end Dossier.Value

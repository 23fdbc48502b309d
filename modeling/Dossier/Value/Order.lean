import Dossier.Value.Display
import Dossier.Text.Collation
import Dossier.Failure
import Dossier.Sorting

/-!
# The order of values

Null comes last, true comes before false, numbers go by their amounts and dates by time. All other
values go by the collation keys of their displayed texts. A date and a moment have no order, nor
have two moments of which only one has an offset.
-/

set_option autoImplicit false

namespace Dossier.Value

open Calendar

def orderOf {α : Type} [LT α] [DecidableRel (α := α) (· < ·)] (a b : α) : Ordering :=
  if a < b then .lt else if b < a then .gt else .eq

def amount? : Value → Option Numeric
  | .int n => some (.int n)
  | .float x => some (.float x)
  | _ => none

def dateOrder (a b : Date) : Ordering := compare a.ordinal b.ordinal

/-- The order of two dates or moments; the inner one is missing when there is none. -/
def timeOrder? : Value → Value → Option (Option Ordering)
  | .date a, .date b => some (some (dateOrder a b))
  | .moment a, .moment b => some (a.compare? b)
  | .date _, .moment _ => some none
  | .moment _, .date _ => some none
  | _, _ => none

def textOrder (a b : Value) : Ordering :=
  orderOf (Text.collationKey a.display) (Text.collationKey b.display)

def order (a b : Value) : Except Failure Ordering :=
  match a, b with
  | .null, .null => .ok .eq
  | _, .null => .ok .lt
  | .null, _ => .ok .gt
  | .bool x, .bool y => .ok (if x = y then .eq else if x then .lt else .gt)
  | a, b =>
    match a.amount?, b.amount? with
    | some x, some y => .ok ((x.compare? y).getD .eq)
    | _, _ =>
      match timeOrder? a b with
      | some (some o) => .ok o
      | some none => .error (.fault .incomparable)
      | none => .ok (textOrder a b)

def sortBy {α : Type} (key : α → Value) (items : List α) : Except Failure (List α) :=
  Sorting.sort (fun a b => (order (key a) (key b)).map (· == .lt)) items

end Dossier.Value

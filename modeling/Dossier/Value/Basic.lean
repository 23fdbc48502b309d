import Dossier.Number.Binary
import Dossier.Calendar.Moment

/-!
# Values

The data that definitions, criteria and fetched rows are made of: JSON with integers and binary
numbers kept apart, and with dates, moments and times of day as values of their own. Objects keep
the order of their keys and hold each key once.
-/

set_option autoImplicit false

namespace Dossier

open Number Calendar

inductive Value where
  | null
  | bool (b : Bool)
  | int (n : Int)
  | float (x : Binary)
  | text (s : String)
  | date (d : Date)
  | moment (m : Moment)
  | clock (t : Clock)
  | list (items : List Value)
  | object (fields : List (String × Value))
  deriving Repr, Inhabited

abbrev Fields := List (String × Value)

namespace Fields

def get? (fields : Fields) (key : String) : Option Value := fields.lookup key

def has (fields : Fields) (key : String) : Bool := (fields.lookup key).isSome

def get (fields : Fields) (key : String) : Value := (fields.lookup key).getD .null

def put : Fields → String → Value → Fields
  | [], key, value => [(key, value)]
  | (k, v) :: rest, key, value =>
    if k = key then (k, value) :: rest else (k, v) :: put rest key value

def erase (fields : Fields) (key : String) : Fields := fields.filter (·.1 ≠ key)

def merge (base patch : Fields) : Fields :=
  patch.foldl (fun fields entry => fields.put entry.1 entry.2) base

def ofEntries (entries : Fields) : Fields := merge [] entries

def keys (fields : Fields) : List String := fields.map Prod.fst

theorem get?_put_self (fields : Fields) (key : String) (value : Value) :
    (fields.put key value).get? key = some value := by
  induction fields with
  | nil => simp [put, get?]
  | cons entry rest ih =>
    obtain ⟨k, v⟩ := entry
    by_cases h : k = key
    · simp [put, get?, h]
    · have h' : (key == k) = false := by simpa using fun e => h e.symm
      simpa [put, get?, h, List.lookup_cons, h'] using ih

theorem get?_put_of_ne (fields : Fields) {key other : String} (value : Value)
    (hne : other ≠ key) : (fields.put key value).get? other = fields.get? other := by
  induction fields with
  | nil =>
    have h' : (other == key) = false := by simpa using hne
    simp [put, get?, List.lookup_cons, h']
  | cons entry rest ih =>
    obtain ⟨k, v⟩ := entry
    by_cases h : k = key
    · subst h
      have h' : (other == k) = false := by simpa using hne
      simp [put, get?, List.lookup_cons, h']
    · by_cases ho : other = k
      · simp [put, get?, h, ho]
      · have h' : (other == k) = false := by simpa using ho
        simpa [put, get?, h, List.lookup_cons, h'] using ih

end Fields

namespace Value

def isTruthy : Value → Bool
  | .null => false
  | .bool b => b
  | .int n => n != 0
  | .float x => !x.isZero
  | .text s => s != ""
  | .date _ => true
  | .moment _ => true
  | .clock _ => true
  | .list items => !items.isEmpty
  | .object fields => !fields.isEmpty

def isNull : Value → Bool
  | .null => true
  | _ => false

def text? : Value → Option String
  | .text s => some s
  | _ => none

def int? : Value → Option Int
  | .int n => some n
  | _ => none

def object? : Value → Option Fields
  | .object fields => some fields
  | _ => none

def list? : Value → Option (List Value)
  | .list items => some items
  | _ => none

inductive Numeric where
  | int (n : Int)
  | float (x : Binary)

def numeric? : Value → Option Numeric
  | .bool b => some (.int (if b then 1 else 0))
  | .int n => some (.int n)
  | .float x => some (.float x)
  | _ => none

def Numeric.compare? : Numeric → Numeric → Option Ordering
  | .int a, .int b => some (compare a b)
  | .int a, .float y => Binary.compareInt? a y
  | .float x, .int b => (Binary.compareInt? b x).map Ordering.swap
  | .float x, .float y => Binary.compare? x y

def sameMoment (a b : Moment) : Bool := a.compare? b == some .eq

mutual

/-- Equality of values. Numbers and truth values are equal when their amounts are; objects when
they hold equal values under the same keys in any order. -/
def same : Value → Value → Bool
  | .null, .null => true
  | .text s, .text t => s == t
  | .date d, .date e => d == e
  | .moment m, .moment n => sameMoment m n
  | .clock t, .clock u => t == u
  | .list xs, .list ys => sameList xs ys
  | .object fs, .object gs => fs.length == gs.length && sameFields fs gs
  | a, b =>
    match a.numeric?, b.numeric? with
    | some x, some y => x.compare? y == some .eq
    | _, _ => false

def sameList : List Value → List Value → Bool
  | [], [] => true
  | x :: xs, y :: ys => same x y && sameList xs ys
  | _, _ => false

def sameFields : Fields → Fields → Bool
  | [], _ => true
  | (key, v) :: rest, gs =>
    (match gs.lookup key with
      | some w => same v w
      | none => false) && sameFields rest gs

end

end Value

end Dossier

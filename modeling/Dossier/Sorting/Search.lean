/-!
# Searching sorted items

The place of a key among sorted items: the first index from which on no item is below the key. The
search halves a range; when the place is likely to be near one end, strides from there that double
in length first find the range. A question about an item may fail.
-/

set_option autoImplicit false

namespace Dossier.Sorting

variable {m : Type → Type} [Monad m] {α : Type}

/-- Halve a range until it is empty. The fuel bounds the halvings. -/
def halve (below : α → m Bool) (items : Array α) : Nat → Nat → Nat → m Nat
  | 0, low, _ => pure low
  | fuel + 1, low, high =>
    if low < high then
      let middle := low + (high - low) / 2
      match items[middle]? with
      | none => pure low
      | some x => do
        if ← below x then halve below items fuel (middle + 1) high
        else halve below items fuel low middle
    else pure low

/-- Stride on while the item at the end of the stride passes: the last stride that passed and the
first that did not, or the limit. -/
def stride (passes : Nat → m Bool) (limit : Nat) : Nat → Nat → Nat → m (Nat × Nat)
  | 0, last, next => pure (last, min next limit)
  | fuel + 1, last, next =>
    if next < limit then do
      if ← passes next then stride passes limit fuel next (2 * next + 1)
      else pure (last, next)
    else pure (last, limit)

def gallop (below : α → m Bool) (items : Array α) (start : Nat) : m Nat :=
  let passes (wanted : Bool) (i : Nat) : m Bool :=
    match items[i]? with
    | none => pure false
    | some x => (· == wanted) <$> below x
  match items[start]? with
  | none => pure 0
  | some x => do
    if ← below x then
      let (last, next) ← stride (fun k => passes true (start + k)) (items.size - start)
        items.size 0 1
      halve below items items.size (start + last + 1) (start + next)
    else
      let (last, next) ← stride (fun k => passes false (start - k)) (start + 1) items.size 0 1
      halve below items items.size (start + 1 - next) (start - last)

end Dossier.Sorting

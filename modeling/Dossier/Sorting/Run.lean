import Dossier.Sorting.Search

/-!
# Runs

A run is a row of items that is sorted already, or falls strictly and is turned round. A run that is
too short grows by insertion: every later item is put after all items that it is not smaller than.
-/

set_option autoImplicit false

namespace Dossier.Sorting

variable {m : Type → Type} [Monad m] {α : Type}

def insert (less : α → α → m Bool) (sorted : List α) (x : α) : m (List α) := do
  let k ← halve (fun y => (!·) <$> less x y) sorted.toArray (sorted.length + 1) 0 sorted.length
  pure (sorted.take k ++ x :: sorted.drop k)

def insertAll (less : α → α → m Bool) : List α → List α → m (List α)
  | sorted, [] => pure sorted
  | sorted, x :: rest => do
    let sorted ← insert less sorted x
    insertAll less sorted rest

def rising (less : α → α → m Bool) : List α → α → List α → m (List α × List α)
  | run, _, [] => pure (run, [])
  | run, last, x :: rest => do
    if ← less x last then pure (run, x :: rest)
    else rising less (x :: run) x rest

def falling (less : α → α → m Bool) : List α → α → List α → m (List α × List α)
  | run, _, [] => pure (run, [])
  | run, last, x :: rest => do
    if ← less x last then falling less (x :: run) x rest
    else pure (run, x :: rest)

def headRun (less : α → α → m Bool) : List α → m (List α × List α)
  | x :: y :: rest => do
    if ← less y x then falling less [y, x] y rest
    else
      let (run, rest) ← rising less [y, x] y rest
      pure (run.reverse, rest)
  | items => pure (items, [])

def nextRun (less : α → α → m Bool) (least : Nat) (items : List α) : m (List α × List α) := do
  let (run, rest) ← headRun less items
  let more := least - run.length
  let run ← insertAll less run (rest.take more)
  pure (run, rest.drop more)

/-- The least length of the runs of so many items: below 64, and such that the number of runs is
a power of two or little less. -/
def leastRun (count : Nat) : Nat :=
  go count count false
where
  /-- Halve the number until it is small; one more if a half was lost. The fuel bounds the halvings.
  -/
  go : Nat → Nat → Bool → Nat
    | 0, n, _ => n
    | fuel + 1, n, lost =>
      if n < 64 then n + (if lost then 1 else 0)
      else go fuel (n / 2) (lost || n % 2 == 1)

end Dossier.Sorting

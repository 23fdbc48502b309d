import Dossier.Sorting.Run
import Dossier.Sorting.Merge

/-!
# Sorting by merging runs

A stable sort for comparisons that may fail. The items are cut into runs from left to right, and
neighbouring runs are merged. Which merges are done first follows from the power of the border
between two runs: the number of halvings of the whole after which the middles of the two runs lie
in different parts. Borders of greater power are merged away first.
-/

set_option autoImplicit false

namespace Dossier.Sorting

variable {m : Type → Type} [Monad m] {α : Type}

/-- A run that waits for its merge: the index of its first item, and the power of the border behind
it. -/
structure Waiting (α : Type) where
  start : Nat
  items : List α
  power : Nat

structure Pending (α : Type) where
  runs : List (Waiting α)
  galloping : Nat

/-- The power of the border between two runs in so many items: `a` and `b` are twice their middles.
The fuel bounds the halvings. -/
def borderPower (count : Nat) : Nat → Nat → Nat → Nat
  | 0, _, _ => 0
  | fuel + 1, a, b =>
    if count ≤ a then 1 + borderPower count fuel (2 * (a - count)) (2 * (b - count))
    else if count ≤ b then 1
    else 1 + borderPower count fuel (2 * a) (2 * b)

namespace Pending

def mergeTwo (less : α → α → m Bool) (galloping : Nat) (left right : Waiting α) :
    m (Waiting α × Nat) := do
  let (items, galloping) ← merge less galloping left.items right.items
  pure (⟨left.start, items, left.power⟩, galloping)

def settle (less : α → α → m Bool) (power : Nat) : Nat → Pending α → m (Pending α)
  | 0, p => pure p
  | fuel + 1, p =>
    match p.runs with
    | right :: left :: rest =>
      if left.power > power then do
        let (run, galloping) ← mergeTwo less p.galloping left right
        settle less power fuel ⟨run :: rest, galloping⟩
      else pure p
    | _ => pure p

def add (less : α → α → m Bool) (count : Nat) (p : Pending α) (items : List α) :
    m (Pending α) :=
  match p.runs with
  | [] => pure ⟨[⟨0, items, 0⟩], p.galloping⟩
  | last :: _ => do
    let a := 2 * last.start + last.items.length
    let b := a + last.items.length + items.length
    let power := borderPower count (count + 1) a b
    let p ← settle less power p.runs.length p
    let start := last.start + last.items.length
    match p.runs with
    | [] => pure p
    | last :: rest =>
      pure ⟨⟨start, items, 0⟩ :: { last with power := power } :: rest, p.galloping⟩

/-- Merge all runs into one: each time the last two, or the two before when the last one is the
longest of three. The fuel is the number of runs. -/
def collapse (less : α → α → m Bool) : Nat → Pending α → m (List α)
  | 0, p => pure (p.runs.reverse.flatMap (·.items))
  | fuel + 1, p =>
    match p.runs with
    | [] => pure []
    | [run] => pure run.items
    | right :: middle :: left :: rest =>
      if left.items.length < right.items.length then do
        let (run, galloping) ← mergeTwo less p.galloping left middle
        collapse less fuel ⟨right :: run :: rest, galloping⟩
      else do
        let (run, galloping) ← mergeTwo less p.galloping middle right
        collapse less fuel ⟨run :: left :: rest, galloping⟩
    | [right, left] => do
      let (run, galloping) ← mergeTwo less p.galloping left right
      collapse less fuel ⟨[run], galloping⟩

end Pending

/-- Cut items into runs and add them. The fuel is the number of items. -/
def addRuns (less : α → α → m Bool) (count : Nat) : Nat → Pending α → List α → m (Pending α)
  | 0, p, _ => pure p
  | _ + 1, p, [] => pure p
  | fuel + 1, p, items => do
    let (run, rest) ← nextRun less (leastRun count) items
    let p ← p.add less count run
    addRuns less count fuel p rest

def sort (less : α → α → m Bool) (items : List α) : m (List α) := do
  let count := items.length
  let p ← addRuns less count count ⟨[], leastRow⟩ items
  p.collapse less (p.runs.length + 1)

end Dossier.Sorting

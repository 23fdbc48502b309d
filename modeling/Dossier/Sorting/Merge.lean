import Dossier.Sorting.Search

/-!
# Merging two runs

Two sorted runs become one, in which an item of the first run stands before those of the second
that are not smaller. The merge works from one end, so that the shorter run is the one that must
leave its place. It takes items one at a time until one run has given many in a row. From then on
it gallops: it looks for whole rows that one run can give, until the rows are short again. The
length of a row that starts galloping is kept from merge to merge.
-/

set_option autoImplicit false

namespace Dossier.Sorting

variable {m : Type → Type} [Monad m] {α : Type}

inductive Direction where
  | forward
  | backward
  deriving DecidableEq, Repr

/-- A merge under way. Seen from the end that the merge works from, both runs start with the item
that goes out next; `short` is the run that left its place. Items that have gone out are kept last
first. -/
structure Merge (α : Type) where
  short : List α
  long : List α
  out : List α

namespace Merge

def isOver (s : Merge α) : Bool := s.long.isEmpty || s.short.length ≤ 1

/-- All items in the order in which they go out. The last item of the short run goes out last. -/
def all (s : Merge α) : List α := s.out.reverse ++ s.long ++ s.short

def takeShort (s : Merge α) (count : Nat) : Merge α :=
  ⟨s.short.drop count, s.long, (s.short.take count).reverse ++ s.out⟩

def takeLong (s : Merge α) (count : Nat) : Merge α :=
  ⟨s.short, s.long.drop count, (s.long.take count).reverse ++ s.out⟩

end Merge

def leastRow : Nat := 7

section Steps

variable (less : α → α → m Bool) (direction : Direction)

def longFirst (short long : α) : m Bool :=
  match direction with
  | .forward => less long short
  | .backward => less short long

/-- How many items at the head of a run go out in a row. The question is put to the run in its
own order. -/
def row (goesOut : α → m Bool) (run : List α) : m Nat :=
  match direction with
  | .forward => gallop goesOut run.toArray 0
  | .backward => do
    let place ← gallop (fun x => (!·) <$> goesOut x) run.reverse.toArray (run.length - 1)
    pure (run.length - place)

def shortRow (s : Merge α) : m (Nat × Merge α) :=
  match s.long with
  | [] => pure (0, s)
  | y :: _ => do
    let count ← row direction (fun x => (!·) <$> longFirst less direction x y) s.short
    let s := s.takeShort count
    pure (count, if s.isOver then s else s.takeLong 1)

def longRow (s : Merge α) : m (Nat × Merge α) :=
  match s.short with
  | [] => pure (0, s)
  | x :: _ => do
    let count ← row direction (longFirst less direction x) s.long
    let s := s.takeLong count
    pure (count, if s.isOver then s else s.takeShort 1)

def gallopOnce (s : Merge α) : m (Nat × Merge α) := do
  let (first, second) := match direction with
    | .forward => (shortRow less direction, longRow less direction)
    | .backward => (longRow less direction, shortRow less direction)
  let (one, s) ← first s
  if s.isOver then pure (one, s)
  else
    let (other, s) ← second s
    pure (max one other, s)

/-- How a merge proceeds: one item at a time, with the items in a row that the short and the long
run have given, or by galloping. -/
inductive Pace where
  | single (short long : Nat)
  | gallop

/-- Go on with a merge until it is over: all items, and the row that starts galloping from then on.
Every step takes items out; the fuel is their number. -/
def proceed : Nat → Pace → Nat → Merge α → m (List α × Nat)
  | 0, _, start, s => pure (s.all, start)
  | fuel + 1, .single short long, start, s =>
    match s.short, s.long with
    | x :: _, y :: _ => do
      let isLong ← longFirst less direction x y
      let s := if isLong then s.takeLong 1 else s.takeShort 1
      let (short, long) := if isLong then (0, long + 1) else (short + 1, 0)
      if s.isOver then pure (s.all, start)
      else if max short long ≥ start then proceed fuel .gallop start s
      else proceed fuel (.single short long) start s
    | _, _ => pure (s.all, start)
  | fuel + 1, .gallop, start, s => do
    let (count, s) ← gallopOnce less direction s
    if s.isOver then pure (s.all, start)
    else if count ≥ leastRow then proceed fuel .gallop (max 1 (start - 1)) s
    else proceed fuel (.single 0 0) (start + 1) s

/-- Merge a run that leaves its place with one that does not; the first item of the latter is known
to go out first. -/
def mergeFrom (start : Nat) (short long : List α) : m (List α × Nat) :=
  let s := (Merge.mk short long []).takeLong 1
  if s.isOver then pure (s.all, start)
  else proceed less direction (short.length + long.length) (.single 0 0) start s

end Steps

/-- Merge two runs. Items at the head of the first run and at the end of the second that are in
their places already are left out of the merge. -/
def merge (less : α → α → m Bool) (start : Nat) (a b : List α) : m (List α × Nat) :=
  match a.getLast?, b with
  | some last, first :: _ => do
    let k ← gallop (fun x => (!·) <$> less first x) a.toArray 0
    let placed := a.take k
    let a := a.drop k
    if a.isEmpty then pure (placed ++ b, start)
    else
      let k ← gallop (fun y => less y last) b.toArray (b.length - 1)
      let rest := b.drop k
      let b := b.take k
      if b.isEmpty then pure (placed ++ a ++ rest, start)
      else if a.length ≤ b.length then
        let (items, start) ← mergeFrom less .forward start a b
        pure (placed ++ items ++ rest, start)
      else
        let (items, start) ← mergeFrom less .backward start b.reverse a.reverse
        pure (placed ++ items.reverse ++ rest, start)
  | _, _ => pure (a ++ b, start)

end Dossier.Sorting

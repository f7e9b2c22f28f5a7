/-! Sorting under a comparison that may fail and need not be an order: the longest run at the
start is taken as it is, or reversed if it descends, and each further item is inserted by binary
search, after its equals. -/

namespace LayeredConfig.Sorting

variable {α : Type} (less? : α → α → Option Bool)

/-- Continues a run whose last item is `last`; `down` says which way it goes. The run so far is
`acc`, last item first. -/
def continueRun (down : Bool) (last : α) (acc : List α) : List α → Option (List α × List α)
  | [] => some (acc, [])
  | x :: xs => do
    if (← less? x last) = down then continueRun down x (x :: acc) xs else return (acc, x :: xs)

def leadingRun : List α → Option (List α × List α)
  | x :: y :: xs => do
    let down ← less? y x
    let (run, rest) ← continueRun less? down y [y, x] xs
    return (if down then run else run.reverse, rest)
  | xs => some (xs, [])

def position (sorted : Array α) (x : α) (low high : Nat) : Option Nat :=
  if h : low < high then do
    let middle := low + (high - low) / 2
    let y ← sorted[middle]?
    if ← less? x y then position sorted x low middle else position sorted x (middle + 1) high
  else some low
termination_by high - low

def insert (sorted : Array α) (x : α) : Option (Array α) := do
  let i ← position less? sorted x 0 sorted.size
  return (sorted.toList.take i ++ x :: sorted.toList.drop i).toArray

def sort? (xs : List α) : Option (List α) := do
  let (run, rest) ← leadingRun less? xs
  let sorted ← rest.foldlM (insert less?) run.toArray
  return sorted.toList

end LayeredConfig.Sorting

/-!
# Stable sorting by blocks and symmetric merges

`stableSort` orders an array by a comparison that may fail, keeping equal items in their
order. It sorts blocks of 20 items by insertion, then merges neighbouring runs of doubling
length in place with the symmetric merge of Kim and Kutzner ("Stable Minimum Storage
Merging by Symmetric Comparisons", 2004), which finds where to split the runs by binary
search and exchanges the middle parts by a rotation.

The comparisons made, and their order, are part of the result: a comparison that fails
counts as "not less", the sort goes on, and the failure of the last failing comparison is
reported with the sorted array.
-/

namespace DecimalMachine.Script

/-- The state of a sort: the items in their current order, and the last comparison that
failed. -/
structure SortState (α : Type) where
  items : Array α
  failure : Option String := none

/-- A step of a sort. -/
abbrev SortM (α : Type) := StateM (SortState α)

namespace Sorting

variable {α : Type} (lt : α → α → Except String Bool)

/-- Whether the item at `i` is less than the item at `j`; a failed comparison is remembered
and counts as false. -/
def less (i j : Nat) : SortM α Bool := do
  let st ← get
  match st.items[i]?, st.items[j]? with
  | some a, some b =>
    match lt a b with
    | .ok r => pure r
    | .error e =>
      set { st with failure := some e }
      pure false
  | _, _ => pure false

/-- Exchange the items at `i` and `j`. -/
def swap (i j : Nat) : SortM α Unit :=
  modify fun st => { st with items := st.items.swapIfInBounds i j }

/-- Move the item at `j` down while it is less than the one before it, not below `a`. -/
def sink (a : Nat) : Nat → Nat → SortM α Unit
  | 0, _ => pure ()
  | fuel + 1, j => do
    if j > a then
      if ← less lt j (j - 1) then
        swap j (j - 1)
        sink a fuel (j - 1)

/-- Sort the items `a … b - 1` by insertion. -/
def insertionSort (a b : Nat) : SortM α Unit := do
  for i in [a + 1 : b] do
    sink lt a i i

/-- The least `i` in `lo … hi` such that `below i` fails, `below` holding for a prefix of
the range; `hi` if it holds throughout. -/
def search (below : Nat → SortM α Bool) : Nat → Nat → Nat → SortM α Nat
  | 0, lo, _ => pure lo
  | fuel + 1, lo, hi => do
    if lo < hi then
      let h := (lo + hi) / 2
      if ← below h then search below fuel (h + 1) hi else search below fuel lo h
    else pure lo

/-- Exchange the `n` items from `a` with the `n` items from `b`. -/
def swapRange (a b n : Nat) : SortM α Unit := do
  for k in [0 : n] do
    swap (a + k) (b + k)

/-- Exchange the runs `a … m - 1` and `m … b - 1`, by exchanging equal-length blocks. -/
def rotate (a m b : Nat) : SortM α Unit :=
  go (b - a + 1) (m - a) (b - m)
where
  /-- Exchange blocks while the remaining lengths `i` before `m` and `j` after it differ. -/
  go : Nat → Nat → Nat → SortM α Unit
    | 0, i, _ => swapRange (m - i) m i
    | fuel + 1, i, j =>
      if i == j then swapRange (m - i) m i
      else if i > j then do
        swapRange (m - i) m j
        go fuel (i - j) j
      else do
        swapRange (m - i) (m + j - i) i
        go fuel i (j - i)

/-- Merge the sorted runs `a … m - 1` and `m … b - 1` in place. -/
def symMerge : Nat → Nat → Nat → Nat → SortM α Unit
  | 0, _, _, _ => pure ()
  | fuel + 1, a, m, b => do
    if m - a == 1 then
      -- insert the single item at `a` into `m … b - 1`
      let i ← search (fun h => less lt h a) (b - m + 1) m b
      for k in [a : i - 1] do
        swap k (k + 1)
    else if b - m == 1 then
      -- insert the single item at `m` into `a … m - 1`
      let i ← search (fun h => do return !(← less lt m h)) (m - a + 1) a m
      for k in (List.range (m - i)).map (m - ·) do
        swap k (k - 1)
    else
      let mid := (a + b) / 2
      let n := mid + m
      let (lo, hi) := if m > mid then (n - b, mid) else (a, m)
      let p := n - 1
      let start ← search (fun c => do return !(← less lt (p - c) c)) (hi - lo + 1) lo hi
      let stop := n - start
      if start < m && m < stop then rotate start m stop
      if a < start && start < mid then symMerge fuel a start mid
      if mid < stop && stop < b then symMerge fuel mid stop b

/-- Sort blocks of `size` items by insertion, from `a` on. -/
def sortBlocks (n size : Nat) : Nat → Nat → SortM α Unit
  | 0, a => insertionSort lt a n
  | fuel + 1, a =>
    if a + size ≤ n then do
      insertionSort lt a (a + size)
      sortBlocks n size fuel (a + size)
    else insertionSort lt a n

/-- Merge neighbouring runs of `size` items, from `a` on. -/
def mergeRuns (n size : Nat) : Nat → Nat → SortM α Unit
  | 0, _ => pure ()
  | fuel + 1, a =>
    if a + 2 * size ≤ n then do
      symMerge lt (2 * size + 1) a (a + size) (a + 2 * size)
      mergeRuns n size fuel (a + 2 * size)
    else if a + size < n then symMerge lt (n - a + 1) a (a + size) n
    else pure ()

/-- Merge runs of doubling length, from `size`, until one run holds all `n` items. -/
def mergeAll (n : Nat) : Nat → Nat → SortM α Unit
  | 0, _ => pure ()
  | fuel + 1, size =>
    if size < n then do
      mergeRuns lt n size (n + 1) 0
      mergeAll n fuel (2 * size)
    else pure ()

end Sorting

/-- Sort stably by `lt`: the sorted items, and the last failure of a comparison, if any. -/
def stableSort {α : Type} (lt : α → α → Except String Bool) (items : Array α) :
    Array α × Option String :=
  let n := items.size
  let run : SortM α Unit := do
    Sorting.sortBlocks lt n 20 (n + 1) 0
    Sorting.mergeAll lt n (n + 1) 20
  let st := (run.run { items }).2
  (st.items, st.failure)

end DecimalMachine.Script

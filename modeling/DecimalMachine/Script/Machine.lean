import DecimalMachine.Script.Value

/-!
# The running machine

A program runs in `Run`: it may fail with a message, and it keeps a `Machine`, which holds
the store of lists, dicts and variables, the lines printed so far, the globals assigned so
far, the functions being called, and the next identity to hand out.

The operations here change lists and dicts the way the language guards them: a list or dict
that is being iterated cannot change, and the message names what was refused (`cannot append
to list during iteration`). A dict key must be hashable.
-/

namespace DecimalMachine.Script

/-- The state of a running program. -/
structure Machine where
  store : Store := {}
  /-- The lines printed so far. -/
  printed : Array String := #[]
  /-- The globals assigned so far, in the order of their first assignment. -/
  globals : List (String × Value) := []
  /-- The functions being called, innermost first, by where they were written. -/
  active : List Position := []
  /-- The identity the next function value or bound method gets. -/
  nextIdentity : Nat := 1
  deriving Inhabited

/-- An evaluation step: it may fail with a message, and it keeps the machine. -/
abbrev Run := ExceptT String (StateM Machine)

namespace Run

/-- The store as it is now. -/
def store : Run Store :=
  return (← get).store

/-- Lift a check that may fail with a message. -/
def check {α : Type} (e : Except String α) : Run α :=
  match e with
  | .ok a => pure a
  | .error m => throw m

/-- Add an object to the store. -/
def alloc (o : Obj) : Run Ref := do
  let m ← get
  let (s, r) := m.store.alloc o
  set { m with store := s }
  pure r

/-- Replace an object of the store. -/
def put (r : Ref) (o : Obj) : Run Unit :=
  modify fun m => { m with store := m.store.put r o }

/-- Change the object at `r` by `f`, in place. -/
def modifyObj (r : Ref) (f : Obj → Obj) : Run Unit :=
  modify fun m => { m with store := m.store.modifyObj r f }

/-- Change the elements of the list at `r` by `f`, in place. -/
def modifyList (r : Ref) (f : Array Value → Array Value) : Run Unit :=
  modifyObj r fun
    | .list items n => .list (f items) n
    | o => o

/-- Change the table of the dict at `r` by `f`, in place. -/
def modifyTable (r : Ref) (f : Table → Table) : Run Unit :=
  modifyObj r fun
    | .dict t => .dict (f t)
    | o => o

/-- A new list holding `xs`. -/
def newList (xs : List Value) : Run Value := do
  return .list (← alloc (.list xs.toArray 0))

/-- A new empty dict. -/
def newDict : Run Value := do
  return .dict (← alloc (.dict {}))

/-- A new identity. -/
def fresh : Run Nat := do
  let m ← get
  set { m with nextIdentity := m.nextIdentity + 1 }
  pure m.nextIdentity

/-- Record a printed line. -/
def print (line : String) : Run Unit :=
  modify fun m => { m with printed := m.printed.push line }

/-- The value of a variable, or nothing while it is unassigned. -/
def readCell (r : Ref) : Run (Option Value) := do
  match (← store).get r with
  | .cell v => pure v
  | _ => pure none

/-- Assign a variable. -/
def writeCell (r : Ref) (v : Value) : Run Unit :=
  put r (.cell (some v))

/-- The elements of the list at `r`. -/
def listItems (r : Ref) : Run (Array Value) := do
  return (← store).listItems r

/-- Refuse to change the list at `r` while it is iterated; `verb` says what was tried. -/
def checkListMutable (r : Ref) (verb : String) : Run Unit := do
  match (← store).get r with
  | .list _ n => if n > 0 then throw ("cannot " ++ verb ++ " list during iteration")
  | _ => pure ()

/-- Replace the elements of the list at `r`, keeping its iterations. -/
def setListItems (r : Ref) (items : Array Value) : Run Unit :=
  modifyList r fun _ => items

/-- Add an element at the end of the list at `r`. -/
def appendItem (r : Ref) (v : Value) : Run Unit :=
  modifyList r (·.push v)

/-- The table of the dict at `r`. -/
def table (r : Ref) : Run Table := do
  return (← store).table r

/-- Refuse to change the dict at `r` while it is iterated; `verb` says what was tried. -/
def checkTableMutable (r : Ref) (verb : String) : Run Unit := do
  if (← table r).iterating > 0 then throw ("cannot " ++ verb ++ " hash table during iteration")

/-- Set `k` to `v` in the dict at `r`: replaced in place if present, else appended. -/
def dictInsert (r : Ref) (k v : Value) : Run Unit := do
  checkTableMutable r "insert into"
  modifyTable r fun t => { t with allocated := true }
  check k.checkHashable
  let found ← check ((← table r).find? k)
  match found with
  | some i => modifyTable r (·.setValue i v)
  | none => modifyTable r (·.add k v)

/-- The value the dict at `r` holds for `k`; the key must be hashable. -/
def dictLookup (r : Ref) (k : Value) : Run (Option Value) := do
  check k.checkHashable
  check ((← table r).lookup? k)

/-- Remove `k` from the dict at `r`, giving the value it held. A dict that never held a key
gives nothing without looking at the key. -/
def dictDelete (r : Ref) (k : Value) : Run (Option Value) := do
  checkTableMutable r "delete from"
  let t ← table r
  if !t.allocated then return none
  check k.checkHashable
  match ← check (t.find? k) with
  | some i =>
    modifyTable r (·.erase i)
    pure ((t.entries[i]?).map (·.2))
  | none => pure none

/-- Remove every entry of the dict at `r`. -/
def dictClear (r : Ref) : Run Unit := do
  checkTableMutable r "clear"
  modifyTable r Table.clear

/-- Count one more (`delta = 1`) or one fewer (`delta = -1`) iteration over a list or dict;
other values are not guarded. -/
def countIteration (v : Value) (delta : Int) : Run Unit := do
  match v with
  | .list r =>
    modifyObj r fun
      | .list items n => .list items (n + delta).toNat
      | o => o
  | .dict r => modifyTable r fun t => { t with iterating := ((t.iterating : Int) + delta).toNat }
  | _ => pure ()

/-- The elements of an iterable value, or nothing for a value that cannot be iterated. -/
def items? (v : Value) : Run (Option (List Value)) := do
  return (← store).items? v

/-- Run `body` over the elements of `v` while `v` is guarded against change; `notIterable`
is the message when `v` cannot be iterated. -/
def iterating {α : Type} (v : Value) (notIterable : String) (body : List Value → Run α) :
    Run α := do
  match ← items? v with
  | none => throw notIterable
  | some xs =>
    countIteration v 1
    let a ← body xs
    countIteration v (-1)
    pure a

/-- The text of a value as the language writes it back. -/
def repr (v : Value) : Run String := do
  return (← store).repr v

/-- The truth of a value. -/
def truth (v : Value) : Run Bool := do
  return (← store).truth v

/-- Compare two values. -/
def compare (op : Comparison) (x y : Value) : Run Bool := do
  check ((← store).compareValues op x y)

/-- Whether two values are equal. -/
def equal (x y : Value) : Run Bool := do
  check ((← store).equal x y)

end Run

end DecimalMachine.Script

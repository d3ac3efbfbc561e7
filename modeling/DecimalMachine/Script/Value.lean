import Std.Data.HashMap
import DecimalMachine.Script.Syntax
import DecimalMachine.Text.Shortest
import DecimalMachine.Text.Quoted

/-!
# Values of the language

A value is `None`, a bool, an integer of any size, a double, a string, a byte string, a list,
a tuple, a dict (its entries in insertion order), a range, a function, a built-in function or
a method bound to its receiver, or a view of the bytes or code points of a string.

Lists and dicts can change, and several values may share one, so they live in a `Store` and
a value refers to them. The variables of a program are cells of the same store: a function
defined inside another one shares the variables of the call it was made in. The other values
cannot change and are held directly. Each function value and each bound method has an
identity number; two of them are equal only when they are the same one.

A string is a sequence of bytes like a byte string: it is UTF-8 as written, but indexing and
slicing count bytes and may cut a character, so its text is read with `Text.pieces` wherever
characters matter.

Ranges compute in signed 64-bit words: the length of a range and its elements wrap as such
words do, so a range longer than the largest word has a negative length.

This module gives each value its type name, its truth, its text (`repr` and `str`), its
length, its elements when it can be iterated, and the comparisons between values, reading
lists and dicts from the store.
-/

namespace DecimalMachine.Script

/-- What a view of a text yields when iterated. -/
inductive View where
  /-- The bytes of a string, each as a string of one byte. -/
  | elems
  /-- The bytes of a string, as numbers. -/
  | elemOrds
  /-- The code points of a string, each as a string. -/
  | codepoints
  /-- The code points of a string, as numbers. -/
  | codepointOrds
  /-- The bytes of a byte string, as numbers. -/
  | byteElems
  deriving DecidableEq, Repr, Inhabited

namespace View

/-- The type name of a view. -/
def typeName : View → String
  | elems | elemOrds => "string.elems"
  | codepoints | codepointOrds => "string.codepoints"
  | byteElems => "bytes.elems"

/-- The call that made a view, as its text ends. -/
def suffix : View → String
  | elems | byteElems => ".elems()"
  | elemOrds => ".elem_ords()"
  | codepoints => ".codepoints()"
  | codepointOrds => ".codepoint_ords()"

end View

/-- Where a list, a dict or a variable lives in the store. -/
abbrev Ref := Nat

/-- A value. -/
inductive Value where
  | none
  | bool (b : Bool)
  | int (i : Int)
  | float (f : Float)
  /-- A string: a sequence of bytes, UTF-8 as written, though slicing may cut a
  character. -/
  | str (s : List UInt8)
  | bytes (b : List UInt8)
  | list (r : Ref)
  | tuple (items : List Value)
  | dict (r : Ref)
  | range (start stop step : Int)
  /-- A function: its name (`lambda` for a `lambda`), its parameters and body, where it was
  written, the values of its optional parameters' defaults, the cells of the variables it
  sees around it by slot, and its identity. -/
  | function (name : String) (params : List Param) (body : Body) (pos : Position)
      (defaults : List Value) (env : List (Nat × Ref)) (identity : Nat)
  /-- A built-in function, or a method bound to its receiver. The built-in functions have
  identity 0, each bound method an identity of its own. -/
  | builtin (name : String) (receiver : Option Value) (identity : Nat)
  /-- A view of the UTF-8 bytes of a string (or of a byte string). -/
  | view (kind : View) (source : List UInt8)

instance : Inhabited Value := ⟨.none⟩

/-- The string value holding the UTF-8 bytes of a text. -/
def Value.ofString (s : String) : Value :=
  .str (Text.utf8 s)

/-- The integer a double equals, if it is finite and has no fraction. -/
def integralValue? (f : Float) : Option Int :=
  if f.isNaN || f.isInf then Option.none
  else
    let (m, e) := Text.exactParts f
    if e ≥ 0 then some (m * Int.pow 2 e.toNat)
    else
      let d := Int.pow 2 e.natAbs
      if m % d == 0 then some (m / d) else Option.none

/-- The hash of an integer key. -/
def intHash (i : Int) : UInt64 :=
  mixHash 17 (i % 18446744073709551616).toNat.toUInt64

/-- The hash of the bytes of a string or byte string key. -/
def bytesHash (seed : UInt64) (bs : List UInt8) : UInt64 :=
  bs.foldl (fun h b => mixHash h b.toUInt64) seed

/-- The hash of a value as a dict key. Keys that are equal have equal hashes: a double with
no fraction hashes as the integer it equals, and NaN and the infinities, which equal
themselves only, share one hash. A tuple combines its elements' hashes. Values that cannot be
keys hash to 0. -/
def Value.keyHash : Value → UInt64
  | .none => 1
  | .bool b => if b then 3 else 2
  | .int i => intHash i
  | .float f =>
    match integralValue? f with
    | some i => intHash i
    | Option.none => if f.isNaN || f.isInf then 5 else mixHash 19 f.toBits
  | .str bs => bytesHash 7 bs
  | .bytes bs => bytesHash 23 bs
  | .tuple xs => itemsHash 11 xs
  | .function _ _ _ _ _ _ i => mixHash 13 i.toUInt64
  | .builtin n _ i => mixHash (bytesHash 29 (Text.utf8 n)) i.toUInt64
  | _ => 0
where
  /-- Combine the hashes of a tuple's elements into `h`. -/
  itemsHash (h : UInt64) : List Value → UInt64
    | [] => h
    | x :: xs => itemsHash (mixHash h x.keyHash) xs

/-- The entries of a dict in insertion order, with what guards them. -/
structure Table where
  entries : Array (Value × Value) := #[]
  /-- The positions of the entries, by the hash of their keys, each list rising. -/
  index : Std.HashMap UInt64 (Array Nat) := {}
  /-- How many iterations over the dict are running; while one is, it cannot change. -/
  iterating : Nat := 0
  /-- Whether a key was ever inserted: until then, removing a key does not look at it. -/
  allocated : Bool := false
  deriving Inhabited

namespace Table

/-- The positions of the entries whose keys have the hash of `k`. -/
def candidates (t : Table) (k : Value) : Array Nat :=
  t.index.getD k.keyHash #[]

/-- The index of a list of entries. -/
def indexOf (entries : Array (Value × Value)) : Std.HashMap UInt64 (Array Nat) :=
  (entries.foldl (fun (acc : Std.HashMap UInt64 (Array Nat) × Nat) (k, _) =>
    let (index, i) := acc
    (index.insert k.keyHash ((index.getD k.keyHash #[]).push i), i + 1)) ({}, 0)).1

/-- Add an entry for a key the table does not hold. -/
def add (t : Table) (k v : Value) : Table :=
  let n := t.entries.size
  let h := k.keyHash
  { t with entries := t.entries.push (k, v),
           index := t.index.insert h ((t.index.getD h #[]).push n) }

/-- Set the value of the entry at `i`. -/
def setValue (t : Table) (i : Nat) (v : Value) : Table :=
  { t with entries := t.entries.modify i fun (k, _) => (k, v) }

/-- Remove the entry at `i`; the entries after it move down one place. -/
def erase (t : Table) (i : Nat) : Table :=
  let entries := t.entries.eraseIdxIfInBounds i
  { t with entries, index := indexOf entries }

/-- Remove every entry. -/
def clear (t : Table) : Table :=
  { t with entries := #[], index := {} }

end Table

/-- An object of the store. -/
inductive Obj where
  /-- A list, with the number of iterations over it that are running. -/
  | list (items : Array Value) (iterating : Nat)
  | dict (table : Table)
  /-- A variable, empty until it is assigned. -/
  | cell (value : Option Value)

instance : Inhabited Obj := ⟨.cell none⟩

/-- The lists, dicts and variables of a running program, by reference. -/
structure Store where
  objects : Array Obj := #[]
  deriving Inhabited

namespace Store

/-- The object a reference stands for. -/
def get (s : Store) (r : Ref) : Obj :=
  s.objects[r]?.getD (.cell none)

/-- The elements of the list at `r`. -/
def listItems (s : Store) (r : Ref) : Array Value :=
  match s.get r with
  | .list items _ => items
  | _ => #[]

/-- The table of the dict at `r`. -/
def table (s : Store) (r : Ref) : Table :=
  match s.get r with
  | .dict t => t
  | _ => {}

/-- Add an object, returning the store and the object's reference. -/
def alloc (s : Store) (o : Obj) : Store × Ref :=
  ({ objects := s.objects.push o }, s.objects.size)

/-- Replace the object at `r`. -/
def put (s : Store) (r : Ref) (o : Obj) : Store :=
  { objects := s.objects.setIfInBounds r o }

/-- Change the object at `r` by `f`, in place when the store is not shared. -/
def modifyObj (s : Store) (r : Ref) (f : Obj → Obj) : Store :=
  { objects := s.objects.modify r f }

end Store

/-- A number as a signed 64-bit word holds it: wrapped into `[-2^63, 2^63)`. -/
def wrap64 (n : Int) : Int :=
  n.bmod 18446744073709551616

/-- Whether a number fits in a signed 32-bit word. -/
def fits32 (n : Int) : Bool :=
  -2147483648 ≤ n && n < 2147483648

/-- Whether a number fits in a signed 64-bit word. -/
def fits64 (n : Int) : Bool :=
  -9223372036854775808 ≤ n && n < 9223372036854775808

/-- The number of elements of `range(start, stop, step)`, computed in 64-bit words: the
distance over the step, plus one. -/
def rangeLength (start stop step : Int) : Int :=
  if step > 0 then
    if stop > start then wrap64 ((wrap64 (stop - 1 - start)).tdiv step + 1) else 0
  else if step < 0 then
    if start > stop then wrap64 ((wrap64 (start - 1 - stop)).tdiv (wrap64 (-step)) + 1) else 0
  else 0

/-- The element at index `i` of a range starting at `start` with step `step`, in 64-bit
words. -/
def rangeAt (start step i : Int) : Int :=
  wrap64 (start + i * step)

/-- The elements of `range(start, stop, step)`. -/
def rangeItems (start stop step : Int) : List Int :=
  (List.range (rangeLength start stop step).toNat).map fun (i : Nat) => rangeAt start step i

/-- Whether a double is neither infinite nor NaN. -/
def isFinite (f : Float) : Bool :=
  !f.isNaN && !f.isInf

/-- The text of a double: the shortest digits that read back, with `.0` added when the text
has neither a point nor an exponent; `+inf`, `-inf` and `nan` otherwise. -/
def floatText (f : Float) : String :=
  if f.isNaN then "nan"
  else if f.isInf then (if f > 0 then "+inf" else "-inf")
  else
    let s := Text.generalText f
    if s.contains '.' || s.contains 'e' then s else s ++ ".0"

/-- The text of a byte string: `b` and its bytes quoted as a string's are. -/
def bytesText (bs : List UInt8) : String :=
  "b" ++ Text.quotedBytes bs

namespace Value

/-- The name of a value's type. -/
def typeName : Value → String
  | none => "NoneType"
  | bool _ => "bool"
  | int _ => "int"
  | float _ => "float"
  | str _ => "string"
  | bytes _ => "bytes"
  | list _ => "list"
  | tuple _ => "tuple"
  | dict _ => "dict"
  | range .. => "range"
  | function .. => "function"
  | builtin .. => "builtin_function_or_method"
  | view k _ => k.typeName

/-- Check that a value can be a dict key: lists, dicts, ranges and views cannot, nor tuples
holding them. -/
def checkHashable : Value → Except String Unit
  | list _ => throw "unhashable type: list"
  | dict _ => throw "unhashable type: dict"
  | range .. => throw "unhashable: range"
  | view k _ => throw ("unhashable: " ++ k.typeName)
  | tuple xs => hashableItems xs
  | _ => pure ()
where
  /-- Check every element of a tuple. -/
  hashableItems : List Value → Except String Unit
    | [] => pure ()
    | x :: xs => do
      checkHashable x
      hashableItems xs

end Value

/-- A comparison operator. -/
inductive Comparison where
  | eq | ne | lt | gt | le | ge
  deriving DecidableEq

/-- How a comparison operator is written. -/
def Comparison.symbol : Comparison → String
  | eq => "==" | ne => "!=" | lt => "<" | gt => ">" | le => "<=" | ge => ">="

/-- Whether an ordering satisfies a comparison. -/
def Comparison.holds (op : Comparison) (o : Ordering) : Bool :=
  match op with
  | eq => o == .eq
  | ne => o != .eq
  | lt => o == .lt
  | gt => o == .gt
  | le => o != .gt
  | ge => o != .lt

/-- How deeply nested values comparisons look before giving up. -/
def compareLimit : Nat := 10

/-- The ordering of two doubles, with NaN above everything and equal to itself. -/
def floatOrder (x y : Float) : Ordering :=
  if x > y then .gt else if x < y then .lt else if x == y then .eq
  else if x == x then .lt else if y == y then .gt else .eq

/-- The ordering of an integer and a double, exactly. -/
def intFloatOrder (i : Int) (f : Float) : Ordering :=
  if f.isNaN then .lt
  else if f.isInf then (if f > 0 then .lt else .gt)
  else (Text.compareWithInt f i).swap

/-- The diagnostic for a comparison two values do not support. -/
def unsupported (op : Comparison) (x y : Value) : String :=
  x.typeName ++ " " ++ op.symbol ++ " " ++ y.typeName ++ " not implemented"

/-- Compare two sequences with `cmp` on elements: by the first elements that differ, else by
length. -/
def compareItemsWith (cmp : Comparison → Value → Value → Except String Bool) (op : Comparison)
    (xs ys : List Value) : Except String Bool :=
  if (op == .eq || op == .ne) && xs.length != ys.length then pure (op == .ne)
  else go xs ys
where
  /-- Compare element by element up to the first pair that differs. -/
  go : List Value → List Value → Except String Bool
    | [], [] => pure (op.holds .eq)
    | [], _ :: _ => pure (if op == .eq then false else if op == .ne then true else op.holds .lt)
    | _ :: _, [] => pure (if op == .eq then false else if op == .ne then true else op.holds .gt)
    | a :: as, b :: bs => do
      if ← cmp .eq a b then go as bs
      else if op == .eq then pure false
      else if op == .ne then pure true
      else cmp op a b

/-- Whether two dict keys are equal, looking at most `depth` levels into tuples. A key holds
no list or dict, so its equality needs no store: numbers by value, strings and byte strings
by their bytes, tuples element by element, functions by identity. -/
def keyEqual : Nat → Value → Value → Except String Bool
  | 0, _, _ => throw "comparison exceeded maximum recursion depth"
  | depth + 1, x, y =>
    match x, y with
    | .none, .none => pure true
    | .bool a, .bool b => pure (a == b)
    | .int a, .int b => pure (a == b)
    | .float a, .float b => pure (floatOrder a b == .eq)
    | .int a, .float b => pure (intFloatOrder a b == .eq)
    | .float a, .int b => pure (intFloatOrder b a == .eq)
    | .str a, .str b => pure (a == b)
    | .bytes a, .bytes b => pure (a == b)
    | .tuple a, .tuple b =>
      if a.length != b.length then pure false
      else (a.zip b).allM fun (p, q) => keyEqual depth p q
    | .function _ _ _ _ _ _ i, .function _ _ _ _ _ _ j => pure (i == j)
    | .builtin n _ i, .builtin m _ j => pure (n == m && i == j)
    | _, _ => pure false

/-- The index of the entry of a table whose key equals `k`. Only entries whose key has the
hash of `k` are compared; a comparison that fails is an error. -/
def Table.find? (t : Table) (k : Value) : Except String (Option Nat) :=
  go (t.candidates k).toList
where
  /-- Compare with each candidate in turn. -/
  go : List Nat → Except String (Option Nat)
    | [] => pure none
    | i :: rest =>
      match t.entries[i]? with
      | some (k', _) => do if ← keyEqual compareLimit k k' then pure (some i) else go rest
      | none => go rest

/-- The value a table holds for `k`, if it holds one. -/
def Table.lookup? (t : Table) (k : Value) : Except String (Option Value) :=
  return (← t.find? k).bind fun i => t.entries[i]?.map (·.2)

/-- The value a table holds for `k`; a comparison that fails counts as no match. -/
def Table.lookup (t : Table) (k : Value) : Option Value :=
  match t.lookup? k with
  | .ok v => v
  | .error _ => none

namespace Store

/-- The truth of a value: false for `None`, `False`, zero, and empty strings and
collections. -/
def truth (s : Store) : Value → Bool
  | .none => false
  | .bool b => b
  | .int i => i != 0
  | .float f => f != 0
  | .str x => !x.isEmpty
  | .bytes b => !b.isEmpty
  | .list r => !(s.listItems r).isEmpty
  | .tuple xs => !xs.isEmpty
  | .dict r => !(s.table r).entries.isEmpty
  | .range a b st => rangeLength a b st > 0
  | .function .. | .builtin .. | .view .. => true

/-- The number of elements of a value, for the values that have one. -/
def length? (s : Store) : Value → Option Int
  | .str x => some x.length
  | .bytes b => some b.length
  | .list r => some (s.listItems r).size
  | .tuple xs => some xs.length
  | .dict r => some (s.table r).entries.size
  | .range a b st => some (rangeLength a b st)
  | .view .elems bs | .view .elemOrds bs => some bs.length
  | _ => none

/-- The elements of a value, for the values that can be iterated: lists, tuples, the keys
of a dict, ranges and views. -/
def items? (s : Store) : Value → Option (List Value)
  | .list r => some (s.listItems r).toList
  | .tuple xs => some xs
  | .dict r => some ((s.table r).entries.toList.map (·.1))
  | .range a b st => some ((rangeItems a b st).map .int)
  | .view .elems bs => some (bs.map fun b => .str [b])
  | .view .elemOrds bs | .view .byteElems bs => some (bs.map fun b => .int b.toNat)
  | .view .codepoints bs => some ((Text.pieces bs).map fun p => .str p.2)
  | .view .codepointOrds bs => some ((Text.codePoints bs).map fun (n : Nat) => .int (n : Int))
  | _ => none

/-- How deeply nested values are written before the text is cut short. -/
def reprLimit : Nat := 100000

/-- The text of a value as the language writes it back, `path` holding the lists and dicts
being written around it: one of them met again is written `[...]` or `{...}`. -/
def reprWith (s : Store) : Nat → List Ref → Value → String
  | 0, _, _ => "..."
  | fuel + 1, path, v =>
    match v with
    | .none => "None"
    | .bool b => if b then "True" else "False"
    | .int i => toString i
    | .float f => floatText f
    | .str x => Text.quotedBytes x
    | .bytes b => bytesText b
    | .list r =>
      if path.contains r then "[...]"
      else "[" ++ ", ".intercalate ((s.listItems r).toList.map (reprWith s fuel (r :: path))) ++ "]"
    | .tuple [x] => "(" ++ reprWith s fuel path x ++ ",)"
    | .tuple xs => "(" ++ ", ".intercalate (xs.map (reprWith s fuel path)) ++ ")"
    | .dict r =>
      if path.contains r then "\x7b...\x7d"
      else
        "\x7b" ++ ", ".intercalate ((s.table r).entries.toList.map fun (k, w) =>
          reprWith s fuel path k ++ ": " ++ reprWith s fuel (r :: path) w) ++ "\x7d"
    | .range a b st =>
      if st != 1 then "range(" ++ toString a ++ ", " ++ toString b ++ ", " ++ toString st ++ ")"
      else if a != 0 then "range(" ++ toString a ++ ", " ++ toString b ++ ")"
      else "range(" ++ toString b ++ ")"
    | .function name .. => "<function " ++ name ++ ">"
    | .builtin n none _ => "<built-in function " ++ n ++ ">"
    | .builtin n (some r) _ => "<built-in method " ++ n ++ " of " ++ r.typeName ++ " value>"
    | .view k bs => (if k == .byteElems then bytesText bs else Text.quotedBytes bs) ++ k.suffix

/-- The text of a value as the language writes it back (`repr`). -/
def repr (s : Store) (v : Value) : String :=
  reprWith s reprLimit [] v

/-- The bytes of a value as `str` gives them: a string is itself, anything else its
`repr`. -/
def textBytes (s : Store) : Value → List UInt8
  | .str x => x
  | v => Text.utf8 (s.repr v)

/-- Compare two values, looking at most `depth` levels into nested values. -/
def compareDepth (s : Store) (op : Comparison) (x y : Value) : Nat → Except String Bool
  | 0 => throw "comparison exceeded maximum recursion depth"
  | depth + 1 =>
    let inner := fun op a b => compareDepth s op a b depth
    let identity (same : Bool) : Except String Bool :=
      if op == .eq then pure same else if op == .ne then pure !same
      else throw (unsupported op x y)
    match x, y with
    | .none, .none => identity true
    | .bool a, .bool b => pure (op.holds (compare a.toNat b.toNat))
    | .int a, .int b => pure (op.holds (compare a b))
    | .float a, .float b => pure (op.holds (floatOrder a b))
    | .int a, .float b => pure (op.holds (intFloatOrder a b))
    | .float a, .int b => pure (op.holds (intFloatOrder b a).swap)
    | .str a, .str b => pure (op.holds (compareOfLessAndEq a b))
    | .bytes a, .bytes b => pure (op.holds (compareOfLessAndEq a b))
    | .list a, .list b =>
      compareItemsWith inner op (s.listItems a).toList (s.listItems b).toList
    | .tuple a, .tuple b => compareItemsWith inner op a b
    | .dict a, .dict b =>
      if op == .eq || op == .ne then do
        let ta := s.table a
        let tb := s.table b
        let mut same := ta.entries.size == tb.entries.size
        if same then
          for (k, v) in ta.entries do
            match tb.lookup k with
            | some w =>
              unless ← inner .eq v w do
                same := false
                break
            | none =>
              same := false
              break
        pure (if op == .eq then same else !same)
      else throw (unsupported op x y)
    | .range a1 b1 s1, .range a2 b2 s2 =>
      let n1 := rangeLength a1 b1 s1
      let n2 := rangeLength a2 b2 s2
      identity (n1 == n2 && (n1 == 0 || (a1 == a2 && (n1 == 1 || s1 == s2))))
    | .function _ _ _ _ _ _ i, .function _ _ _ _ _ _ j => identity (i == j)
    | .builtin n _ i, .builtin m _ j => identity (n == m && i == j)
    | .view k1 b1, .view k2 b2 =>
      if k1.typeName != k2.typeName then
        if op == .eq then pure false else if op == .ne then pure true
        else throw (unsupported op x y)
      else identity (k1 == k2 && b1 == b2)
    | _, _ =>
      if op == .eq then pure false else if op == .ne then pure true
      else throw (unsupported op x y)

/-- Compare two values. -/
def compareValues (s : Store) (op : Comparison) (x y : Value) : Except String Bool :=
  s.compareDepth op x y compareLimit

/-- Whether two values are equal. -/
def equal (s : Store) (x y : Value) : Except String Bool :=
  s.compareDepth .eq x y compareLimit

end Store

end DecimalMachine.Script

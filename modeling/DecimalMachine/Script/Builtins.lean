import DecimalMachine.Script.Sorting
import DecimalMachine.Script.StringMethods
import DecimalMachine.Text.Decimal

/-!
# Built-in functions and methods

The built-in functions (`len`, `max`, `int`, `range`, …) and the methods of lists and dicts;
the string methods are in `Script.StringMethods`. Each checks its arguments as the language
does and reports a misuse in the language's words, usually prefixed with the function's name.

The methods of lists and dicts change them in the store, refusing while they are iterated. A
built-in that iterates a list or dict guards it while it runs, also while it calls a function
given to it (`sorted(key=…)`, `max(key=…)`), so that function cannot change it either.

A built-in that applies a function is given the means to call one (`Caller`). Lines written
by `print` are kept, each ill-formed byte replaced by U+FFFD.
-/

namespace DecimalMachine.Script

/-- The integer a string spells in `base` (0: decided by its prefix), as `int` reads it: an
optional sign, then a prefix `0b`, `0o` or `0x` that is dropped when it names `base` or the
base is 0, then digits. With base 0, a number starting with `0` and no prefix must be all
zeros. No `_` may stand between digits. -/
def parseIntText (s : String) (base : Nat) : Option Int :=
  let (negative, cs) := match s.toList with
    | '+' :: rest => (false, rest)
    | '-' :: rest => (true, rest)
    | rest => (false, rest)
  let prefixBase : Nat := match cs with
    | '0' :: c :: _ :: _ =>
      if c == 'b' || c == 'B' then 2 else if c == 'o' || c == 'O' then 8
      else if c == 'x' || c == 'X' then 16 else 0
    | _ => 0
  if base == 0 && prefixBase == 0 && cs.length > 1 && cs.head? == some '0' then
    if cs.all (· == '0') then some 0 else none
  else
    let (base, cs) :=
      if prefixBase != 0 && (base == 0 || base == prefixBase) then (prefixBase, cs.drop 2)
      else (base, cs)
    let base := if base == 0 then 10 else base
    (Text.digitsValue base cs).map fun n => if negative then -(n : Int) else n

/-- The bytes `print` writes for a value: a string or a byte string as it is, any other value
as written back. -/
def printedBytes (s : Store) : Value → List UInt8
  | .str x => x
  | .bytes b => b
  | v => Text.utf8 (s.repr v)


/-- Add to the dict at `r` the entries of `updates` (nothing, a dict, or an iterable of
pairs), then the keyword arguments, as `dict` and `update` do. The pairs stay guarded until
all are added. A keyword given twice is refused. -/
def updateDict (r : Ref) (updates : List Value) (kwargs : Keywords) : Run Unit := do
  match updates with
  | [.dict d] =>
    for (k, v) in (← Run.table d).entries do Run.dictInsert r k v
  | [src] =>
    match ← Run.items? src with
    | none => throw ("got " ++ src.typeName ++ ", want iterable")
    | some pairs =>
      Run.countIteration src 1
      let mut guarded : List Value := []
      for (pair, i) in pairs.zipIdx do
        match ← Run.items? pair with
        | none =>
          throw ("dictionary update sequence element #" ++ toString i ++ " is not iterable (" ++
            pair.typeName ++ ")")
        | some kv =>
          Run.countIteration pair 1
          guarded := pair :: guarded
          match (← Run.store).length? pair with
          | none =>
            throw ("dictionary update sequence element #" ++ toString i ++
              " has unknown length (" ++ pair.typeName ++ ")")
          | some len =>
            if len != 2 then
              throw ("dictionary update sequence element #" ++ toString i ++ " has length " ++
                toString len ++ ", want 2")
          match kv with
          | [k, v] => Run.dictInsert r k v
          | _ => pure ()
      for p in guarded do Run.countIteration p (-1)
      Run.countIteration src (-1)
  | _ => pure ()
  let before := (← Run.table r).entries.size
  for (k, v) in kwargs do Run.dictInsert r (.str k) v
  if (← Run.table r).entries.size < before + kwargs.length then
    let rec firstRepeat : List (List UInt8) → Keywords → Option (List UInt8)
      | _, [] => none
      | seen, (k, _) :: rest => if seen.contains k then some k else firstRepeat (k :: seen) rest
    match firstRepeat [] kwargs with
    | some k => throw ("duplicate keyword arg: " ++ Text.quotedBytes k)
    | none => pure ()

/-- Run `body`, prefixing the message of its failure with the name of a built-in. -/
def named {α : Type} (fn : String) (body : Run α) : Run α :=
  tryCatch body fun e => throw (fn ++ ": " ++ e)

/-- The list methods, changing the list at `r` in place. -/
def listMethod (name : String) (r : Ref) (args : List Value)
    (kwargs : Keywords) : Run Value := do
  let arg (i : Nat) : Value := args.getD i .none
  match name with
  | "append" =>
    Run.check (unpackPositional name args kwargs 1 [wantAny])
    named name (Run.checkListMutable r "append to")
    Run.appendItem r (arg 0)
    pure .none
  | "clear" =>
    Run.check (unpackPositional name args kwargs 0 [])
    named name (Run.checkListMutable r "clear")
    Run.setListItems r #[]
    pure .none
  | "extend" =>
    Run.check (unpackPositional name args kwargs 1 [wantIterable])
    named name (Run.checkListMutable r "extend")
    let more := (← Run.items? (arg 0)).getD []
    Run.modifyList r (· ++ more.toArray)
    pure .none
  | "insert" =>
    Run.check (unpackPositional name args kwargs 2 [wantInt, wantAny])
    named name (Run.checkListMutable r "insert into")
    let items ← Run.listItems r
    let n : Int := items.size
    let i := (arg 0).intValue
    let i := if i < 0 then i + n else i
    if i ≥ n then Run.setListItems r (items.push (arg 1))
    else
      let k := (max i 0).toNat
      Run.setListItems r ((items.extract 0 k).push (arg 1) ++ items.extract k items.size)
    pure .none
  | "remove" =>
    Run.check (unpackPositional name args kwargs 1 [wantAny])
    named name (Run.checkListMutable r "remove from")
    let items ← Run.listItems r
    let rec position : Nat → List Value → Run (Option Nat)
      | _, [] => pure none
      | i, y :: ys => do
        if ← named "remove" (Run.equal y (arg 0)) then pure (some i) else position (i + 1) ys
    match ← position 0 items.toList with
    | some i =>
      Run.setListItems r (items.eraseIdxIfInBounds i)
      pure .none
    | none => throw "remove: element not found"
  | "pop" =>
    let items ← Run.listItems r
    let n : Int := items.size
    Run.check (unpackPositional name args kwargs 0 [wantInt])
    let i := if args.isEmpty then n - 1 else (arg 0).intValue
    let j := if i < 0 then i + n else i
    if j < 0 || j ≥ n then throw (name ++ ": " ++ outOfRange i n "list")
    named name (Run.checkListMutable r "pop from")
    Run.setListItems r (items.eraseIdxIfInBounds j.toNat)
    pure (items[j.toNat]?.getD .none)
  | "index" =>
    Run.check (unpackPositional name args kwargs 1 [wantAny, wantAny, wantAny])
    let items ← Run.listItems r
    let (a, b) ← match clampedRange items.size (arg 1) (arg 2) with
      | .ok r => pure r
      | .error e => throw (name ++ ": " ++ e)
    let rec search : Nat → List Value → Run (Option Nat)
      | _, [] => pure none
      | i, y :: ys => do
        if i ≥ b then pure none
        else if i ≥ a then
          if ← named name (Run.equal y (arg 0)) then pure (some i) else search (i + 1) ys
        else search (i + 1) ys
    match ← search 0 items.toList with
    | some i => pure (.int i)
    | none => throw "index: value not in list"
  | _ => throw ("list has no ." ++ name ++ " field or method")

/-- The dict methods, changing the dict at `r` in place. -/
def dictMethod (name : String) (r : Ref) (args : List Value)
    (kwargs : Keywords) : Run Value := do
  let arg (i : Nat) : Value := args.getD i .none
  match name with
  | "get" =>
    Run.check (unpackPositional name args kwargs 1 [wantAny, wantAny])
    match ← named name (Run.dictLookup r (arg 0)) with
    | some v => pure v
    | none => pure (arg 1)
  | "keys" | "values" | "items" =>
    Run.check (unpackPositional name args kwargs 0 [])
    let entries := (← Run.table r).entries.toList
    Run.newList (entries.map fun (k, v) =>
      if name == "keys" then k else if name == "values" then v else .tuple [k, v])
  | "clear" =>
    Run.check (unpackPositional name args kwargs 0 [])
    named name (Run.dictClear r)
    pure .none
  | "pop" =>
    Run.check (unpackPositional name args kwargs 1 [wantAny, wantAny])
    match ← named name (Run.dictDelete r (arg 0)) with
    | some v => pure v
    | none => if args.length > 1 then pure (arg 1) else throw "pop: missing key"
  | "popitem" =>
    Run.check (unpackPositional name args kwargs 0 [])
    match (← Run.table r).entries[0]? with
    | none => throw "popitem: empty dict"
    | some (k, v) =>
      let _ ← named name (Run.dictDelete r k)
      pure (.tuple [k, v])
  | "setdefault" =>
    Run.check (unpackPositional name args kwargs 1 [wantAny, wantAny])
    match ← named name (Run.dictLookup r (arg 0)) with
    | some v => pure v
    | none =>
      named name (Run.dictInsert r (arg 0) (arg 1))
      pure (arg 1)
  | "update" =>
    if args.length > 1 then
      throw ("update: got " ++ toString args.length ++ " arguments, want at most 1")
    named name (updateDict r args kwargs)
    pure .none
  | _ => throw ("dict has no ." ++ name ++ " field or method")

/-- The key of each value under `key`, or the values themselves without one. -/
def keysOf (call : Caller) (key : Option Value) (xs : List Value) : Run (List Value) :=
  match key with
  | some f => xs.mapM fun x => call f [x] []
  | none => pure xs

/-- The built-in functions. -/
def builtinCall (call : Caller) (name : String) (args : List Value)
    (kwargs : Keywords) : Run Value := do
  let arg (i : Nat) : Value := args.getD i .none
  match name with
  | "abs" =>
    Run.check (unpackPositional name args kwargs 1 [wantAny])
    match arg 0 with
    | .int i => pure (.int i.natAbs)
    | .float f => pure (.float f.abs)
    | v => throw ("got " ++ v.typeName ++ ", want int or float")
  | "all" | "any" =>
    Run.check (unpackPositional name args kwargs 1 [wantIterable])
    let s ← Run.store
    let xs := (s.items? (arg 0)).getD []
    pure (.bool (if name == "all" then xs.all s.truth else xs.any s.truth))
  | "bool" =>
    Run.check (unpackPositional name args kwargs 0 [wantAny])
    pure (.bool ((← Run.store).truth (args.headD (.bool false))))
  | "bytes" =>
    if !kwargs.isEmpty then throw "bytes does not accept keyword arguments"
    if args.length != 1 then
      throw ("bytes: got " ++ toString args.length ++ " arguments, want exactly 1")
    match arg 0 with
    | .str s => pure (.bytes (Text.transcode s))
    | .bytes b => pure (.bytes b)
    | v =>
      match ← Run.items? v with
      | some xs =>
        let bs ← xs.zipIdx.mapM fun
          | (.int i, k) =>
            if 0 ≤ i && i < 256 then pure i.toNat.toUInt8
            else throw ("bytes: at index " ++ toString k ++ ", " ++ toString i ++
              " out of range (want value in unsigned 8-bit range)")
          | (w, k) => throw ("bytes: at index " ++ toString k ++ ", got " ++ w.typeName ++
              ", want int")
        pure (.bytes bs)
      | none => throw ("bytes: got " ++ v.typeName ++ ", want string, bytes, or iterable of ints")
  | "chr" =>
    if !kwargs.isEmpty then throw "chr does not accept keyword arguments"
    if args.length != 1 then throw ("chr: got " ++ toString args.length ++ " arguments, want 1")
    let i ← match asSmallInt (arg 0) with
      | .ok i => pure i
      | .error e => throw ("chr: " ++ e)
    if i < 0 then throw ("chr: Unicode code point " ++ toString i ++ " out of range (<0)")
    if i > 0x10FFFF then
      throw ("chr: Unicode code point U+" ++ String.ofList ((Nat.toDigits 16 i.toNat).map
        Char.toUpper) ++ " out of range (>0x10FFFF)")
    pure (.str (Text.codeBytes i.toNat))
  | "dict" =>
    if args.length > 1 then
      throw ("dict: got " ++ toString args.length ++ " arguments, want at most 1")
    let d ← Run.newDict
    match d with
    | .dict r => named name (updateDict r args kwargs)
    | _ => pure ()
    pure d
  | "dir" =>
    Run.check (unpackPositional name args kwargs 1 [wantAny])
    Run.newList ((methodNames (arg 0)).map .ofString)
  | "enumerate" =>
    Run.check (unpackPositional name args kwargs 1 [wantIterable, wantInt])
    let start := if args.length > 1 then (arg 1).intValue else 0
    let xs := (← Run.items? (arg 0)).getD []
    Run.newList (xs.zipIdx.map fun (x, i) => .tuple [.int (wrap64 (start + i)), x])
  | "fail" =>
    let given ← Run.check (unpackNamed name [] kwargs [⟨"sep?", wantString⟩])
    let sep := match given.headD none with
      | some v => v.stringBytes
      | none => [32]
    let s ← Run.store
    throw ("fail: " ++ Text.lossy ((args.map s.textBytes).intersperse sep).flatten)
  | "float" =>
    if !kwargs.isEmpty then throw "float does not accept keyword arguments"
    match args with
    | [] => pure (.float 0)
    | [.bool b] => pure (.float (if b then 1 else 0))
    | [.int i] => pure (.float (← Run.check (finiteFloat i)))
    | [.float f] => pure (.float f)
    | [.str bs] =>
      if bs.isEmpty then throw "float: empty string"
      let s := Text.lossy bs
      let lower := s.toLower
      if lower == "inf" || lower == "+inf" || lower == "infinity" || lower == "+infinity" then
        pure (.float (1 / 0))
      else if lower == "-inf" || lower == "-infinity" then pure (.float (-1 / 0))
      else if lower == "nan" || lower == "+nan" || lower == "-nan" then pure (.float (0 / 0))
      else
        match Text.readFloat? s with
        | some f =>
          if f.isInf then throw "floating-point number too large" else pure (.float f)
        | none => throw ("invalid float literal: " ++ s)
    | [v] => throw ("float got " ++ v.typeName ++ ", want number or string")
    | _ => throw ("float got " ++ toString args.length ++ " arguments, wants 1")
  | "getattr" =>
    Run.check (unpackPositional name args kwargs 2 [wantAny, wantString, wantAny])
    let attr := Text.lossy (arg 1).stringBytes
    if (methodNames (arg 0)).contains attr then attributeOf (arg 0) attr
    else if args.length > 2 then pure (arg 2)
    else throw ("getattr: " ++ (arg 0).typeName ++ " has no ." ++ attr ++ " field or method")
  | "hasattr" =>
    Run.check (unpackPositional name args kwargs 2 [wantAny, wantString])
    let attr := Text.lossy (arg 1).stringBytes
    pure (.bool ((methodNames (arg 0)).contains attr))
  | "hash" =>
    Run.check (unpackPositional name args kwargs 1 [wantAny])
    match arg 0 with
    | .str s =>
      -- h ← 31·h + c over the code points, in signed 32-bit arithmetic
      pure (.int ((Text.codePoints s).foldl
        (fun (h : Int) (n : Nat) => (31 * h + (n : Int)).bmod 4294967296) 0))
    | .bytes bs =>
      -- 32-bit FNV-1a over the bytes
      let h : Nat := bs.foldl (fun (h : Nat) b => ((h ^^^ b.toNat) * 16777619) % 4294967296)
        2166136261
      pure (.int h)
    | v => throw ("hash: got " ++ v.typeName ++ ", want string or bytes")
  | "int" =>
    let given ← Run.check (unpackNamed name args kwargs [⟨"x", wantAny⟩, ⟨"base?", wantAny⟩])
    let x := (given.headD none).getD (.int 0)
    let base := given.getD 1 none
    match x with
    | .str bs =>
      let s := Text.lossy bs
      let b ← match base with
        | none => pure 10
        | some v =>
          match asSmallInt v with
          | .ok b => pure b
          | .error _ => throw ("int: for base, got " ++ v.typeName ++ ", want int")
      if b != 0 && (b < 2 || b > 36) then throw "int: base must be an integer >= 2 && <= 36"
      match parseIntText s b.toNat with
      | some i => pure (.int i)
      | none => throw ("int: invalid literal with base " ++ toString b ++ ": " ++ s)
    | _ =>
      if base.isSome then throw "int: can't convert non-string with explicit base"
      match x with
      | .bool b => pure (.int (if b then 1 else 0))
      | .int i => pure (.int i)
      | .float f =>
        if f.isNaN then throw "int: cannot convert float NaN to integer"
        else if f.isInf then throw "int: cannot convert float infinity to integer"
        else pure (.int (Text.truncate f))
      | v => throw ("int: cannot convert " ++ v.typeName ++ " to int")
  | "len" =>
    Run.check (unpackPositional name args kwargs 1 [wantAny])
    match (← Run.store).length? (arg 0) with
    | some n =>
      if n < 0 then throw ("len: value of type " ++ (arg 0).typeName ++ " has no len")
      else pure (.int n)
    | none => throw ("len: value of type " ++ (arg 0).typeName ++ " has no len")
  | "list" =>
    Run.check (unpackPositional name args kwargs 0 [wantIterable])
    Run.newList ((← Run.items? (arg 0)).getD [])
  | "tuple" =>
    Run.check (unpackPositional name args kwargs 0 [wantIterable])
    pure (.tuple ((← Run.items? (arg 0)).getD []))
  | "max" | "min" =>
    if args.isEmpty then throw (name ++ " requires at least one positional argument")
    let given ← Run.check (unpackNamed name [] kwargs [⟨"key?", wantCallable⟩])
    let key := given.headD none
    let iterable := match args with
      | [v] => v
      | _ => .tuple args
    Run.iterating iterable (name ++ ": " ++ iterable.typeName ++ " value is not iterable")
      fun xs => do
        match xs with
        | [] => throw (name ++ ": argument is an empty sequence")
        | first :: rest =>
          let op : Comparison := if name == "max" then .gt else .lt
          let firstKey ← keysOf call key [first]
          let (best, _) ← rest.foldlM (fun (best, bestKey) x => do
            let k := (← keysOf call key [x]).headD .none
            if ← named name (Run.compare op k bestKey) then pure (x, k)
            else pure (best, bestKey)) (first, firstKey.headD .none)
          pure best
  | "ord" =>
    if !kwargs.isEmpty then throw "ord does not accept keyword arguments"
    if args.length != 1 then throw ("ord: got " ++ toString args.length ++ " arguments, want 1")
    match arg 0 with
    | .str s =>
      match Text.codePoints s with
      | [n] => pure (.int n)
      | ns => throw ("ord: string encodes " ++ toString ns.length ++
          " Unicode code points, want 1")
    | .bytes [b] => pure (.int b.toNat)
    | .bytes b => throw ("ord: bytes has length " ++ toString b.length ++ ", want 1")
    | v => throw ("ord: got " ++ v.typeName ++ ", want string or bytes")
  | "print" =>
    let given ← Run.check (unpackNamed name [] kwargs [⟨"sep?", wantString⟩])
    let sep := match given.headD none with
      | some v => v.stringBytes
      | none => [32]
    let s ← Run.store
    Run.print (Text.lossy ((args.map (printedBytes s)).intersperse sep).flatten)
    pure .none
  | "range" =>
    Run.check (unpackPositional name args kwargs 1 [wantInt, wantInt, wantInt])
    let (start, stop, step) := match args.map Value.intValue with
      | [b] => (0, b, 1)
      | [a, b] => (a, b, 1)
      | [a, b, s] => (a, b, s)
      | _ => (0, 0, 1)
    if step == 0 then throw "range: step argument must not be zero"
    pure (.range start stop step)
  | "repr" =>
    Run.check (unpackPositional name args kwargs 1 [wantAny])
    pure (.ofString (← Run.repr (arg 0)))
  | "str" =>
    if !kwargs.isEmpty then throw "str does not accept keyword arguments"
    if args.length != 1 then
      throw ("str: got " ++ toString args.length ++ " arguments, want exactly 1")
    match arg 0 with
    | .str s => pure (.str s)
    | .bytes b => pure (.str (Text.transcode b))
    | v => pure (.ofString (← Run.repr v))
  | "reversed" =>
    Run.check (unpackPositional name args kwargs 1 [wantIterable])
    Run.newList ((← Run.items? (arg 0)).getD []).reverse
  | "sorted" =>
    let given ← Run.check (unpackNamed name args kwargs
      [⟨"iterable", wantIterable⟩, ⟨"key?", wantCallable⟩, ⟨"reverse?", wantBool⟩])
    let iterable := (given.headD none).getD .none
    let key := given.getD 1 none
    let reverse := ((given.getD 2 none).map Value.boolValue).getD false
    Run.iterating iterable "sorted: value is not iterable" fun xs => do
      let keys ← keysOf call key xs
      let s ← Run.store
      let less (a b : Value × Value) : Except String Bool :=
        if reverse then s.compareValues .lt b.1 a.1 else s.compareValues .lt a.1 b.1
      let (sorted, failure) := stableSort less (keys.zip xs).toArray
      match failure with
      | some e => throw e
      | none => Run.newList (sorted.toList.map (·.2))
  | "type" =>
    if !kwargs.isEmpty then throw "type does not accept keyword arguments"
    if args.length != 1 then
      throw ("type: got " ++ toString args.length ++ " arguments, want exactly 1")
    pure (.ofString (arg 0).typeName)
  | "zip" =>
    if !kwargs.isEmpty then throw "zip does not accept keyword arguments"
    let lists ← args.zipIdx.mapM fun (v, i) => do
      match ← Run.items? v with
      | some xs => pure xs
      | none => throw ("zip: argument #" ++ toString (i + 1) ++ " is not iterable: " ++ v.typeName)
    match lists with
    | [] => Run.newList []
    | first :: _ =>
      let n := (lists.map List.length).foldl min first.length
      let arrays := lists.map List.toArray
      Run.newList ((List.range n).map fun i => .tuple (arrays.map fun xs => xs.getD i .none))
  | _ => throw ("invalid call of non-function (builtin_function_or_method)")

/-- Call a method bound to its receiver. -/
def methodCall (name : String) (recv : Value) (args : List Value)
    (kwargs : Keywords) : Run Value :=
  match recv with
  | .str s => stringMethod name s args kwargs
  | .list r => listMethod name r args kwargs
  | .dict r => dictMethod name r args kwargs
  | .bytes b =>
    if name == "elems" then do
      Run.check (unpackPositional name args kwargs 0 [])
      pure (.view .byteElems b)
    else throw ("bytes has no ." ++ name ++ " field or method")
  | v => throw (v.typeName ++ " has no ." ++ name ++ " field or method")

end DecimalMachine.Script

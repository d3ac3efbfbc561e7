import DecimalMachine.Script.Operators

/-!
# Arguments of built-in functions

A built-in checks its arguments before it does anything: how many there are, which keywords
it takes, and what each must be. A misuse is reported in the language's words, prefixed with
the function's name and, for an argument of the wrong kind, with the parameter it was passed
for: its number or name when passed by position, its name in quotes when passed by keyword.

* `unpackPositional` checks a function that takes positional arguments only;
* `unpackNamed` matches positional and keyword arguments to named parameters, checking each
  argument as it is matched: first the positional ones, then the keywords in order;
* a `Want` says what an argument must be: any value, a string, a bool, an integer that fits
  in 64 bits, an iterable or a callable.
-/

namespace DecimalMachine.Script

/-- Keyword arguments, by name. A name is the bytes of a string: one that comes from a dict
passed with `**` need not be well-formed UTF-8. -/
abbrev Keywords := List (List UInt8 × Value)

/-- How a built-in calls a function value with positional and keyword arguments. -/
abbrev Caller := Value → List Value → Keywords → Run Value

/-- What an argument must be: the check gives the reason one is not (`got int, want
string`). -/
abbrev Want := Value → Except String Unit

/-- Any value. -/
def wantAny : Want := fun _ => pure ()

/-- A string. -/
def wantString : Want
  | .str _ => pure ()
  | v => throw ("got " ++ v.typeName ++ ", want string")

/-- A bool. -/
def wantBool : Want
  | .bool _ => pure ()
  | v => throw ("got " ++ v.typeName ++ ", want bool")

/-- An integer that fits in a signed 64-bit word. -/
def wantInt : Want
  | .int i =>
    if fits64 i then pure ()
    else throw (toString i ++ " out of range (want value in signed 64-bit range)")
  | v => throw ("got " ++ v.typeName ++ ", want int")

/-- Whether a value can be iterated: lists, tuples, dicts, ranges and views. -/
def Value.isIterable : Value → Bool
  | .list _ | .tuple _ | .dict _ | .range .. | .view .. => true
  | _ => false

/-- An iterable value. -/
def wantIterable : Want
  | v => if v.isIterable then pure () else throw ("got " ++ v.typeName ++ ", want iterable")

/-- A function or built-in. -/
def wantCallable : Want
  | .function .. | .builtin .. => pure ()
  | v => throw ("got " ++ v.typeName ++ ", want callable")

/-- Check the arguments of a function that takes only positional arguments: at least `least`
of them and one per `Want`, each satisfying its `Want`. -/
def unpackPositional (fn : String) (args : List Value) (kwargs : Keywords)
    (least : Nat) (wants : List Want) : Except String Unit := do
  let most := wants.length
  if !kwargs.isEmpty then throw (fn ++ ": unexpected keyword arguments")
  if args.length < least then
    throw (fn ++ ": got " ++ toString args.length ++ " arguments, want " ++
      (if least < most then "at least " else "") ++ toString least)
  if args.length > most then
    throw (fn ++ ": got " ++ toString args.length ++ " arguments, want " ++
      (if most > least then "at most " else "") ++ toString most)
  for (a, w, i) in args.zip (wants.zip (List.range args.length)) do
    match w a with
    | .ok () => pure ()
    | .error e => throw (fn ++ ": for parameter " ++ toString (i + 1) ++ ": " ++ e)

/-- A named parameter of a built-in: its name, ending in `?` when it may be left out, and
what its argument must be. -/
structure Slot where
  name : String
  want : Want := wantAny

/-- A parameter name without its optional marks (`x?`, `x??`). -/
def paramName (p : String) : String :=
  String.ofList (p.toList.reverse.dropWhile (· == '?')).reverse

/-- Match arguments to named parameters and check each one as it is matched. The result
holds the argument of each parameter, if one was given. -/
def unpackNamed (fn : String) (args : List Value) (kwargs : Keywords)
    (slots : List Slot) : Except String (List (Option Value)) := do
  let n := slots.length
  if args.length > n then
    throw (fn ++ ": got " ++ toString args.length ++ " arguments, want at most " ++ toString n)
  for (a, sl) in args.zip slots do
    match sl.want a with
    | .ok () => pure ()
    | .error e => throw (fn ++ ": for parameter " ++ paramName sl.name ++ ": " ++ e)
  let mut given : Array (Option Value) :=
    ((args.map some) ++ List.replicate (n - args.length) none).toArray
  for (k, v) in kwargs do
    match slots.findIdx? (fun sl => Text.utf8 (paramName sl.name) == k) with
    | some i =>
      if (given[i]?.getD none).isSome then
        throw (fn ++ ": got multiple values for keyword argument " ++ Text.quotedBytes k)
      match (slots[i]?.map (·.want)).getD wantAny v with
      | .ok () => pure ()
      | .error e => throw (fn ++ ": for parameter " ++ Text.quotedBytes k ++ ": " ++ e)
      given := given.setIfInBounds i (some v)
    | none =>
      let msg := fn ++ ": unexpected keyword argument " ++ Text.quotedBytes k
      let names := (slots.take ((n + 1) / 2)).map (paramName ·.name)
      match Text.nearest (Text.lossy k) names with
      | some m => throw (msg ++ " (did you mean " ++ m ++ "?)")
      | none => throw msg
  let rec required : List (Slot × Option Value) → Except String Unit
    | [] => pure ()
    | (sl, v) :: rest =>
      if sl.name.endsWith "?" then pure ()
      else if v.isNone then throw (fn ++ ": missing argument for " ++ sl.name)
      else required rest
  required ((slots.zip given.toList).drop args.length)
  pure given.toList

/-- The bytes of a string argument that was checked to be one. -/
def Value.stringBytes : Value → List UInt8
  | .str s => s
  | _ => []

/-- The number of an integer argument that was checked to be one. -/
def Value.intValue : Value → Int
  | .int i => i
  | _ => 0

/-- The truth of a bool argument that was checked to be one. -/
def Value.boolValue : Value → Bool
  | .bool b => b
  | _ => false

end DecimalMachine.Script

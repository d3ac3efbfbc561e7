import DecimalMachine.Script.Machine
import DecimalMachine.Text.Fixed
import DecimalMachine.Text.Search

/-!
# Operators

Arithmetic follows the language's rules: integers are unbounded; `/` always divides as
doubles; `//` and `%` round toward negative infinity, on integers and on doubles alike; an
integer meets a double by converting to the nearest double, which must be finite. Bitwise
operators act on integers as on infinite two's complement. Shifting left by 512 or more, or by
a negative count, is refused. `+` joins strings, lists and tuples; `*` repeats them; `|`
merges dicts. Joining or repeating lists makes a new list.

Indexing counts from the end for negative indices; slicing clamps its bounds. Indices, slice
bounds and repeat counts must fit in 32 bits. Strings are indexed and sliced by bytes, so a
slice may cut a character.

Each failing operation gives the language's diagnostic text.
-/

namespace DecimalMachine.Script

/-- The bits of `a` and `b` both set, in two's complement. -/
def bitAnd (a b : Int) : Int :=
  match a, b with
  | .ofNat m, .ofNat n => .ofNat (m &&& n)
  | .ofNat m, .negSucc n => .ofNat (m - (m &&& n))
  | .negSucc m, .ofNat n => .ofNat (n - (n &&& m))
  | .negSucc m, .negSucc n => .negSucc (m ||| n)

/-- The bits of `a` or `b` set, in two's complement. -/
def bitOr (a b : Int) : Int :=
  match a, b with
  | .ofNat m, .ofNat n => .ofNat (m ||| n)
  | .ofNat m, .negSucc n => .negSucc (n - (n &&& m))
  | .negSucc m, .ofNat n => .negSucc (m - (m &&& n))
  | .negSucc m, .negSucc n => .negSucc (m &&& n)

/-- The bits set in exactly one of `a` and `b`, in two's complement. -/
def bitXor (a b : Int) : Int :=
  match a, b with
  | .ofNat m, .ofNat n => .ofNat (m ^^^ n)
  | .ofNat m, .negSucc n => .negSucc (m ^^^ n)
  | .negSucc m, .ofNat n => .negSucc (m ^^^ n)
  | .negSucc m, .negSucc n => .ofNat (m ^^^ n)

/-- The nearest double to an integer, refused when it is infinite. -/
def finiteFloat (i : Int) : Except String Float :=
  let f := Text.doubleOfInt i
  if f.isInf then throw "int too large to convert to float" else pure f

/-- The double nearest to `m · 2^e`. -/
def exactFloat (m e : Int) : Float :=
  if e ≥ 0 then Text.nearestDouble (m < 0) (m.natAbs * Nat.pow 2 e.toNat) 1
  else Text.nearestDouble (m < 0) m.natAbs (Nat.pow 2 e.natAbs)

/-- The remainder of `x / y` truncated toward zero, computed exactly. -/
def floatRemainder (x y : Float) : Float :=
  if x.isNaN || y.isNaN || x.isInf || y == 0 then 0.0 / 0.0
  else if y.isInf then x
  else
    let (mx, ex) := Text.exactParts x
    let (my, ey) := Text.exactParts y
    let e := min ex ey
    let bx := mx * Int.pow 2 (ex - e).toNat
    let byy := my * Int.pow 2 (ey - e).toNat
    let r := bx.tmod byy
    if r == 0 then (if x < 0 || (x == 0 && x.toBits.toNat ≥ Nat.pow 2 63) then -0.0 else 0.0)
    else exactFloat r e

/-- The remainder of `x / y` with the sign of `y`. -/
def floatMod (x y : Float) : Float :=
  let z := floatRemainder x y
  if (x < 0) != (y < 0) && z != 0 then z + y else z

/-- A value as a 32-bit integer, as indices, slice bounds and shift counts require. -/
def asSmallInt : Value → Except String Int
  | .int i => if fits32 i then pure i else throw (toString i ++ " out of range")
  | v => throw ("got " ++ v.typeName ++ ", want int")

/-- The largest size a repetition may produce. -/
def repeatLimit : Int := 1073741824

/-- `n` copies of a sequence of `size` elements, given the copies of nothing (`empty`) and
the repeated sequence (`rep`); refused when the result would be too large. -/
def repetition {α : Type} (size : Nat) (n : Int) (empty : α) (rep : Nat → α) : Except String α :=
  if size == 0 then pure empty
  else match asSmallInt (.int n) with
    | .error _ => throw ("repeat count " ++ toString n ++ " too large")
    | .ok i =>
      if i < 1 then pure empty
      else if (size : Int) * i ≥ repeatLimit then
        throw ("excessive repeat (" ++ toString size ++ " * " ++ toString i ++ " elements)")
      else pure (rep i.toNat)

/-- `s` repeated `n` times. -/
def repeatString (s : List UInt8) (n : Int) : Except String Value :=
  repetition s.length n (.str []) fun k => .str (List.replicate k s).flatten

/-- The elements of `xs` repeated `n` times. -/
def repeatItems (xs : List Value) (n : Int) : Except String (List Value) :=
  repetition xs.length n [] fun k => (List.replicate k xs).flatten

/-- How the operators are written in diagnostics. -/
def BinaryOp.name : BinaryOp → String
  | .isIn | .notIn => "in"
  | op => op.symbol

/-- The diagnostic for operand types an operator does not accept. -/
def unknownBinary (op : BinaryOp) (x y : Value) : String :=
  "unknown binary op: " ++ x.typeName ++ " " ++ op.name ++ " " ++ y.typeName

/-- Apply a unary operator; `truth` is the operand's truth, which `not` gives back negated. -/
def unaryOp (op : UnaryOp) (x : Value) (truth : Bool) : Except String Value :=
  match op, x with
  | .not, _ => pure (.bool !truth)
  | .neg, .int i => pure (.int (-i))
  | .neg, .float f => pure (.float (-f))
  | .plus, .int i => pure (.int i)
  | .plus, .float f => pure (.float f)
  | .invert, .int i => pure (.int (-i - 1))
  | _, _ => throw ("unknown unary op: " ++ op.symbol ++ " " ++ x.typeName)

/-- A number as an integer, as `%d` and `int` take it: a double is truncated. -/
def numberToInt : Value → Except String Int
  | .int i => pure i
  | .float f =>
    if f.isNaN then throw "cannot convert float NaN to integer"
    else if f.isInf then throw "cannot convert float infinity to integer"
    else pure (Text.truncate f)
  | v => throw ("cannot convert " ++ v.typeName ++ " to int")

/-- A double in the form a `%e`, `%f` or `%g` conversion (or `%E`, `%G`) asks for. Fixed
notation has no upper-case form: `%F` writes itself for a finite double. -/
def floatConversion (f : Float) (c : Char) : String :=
  if f.isNaN then "nan"
  else if f.isInf then (if f > 0 then "+inf" else "-inf")
  else if c == 'F' then "%F"
  else
    let text := match c.toLower with
      | 'e' => Text.scientificText f 6
      | 'f' => Text.fixedText f 6
      | _ => floatText f
    if c.isUpper then text.toUpper else text

/-- The digits of a non-negative integer in a base, lower case. -/
def digitsIn (base : Nat) (i : Int) : String :=
  (if i < 0 then "-" else "") ++ String.ofList (Nat.toDigits base i.natAbs)

/-- Whether `x` occurs in `y`: an element of a list or tuple, a key of a dict (a key that
cannot be looked up is absent), a substring, a byte, or a member of a range (a number
outside the 32-bit range is in no range). -/
def membership (s : Store) (x y : Value) : Except String Bool :=
  match y with
  | .list r => anyEqual (s.listItems r).toList
  | .tuple items => anyEqual items
  | .dict r =>
    match x.checkHashable with
    | .ok () => pure ((s.table r).lookup x).isSome
    | .error _ => pure false
  | .str str =>
    match x with
    | .str needle => pure (Text.findBytes str needle 0).isSome
    | _ => throw ("'in <string>' requires string as left operand, not " ++ x.typeName)
  | .bytes b =>
    match x with
    | .bytes needle => pure (Text.findBytes b needle 0).isSome
    | .int i =>
      if 0 ≤ i && i < 256 then pure (b.contains i.toNat.toUInt8)
      else throw ("int in bytes: " ++ toString i ++ " out of range (want value in unsigned 8-bit range)")
    | _ => throw ("'in bytes' requires bytes or int as left operand, not " ++ x.typeName)
  | .range a b st =>
    match numberToInt x with
    | .error _ => throw ("'in <range>' requires integer as left operand, not " ++ x.typeName)
    | .ok i =>
      if !fits32 i then pure false
      else
        let delta := wrap64 (i - a)
        let q := delta.tdiv st
        pure (delta.tmod st == 0 && 0 ≤ q && q < rangeLength a b st)
  | _ => throw (unknownBinary .isIn x y)
where
  /-- Whether some element equals `x`. -/
  anyEqual : List Value → Except String Bool
    | [] => pure false
    | e :: es => do
      if ← s.equal e x then pure true else anyEqual es

/-- The digits of an integer in a base, lower case, after a minus sign when negative. -/
def signedDigits (base : Nat) (i : Int) : String :=
  (if i < 0 then "-" else "") ++ String.ofList (Nat.toDigits base i.natAbs)

/-- `format % x`: each `%` conversion in `format` replaced by the next argument (the elements
of `x` when it is a tuple, else `x` itself), or by a value of the dict `x` for `%(key)`. The
format is read byte by byte; a conversion character outside ASCII is named as the character
of that byte's value. Arguments left over are refused, unless `x` is a dict. -/
def interpolate (s : Store) (format : List UInt8) (x : Value) : Except String Value := do
  let args := match x with
    | .tuple xs => xs
    | v => [v]
  let percent : UInt8 := 37
  -- `out` holds the bytes written so far, last first
  let rec go (fuel : Nat) (bs : List UInt8) (index : Nat) (out : List UInt8) :
      Except String (List UInt8 × Nat) :=
    match fuel with
    | 0 => pure (out, index)
    | fuel + 1 =>
      match bs with
      | [] => pure (out, index)
      | b :: rest =>
        if b != percent then go fuel rest index (b :: out)
        else if rest.head? == some percent then go fuel rest.tail index (percent :: out)
        else do
          let (arg, rest) ← match rest with
            | 40 :: more =>
              let key := more.takeWhile (· != 41)
              if key.length == more.length then throw "incomplete format key"
              match x with
              | .dict r =>
                match (s.table r).lookup (.str key) with
                | some v => pure (v, more.drop (key.length + 1))
                | none => throw ("key not found: " ++ Text.lossy key)
              | _ => throw "format requires a mapping"
            | _ =>
              if index ≥ args.length then throw "not enough arguments for format string"
              pure (args.getD index .none, rest)
          match rest with
          | [] => throw "incomplete format"
          | c :: rest =>
            let c := Char.ofNat c.toNat
            let piece ← match c with
              | 's' => pure (s.textBytes arg)
              | 'r' => pure (Text.utf8 (s.repr arg))
              | 'd' | 'i' | 'o' | 'x' | 'X' =>
                match numberToInt arg with
                | .error e => throw ("%" ++ c.toString ++ " format requires integer: " ++ e)
                | .ok i =>
                  pure (Text.utf8 (if c == 'o' then signedDigits 8 i
                    else if c == 'x' then signedDigits 16 i
                    else if c == 'X' then (signedDigits 16 i).toUpper else toString i))
              | 'e' | 'f' | 'g' | 'E' | 'F' | 'G' =>
                match arg with
                | .float f => pure (Text.utf8 (floatConversion f c))
                | .int i => pure (Text.utf8 (floatConversion (Text.doubleOfInt i) c))
                | v => throw ("%" ++ c.toString ++ " format requires float, not " ++ v.typeName)
              | 'c' =>
                match arg with
                | .int i =>
                  if i < 0 || i > 0x10FFFF then
                    throw ("%c format requires a valid Unicode code point, got " ++ toString i)
                  else pure (Text.codeBytes i.toNat)
                | .str str =>
                  match Text.pieces str with
                  | [p] => pure (Text.codeBytes p.1)
                  | _ => throw "%c format requires a single-character string"
                | v => throw ("%c format requires int or single-character string, not " ++ v.typeName)
              | '%' => pure [percent]
              | c => throw ("unknown conversion %" ++ c.toString)
            go fuel rest (index + 1) (piece.reverse ++ out)
  let (out, used) ← go (format.length + 1) format 0 []
  let isDict := match x with
    | .dict _ => true
    | _ => false
  if used < args.length && !isDict then throw "too many arguments for format string"
  pure (.str out.reverse)

/-- Apply an arithmetic or bitwise operator to two values that need no new list or dict. -/
def arithmetic (s : Store) (op : BinaryOp) (x y : Value) : Except String Value :=
  let unknown : Except String Value := throw (unknownBinary op x y)
  match op with
  | .add =>
    match x, y with
    | .str a, .str b => pure (.str (a ++ b))
    | .int a, .int b => pure (.int (a + b))
    | .int a, .float b => do pure (.float ((← finiteFloat a) + b))
    | .float a, .float b => pure (.float (a + b))
    | .float a, .int b => do pure (.float (a + (← finiteFloat b)))
    | .tuple a, .tuple b => pure (.tuple (a ++ b))
    | .bytes a, .bytes b => pure (.bytes (a ++ b))
    | _, _ => unknown
  | .sub =>
    match x, y with
    | .int a, .int b => pure (.int (a - b))
    | .int a, .float b => do pure (.float ((← finiteFloat a) - b))
    | .float a, .float b => pure (.float (a - b))
    | .float a, .int b => do pure (.float (a - (← finiteFloat b)))
    | _, _ => unknown
  | .mul =>
    match x, y with
    | .int a, .int b => pure (.int (a * b))
    | .int a, .float b => do pure (.float ((← finiteFloat a) * b))
    | .float a, .float b => pure (.float (a * b))
    | .float a, .int b => do pure (.float (a * (← finiteFloat b)))
    | .int n, .str str | .str str, .int n => repeatString str n
    | .int n, .tuple xs | .tuple xs, .int n => do pure (.tuple (← repeatItems xs n))
    | .int n, .bytes b | .bytes b, .int n =>
      repetition b.length n (.bytes []) fun k => .bytes (List.replicate k b).flatten
    | _, _ => unknown
  | .div =>
    let divide (a b : Float) : Except String Value :=
      if b == 0 then throw "floating-point division by zero" else pure (.float (a / b))
    match x, y with
    | .int a, .int b => do divide (← finiteFloat a) (← finiteFloat b)
    | .int a, .float b => do divide (← finiteFloat a) b
    | .float a, .float b => divide a b
    | .float a, .int b => do divide a (← finiteFloat b)
    | _, _ => unknown
  | .floorDiv =>
    let divide (a b : Float) : Except String Value :=
      if b == 0 then throw "floored division by zero" else pure (.float (a / b).floor)
    match x, y with
    | .int a, .int b =>
      if b == 0 then throw "floored division by zero" else pure (.int (a.fdiv b))
    | .int a, .float b => do divide (← finiteFloat a) b
    | .float a, .float b => divide a b
    | .float a, .int b => do divide a (← finiteFloat b)
    | _, _ => unknown
  | .mod =>
    match x, y with
    | .int a, .int b =>
      if b == 0 then throw "integer modulo by zero" else pure (.int (a.fmod b))
    | .int a, .float b => do
      let a ← finiteFloat a
      if b == 0 then throw "floating-point modulo by zero" else pure (.float (floatMod a b))
    | .float a, .float b =>
      if b == 0 then throw "floating-point modulo by zero" else pure (.float (floatMod a b))
    | .float a, .int b => do
      if b == 0 then throw "floating-point modulo by zero"
      pure (.float (floatMod a (← finiteFloat b)))
    | .str f, v => interpolate s f v
    | _, _ => unknown
  | .isIn => do pure (.bool (← membership s x y))
  | .notIn => do pure (.bool !(← membership s x y))
  | .bitOr =>
    match x, y with
    | .int a, .int b => pure (.int (bitOr a b))
    | _, _ => unknown
  | .bitAnd =>
    match x, y with
    | .int a, .int b => pure (.int (bitAnd a b))
    | _, _ => unknown
  | .bitXor =>
    match x, y with
    | .int a, .int b => pure (.int (bitXor a b))
    | _, _ => unknown
  | .shiftLeft | .shiftRight =>
    match x with
    | .int a => do
      let n ← asSmallInt y
      if n < 0 then throw ("negative shift count: " ++ toString n)
      if op == .shiftLeft then
        if n ≥ 512 then throw ("shift count too large: " ++ toString n)
        pure (.int (a * Int.pow 2 n.toNat))
      else pure (.int (a >>> n.toNat))
    | _ => unknown
  | _ => unknown

/-- Apply an arithmetic, bitwise or membership operator. Joining or repeating lists and
merging dicts make a new list or dict. -/
def binaryOp (op : BinaryOp) (x y : Value) : Run Value := do
  match op, x, y with
  | .add, .list a, .list b =>
    Run.newList ((← Run.listItems a).toList ++ (← Run.listItems b).toList)
  | .mul, .int n, .list r | .mul, .list r, .int n =>
    Run.newList (← Run.check (repeatItems (← Run.listItems r).toList n))
  | .bitOr, .dict a, .dict b =>
    let merged ← Run.newDict
    match merged with
    | .dict m =>
      for (k, v) in (← Run.table a).entries do Run.dictInsert m k v
      for (k, v) in (← Run.table b).entries do Run.dictInsert m k v
    | _ => pure ()
    pure merged
  | _, _, _ => Run.check (arithmetic (← Run.store) op x y)

/-- The comparison a binary operator stands for, if it is one. -/
def BinaryOp.comparison? : BinaryOp → Option Comparison
  | .eq => some .eq | .ne => some .ne | .lt => some .lt | .gt => some .gt
  | .le => some .le | .ge => some .ge
  | _ => none

/-- The diagnostic for an index outside a sequence of length `n`. -/
def outOfRange (i n : Int) (typeName : String) : String :=
  if n == 0 then "index " ++ toString i ++ " out of range: empty " ++ typeName
  else typeName ++ " index " ++ toString i ++ " out of range [" ++ toString (-n) ++ ":" ++
    toString (n - 1) ++ "]"

/-- The element of `x` at `y`: the value for key `y` of a dict, else the element at an
index counted from the end when negative. -/
def indexValue (s : Store) (x y : Value) : Except String Value :=
  match x with
  | .dict r => do
    y.checkHashable
    match ← (s.table r).lookup? y with
    | some v => pure v
    | none => throw ("key " ++ s.repr y ++ " not in dict")
  | .str _ | .bytes _ | .list _ | .tuple _ | .range .. | .view .elems _ | .view .elemOrds _ => do
    let n := (s.length? x).getD 0
    let i ← match asSmallInt y with
      | .ok i => pure i
      | .error e => throw (x.typeName ++ " index: " ++ e)
    let j := if i < 0 then i + n else i
    if j < 0 || j ≥ n then throw (outOfRange i n x.typeName)
    let k := j.toNat
    match x with
    | .str str => pure (.str [str.getD k 0])
    | .bytes b => pure (.bytes [b.getD k 0])
    | .list r => pure ((s.listItems r)[k]?.getD .none)
    | .tuple xs => pure (xs.getD k .none)
    | .range a _ st => pure (.int (rangeAt a st k))
    | .view .elems bs => pure (.str [bs.getD k 0])
    | .view _ bs => pure (.int (bs.getD k 0).toNat)
    | _ => pure .none
  | _ => throw ("unhandled index operation " ++ x.typeName ++ "[" ++ y.typeName ++ "]")

/-- An optional slice bound as an index, counted from the end when negative. -/
def sliceBound (v : Value) (n : Int) (dflt : Int) : Except String Int :=
  match v with
  | .none => pure dflt
  | v => do
    let i ← asSmallInt v
    pure (if i < 0 then i + n else i)

/-- An index clamped to `[0, n]`: below zero it is zero, else above `n` it is `n`. -/
def clampIndex (i n : Int) : Int :=
  if i < 0 then 0 else if i > n then n else i

/-- The start and end of a substring range given optional bounds, each counted from the end
when negative and clamped to `[0, n]`. -/
def clampedRange (n : Nat) (lo hi : Value) : Except String (Nat × Nat) := do
  let a ← match sliceBound lo n 0 with
    | .ok a => pure a
    | .error e => throw ("invalid start index: " ++ e)
  let b ← match sliceBound hi n n with
    | .ok b => pure b
    | .error e => throw ("invalid end index: " ++ e)
  pure ((clampIndex a n).toNat, (clampIndex b n).toNat)

/-- The positions a slice visits, from `start` by `step` while short of `stop`. -/
def slicePositions (start stop step : Int) (n : Nat) : List Nat :=
  (rangeItems start stop step).filterMap fun (i : Int) =>
    if 0 ≤ i && i < (n : Int) then some i.toNat else none

/-- The start, stop and step of `x[lo:hi:step]` for a sequence of length `n`: with a
positive step the bounds are clamped to `[0, n]`, with a negative one to `[-1, n - 1]`. -/
def sliceIndices (n : Int) (lo hi step : Value) : Except String (Int × Int × Int) := do
  let st ← match step with
    | .none => pure 1
    | v => match asSmallInt v with
      | .ok st => pure st
      | .error e => throw ("invalid slice step: " ++ e)
  if st == 0 then throw "zero is not a valid slice step"
  if st > 0 then
    let a ← match sliceBound lo n 0 with
      | .ok a => pure (clampIndex a n)
      | .error e => throw ("invalid start index: " ++ e)
    let b ← match sliceBound hi n n with
      | .ok b => pure (clampIndex b n)
      | .error e => throw ("invalid end index: " ++ e)
    pure (a, max a b, st)
  else
    let a ← match sliceBound lo n (n - 1) with
      | .ok a => pure (min a (n - 1))
      | .error e => throw ("invalid start index: " ++ e)
    let b ← match sliceBound hi n (-1) with
      | .ok b => pure (max b (-1))
      | .error e => throw ("invalid end index: " ++ e)
    pure (max a b, b, st)

/-- `x[lo:hi:step]`; absent bounds are `None`. Slicing a list makes a new list. -/
def sliceValue (x lo hi step : Value) : Run Value := do
  let s ← Run.store
  let n ← match x with
    | .str _ | .bytes _ | .list _ | .tuple _ | .range .. => pure ((s.length? x).getD 0)
    | _ => throw ("invalid slice operand " ++ x.typeName)
  let (start, stop, st) ← Run.check (sliceIndices n lo hi step)
  let picks := slicePositions start stop st n.toNat
  match x with
  | .str str =>
    let a := str.toArray
    pure (.str (picks.map fun i => a.getD i 0))
  | .bytes b =>
    let a := b.toArray
    pure (.bytes (picks.map fun i => a.getD i 0))
  | .list r =>
    let xs := s.listItems r
    Run.newList (picks.map fun i => xs[i]?.getD .none)
  | .tuple xs =>
    let a := xs.toArray
    pure (.tuple (picks.map fun i => a.getD i .none))
  | .range a _ rst => pure (.range (rangeAt a rst start) (rangeAt a rst stop) (wrap64 (rst * st)))
  | _ => pure .none

/-- The methods of a value's type, in alphabetical order. -/
def methodNames : Value → List String
  | .str _ =>
    ["capitalize", "codepoint_ords", "codepoints", "count", "elem_ords", "elems", "endswith",
     "find", "format", "index", "isalnum", "isalpha", "isdigit", "islower", "isspace",
     "istitle", "isupper", "join", "lower", "lstrip", "partition", "removeprefix",
     "removesuffix", "replace", "rfind", "rindex", "rpartition", "rsplit", "rstrip", "split",
     "splitlines", "startswith", "strip", "title", "upper"]
  | .list _ => ["append", "clear", "extend", "index", "insert", "pop", "remove"]
  | .dict _ =>
    ["clear", "get", "items", "keys", "pop", "popitem", "setdefault", "update", "values"]
  | .bytes _ => ["elems"]
  | _ => []

/-- Whether a value's type has attributes at all. -/
def hasAttributes : Value → Bool
  | .str _ | .list _ | .dict _ | .bytes _ => true
  | _ => false

/-- The diagnostic for a missing attribute, with a suggestion among the type's methods. -/
def missingAttribute (x : Value) (name : String) : String :=
  let msg := x.typeName ++ " has no ." ++ name ++ " field or method"
  if hasAttributes x then
    match Text.nearest name (methodNames x) with
    | some n => msg ++ " (did you mean ." ++ n ++ "?)"
    | none => msg
  else msg

/-- The attribute `name` of `x`: a method bound to `x`, new each time. -/
def attributeOf (x : Value) (name : String) : Run Value := do
  if (methodNames x).contains name then pure (.builtin name (some x) (← Run.fresh))
  else throw (missingAttribute x name)

end DecimalMachine.Script

/-!
# Decimal numerals

Reading. Tape words, predefined values and literal operands are read as decimal integers: an
optional `+` or `-`, then one or more ASCII digits, and the value must fit in a signed
64-bit word. The memory-size flag is read more liberally: a base prefix (`0x`, `0o`, `0b`,
or a bare leading `0` for octal) and `_` between digits are allowed there.

Writing. Numbers inside messages are written with a comma before every group of three
digits, counted from the right: `1,201`, `-1,500`, `-9,223,372,036,854,775,808`. Listings,
register dumps and trace records use plain numerals instead, some in a minimum width: a sign
when the number is negative (or always, for the accumulator), then zeros, then the digits, so
`7` is `007` and `-5` is `-05` in width three. A wider number is never cut. Column labels are
right-aligned with spaces.
-/

namespace DecimalMachine.Text

/-- The least value of a signed 64-bit word. -/
def wordMin : Int := -9223372036854775808

/-- The greatest value of a signed 64-bit word. -/
def wordMax : Int := 9223372036854775807

/-- Whether `i` fits in a signed 64-bit word. -/
def fitsWord (i : Int) : Bool :=
  decide (wordMin ≤ i) && decide (i ≤ wordMax)

/-- The value of a digit character in base `base`, if it is one. -/
def digitValue (base : Nat) (c : Char) : Option Nat :=
  let d :=
    if '0' ≤ c && c ≤ '9' then c.toNat - '0'.toNat
    else if 'a' ≤ c && c ≤ 'z' then c.toNat - 'a'.toNat + 10
    else if 'A' ≤ c && c ≤ 'Z' then c.toNat - 'A'.toNat + 10
    else 36
  if d < base then some d else none

/-- The value of a non-empty run of digits in `base`. -/
def digitsValue (base : Nat) : List Char → Option Nat
  | [] => none
  | c :: cs => go (digitValue base c) cs
where
  /-- Fold the remaining digits into the value read so far. -/
  go : Option Nat → List Char → Option Nat
    | acc, [] => acc
    | acc, c :: cs => go (do let v ← acc; let d ← digitValue base c; pure (v * base + d)) cs

/-- Split an optional leading sign from a character list. -/
def splitSign : List Char → Bool × List Char
  | '-' :: cs => (true, cs)
  | '+' :: cs => (false, cs)
  | cs => (false, cs)

/-- A decimal integer with optional sign, if it fits in a signed 64-bit word. -/
def readDecimal? (s : String) : Option Int :=
  let (negative, rest) := splitSign s.toList
  match digitsValue 10 rest with
  | none => none
  | some n =>
    let v : Int := if negative then -(n : Int) else n
    if fitsWord v then some v else none

/-- Why a liberal integer could not be read. -/
inductive ReadFailure where
  /-- The text is not an integer in any accepted spelling. -/
  | malformed
  /-- The text is an integer that does not fit in a signed 64-bit word. -/
  | range
  deriving DecidableEq, Repr

/-- Whether the `_` of a digit run stand only between digits (or after a base prefix). -/
def underscoresPlaced (prefixed : Bool) (cs : List Char) : Bool :=
  go prefixed cs
where
  /-- `afterDigit` says whether the previous character was a digit (or the prefix). -/
  go : Bool → List Char → Bool
    | afterDigit, [] => afterDigit
    | afterDigit, '_' :: cs => afterDigit && go false cs
    | _, _ :: cs => go true cs

/-- The value of the digits of `cs` in `base` after the value `n` read so far, `_` skipped. A
character that is not a digit makes the text malformed, and a value past `2^64 - 1` is out
of range as soon as it is reached, whatever follows. -/
def unsignedDigits (base : Nat) : Nat → List Char → Except ReadFailure Nat
  | n, [] => .ok n
  | n, '_' :: cs => unsignedDigits base n cs
  | n, c :: cs =>
    match digitValue base c with
    | none => .error .malformed
    | some d =>
      let m := n * base + d
      if m ≥ 18446744073709551616 then .error .range else unsignedDigits base m cs

/-- An integer with optional sign, base prefix and digit separators, as the memory-size flag
reads it: `0x1F`, `0o17`, `0b101`, `017` (octal), `1_000`. A prefix needs a digit after it:
`0x` alone is a `0` followed by the octal digit `x`, which is malformed. -/
def readLiberal (s : String) : Except ReadFailure Int :=
  let (negative, rest) := splitSign s.toList
  let (base, body, prefixed) :=
    match rest with
    | '0' :: c :: d :: cs =>
      if c == 'x' || c == 'X' then (16, d :: cs, true)
      else if c == 'o' || c == 'O' then (8, d :: cs, true)
      else if c == 'b' || c == 'B' then (2, d :: cs, true)
      else (8, c :: d :: cs, true)
    | '0' :: cs => (8, cs, true)
    | cs => (10, cs, false)
  if rest.isEmpty then .error .malformed
  else
    match unsignedDigits base 0 body with
    | .error e => .error e
    | .ok n =>
      if body.contains '_' && !underscoresPlaced prefixed body then .error .malformed
      else
        let v : Int := if negative then -(n : Int) else n
        if fitsWord v then .ok v else .error .range

/-! ## Grouped numerals -/

/-- Insert a comma after every third character of a reversed digit list, never at its end. -/
def groupThrees : List Char → List Char
  | a :: b :: c :: d :: rest => a :: b :: c :: ',' :: groupThrees (d :: rest)
  | ds => ds

/-- The decimal digits of `n`, most significant first. -/
def digits (n : Nat) : List Char :=
  Nat.toDigits 10 n

/-- A natural number with its digits grouped by three. -/
def groupedNat (n : Nat) : String :=
  String.ofList (groupThrees (digits n).reverse).reverse

/-- An integer with its digits grouped by three and a leading `-` when negative. -/
def grouped (i : Int) : String :=
  (if i < 0 then "-" else "") ++ groupedNat i.natAbs

/-- Fewer than four digits need no comma. -/
theorem groupThrees_short (ds : List Char) (h : ds.length < 4) : groupThrees ds = ds := by
  match ds, h with
  | [], _ => rfl
  | [_], _ => rfl
  | [_, _], _ => rfl
  | [_, _, _], _ => rfl

/-! ## Plain and fixed-width numerals -/

/-- At least `width` characters: the sign (`-`, or `+` when `plus` asks for it), zeros, digits. -/
def zeroPadded (width : Nat) (plus : Bool) (i : Int) : String :=
  let sign := if i < 0 then "-" else if plus then "+" else ""
  let body := String.ofList (digits i.natAbs)
  sign ++ String.ofList (List.replicate (width - sign.length - body.length) '0') ++ body

/-- A numeral zero-padded to three places, the width of a machine word. -/
def threePlaces (i : Int) : String :=
  zeroPadded 3 false i

/-- Right-align `s` in a column of `width` characters, padding with spaces. -/
def rightAligned (width : Nat) (s : String) : String :=
  String.ofList (List.replicate (width - s.length) ' ') ++ s

/-- Plain decimal text of an integer: digits with a leading `-` when negative. -/
def decimal (i : Int) : String :=
  (if i < 0 then "-" else "") ++ String.ofList (digits i.natAbs)

/-- A list of integers in brackets, separated by single spaces: `[1 -2 3]`. -/
def bracketed (xs : List String) : String :=
  "[" ++ " ".intercalate xs ++ "]"

end DecimalMachine.Text

import DecimalMachine.Text.Decimal

/-!
# Reading doubles

A double is made from an exact non-negative ratio `num / den` by rounding to the nearest
value of the binary64 format, a tie going to the even significand (`nearestBits`). The ratio
is scaled by a power of two `2^k` so that its integer part has 53 bits, or fewer at the least
exponent, where the doubles are subnormal; the remainder of that division decides the
rounding, and a significand that carries into 54 bits moves one exponent up. A value beyond
the largest finite double is infinite.

`readFloat?` reads the float text grammar:

* an optional `+` or `-`;
* decimal digits with at most one `.` and at least one digit, then an optional exponent:
  `e` or `E`, an optional sign and decimal digits;
* or `0x` (`0X`) and hexadecimal digits with at most one `.`, then a binary exponent that
  must be there: `p` or `P`, an optional sign and decimal digits;
* a `_` may stand between two digits or after the base prefix, nowhere else.

The text must be read to its end. Exponent digits stop counting once the exponent has
reached 10000: a larger exponent makes every mantissa of reasonable length infinite or zero.
-/

namespace DecimalMachine.Text

/-- The bits of positive infinity. -/
def infinityBits : Nat := 0x7FF0000000000000

/-- The quotient and remainder of `num / (den · 2^k)`, and the divisor the remainder is
measured against. -/
def scaledQuotient (num den : Nat) (k : Int) : Nat × Nat × Nat :=
  if k ≥ 0 then
    let d := den * Nat.pow 2 k.toNat
    (num / d, num % d, d)
  else
    let n := num * Nat.pow 2 k.natAbs
    (n / den, n % den, den)

/-- The bits of the non-negative double nearest to `num / den`, ties to the even significand.
For `num / den` in `[2^a, 2^(a+1))` the first guess `k = a - 52` of the scale is off by at
most one, and the least scale is `-1074`, the exponent of the subnormal doubles. -/
def nearestBits (num den : Nat) : Nat :=
  if num == 0 || den == 0 then 0
  else
    let guess : Int := (num.log2 : Int) - den.log2 - 52
    let k := if (scaledQuotient num den guess).1 < Nat.pow 2 52 then guess - 1 else guess
    let k := max k (-1074)
    let (q, r, d) := scaledQuotient num den k
    let q := if 2 * r > d || (2 * r == d && q % 2 == 1) then q + 1 else q
    let (q, k) := if q == Nat.pow 2 53 then (q / 2, k + 1) else (q, k)
    if k > 971 then infinityBits
    else if q < Nat.pow 2 52 then q
    else (k + 1075).toNat * Nat.pow 2 52 + (q - Nat.pow 2 52)

/-- The double nearest to `± num / den`. -/
def nearestDouble (negative : Bool) (num den : Nat) : Float :=
  Float.ofBits (UInt64.ofNat (nearestBits num den + (if negative then Nat.pow 2 63 else 0)))

/-- The double nearest to the integer `i`. -/
def doubleOfInt (i : Int) : Float :=
  nearestDouble (i < 0) i.natAbs 1

/-- The double nearest to `digits · 10^exp`. -/
def ofDecimal (digits : Nat) (exp : Int) : Float :=
  if exp ≥ 0 then nearestDouble false (digits * Nat.pow 10 exp.toNat) 1
  else nearestDouble false digits (Nat.pow 10 exp.natAbs)

/-- What has been read of a mantissa: its digits as a number, the count of digits after the
point, and whether a point, a digit or a `_` was seen. -/
structure Mantissa where
  value : Nat := 0
  fractionDigits : Nat := 0
  point : Bool := false
  digits : Bool := false
  underscores : Bool := false

/-- Read mantissa characters in base `base` up to the first one that cannot continue it: a
second point or a character that is no digit, point or `_`. -/
def scanMantissa (base : Nat) : Mantissa → List Char → Mantissa × List Char
  | m, [] => (m, [])
  | m, '_' :: cs => scanMantissa base { m with underscores := true } cs
  | m, '.' :: cs =>
    if m.point then (m, '.' :: cs) else scanMantissa base { m with point := true } cs
  | m, c :: cs =>
    match digitValue base c with
    | some d =>
      scanMantissa base
        { m with value := m.value * base + d, digits := true,
                 fractionDigits := if m.point then m.fractionDigits + 1 else m.fractionDigits } cs
    | none => (m, c :: cs)

/-- Read exponent digits and `_`; a digit counts only while the exponent is below 10000. -/
def scanExponentDigits : Nat → Bool → List Char → Nat × Bool × List Char
  | e, _, '_' :: cs => scanExponentDigits e true cs
  | e, u, c :: cs =>
    if c.isDigit then
      scanExponentDigits (if e < 10000 then e * 10 + (c.toNat - '0'.toNat) else e) u cs
    else (e, u, c :: cs)
  | e, u, [] => (e, u, [])

/-- An exponent after its mark: an optional sign, then a digit, then digits and `_`. The
result is the signed exponent, whether a `_` was seen, and what follows. -/
def scanExponent (cs : List Char) : Option (Int × Bool × List Char) :=
  let (negative, rest) := splitSign cs
  match rest with
  | c :: _ =>
    if c.isDigit then
      let (e, u, after) := scanExponentDigits 0 false rest
      some (if negative then -(e : Int) else e, u, after)
    else none
  | [] => none

/-- What the last character seen was, for placing `_`. -/
inductive Seen where
  | start
  | digit
  | underscore
  | other
  deriving DecidableEq

/-- Whether every `_` of a number text stands between two digits, or after the base prefix
and before a digit. -/
def underscoresBetweenDigits (cs : List Char) : Bool :=
  let body := (splitSign cs).2
  let isPrefixMark (c : Char) : Bool := c == 'b' || c == 'B' || c == 'o' || c == 'O' || isHexMark c
  match body with
  | '0' :: c :: rest =>
    if isPrefixMark c then go (isHexMark c) .digit rest else go false .start body
  | _ => go false .start body
where
  /-- The marks of the hexadecimal prefix. -/
  isHexMark (c : Char) : Bool := c == 'x' || c == 'X'
  /-- Walk the characters, `saw` being the class of the previous one. -/
  go (hex : Bool) : Seen → List Char → Bool
    | saw, [] => saw != .underscore
    | saw, c :: cs =>
      if c.isDigit || hex && (digitValue 16 c).isSome then go hex .digit cs
      else if c == '_' then saw == .digit && go hex .underscore cs
      else saw != .underscore && go hex .other cs

/-- The double a float text spells, if the text is one (see the module comment). A value
too large for a double is infinite. -/
def readFloat? (s : String) : Option Float :=
  let cs := s.toList
  let (negative, rest) := splitSign cs
  let (hex, body) := match rest with
    | '0' :: x :: c :: more => if x == 'x' || x == 'X' then (true, c :: more) else (false, rest)
    | _ => (false, rest)
  let (m, afterMantissa) := scanMantissa (if hex then 16 else 10) {} body
  let isMark (c : Char) : Bool := if hex then c == 'p' || c == 'P' else c == 'e' || c == 'E'
  let exponent : Option (Int × Bool × List Char) :=
    match afterMantissa with
    | c :: more =>
      if isMark c then scanExponent more else if hex then none else some (0, false, c :: more)
    | [] => if hex then none else some (0, false, [])
  match exponent with
  | some (e, u, []) =>
    if !m.digits then none
    else if (m.underscores || u) && !underscoresBetweenDigits cs then none
    else
      let magnitude : Float :=
        if m.value == 0 then 0
        else if hex then
          let shift := e - 4 * (m.fractionDigits : Int)
          if shift ≥ 0 then nearestDouble false (m.value * Nat.pow 2 shift.toNat) 1
          else nearestDouble false m.value (Nat.pow 2 shift.natAbs)
        else ofDecimal m.value (e - m.fractionDigits)
      some (if negative then -magnitude else magnitude)
  | _ => none

end DecimalMachine.Text

import DecimalMachine.Text.Binary64

/-!
# Shortest float text

A finite double is the exact value `m · 2^e` with integers `m` and `e` (`Float.exactParts`).
Its shortest decimal text is the fewest significant digits that read back as the same double,
and of those the nearest to it: for `p = 1, 2, …, 17` the two `p`-digit decimals on either side
of the value are read back (`ofDecimal`, correctly rounded), and the first `p` with a hit wins
(`shortestDigits`). Trying both sides matters where the double's rounding interval is lopsided,
at the powers of two.

`generalText` writes those digits as the `%g` conversion does with the shortest precision:
positional notation when the decimal exponent lies in `[-4, 6)`, otherwise a mantissa with an
exponent of at least two digits (`1e+06`, `1.5e-07`).
-/

namespace DecimalMachine.Text

/-- The exact value of a finite double as a signed mantissa and a power of two. -/
def exactParts (f : Float) : Int × Int :=
  let bits := f.toBits.toNat
  let negative := bits ≥ Nat.pow 2 63
  let biased : Nat := (bits / Nat.pow 2 52) % Nat.pow 2 11
  let fraction : Nat := bits % Nat.pow 2 52
  let (m, e) : Nat × Int :=
    if biased == 0 then (fraction, -1074) else (fraction + Nat.pow 2 52, (biased : Int) - 1075)
  (if negative then -(m : Int) else m, e)

/-- The integer part of a finite double, rounded toward zero. -/
def truncate (f : Float) : Int :=
  let (m, e) := exactParts f
  if e ≥ 0 then m * Int.pow 2 e.toNat
  else
    let q := m.natAbs / Nat.pow 2 e.natAbs
    if m < 0 then -(q : Int) else q

/-- Compare the exact value of a finite double with an integer: `lt`, `eq` or `gt`. -/
def compareWithInt (f : Float) (i : Int) : Ordering :=
  let (m, e) := exactParts f
  if e ≥ 0 then compare (m * Int.pow 2 e.toNat) i
  else compare m (i * Int.pow 2 e.natAbs)

/-- `n` divided by `d`, rounded to the nearest integer, ties to even. -/
def roundHalfEven (n d : Nat) : Nat :=
  let q := n / d
  let r := n % d
  if 2 * r > d then q + 1 else if 2 * r < d then q else if q % 2 == 0 then q else q + 1

/-- The number of decimal digits of a positive natural number. -/
def digitCount (n : Nat) : Nat :=
  (Nat.toDigits 10 n).length

/-- The shortest digits of a positive finite double and the position of its decimal point:
the value is `0.d₁d₂… · 10^point`. For `p = 1, 2, …` the two `p`-digit decimals around the
value are tried; the first `p` at which one of them reads back wins, and of two that both do,
the nearer (a tie to the even one). Seventeen digits always read back. -/
def shortestDigits (f : Float) : List Char × Int :=
  let (m, e) := exactParts f
  let (num, den) : Nat × Nat :=
    if e ≥ 0 then (m.natAbs * Nat.pow 2 e.toNat, 1) else (m.natAbs, Nat.pow 2 e.natAbs)
  -- the decimal exponent of the leading digit: 10^(k-1) ≤ value < 10^k
  let k : Int :=
    if num ≥ den then (digitCount (num / den) : Int)
    else -((Nat.toDigits 10 (den / num)).length : Int) + 1
  let k : Int :=
    -- adjust for the estimate on values just below a power of ten
    let lower : Bool := if k - 1 ≥ 0 then num ≥ den * Nat.pow 10 (k - 1).toNat
      else num * Nat.pow 10 (1 - k).toNat ≥ den
    if lower then k else k - 1
  let attempt (p : Nat) : Option (Nat × Int) :=
    -- the value is (below + r / d) · 10^shift
    let shift := k - p
    let (n, d) : Nat × Nat :=
      if shift ≥ 0 then (num, den * Nat.pow 10 shift.toNat) else (num * Nat.pow 10 shift.natAbs, den)
    let below := n / d
    let r := n % d
    let readsBack (q : Nat) : Bool := ofDecimal q shift == f
    if r == 0 then (if readsBack below then some (below, shift) else none)
    else
      match readsBack below, readsBack (below + 1) with
      | true, true =>
        let up := 2 * r > d || (2 * r == d && below % 2 == 1)
        some (if up then below + 1 else below, shift)
      | true, false => some (below, shift)
      | false, true => some (below + 1, shift)
      | false, false => none
  -- never needed: seventeen digits always read back
  let rounded : Nat × Int :=
    let shift := k - 17
    if shift ≥ 0 then (roundHalfEven num (den * Nat.pow 10 shift.toNat), shift)
    else (roundHalfEven (num * Nat.pow 10 shift.natAbs) den, shift)
  let (q, shift) := ((List.range 17).findSome? fun i => attempt (i + 1)).getD rounded
  let ds := (Nat.toDigits 10 q)
  let trimmed := (ds.reverse.dropWhile (· == '0')).reverse
  (trimmed, shift + ds.length)

/-- The `%g` text of a double at the shortest precision. -/
def generalText (f : Float) : String :=
  if f.isNaN then "NaN"
  else if f.isInf then (if f > 0 then "+Inf" else "-Inf")
  else
    let negative := f.toBits.toNat ≥ Nat.pow 2 63
    let sign := if negative then "-" else ""
    if f == 0 then sign ++ "0"
    else
      let (ds, point) := shortestDigits (if negative then -f else f)
      let nd := ds.length
      let exp := point - 1
      if exp < -4 || exp ≥ 6 then
        let mantissa := match ds with
          | d :: rest => String.ofList (d :: (if rest.isEmpty then [] else '.' :: rest))
          | [] => "0"
        let expSign := if exp < 0 then "-" else "+"
        let expDigits := Nat.toDigits 10 exp.natAbs
        let expText := String.ofList (if expDigits.length < 2 then '0' :: expDigits else expDigits)
        sign ++ mantissa ++ "e" ++ expSign ++ expText
      else if point ≤ 0 then
        sign ++ "0." ++ String.ofList (List.replicate point.natAbs '0') ++ String.ofList ds
      else if point.toNat ≥ nd then
        sign ++ String.ofList ds ++ String.ofList (List.replicate (point.toNat - nd) '0')
      else
        sign ++ String.ofList (ds.take point.toNat) ++ "." ++ String.ofList (ds.drop point.toNat)

end DecimalMachine.Text

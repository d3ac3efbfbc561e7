import DecimalMachine.Text.Shortest

/-!
# Float text at a fixed precision

`%f` writes a double with a fixed number of decimals, `%e` with one digit before the point,
a fixed number after it and an exponent of at least two digits. Both round the exact value
of the double to the nearest, ties to even.
-/

namespace DecimalMachine.Text

/-- The exact value of a finite, non-negative double as a fraction `num / den`. -/
def exactFraction (f : Float) : Nat × Nat :=
  let (m, e) := exactParts f
  if e ≥ 0 then (m.natAbs * Nat.pow 2 e.toNat, 1) else (m.natAbs, Nat.pow 2 e.natAbs)

/-- `n` in decimal, zero-padded on the left to `width` digits. -/
def padDigits (width : Nat) (n : Nat) : String :=
  let ds := Nat.toDigits 10 n
  String.ofList (List.replicate (width - ds.length) '0' ++ ds)

/-- The text of a double with `decimals` digits after the point. -/
def fixedText (f : Float) (decimals : Nat) : String :=
  if f.isNaN then "NaN" else if f.isInf then (if f > 0 then "+Inf" else "-Inf")
  else
    let negative := f.toBits.toNat ≥ Nat.pow 2 63
    let (num, den) := exactFraction (if negative then -f else f)
    let n := roundHalfEven (num * Nat.pow 10 decimals) den
    let whole := n / Nat.pow 10 decimals
    let frac := n % Nat.pow 10 decimals
    (if negative then "-" else "") ++ toString whole ++
      (if decimals == 0 then "" else "." ++ padDigits decimals frac)

/-- The text of a double as `d.ddd…e±XX` with `decimals` digits after the point. -/
def scientificText (f : Float) (decimals : Nat) : String :=
  if f.isNaN then "NaN" else if f.isInf then (if f > 0 then "+Inf" else "-Inf")
  else
    let negative := f.toBits.toNat ≥ Nat.pow 2 63
    let sign := if negative then "-" else ""
    let (num, den) := exactFraction (if negative then -f else f)
    let (n, exp) : Nat × Int :=
      if num == 0 then (0, 0)
      else
        -- the exponent k with 10^k ≤ value < 10^(k+1)
        let k : Int := if num ≥ den then ((Nat.toDigits 10 (num / den)).length : Int) - 1
          else -((Nat.toDigits 10 ((den + num - 1) / num)).length : Int) + 1
        let k : Int :=
          let atLeast : Bool := if k ≥ 0 then num ≥ den * Nat.pow 10 k.toNat
            else num * Nat.pow 10 k.natAbs ≥ den
          if atLeast then k else k - 1
        let shift : Int := (decimals : Int) - k
        let q := if shift ≥ 0 then roundHalfEven (num * Nat.pow 10 shift.toNat) den
          else roundHalfEven num (den * Nat.pow 10 shift.natAbs)
        if q ≥ Nat.pow 10 (decimals + 1) then (q / 10, k + 1) else (q, k)
    let ds := padDigits (decimals + 1) n
    let mantissa := if decimals == 0 then ds
      else String.ofList (ds.toList.take 1) ++ "." ++ String.ofList (ds.toList.drop 1)
    let expDigits := padDigits 2 exp.natAbs
    sign ++ mantissa ++ "e" ++ (if exp < 0 then "-" else "+") ++ expDigits

end DecimalMachine.Text

import LineMetrics.Number.Binary64

/-!
# The shortest decimal of a binary64 number

The text of a number has the fewest digits that read back as the same number, and of those the
nearest to it.  On each decimal grid the two neighbours of the number are tried; the first grid with
a neighbour inside the interval of reals that round to the number wins.  The layout around the
digits is fixed by one record, `NumberLayout`.
-/

namespace LineMetrics

/-- How digits become text. -/
structure NumberLayout where
  /-- Numbers from `10^(-leadingZeros - 1)` up are written without an exponent. -/
  leadingZeros : Nat
  /-- Numbers below `10^wholeDigits` are written without an exponent. -/
  wholeDigits : Nat
  /-- Least number of digits of an exponent. -/
  exponentDigits : Nat

/-- Without an exponent from `0.0001` up to below `10^16`; exponents have a sign and two digits. -/
def NumberLayout.standard : NumberLayout := ⟨3, 16, 2⟩

namespace Binary64

/-- The interval of reals that round to `m · 2^e`, in quarters of `2^e`, and whether its ends belong
to it. -/
def interval (m : Nat) (e : Int) : Nat × Nat × Bool :=
  let low := if m = leadingBit ∧ minExponent < e then 4 * m - 1 else 4 * m - 2
  (low, 4 * m + 2, m % 2 = 0)

/-- The exponent `k` with `10^(k-1) ≤ num / den < 10^k`, for a positive quotient of at most 400
decimal places. -/
def decimalExponent (num den : Nat) : Int :=
  if den ≤ num then (Nat.toDigits 10 (num / den)).length
  else
    match (List.range 400).find? fun j => den ≤ num * Nat.pow 10 (j + 1) with
    | some j => -j
    | none => -400

/-- Whether `digits · 10^exponent` rounds to `m · 2^e`. -/
def roundsBack (m : Nat) (e : Int) (digits : Nat) (exponent : Int) : Bool :=
  let (low, high, closed) := interval m e
  let (decNum, decDen) :=
    if 0 ≤ exponent then (digits * Nat.pow 10 exponent.toNat, 1)
    else (digits, Nat.pow 10 (-exponent).toNat)
  let (unitNum, unitDen) := magnitude 1 (e - 2)
  let value := decNum * unitDen
  let unit := unitNum * decDen
  if closed then low * unit ≤ value && value ≤ high * unit
  else low * unit < value && value < high * unit

/-- The digits and exponent that win on the grid of `count` digits, if one of them rounds back. -/
def onGrid (m : Nat) (e : Int) (top : Int) (count : Nat) : Option (Nat × Int) :=
  let exponent := top - count
  let (num, den) := magnitude m e
  let (gridNum, gridDen) :=
    if 0 ≤ exponent then (num, den * Nat.pow 10 exponent.toNat)
    else (num * Nat.pow 10 (-exponent).toNat, den)
  let below := gridNum / gridDen
  let rest := gridNum % gridDen
  let lowFits := roundsBack m e below exponent
  let highFits := roundsBack m e (below + 1) exponent
  match lowFits, highFits with
  | true, true =>
    let up := gridDen < 2 * rest || (2 * rest = gridDen && below % 2 = 1)
    some (if up then below + 1 else below, exponent)
  | true, false => some (below, exponent)
  | false, true => some (below + 1, exponent)
  | false, false => none

/-- The shortest digits and exponent of a positive number; 17 digits always suffice. -/
def shortest (m : Nat) (e : Int) : Nat × Int :=
  let (num, den) := magnitude m e
  let top := decimalExponent num den
  ((List.range 17).findSome? fun k => onGrid m e top (k + 1)).getD (0, 0)

/-- Digits without their trailing zeros, the exponent raised for each. -/
def dropZeros (digits : List Char) (exponent : Int) : List Char × Int :=
  let kept := (digits.reverse.dropWhile (· = '0')).reverse
  (kept, exponent + (digits.length - kept.length : Nat))

/-- A number as at least `width` digits. -/
def padded (width n : Nat) : List Char :=
  let digits := Nat.toDigits 10 n
  List.replicate (width - digits.length) '0' ++ digits

/-- The text of digits that stand for `0.digits · 10^point`. -/
def layOut (layout : NumberLayout) (digits : List Char) (point : Int) : List Char :=
  if -(layout.leadingZeros : Int) ≤ point ∧ point ≤ layout.wholeDigits then
    if point ≤ 0 then
      ['0', '.'] ++ List.replicate (-point).toNat '0' ++ digits
    else
      let whole := digits.take point.toNat
      let fraction := digits.drop point.toNat
      whole ++ List.replicate (point.toNat - whole.length) '0' ++ ['.']
        ++ (if fraction.isEmpty then ['0'] else fraction)
  else
    let exponent := point - 1
    digits.take 1 ++ (if 1 < digits.length then '.' :: digits.drop 1 else []) ++ ['e']
      ++ [if exponent < 0 then '-' else '+'] ++ padded layout.exponentDigits exponent.natAbs

/-- The text of a number. -/
def toText (x : Binary64) : String :=
  match x with
  | .nan => "nan"
  | .infinite negative => if negative then "-inf" else "inf"
  | .finite negative m e =>
    let sign := if negative then ['-'] else []
    let body :=
      if m = 0 then ['0', '.', '0']
      else
        let (n, exponent) := shortest m e
        let digits := Nat.toDigits 10 n
        let (kept, _) := dropZeros digits exponent
        layOut .standard kept (digits.length + exponent)
    String.ofList (sign ++ body)

end Binary64
end LineMetrics

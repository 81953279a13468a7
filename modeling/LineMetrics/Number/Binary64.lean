/-!
# Binary64 numbers, exactly

A finite binary64 number is `±m · 2^e`; it is kept by its sign, `m` and `e`, so that comparing,
scaling, truncating, reading and printing are arithmetic on natural numbers.  Results that do not
fit are rounded to the nearest representable number, a tie to the even neighbour, and beyond the
largest one to an infinity.
-/

namespace LineMetrics

/-- A binary64 number. -/
inductive Binary64
  | nan
  | infinite (negative : Bool)
  /-- The number `m · 2^e`, negated if `negative`; zero keeps its sign. -/
  | finite (negative : Bool) (m : Nat) (e : Int)
  deriving Repr, DecidableEq

namespace Binary64

/-- Least exponent: the weight of the last bit of a subnormal number. -/
def minExponent : Int := -1074

/-- Greatest exponent of a number with 53 significant bits. -/
def maxExponent : Int := 971

/-- The value of the first of 53 bits. -/
def leadingBit : Nat := 0x10000000000000

/-- The quotient `num / den` rounded to an integer, a half to the even neighbour. -/
def roundHalfEven (num den : Nat) : Nat :=
  let q := num / den
  let twice := 2 * (num % den)
  if den < twice then q + 1 else if twice = den then q + q % 2 else q

/-- The quotient `num / den` shifted left by `-e` bits, as a numerator and a denominator. -/
def scaled (num den : Nat) (e : Int) : Nat × Nat :=
  if 0 ≤ e then (num, den * Nat.pow 2 e.toNat) else (num * Nat.pow 2 (-e).toNat, den)

/-- The exponent `k` with `2^k ≤ num / den < 2^(k+1)`, for a positive quotient. -/
def log2Quotient (num den : Nat) : Int :=
  let k := (num.log2 : Int) - den.log2
  let (n, d) := scaled num den k
  if n < d then k - 1 else k

/-- The number nearest to `num / den`. -/
def ofQuotient (negative : Bool) (num den : Nat) : Binary64 :=
  if num = 0 then .finite negative 0 minExponent
  else
    let e := max (log2Quotient num den - 52) minExponent
    let (n, d) := scaled num den e
    let m := roundHalfEven n d
    let (m, e) := if m = 2 * leadingBit then (leadingBit, e + 1) else (m, e)
    if maxExponent < e then .infinite negative else .finite negative m e

/-- The number nearest to `digits · 10^exponent`. -/
def ofDecimal (negative : Bool) (digits : Nat) (exponent : Int) : Binary64 :=
  if digits = 0 then .finite negative 0 minExponent
  else
    let size : Int := (Nat.toDigits 10 digits).length + exponent
    if 400 < size then .infinite negative
    else if size < -400 then .finite negative 0 minExponent
    else if 0 ≤ exponent then ofQuotient negative (digits * Nat.pow 10 exponent.toNat) 1
    else ofQuotient negative digits (Nat.pow 10 (-exponent).toNat)

/-- The magnitude of `m · 2^e` as a quotient. -/
def magnitude (m : Nat) (e : Int) : Nat × Nat :=
  if 0 ≤ e then (m * Nat.pow 2 e.toNat, 1) else (m, Nat.pow 2 (-e).toNat)

/-- The number times a positive integer. -/
def scaleBy (factor : Nat) : Binary64 → Binary64
  | .nan => .nan
  | .infinite negative => .infinite negative
  | .finite negative m e =>
    let (num, den) := magnitude m e
    ofQuotient negative (num * factor) den

/-- Whether the number is less than an integer. -/
def lessThan (n : Int) : Binary64 → Bool
  | .nan => false
  | .infinite negative => negative
  | .finite negative m e =>
    let (num, den) := magnitude m e
    let signed : Int := if negative then -num else num
    signed < n * den

/-- Whether the number equals an integer. -/
def equals (n : Int) : Binary64 → Bool
  | .finite negative m e =>
    let (num, den) := magnitude m e
    let signed : Int := if negative then -num else num
    signed = n * den
  | _ => false

/-- Whether the number is at most an integer. -/
def atMost (n : Int) (x : Binary64) : Bool := x.lessThan n || x.equals n

/-- The integer part of a finite number, its fraction dropped. -/
def truncate? : Binary64 → Option Int
  | .finite negative m e =>
    let (num, den) := magnitude m e
    let whole : Int := (num / den : Nat)
    some (if negative then -whole else whole)
  | _ => none

end Binary64
end LineMetrics

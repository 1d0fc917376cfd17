import Switchyard.Number.Binary64
/-!
# Shortest decimal of a binary64

Every finite binary64 value owns an interval of reals that round to it. `shortestDecimal`
returns the decimal with the fewest significant digits inside that interval, and of two such
decimals the nearer to the value, a tie to the even last digit. Reading the result back gives
the same value, and no decimal with fewer digits does.

The search runs over digit counts `n = 1, 2, …, 17`. On the grid of `n`-digit decimals only
the two grid points next to the value can lie in the interval (it is convex and holds the
value), so each count costs two exact comparisons.

`Decimal.render` writes such a decimal under a `FloatStyle`: the choices a printer makes
about exponents, a trailing `.0`, and the texts of NaN and the infinities.
-/
namespace Switchyard

/-- A decimal `digits · 10^exp`. -/
structure Decimal where
  /-- The significant digits as a number. -/
  digits : Nat
  /-- The power of ten of the last digit. -/
  exp : Int
  deriving DecidableEq, Repr

namespace Decimal

/-- Compares `d · 10^q` with `n / den`. -/
def cmpRat (d : Nat) (q : Int) (n den : Nat) : Ordering :=
  if q ≥ 0 then compare (d * Nat.pow 10 q.toNat * den) n
  else compare (d * den) (n * Nat.pow 10 (-q).toNat)

/-- `⌊n / den / 10^q⌋` for a non-negative rational and any power of ten. -/
def floorOn (q : Int) (n den : Nat) : Nat :=
  if q ≥ 0 then n / (den * Nat.pow 10 q.toNat) else (n * Nat.pow 10 (-q).toNat) / den

/-- `⌊log₁₀ (n / den)⌋` for a positive rational. -/
def log10Floor (n den : Nat) : Int :=
  let l := Binary64.log2Floor n den
  -- log₁₀ 2 < 0.30103, so this is within one of the answer
  let est : Int := (l * 30103) / 100000
  let up (k : Int) : Int := if cmpRat 1 (k + 1) n den != .gt then k + 1 else k
  let down (k : Int) : Int := if cmpRat 1 k n den == .gt then k - 1 else k
  down (down (up (up est)))

/-- Removes trailing zero digits, raising the exponent. -/
def normalize (d : Nat) (q : Int) : Decimal :=
  go d q d
where
  /-- At most `fuel` zeros are removed. -/
  go (d : Nat) (q : Int) : Nat → Decimal
    | 0 => ⟨d, q⟩
    | fuel + 1 => if d ≠ 0 ∧ d % 10 = 0 then go (d / 10) (q + 1) fuel else ⟨d, q⟩

/-- The digits of a number, most significant first. -/
def digitChars (n : Nat) : List Char := (Nat.toDigits 10 n)

/-- The power of ten of the leading digit. -/
def leadExp (x : Decimal) : Int := x.exp + ((digitChars x.digits).length : Int) - 1

end Decimal

namespace Binary64

/-- The interval of reals that read back as a finite positive value, scaled to integers:
`(low, value, high, den, closed)` stands for `[low/den, high/den]` around `value/den`, with
its ends included when `closed`. -/
def roundingInterval (x : Binary64) : Nat × Nat × Nat × Nat × Bool :=
  let (m, e) := x.decompose
  -- neighbours sit half a unit away, a quarter below a power of two
  let lowGap : Nat := if m = Nat.pow 2 52 ∧ x.expField > 1 then 1 else 2
  let s : Int := e - 2
  let scale : Nat := if s ≥ 0 then Nat.pow 2 s.toNat else 1
  let den : Nat := if s ≥ 0 then 1 else Nat.pow 2 (-s).toNat
  ((4 * m - lowGap) * scale, 4 * m * scale, (4 * m + 2) * scale, den, m % 2 == 0)

/-- Whether `d · 10^q` lies in the interval `[lo/den, hi/den]`, its ends counted when
`closed`. -/
def inInterval (lo hi den : Nat) (closed : Bool) (d : Nat) (q : Int) : Bool :=
  let aboveLow := match Decimal.cmpRat d q lo den with
    | .gt => true
    | .eq => closed
    | .lt => false
  let belowHigh := match Decimal.cmpRat d q hi den with
    | .lt => true
    | .eq => closed
    | .gt => false
  aboveLow && belowHigh

/-- The search over digit counts `n, n + 1, …` for a value `v/den` with leading exponent
`k`; `fuel` counts the digit counts left. -/
def shortestFrom (lo v hi den : Nat) (closed : Bool) (k : Int) : Nat → Nat → Decimal
  | 0, _ => Decimal.normalize (Decimal.floorOn (k - 16) v den) (k - 16)
  | fuel + 1, n =>
    let q : Int := k - (n : Int) + 1
    let d := Decimal.floorOn q v den
    match inInterval lo hi den closed d q, inInterval lo hi den closed (d + 1) q with
    | true, true =>
      -- the nearer grid point; the midpoint between them decides
      match Decimal.cmpRat (2 * d + 1) q (2 * v) den with
      | .gt => Decimal.normalize d q
      | .lt => Decimal.normalize (d + 1) q
      | .eq => if d % 2 = 0 then Decimal.normalize d q else Decimal.normalize (d + 1) q
    | true, false => Decimal.normalize d q
    | false, true => Decimal.normalize (d + 1) q
    | false, false => shortestFrom lo v hi den closed k fuel (n + 1)

/-- The shortest decimal that reads back as a finite nonzero value's magnitude; of two,
the nearer, a tie to the even last digit. -/
def shortestDecimal (x : Binary64) : Decimal :=
  let (lo, v, hi, den, closed) := x.roundingInterval
  shortestFrom lo v hi den closed (Decimal.log10Floor v den) 17 1

end Binary64

/-- How a printer writes a binary64: where positional notation ends, whether an integral
value keeps `.0`, how the exponent is marked, and the texts of the special values. -/
structure FloatStyle where
  /-- Positional notation for leading-digit exponents in `[posFrom, posTo]`. -/
  posFrom : Int
  /-- See `posFrom`. -/
  posTo : Int
  /-- Whether an integral value in positional notation ends in `.0`. -/
  pointZero : Bool
  /-- Whether a non-negative exponent is written with `+`. -/
  expPlus : Bool
  /-- The text of NaN. -/
  nanText : String
  /-- The text of positive infinity; negative infinity adds a minus sign. -/
  infText : String
  /-- The text of zero, before any sign. -/
  zeroText : String

namespace Decimal

/-- Positional text of a decimal. -/
def positional (x : Decimal) (pointZero : Bool) : String :=
  let ds := digitChars x.digits
  let k := x.leadExp
  let len : Int := ds.length
  if k ≥ len - 1 then
    String.ofList ds ++ String.ofList (List.replicate (k - (len - 1)).toNat '0') ++
      (if pointZero then ".0" else "")
  else if k ≥ 0 then
    String.ofList (ds.take (k + 1).toNat) ++ "." ++ String.ofList (ds.drop (k + 1).toNat)
  else
    "0." ++ String.ofList (List.replicate (-k - 1).toNat '0') ++ String.ofList ds

/-- Scientific text of a decimal: one digit, then the rest after a point, then the
exponent. -/
def scientific (x : Decimal) (expPlus : Bool) : String :=
  let ds := digitChars x.digits
  let k := x.leadExp
  let mant := match ds with
    | [] => "0"
    | [c] => String.singleton c
    | c :: rest => String.singleton c ++ "." ++ String.ofList rest
  let sign := if k < 0 then "-" else if expPlus then "+" else ""
  mant ++ "e" ++ sign ++ toString k.natAbs

/-- The text of a decimal under a style. -/
def render (x : Decimal) (style : FloatStyle) : String :=
  let k := x.leadExp
  if style.posFrom ≤ k ∧ k ≤ style.posTo then x.positional style.pointZero
  else x.scientific style.expPlus

end Decimal

/-- The text of a binary64 under a style. -/
def Binary64.render (x : Binary64) (style : FloatStyle) : String :=
  let sign := if x.negative then "-" else ""
  if x.isNaN then style.nanText
  else if x.isInfinite then sign ++ style.infText
  else if x.isZero then sign ++ style.zeroText
  else sign ++ x.abs.shortestDecimal.render style

end Switchyard

/-!
# Binary64

IEEE 754 double precision, held as its 64 bits. Every operation here is exact rational
arithmetic followed by one rounding to the nearest representable value, ties to the even
significand (`Binary64.ofRat`), which is what the standard asks of addition, multiplication
and division and of reading a decimal.

A finite value is `m · 2^e` with `m < 2^53` and `-1074 ≤ e`; `Binary64.decompose` gives that
pair and `Binary64.ofRat` is its inverse up to rounding.
-/
namespace Switchyard

/-- An IEEE 754 binary64 value, by its bits. -/
structure Binary64 where
  /-- Sign, 11 exponent bits and 52 fraction bits, high to low. -/
  bits : UInt64
  deriving DecidableEq, Inhabited

namespace Binary64

/-- Whether the sign bit is set (also for zero and NaN). -/
def negative (x : Binary64) : Bool := (x.bits >>> 63) == 1

/-- The biased exponent field. -/
def expField (x : Binary64) : Nat := ((x.bits >>> 52) &&& 0x7FF).toNat

/-- The fraction field. -/
def fracField (x : Binary64) : Nat := (x.bits &&& 0xFFFFFFFFFFFFF).toNat

/-- Not a number: all exponent bits set and a fraction. -/
def isNaN (x : Binary64) : Bool := x.expField == 0x7FF && x.fracField != 0

/-- An infinity of either sign. -/
def isInfinite (x : Binary64) : Bool := x.expField == 0x7FF && x.fracField == 0

/-- Neither NaN nor an infinity. -/
def isFinite (x : Binary64) : Bool := x.expField != 0x7FF

/-- Zero of either sign. -/
def isZero (x : Binary64) : Bool := x.expField == 0 && x.fracField == 0

/-- A value from its sign, biased exponent and fraction fields. -/
def make (neg : Bool) (expField frac : Nat) : Binary64 :=
  ⟨((if neg then 1 else 0 : UInt64) <<< 63) ||| ((UInt64.ofNat expField &&& 0x7FF) <<< 52) |||
    (UInt64.ofNat frac &&& 0xFFFFFFFFFFFFF)⟩

/-- Zero with the given sign. -/
def zero (neg : Bool := false) : Binary64 := make neg 0 0

/-- Infinity with the given sign. -/
def infinity (neg : Bool := false) : Binary64 := make neg 0x7FF 0

/-- The quiet NaN with no payload. -/
def nan : Binary64 := make false 0x7FF (Nat.pow 2 51)

/-- The same magnitude with the sign bit flipped. -/
def neg (x : Binary64) : Binary64 := ⟨x.bits ^^^ 0x8000000000000000⟩

/-- The same magnitude with the sign bit cleared. -/
def abs (x : Binary64) : Binary64 := ⟨x.bits &&& 0x7FFFFFFFFFFFFFFF⟩

/-- A finite magnitude as `(m, e)` with value `m · 2^e`. -/
def decompose (x : Binary64) : Nat × Int :=
  if x.expField = 0 then (x.fracField, -1074)
  else (x.fracField + Nat.pow 2 52, (x.expField : Int) - 1075)

/-- `⌊log₂ (num / den)⌋` for positive `num` and `den`. -/
def log2Floor (num den : Nat) : Int :=
  let g : Int := (num.log2 : Int) - (den.log2 : Int)
  let atLeast : Bool :=
    if g ≥ 0 then den * Nat.pow 2 g.toNat ≤ num else den ≤ num * Nat.pow 2 (-g).toNat
  if atLeast then g else g - 1

/-- `num / den` rounded to the nearest integer, a tie to the even one. -/
def roundHalfEven (num den : Nat) : Nat :=
  let q := num / den
  let r := num % den
  if 2 * r > den then q + 1
  else if 2 * r < den then q
  else if q % 2 = 0 then q else q + 1

/-- The magnitude `num / den · 2^shift` rounded to binary64, with the given sign; too large a
magnitude becomes infinity. -/
def ofScaledRat (neg : Bool) (num den : Nat) (shift : Int) : Binary64 :=
  if num = 0 ∨ den = 0 then zero neg
  else
    -- the exponent of the result's unit in the last place
    let top := log2Floor num den + shift
    let e : Int := max (top - 52) (-1074)
    -- m = round (num / den · 2^(shift - e))
    let k := shift - e
    let m :=
      if k ≥ 0 then roundHalfEven (num * Nat.pow 2 k.toNat) den
      else roundHalfEven num (den * Nat.pow 2 (-k).toNat)
    let (m, e) := if m = Nat.pow 2 53 then (Nat.pow 2 52, e + 1) else (m, e)
    if e > 971 then infinity neg
    else if m < Nat.pow 2 52 then make neg 0 m
    else make neg (e + 1075).toNat (m - Nat.pow 2 52)

/-- The rational `num / den` rounded to binary64. -/
def ofRat (neg : Bool) (num den : Nat) : Binary64 := ofScaledRat neg num den 0

/-- A natural number rounded to binary64. -/
def ofNat (n : Nat) : Binary64 := ofRat false n 1

/-- A finite value as a signed fraction `(neg, num, den)`. -/
def toRat (x : Binary64) : Bool × Nat × Nat :=
  let (m, e) := x.decompose
  if e ≥ 0 then (x.negative, m * Nat.pow 2 e.toNat, 1) else (x.negative, m, Nat.pow 2 (-e).toNat)

/-- Product, rounded; infinities and NaN as IEEE 754 has them. -/
def mul (x y : Binary64) : Binary64 :=
  let s := x.negative != y.negative
  if x.isNaN || y.isNaN then nan
  else if x.isInfinite || y.isInfinite then
    if x.isZero || y.isZero then nan else infinity s
  else
    let (mx, ex) := x.decompose
    let (my, ey) := y.decompose
    ofScaledRat s (mx * my) 1 (ex + ey)

/-- Quotient, rounded; infinities, NaN and division by zero as IEEE 754 has them. -/
def div (x y : Binary64) : Binary64 :=
  let s := x.negative != y.negative
  if x.isNaN || y.isNaN then nan
  else if x.isInfinite then (if y.isInfinite then nan else infinity s)
  else if y.isInfinite then zero s
  else if y.isZero then (if x.isZero then nan else infinity s)
  else
    let (mx, ex) := x.decompose
    let (my, ey) := y.decompose
    ofScaledRat s mx my (ex - ey)

/-- `x < y` on finite values by their exact magnitudes. -/
def ltFinite (x y : Binary64) : Bool :=
  let (sx, nx, dx) := x.toRat
  let (sy, ny, dy) := y.toRat
  let a : Int := (if sx then -1 else 1) * ((nx * dy : Nat) : Int)
  let b : Int := (if sy then -1 else 1) * ((ny * dx : Nat) : Int)
  a < b

/-- The integer nearest to a finite value, a half away from zero; the magnitude only. -/
def roundHalfAway (x : Binary64) : Nat :=
  let (_, n, d) := x.toRat
  (2 * n + d) / (2 * d)

example : ofNat 1 = ⟨0x3FF0000000000000⟩ := by decide
example : ofRat false 1 10 = ⟨0x3FB999999999999A⟩ := by decide
example : (ofNat (Nat.pow 2 53 + 1)).bits = 0x4340000000000000 := by decide

end Binary64
end Switchyard

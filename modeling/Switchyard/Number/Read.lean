import Switchyard.Number.Binary64
/-!
# Reading numbers, booleans and characters from text

The readers behind typed form values and environment settings. Each takes the whole text
(no blanks are skipped) and either returns the value or says why not:

- integers of a given width and signedness, in any radix up to 36: an optional `+` (or `-`
  when signed), then at least one digit; digits are checked left to right and the first
  digit that is not one, or the first step out of range, decides the error;
- binary64 from a decimal literal (`1`, `1.`, `.5`, `2.5e-3`) or from `inf`, `infinity` or
  `nan` in any case, with an optional sign, rounded to nearest;
- `true` and `false`; a single character.
-/
namespace Switchyard

/-- Why a text is not an integer. -/
inductive IntError where
  /-- The text is empty. -/
  | empty
  /-- A character is not a digit of the radix. -/
  | invalidDigit
  /-- The value is above the largest of the type. -/
  | posOverflow
  /-- The value is below the smallest of the type. -/
  | negOverflow
  deriving DecidableEq, Repr

/-- The message of an integer reading error. -/
def IntError.message : IntError → String
  | .empty => "cannot parse integer from empty string"
  | .invalidDigit => "invalid digit found in string"
  | .posOverflow => "number too large to fit in target type"
  | .negOverflow => "number too small to fit in target type"

/-- A fixed-width integer type: its width in bits and whether it is signed. -/
structure IntKind where
  /-- Width in bits. -/
  bits : Nat
  /-- Two's complement when set, unsigned otherwise. -/
  signed : Bool
  deriving DecidableEq, Repr

namespace IntKind

/-- The largest value of the type. -/
def max (k : IntKind) : Nat := if k.signed then Nat.pow 2 (k.bits - 1) - 1 else Nat.pow 2 k.bits - 1

/-- The magnitude of the smallest value of the type. -/
def minMagnitude (k : IntKind) : Nat := if k.signed then Nat.pow 2 (k.bits - 1) else 0

/-- Unsigned 8, 16, 32 and 64 bits, and the signed types of 8, 32 and 64 bits. -/
def u8 : IntKind := ⟨8, false⟩
/-- See `u8`. -/
def u16 : IntKind := ⟨16, false⟩
/-- See `u8`. -/
def u32 : IntKind := ⟨32, false⟩
/-- See `u8`. -/
def u64 : IntKind := ⟨64, false⟩
/-- See `u8`. -/
def i8 : IntKind := ⟨8, true⟩
/-- See `u8`. -/
def i32 : IntKind := ⟨32, true⟩
/-- See `u8`. -/
def i64 : IntKind := ⟨64, true⟩

end IntKind

/-- The value of a digit character in a radix, if it is one. -/
def digitValue (radix : Nat) (c : Char) : Option Nat :=
  let v :=
    if '0' ≤ c ∧ c ≤ '9' then some (c.toNat - '0'.toNat)
    else if 'a' ≤ c ∧ c ≤ 'z' then some (c.toNat - 'a'.toNat + 10)
    else if 'A' ≤ c ∧ c ≤ 'Z' then some (c.toNat - 'A'.toNat + 10)
    else none
  match v with
  | some d => if d < radix then some d else none
  | none => none

/-- Accumulates digits left to right; a magnitude above `limit` is an overflow of the given
kind. -/
def readDigits (radix limit : Nat) (overflow : IntError) : Nat → List Char → Except IntError Nat
  | acc, [] => .ok acc
  | acc, c :: rest =>
    match digitValue radix c with
    | none => .error .invalidDigit
    | some d =>
      let acc' := acc * radix + d
      if acc' > limit then .error overflow else readDigits radix limit overflow acc' rest

/-- An integer of the given kind in the given radix. -/
def readInt (kind : IntKind) (radix : Nat) (s : String) : Except IntError Int :=
  match s.toList with
  | [] => .error .empty
  | [c] =>
    if c = '+' ∨ c = '-' then .error .invalidDigit
    else (readDigits radix kind.max .posOverflow 0 [c]).map Int.ofNat
  | '+' :: rest => (readDigits radix kind.max .posOverflow 0 rest).map Int.ofNat
  | '-' :: rest =>
    if kind.signed then
      (readDigits radix kind.minMagnitude .negOverflow 0 rest).map fun n => -(n : Int)
    else .error .invalidDigit
  | cs => (readDigits radix kind.max .posOverflow 0 cs).map Int.ofNat

/-- Why a text is not a binary64. -/
inductive FloatError where
  /-- The text is empty. -/
  | empty
  /-- The text is no decimal literal, infinity or NaN. -/
  | invalid
  deriving DecidableEq, Repr

/-- The message of a float reading error. -/
def FloatError.message : FloatError → String
  | .empty => "cannot parse float from empty string"
  | .invalid => "invalid float literal"

/-- Leading decimal digits and the characters after them. -/
def spanDigits : List Char → List Char × List Char
  | [] => ([], [])
  | c :: rest =>
    if c.isDigit then
      let (ds, r) := spanDigits rest
      (c :: ds, r)
    else ([], c :: rest)

/-- The number a list of decimal digits spells. -/
def digitsValue (ds : List Char) : Nat :=
  ds.foldl (fun acc c => acc * 10 + (c.toNat - '0'.toNat)) 0

/-- `digits · 10^exp` rounded to binary64, with a sign; exponents far outside the range
of binary64 go straight to zero or infinity. -/
def Binary64.ofDecimal (neg : Bool) (digits : Nat) (exp : Int) : Binary64 :=
  let width : Int := (toString digits).length
  if digits = 0 then Binary64.zero neg
  else if exp + width > 310 then Binary64.infinity neg
  else if exp + width < -330 then Binary64.zero neg
  else if exp ≥ 0 then Binary64.ofRat neg (digits * Nat.pow 10 exp.toNat) 1
  else Binary64.ofRat neg digits (Nat.pow 10 (-exp).toNat)

/-- A decimal literal after its sign: digits, an optional point and fraction (at least one
digit in all), an optional exponent with at least one digit. -/
def readDecimalBody (neg : Bool) (cs : List Char) : Option Binary64 :=
  let (intDs, r1) := spanDigits cs
  let (fracDs, r2) := match r1 with
    | '.' :: more => spanDigits more
    | _ => ([], r1)
  let sawPoint := match r1 with
    | '.' :: _ => true
    | _ => false
  let r2 := if sawPoint then r2 else r1
  if intDs.isEmpty ∧ fracDs.isEmpty then none
  else
    let mant := digitsValue (intDs ++ fracDs)
    let scale : Int := -(fracDs.length : Int)
    match r2 with
    | [] => some (Binary64.ofDecimal neg mant scale)
    | e :: more =>
      if e = 'e' ∨ e = 'E' then
        let (eneg, more) := match more with
          | '-' :: m => (true, m)
          | '+' :: m => (false, m)
          | m => (false, m)
        let (expDs, rest) := spanDigits more
        if expDs.isEmpty ∨ !rest.isEmpty then none
        else
          let ev : Int := digitsValue expDs
          some (Binary64.ofDecimal neg mant (scale + (if eneg then -ev else ev)))
      else none

/-- Lower-case ASCII letters of a text, for matching `inf` and `nan`. -/
def asciiLower (cs : List Char) : List Char :=
  cs.map fun c => if 'A' ≤ c ∧ c ≤ 'Z' then Char.ofNat (c.toNat + 32) else c

/-- A binary64 from its text. -/
def readFloat (s : String) : Except FloatError Binary64 :=
  match s.toList with
  | [] => .error .empty
  | cs =>
    let (neg, body) := match cs with
      | '-' :: r => (true, r)
      | '+' :: r => (false, r)
      | r => (false, r)
    let word := asciiLower body
    if word = "inf".toList ∨ word = "infinity".toList then .ok (Binary64.infinity neg)
    else if word = "nan".toList then .ok (if neg then Binary64.nan.neg else Binary64.nan)
    else
      match readDecimalBody neg body with
      | some x => .ok x
      | none => .error .invalid

/-- `true` or `false`, and nothing else. -/
def readBool (s : String) : Except String Bool :=
  if s = "true" then .ok true
  else if s = "false" then .ok false
  else .error "provided string was not `true` or `false`"

/-- A text of exactly one character. -/
def readChar (s : String) : Except String Char :=
  match s.toList with
  | [c] => .ok c
  | [] => .error "cannot parse char from empty string"
  | _ => .error "too many characters in string"

end Switchyard

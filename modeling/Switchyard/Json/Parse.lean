import Switchyard.Json.Value
import Switchyard.Number.Read
import Switchyard.Text.Utf8
/-!
# Reading JSON text

`Json.parse` reads one JSON value from text, blanks around it allowed, and reports the first
fault it meets by cause, line and column (columns count octets from the start of the line).
Which fault a text shows, and where, is part of the contract:

- an error found after taking an octet is reported at the index after it, one found by
  looking ahead at the octet after the next (capped at the end of the text);
- numbers keep their kind: an integer that fits 64 bits unsigned (or signed, when negative)
  stays an integer, anything else becomes binary64; a significand beyond 64 bits keeps its
  first digits and scales by the rest, and the value is the significand's binary64 times or
  divided by one binary64 power of ten;
- nesting deeper than 127 arrays or objects is refused;
- in an object the last field of a key wins.

The reader walks the octets as a list with a fuel count; every step takes an octet or goes
one level deeper, so twice the length plus two is always enough fuel.
-/
namespace Switchyard.Json

/-- Why a text is not a JSON value. -/
inductive SyntaxCode where
  /-- The text ended inside an array. -/
  | eofList
  /-- The text ended inside an object. -/
  | eofObject
  /-- The text ended inside a string. -/
  | eofString
  /-- The text ended where a value was due. -/
  | eofValue
  /-- No `:` after an object key. -/
  | expectedColon
  /-- Neither `,` nor `]` after an array item. -/
  | expectedListCommaOrEnd
  /-- Neither `,` nor `}` after an object field. -/
  | expectedObjectCommaOrEnd
  /-- A misspelt `null`, `true` or `false`. -/
  | expectedIdent
  /-- No value can start with this octet. -/
  | expectedValue
  /-- A backslash escape that does not exist. -/
  | invalidEscape
  /-- A malformed number. -/
  | invalidNumber
  /-- A number too large for binary64. -/
  | numberOutOfRange
  /-- A string whose octets are not UTF-8. -/
  | invalidUnicode
  /-- A raw control character inside a string. -/
  | controlCharacter
  /-- An object key that is not a string. -/
  | keyMustBeString
  /-- A surrogate escape without its partner. -/
  | loneLeadingSurrogate
  /-- A comma before a closing bracket. -/
  | trailingComma
  /-- Text after the value. -/
  | trailingCharacters
  /-- A leading surrogate escape not followed by `\u`. -/
  | unexpectedEndOfHexEscape
  /-- Nesting too deep. -/
  | recursionLimit
  deriving DecidableEq, Repr

/-- The message of a syntax error's cause. -/
def SyntaxCode.message : SyntaxCode → String
  | .eofList => "EOF while parsing a list"
  | .eofObject => "EOF while parsing an object"
  | .eofString => "EOF while parsing a string"
  | .eofValue => "EOF while parsing a value"
  | .expectedColon => "expected `:`"
  | .expectedListCommaOrEnd => "expected `,` or `]`"
  | .expectedObjectCommaOrEnd => "expected `,` or `\x7d`"
  | .expectedIdent => "expected ident"
  | .expectedValue => "expected value"
  | .invalidEscape => "invalid escape"
  | .invalidNumber => "invalid number"
  | .numberOutOfRange => "number out of range"
  | .invalidUnicode => "invalid unicode code point"
  | .controlCharacter => "control character (\\u0000-\\u001F) found while parsing a string"
  | .keyMustBeString => "key must be a string"
  | .loneLeadingSurrogate => "lone leading surrogate in hex escape"
  | .trailingComma => "trailing comma"
  | .trailingCharacters => "trailing characters"
  | .unexpectedEndOfHexEscape => "unexpected end of hex escape"
  | .recursionLimit => "recursion limit exceeded"

/-- A syntax error: its cause and the line and column it is reported at. -/
structure SyntaxError where
  /-- The cause. -/
  code : SyntaxCode
  /-- Line, from 1. -/
  line : Nat
  /-- Octets since the start of the line. -/
  column : Nat
  deriving DecidableEq, Repr

/-- `cause at line L column C`. -/
def SyntaxError.message (e : SyntaxError) : String :=
  e.code.message ++ " at line " ++ toString e.line ++ " column " ++ toString e.column

/-- The line and column of an octet index: lines count the newlines before the index, the
column the octets since the last of them. -/
def lineColumn (bs : List UInt8) (i : Nat) : Nat × Nat :=
  let before := bs.take i
  let lineStart := match before.reverse.findIdx? (· == 10) with
    | some k => before.length - k
    | none => 0
  (1 + (before.take lineStart).count 10, i - lineStart)

/-- Where the reader stands: the octets left and the index of the first of them. -/
structure Cursor where
  /-- Octets not yet read. -/
  rest : List UInt8
  /-- Index of the first octet left. -/
  pos : Nat

namespace Cursor

/-- The cursor after one octet. -/
def advance (c : Cursor) : Cursor := ⟨c.rest.tail, c.pos + 1⟩

/-- The index a look-ahead error is reported at: one past the next octet, or the end. -/
def peekPos (c : Cursor) : Nat := if c.rest.isEmpty then c.pos else c.pos + 1

/-- The cursor past blanks (space, tab, newline, carriage return). -/
def skipBlank (c : Cursor) : Cursor :=
  go c.rest c.pos
where
  /-- Skips over a list of octets. -/
  go : List UInt8 → Nat → Cursor
    | b :: rest, pos =>
      if b = 32 ∨ b = 9 ∨ b = 10 ∨ b = 13 then go rest (pos + 1) else ⟨b :: rest, pos⟩
    | [], pos => ⟨[], pos⟩

/-- The next octet, if any. -/
def peek? (c : Cursor) : Option UInt8 := c.rest.head?

end Cursor

/-- A failed read: its cause and octet index. -/
abbrev Fault := SyntaxCode × Nat

/-- The result of reading an `α` from a cursor. -/
abbrev Reading (α : Type) := Except Fault (α × Cursor)

/-- Whether an octet is a decimal digit. -/
def isDigitOctet (b : UInt8) : Bool := 48 ≤ b && b ≤ 57

/-- Whether the next octet is a decimal digit. -/
def Cursor.atDigit (c : Cursor) : Bool :=
  match c.peek? with
  | some b => isDigitOctet b
  | none => false

/-- The octet's digit value. -/
def digitOf (b : UInt8) : Nat := b.toNat - 48

/-- The largest 64-bit unsigned integer. -/
def maxU64 : Nat := Nat.pow 2 64 - 1

/-- The largest 32-bit signed integer. -/
def maxI32 : Int := ((Nat.pow 2 31 : Nat) : Int) - 1

/-- Whether `acc · 10 + d` would pass `limit`. -/
def stepOverflows (acc d limit : Nat) : Bool :=
  acc ≥ limit / 10 && (acc > limit / 10 || d > limit % 10)

/-- A binary64 power of ten, rounded. -/
def pow10 (k : Nat) : Binary64 := Binary64.ofNat (Nat.pow 10 k)

/-- `sig · 10^exp` as the reader computes it: the significand rounded to binary64, then one
rounded multiplication or division by a rounded power of ten, and for exponents below -308
divisions by `1e308` first. `none` when the product overflows. -/
def scaleByTen (f : Binary64) (exp : Int) : Option Binary64 :=
  if exp.natAbs ≤ 308 then
    if exp ≥ 0 then
      let g := f.mul (pow10 exp.toNat)
      if g.isInfinite then none else some g
    else some (f.div (pow10 exp.natAbs))
  else if f.isZero then some f
  else if exp ≥ 0 then none
  else scaleByTen (f.div (pow10 308)) (exp + 308)
termination_by exp.natAbs
decreasing_by omega

/-- A binary64 from significand, power of ten and sign; out of range at `pos`. -/
def fromParts (positive : Bool) (sig : Nat) (exp : Int) (pos : Nat) : Except Fault JsonNumber :=
  match scaleByTen (Binary64.ofNat sig) exp with
  | some f => .ok (.float (if positive then f else f.neg))
  | none => .error (.numberOutOfRange, pos)

/-- The cursor past decimal digits. -/
def skipDigits (c : Cursor) : Cursor :=
  go c.rest c.pos
where
  /-- Skips over a list of octets. -/
  go : List UInt8 → Nat → Cursor
    | b :: rest, pos => if isDigitOctet b then go rest (pos + 1) else ⟨b :: rest, pos⟩
    | [], pos => ⟨[], pos⟩

/-- The exponent digits after the first: accumulates while the value stays a 32-bit signed
integer. A larger exponent makes the value zero, unless it is positive and the significand
is not zero, which is out of range. -/
def exponentDigits (positive positiveExp : Bool) (sig : Nat) (start : Int) :
    Nat → List UInt8 → Nat → Reading JsonNumber
  | acc, b :: rest, pos =>
    if isDigitOctet b then
      if stepOverflows acc (digitOf b) maxI32.toNat then
        if sig ≠ 0 ∧ positiveExp then .error (.numberOutOfRange, pos + 1)
        else
          let c := skipDigits ⟨rest, pos + 1⟩
          .ok (.float (Binary64.zero (!positive)), c)
      else exponentDigits positive positiveExp sig start (acc * 10 + digitOf b) rest (pos + 1)
    else
      let e := if positiveExp then start + acc else start - acc
      let e := max (min e maxI32) (-maxI32 - 1)
      (fromParts positive sig e pos).map fun n => (n, ⟨b :: rest, pos⟩)
  | acc, [], pos =>
    let e := if positiveExp then start + acc else start - acc
    let e := max (min e maxI32) (-maxI32 - 1)
    (fromParts positive sig e pos).map fun n => (n, ⟨[], pos⟩)

/-- An exponent, the cursor on its `e` or `E`. -/
def readExponent (positive : Bool) (sig : Nat) (start : Int) (c : Cursor) :
    Reading JsonNumber :=
  let c := c.advance
  let (positiveExp, c) := match c.peek? with
    | some 43 => (true, c.advance)
    | some 45 => (false, c.advance)
    | _ => (true, c)
  match c.rest with
  | [] => .error (.eofValue, c.pos)
  | b :: rest =>
    if isDigitOctet b then exponentDigits positive positiveExp sig start (digitOf b) rest (c.pos + 1)
    else .error (.invalidNumber, c.pos + 1)

/-- After the digits of a number: an exponent if one follows, else the value. -/
def finishFloat (positive : Bool) (sig : Nat) (exp : Int) (c : Cursor) : Reading JsonNumber :=
  match c.peek? with
  | some 101 | some 69 => readExponent positive sig exp c
  | _ => (fromParts positive sig exp c.pos).map fun n => (n, c)

/-- Fraction digits: accumulates while the significand stays below `2^64`; the digits after
that are skipped. -/
def fractionDigits (positive : Bool) (before : Int) :
    Nat → Nat → List UInt8 → Nat → Reading JsonNumber
  | sig, count, b :: rest, pos =>
    if isDigitOctet b then
      if stepOverflows sig (digitOf b) maxU64 then
        finishFloat positive sig (before - count) (skipDigits ⟨b :: rest, pos⟩)
      else fractionDigits positive before (sig * 10 + digitOf b) (count + 1) rest (pos + 1)
    else if count = 0 then .error (.invalidNumber, pos + 1)
    else finishFloat positive sig (before - count) ⟨b :: rest, pos⟩
  | sig, count, [], pos =>
    if count = 0 then .error (.eofValue, pos)
    else finishFloat positive sig (before - count) ⟨[], pos⟩

/-- A fraction, the cursor on its point. -/
def readFraction (positive : Bool) (sig : Nat) (before : Int) (c : Cursor) :
    Reading JsonNumber :=
  let c := c.advance
  fractionDigits positive before sig 0 c.rest c.pos

/-- Digits of an integer past 64 bits: each only raises the power of ten. -/
def longDigits (positive : Bool) (sig : Nat) : Nat → List UInt8 → Nat → Reading JsonNumber
  | exp, b :: rest, pos =>
    if isDigitOctet b then longDigits positive sig (exp + 1) rest (pos + 1)
    else if b = 46 then readFraction positive sig exp ⟨b :: rest, pos⟩
    else if b = 101 ∨ b = 69 then readExponent positive sig exp ⟨b :: rest, pos⟩
    else (fromParts positive sig exp pos).map fun n => (n, ⟨b :: rest, pos⟩)
  | exp, [], pos => (fromParts positive sig exp pos).map fun n => (n, ⟨[], pos⟩)

/-- After an integer part that fits 64 bits: a fraction, an exponent, or the integer. A
negative integer stays one when it fits 64 bits signed and is not zero. -/
def afterInteger (positive : Bool) (sig : Nat) (c : Cursor) : Reading JsonNumber :=
  match c.peek? with
  | some 46 => readFraction positive sig 0 c
  | some 101 | some 69 => readExponent positive sig 0 c
  | _ =>
    if positive then .ok (.pos sig, c)
    else if sig = 0 ∨ sig > Nat.pow 2 63 then .ok (.float (Binary64.ofNat sig).neg, c)
    else .ok (.neg sig, c)

/-- Integer digits after the first, while the value fits 64 bits. -/
def integerDigits (positive : Bool) : Nat → List UInt8 → Nat → Reading JsonNumber
  | sig, b :: rest, pos =>
    if isDigitOctet b then
      if stepOverflows sig (digitOf b) maxU64 then longDigits positive sig 0 (b :: rest) pos
      else integerDigits positive (sig * 10 + digitOf b) rest (pos + 1)
    else afterInteger positive sig ⟨b :: rest, pos⟩
  | sig, [], pos => afterInteger positive sig ⟨[], pos⟩

/-- A number after its sign. A leading zero stands alone. -/
def readNumber (positive : Bool) (c : Cursor) : Reading JsonNumber :=
  match c.rest with
  | [] => .error (.eofValue, c.pos)
  | b :: rest =>
    let c1 : Cursor := ⟨rest, c.pos + 1⟩
    if b = 48 then
      if c1.atDigit then .error (.invalidNumber, c1.peekPos) else afterInteger positive 0 c1
    else if isDigitOctet b then integerDigits positive (digitOf b) rest (c.pos + 1)
    else .error (.invalidNumber, c.pos + 1)

/-- The value of a hex digit octet. -/
def hexOf (b : UInt8) : Option Nat :=
  if 48 ≤ b ∧ b ≤ 57 then some (b.toNat - 48)
  else if 97 ≤ b ∧ b ≤ 102 then some (b.toNat - 87)
  else if 65 ≤ b ∧ b ≤ 70 then some (b.toNat - 55)
  else none

/-- Four hex digits as a number. -/
def hex4 (a b c d : UInt8) : Option Nat := do
  let a ← hexOf a
  let b ← hexOf b
  let c ← hexOf c
  let d ← hexOf d
  pure (((a * 16 + b) * 16 + c) * 16 + d)

/-- The octets of a scalar value in UTF-8. -/
def scalarOctets (n : Nat) : List UInt8 := Utf8.encode (String.singleton (Char.ofNat n))

/-- The octets of a simple escape's letter, if it is one. -/
def simpleEscape (b : UInt8) : Option UInt8 :=
  if b = 34 then some 34
  else if b = 92 then some 92
  else if b = 47 then some 47
  else if b = 98 then some 8
  else if b = 102 then some 12
  else if b = 110 then some 10
  else if b = 114 then some 13
  else if b = 116 then some 9
  else none

/-- The octets of a string after its opening quote, up to the closing one. `total` is the
index of the end of the text. -/
def stringOctets (total : Nat) : List UInt8 → Nat → Array UInt8 → Except Fault (Array UInt8 × Cursor)
  | [], _, _ => .error (.eofString, total)
  | b :: rest, pos, acc =>
    if b = 34 then .ok (acc, ⟨rest, pos + 1⟩)
    else if b = 92 then
      match rest with
      | [] => .error (.eofString, total)
      | e :: more =>
        if e = 117 then
          match more with
          | h1 :: h2 :: h3 :: h4 :: more2 =>
            match hex4 h1 h2 h3 h4 with
            | none => .error (.invalidEscape, pos + 6)
            | some n =>
              if 0xDC00 ≤ n ∧ n ≤ 0xDFFF then .error (.loneLeadingSurrogate, pos + 6)
              else if n < 0xD800 ∨ n > 0xDBFF then
                stringOctets total more2 (pos + 6) (acc ++ (scalarOctets n).toArray)
              else
                -- a leading surrogate: its trailing partner must follow as an escape
                match more2 with
                | [] => .error (.eofString, total)
                | 92 :: more3 =>
                  match more3 with
                  | [] => .error (.eofString, total)
                  | 117 :: more4 =>
                    match more4 with
                    | g1 :: g2 :: g3 :: g4 :: more5 =>
                      match hex4 g1 g2 g3 g4 with
                      | none => .error (.invalidEscape, pos + 12)
                      | some m =>
                        if m < 0xDC00 ∨ m > 0xDFFF then .error (.loneLeadingSurrogate, pos + 12)
                        else
                          let v := ((n - 0xD800) * 1024 + (m - 0xDC00)) + 0x10000
                          stringOctets total more5 (pos + 12) (acc ++ (scalarOctets v).toArray)
                    | _ => .error (.eofString, total)
                  | _ :: _ => .error (.unexpectedEndOfHexEscape, pos + 8)
                | _ :: _ => .error (.unexpectedEndOfHexEscape, pos + 7)
          | _ => .error (.eofString, total)
        else
          match simpleEscape e with
          | some x => stringOctets total more (pos + 2) (acc.push x)
          | none => .error (.invalidEscape, pos + 2)
    else if b < 0x20 then .error (.controlCharacter, pos + 1)
    else stringOctets total rest (pos + 1) (acc.push b)

/-- A string, the cursor after its opening quote; its octets must be UTF-8. -/
def readString (total : Nat) (c : Cursor) : Reading String :=
  match stringOctets total c.rest c.pos #[] with
  | .error e => .error e
  | .ok (octets, c) =>
    match Utf8.decode? octets.toList with
    | some s => .ok (s, c)
    | none => .error (.invalidUnicode, c.pos)

/-- The rest of a keyword, after its first letter. -/
def readWord : List UInt8 → Cursor → Except Fault Cursor
  | [], c => .ok c
  | w :: ws, c =>
    match c.rest with
    | [] => .error (.eofValue, c.pos)
    | b :: rest => if b = w then readWord ws ⟨rest, c.pos + 1⟩ else .error (.expectedIdent, c.pos + 1)

mutual
/-- One value after optional blanks; `room` counts the nesting levels left. With `keep`, an
object holds every field in the order written, repeated keys included. -/
def readValue (total : Nat) (keep : Bool) : Nat → Nat → Cursor → Reading Json
  | 0, _, c => .error (.recursionLimit, c.pos)
  | fuel + 1, room, c =>
    let c := c.skipBlank
    match c.rest with
    | [] => .error (.eofValue, c.peekPos)
    | b :: _ =>
      if b = 110 then (readWord [117, 108, 108] c.advance).map fun c => (.null, c)
      else if b = 116 then (readWord [114, 117, 101] c.advance).map fun c => (.bool true, c)
      else if b = 102 then (readWord [97, 108, 115, 101] c.advance).map fun c => (.bool false, c)
      else if b = 45 then (readNumber false c.advance).map fun (n, c) => (.num n, c)
      else if isDigitOctet b then (readNumber true c).map fun (n, c) => (.num n, c)
      else if b = 34 then (readString total c.advance).map fun (s, c) => (.str s, c)
      else if b = 91 then
        if room ≤ 1 then .error (.recursionLimit, c.peekPos)
        else (readItems total keep fuel (room - 1) true [] c.advance).map fun (xs, c) => (.arr xs, c)
      else if b = 123 then
        if room ≤ 1 then .error (.recursionLimit, c.peekPos)
        else
          (readFields total keep fuel (room - 1) true [] c.advance).map fun (fs, c) =>
            (.obj (if keep then fs.reverse else fs), c)
      else .error (.expectedValue, c.peekPos)

/-- Array items up to and including the closing bracket; `items` holds those read, last
first. -/
def readItems (total : Nat) (keep : Bool) : Nat → Nat → Bool → List Json → Cursor →
    Reading (List Json)
  | 0, _, _, _, c => .error (.recursionLimit, c.pos)
  | fuel + 1, room, first, items, c =>
    let c := c.skipBlank
    match c.rest with
    | [] => .error (.eofList, c.peekPos)
    | b :: _ =>
      if b = 93 then .ok (items.reverse, c.advance)
      else if first then
        match readValue total keep fuel room c with
        | .ok (v, c) => readItems total keep fuel room false (v :: items) c
        | .error e => .error e
      else if b = 44 then
        let c := c.advance.skipBlank
        match c.rest with
        | [] => .error (.eofValue, c.peekPos)
        | 93 :: _ => .error (.trailingComma, c.peekPos)
        | _ :: _ =>
          match readValue total keep fuel room c with
          | .ok (v, c) => readItems total keep fuel room false (v :: items) c
          | .error e => .error e
      else .error (.expectedListCommaOrEnd, c.peekPos)

/-- Object fields up to and including the closing brace: in key order, or with `keep` every
field, last first. -/
def readFields (total : Nat) (keep : Bool) : Nat → Nat → Bool → List (String × Json) → Cursor →
    Reading (List (String × Json))
  | 0, _, _, _, c => .error (.recursionLimit, c.pos)
  | fuel + 1, room, first, fields, c =>
    let c := c.skipBlank
    match c.rest with
    | [] => .error (.eofObject, c.peekPos)
    | b :: _ =>
      if b = 125 then .ok (fields, c.advance)
      else
        let keyAt : Except Fault Cursor :=
          if first then .ok c
          else if b = 44 then .ok c.advance.skipBlank
          else .error (.expectedObjectCommaOrEnd, c.peekPos)
        match keyAt with
        | .error e => .error e
        | .ok c =>
          match c.rest with
          | [] => .error (.eofValue, c.peekPos)
          | 34 :: _ =>
            match readString total c.advance with
            | .error e => .error e
            | .ok (k, c) =>
              let c := c.skipBlank
              match c.rest with
              | [] => .error (.eofObject, c.peekPos)
              | 58 :: _ =>
                match readValue total keep fuel room c.advance with
                | .ok (v, c) =>
                  let fields := if keep then (k, v) :: fields else JsonObject.insert k v fields
                  readFields total keep fuel room false fields c
                | .error e => .error e
              | _ :: _ => .error (.expectedColon, c.peekPos)
          | 125 :: _ => .error (.trailingComma, c.peekPos)
          | _ :: _ => .error (.keyMustBeString, c.peekPos)
end

/-- The JSON value of a whole octet sequence, blanks around it allowed; with `keep`, objects
hold every field as written (see `readValue`). -/
def readDocument (keep : Bool) (bs : List UInt8) : Except SyntaxError Json :=
  let fail (f : Fault) : Except SyntaxError Json :=
    let (line, column) := lineColumn bs f.2
    .error ⟨f.1, line, column⟩
  match readValue bs.length keep (2 * bs.length + 2) 128 ⟨bs, 0⟩ with
  | .error f => fail f
  | .ok (v, c) =>
    let c := c.skipBlank
    if c.rest.isEmpty then .ok v else fail (.trailingCharacters, c.peekPos)

/-- The JSON value of a whole octet sequence, blanks around it allowed. -/
def parseOctets (bs : List UInt8) : Except SyntaxError Json := readDocument false bs

/-- The JSON value of a whole octet sequence as written: every object holds all its fields in
their order, repeated keys included, for readers that treat a repeated key as an error. -/
def parseOctetsAsWritten (bs : List UInt8) : Except SyntaxError Json := readDocument true bs

/-- The JSON value of a text, blanks around it allowed. -/
def parse (s : String) : Except SyntaxError Json := parseOctets (Utf8.encode s)

end Switchyard.Json

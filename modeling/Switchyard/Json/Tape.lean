import Switchyard.Json.Parse
import Switchyard.Text.DebugView
/-!
# The two-pass body reader

Request bodies are read by a reader of its own, in two passes, whose errors name a cause, an
octet index and usually the octet found there.

The first pass marks the *structural* octets: `{ } [ ] : ,` outside strings, the opening
quote of each string, and the first octet of every other run of non-blank octets (a number or
a literal) outside strings. A quote preceded by an odd run of backslashes does not open or close
a string. The pass fails, at index 0 and without an octet, when a string is left open
(`Syntax`), when nothing is marked (`Eof`), or when a string holds an octet below `0x20`
(`Syntax`).

The second pass walks the marked octets. Past the end of the body every octet reads as `0`.

- A literal must be spelled out and be followed by a blank, a structural octet or the end.
- A number is `-`? then `0` or a non-zero digit and digits, an optional fraction, an optional
  exponent, whose digits may not go on once its value passes `2^32`. An integer written in
  fewer than nineteen octets (sign included) must be followed by a blank, a structural octet
  or the end; a longer one is not checked that way, but every digit is checked against
  overflow of 64 bits, and a negative value may reach `-2^63`.
- A fraction or exponent makes a binary64, rounded to nearest; an infinite one is refused at
  the number's first octet. With twenty or more octets from the first digit to the end of the
  fraction it is the value as written and nothing after it is checked. Otherwise the exponent,
  less the number of fraction digits, is kept in 32 bits; when that lies in `[-325, 308]` it is
  the exponent used, and the number must be followed as an integer is.
- A string's escapes are those of JSON. A `\u` escape needs four hexadecimal digits and may not
  be a low surrogate alone; a high surrogate alone reads as U+0000 (`unicodeEscape`). An
  unknown escape letter is reported at the start of the block of octets it was found in
  (`blockStart`); a failed `\u` escape at its backslash. Both offsets count from the string's
  first octet.
- After the root value nothing may follow; that error points at the root's last octet.
-/
namespace Switchyard.Tape

/-- Why a body does not read. -/
inductive Cause where
  | malformed | eof | expectedNull | expectedTrue | expectedFalse | invalidNumber | tapeError
  | expectedObjectColon | expectedObjectKey | expectedObjectContent | expectedArrayContent
  | invalidEscape | invalidUnicodeCodepoint
  | expectedString | expectedSigned | expectedUnsigned | expectedBoolean | expectedFloat
  | expectedArray | expectedMap
  /-- A failure of the typed reader, with its text. -/
  | custom (text : String)
  deriving DecidableEq, Repr

/-- The name of a cause. -/
def Cause.name : Cause → String
  | .malformed => "Syntax"
  | .eof => "Eof"
  | .expectedNull => "ExpectedNull"
  | .expectedTrue => "ExpectedTrue"
  | .expectedFalse => "ExpectedFalse"
  | .invalidNumber => "InvalidNumber"
  | .tapeError => "InternalError(TapeError)"
  | .expectedObjectColon => "ExpectedObjectColon"
  | .expectedObjectKey => "ExpectedObjectKey"
  | .expectedObjectContent => "ExpectedObjectContent"
  | .expectedArrayContent => "ExpectedArrayContent"
  | .invalidEscape => "InvalidEscape"
  | .invalidUnicodeCodepoint => "InvalidUnicodeCodepoint"
  | .expectedString => "ExpectedString"
  | .expectedSigned => "ExpectedSigned"
  | .expectedUnsigned => "ExpectedUnsigned"
  | .expectedBoolean => "ExpectedBoolean"
  | .expectedFloat => "ExpectedFloat"
  | .expectedArray => "ExpectedArray"
  | .expectedMap => "ExpectedMap"
  | .custom t => "Serde(" ++ DebugView.quote t ++ ")"

/-- A reading failure: the cause, an octet index and the octet there, read as a Latin-1
character. -/
structure Fault where
  /-- The cause. -/
  cause : Cause
  /-- The octet index. -/
  index : Nat := 0
  /-- The octet at the index, when the failure names one. -/
  found : Option Char := none
  deriving DecidableEq, Repr

/-- The text of a failure. -/
def Fault.message (f : Fault) : String :=
  let found := match f.found with
    | some c => " ('" ++ String.singleton c ++ "')"
    | none => ""
  f.cause.name ++ " at character " ++ toString f.index ++ found

/-- A value as the reader builds it. -/
inductive Node where
  | null
  | bool (b : Bool)
  /-- A non-negative integer below `2^64`. -/
  | u64 (n : Nat)
  /-- An integer from `-2^63` to `0`, read with a minus sign. -/
  | i64 (n : Int)
  | f64 (x : Binary64)
  | str (s : String)
  | arr (items : List Node)
  /-- An object's fields in order, repeats kept. -/
  | obj (fields : List (String × Node))
  deriving Inhabited

/-! ## The first pass -/

/-- Whether an octet is a blank for the reader: space, tab, newline, carriage return. -/
def isBlank (b : UInt8) : Bool := b = 0x20 || b = 0x09 || b = 0x0A || b = 0x0D

/-- Whether an octet is one of `{ } [ ] : ,`. -/
def isOperator (b : UInt8) : Bool :=
  b = 0x7B || b = 0x7D || b = 0x5B || b = 0x5D || b = 0x3A || b = 0x2C

/-- What the first pass carries from one octet to the next. -/
structure Marks where
  /-- The octet index. -/
  index : Nat := 0
  /-- Whether the index is inside a string. -/
  inString : Bool := false
  /-- Whether the octets just before end in an odd run of backslashes. -/
  oddBackslashes : Bool := false
  /-- Whether the octet before may precede the start of a run. -/
  afterBreak : Bool := true
  /-- Whether a string held a control octet. -/
  control : Bool := false
  /-- The marked indexes, last first. -/
  marked : List Nat := []

/-- The first pass over one octet. -/
def Marks.step (m : Marks) (b : UInt8) : Marks :=
  let quote := b = 0x22 && !m.oddBackslashes
  let inside := m.inString != quote
  let blank := isBlank b
  let structural := (isOperator b && !inside) || quote
  let starts := m.afterBreak && !blank && !inside
  let mark := (structural || starts) && !(quote && !inside)
  { index := m.index + 1
    inString := inside
    oddBackslashes := b = 0x5C && !m.oddBackslashes
    afterBreak := structural || blank
    control := m.control || (inside && b < 0x20)
    marked := if mark then m.index :: m.marked else m.marked }

/-- The structural indexes of a body, in order. -/
def structurals (bs : List UInt8) : Except Fault (List Nat) :=
  let m := bs.foldl Marks.step {}
  if m.inString then .error ⟨.malformed, 0, none⟩
  else if m.marked.isEmpty then .error ⟨.eof, 0, none⟩
  else if m.control then .error ⟨.malformed, 0, none⟩
  else .ok m.marked.reverse

/-! ## Octets, numbers and strings -/

/-- The octet at an index, `0` past the end. -/
def octetAt (buf : Array UInt8) (i : Nat) : UInt8 := buf.getD i 0

/-- A failure naming the octet at an index. -/
def faultAt (cause : Cause) (buf : Array UInt8) (i : Nat) : Fault :=
  ⟨cause, i, some (Char.ofNat (octetAt buf i).toNat)⟩

/-- Whether an octet is a decimal digit. -/
def isDigit (b : UInt8) : Bool := 0x30 ≤ b && b ≤ 0x39

/-- Whether an octet may follow a value: a blank, a structural octet or `0`. -/
def endsValue (b : UInt8) : Bool := isBlank b || isOperator b || b = 0

/-- The index after the run of digits starting at an index. -/
def digitsEnd (buf : Array UInt8) (i : Nat) : Nat :=
  if i < buf.size then
    if isDigit (octetAt buf i) then digitsEnd buf (i + 1) else i
  else i
termination_by buf.size - i

/-- The value of the digits between two indexes. -/
def digitsValue (buf : Array UInt8) (i j : Nat) : Nat :=
  ((buf.extract i j).toList).foldl (fun acc b => acc * 10 + (b.toNat - 0x30)) 0

/-- The exponent digits from an index: their value and end, or the index of the digit at
which the value already exceeds `2^32`. -/
def exponentDigits (buf : Array UInt8) (i : Nat) (acc : Nat) : Except Nat (Nat × Nat) :=
  if i < buf.size then
    if isDigit (octetAt buf i) then
      if acc > Nat.pow 2 32 then .error i
      else exponentDigits buf (i + 1) (acc * 10 + ((octetAt buf i).toNat - 0x30))
    else .ok (acc, i)
  else .ok (acc, i)
termination_by buf.size - i

/-- Integer digits of a long integer: each digit checked against overflow of 64 bits. -/
def largeDigits (buf : Array UInt8) (i : Nat) (acc : Nat) : Except Fault (Nat × Nat) :=
  if i < buf.size then
    if isDigit (octetAt buf i) then
      let next := acc * 10 + ((octetAt buf i).toNat - 0x30)
      if next ≥ Nat.pow 2 64 then .error (faultAt .invalidNumber buf i)
      else largeDigits buf (i + 1) next
    else .ok (acc, i)
  else .ok (acc, i)
termination_by buf.size - i

/-- An exponent kept in 32 bits: its value modulo `2^32`, taken in `[-2^31, 2^31)`. -/
def wrapExponent (e : Int) : Int := (e + 2147483648) % 4294967296 - 2147483648

/-- The number starting at an index. -/
def readNumber (buf : Array UInt8) (start : Nat) : Except Fault Node := do
  let negative := octetAt buf start = 0x2D
  let intStart := if negative then start + 1 else start
  if !isDigit (octetAt buf intStart) then throw (faultAt .invalidNumber buf intStart)
  let intEnd ←
    if octetAt buf intStart = 0x30 then
      let next := octetAt buf (intStart + 1)
      if endsValue next || next = 0x65 || next = 0x45 || next = 0x2E then pure (intStart + 1)
      else throw (faultAt .invalidNumber buf (intStart + 1))
    else pure (digitsEnd buf intStart)
  let (fracEnd, fracLen) ←
    if octetAt buf intEnd = 0x2E then
      if !isDigit (octetAt buf (intEnd + 1)) then throw (faultAt .invalidNumber buf (intEnd + 1))
      let e := digitsEnd buf (intEnd + 1)
      pure (e, e - (intEnd + 1))
    else pure (intEnd, 0)
  let hasFraction := fracEnd != intEnd
  let (stop, exp, hasExp) ←
    if octetAt buf fracEnd = 0x65 || octetAt buf fracEnd = 0x45 then
      let signAt := fracEnd + 1
      let (expNeg, digitsAt) :=
        if octetAt buf signAt = 0x2D then (true, signAt + 1)
        else if octetAt buf signAt = 0x2B then (false, signAt + 1)
        else (false, signAt)
      if !isDigit (octetAt buf digitsAt) then throw (faultAt .invalidNumber buf digitsAt)
      match exponentDigits buf (digitsAt + 1) ((octetAt buf digitsAt).toNat - 0x30) with
      | .error i => throw (faultAt .invalidNumber buf i)
      | .ok (v, e) => pure (e, (if expNeg then -(v : Int) else v), true)
    else pure (fracEnd, (0 : Int), false)
  if hasFraction || hasExp then
    let digits := digitsValue buf intStart intEnd * Nat.pow 10 fracLen +
      digitsValue buf (intEnd + 1) fracEnd
    let written := exp - fracLen
    if fracEnd - intStart ≥ 20 then
      let x := Binary64.ofDecimal negative digits written
      if x.isInfinite then throw (faultAt .invalidNumber buf start)
      pure (.f64 x)
    else
      let short := wrapExponent written
      let x := Binary64.ofDecimal negative digits
        (if -325 ≤ short ∧ short ≤ 308 then short else written)
      if x.isInfinite then throw (faultAt .invalidNumber buf start)
      if !endsValue (octetAt buf stop) then throw (faultAt .invalidNumber buf stop)
      pure (.f64 x)
  else if intEnd - start ≥ 19 then
    let (v, e) ← largeDigits buf intStart 0
    if negative && v > Nat.pow 2 63 then throw (faultAt .invalidNumber buf e)
    pure (if negative then .i64 (-(v : Int)) else .u64 v)
  else
    if !endsValue (octetAt buf intEnd) then throw (faultAt .invalidNumber buf intEnd)
    let v := digitsValue buf intStart intEnd
    pure (if negative then .i64 (-(v : Int)) else .u64 v)

/-- The value of a hexadecimal digit octet. -/
def hexValue (b : UInt8) : Option Nat := Json.hexOf b

/-- Four hexadecimal digits from an index. -/
def hex4At (buf : Array UInt8) (i : Nat) : Option Nat :=
  Json.hex4 (octetAt buf i) (octetAt buf (i + 1)) (octetAt buf (i + 2)) (octetAt buf (i + 3))

/-- The octets of a code point in UTF-8, surrogates included. -/
def codePointOctets (n : Nat) : List UInt8 :=
  if n < 0x80 then [n.toUInt8]
  else if n < 0x800 then [(0xC0 + n / 64).toUInt8, (0x80 + n % 64).toUInt8]
  else if n < 0x10000 then
    [(0xE0 + n / 4096).toUInt8, (0x80 + n / 64 % 64).toUInt8, (0x80 + n % 64).toUInt8]
  else
    [(0xF0 + n / 262144).toUInt8, (0x80 + n / 4096 % 64).toUInt8, (0x80 + n / 64 % 64).toUInt8,
      (0x80 + n % 64).toUInt8]

/-- A `\u` escape at an index (the index of its backslash): the octets it stands for and the
index after it, or a failure at the escape's offset `rel` inside the string.

Four hexadecimal digits are needed. A high surrogate takes the escape after it as its low half
when that is a `\u` escape with four digits no lower than `DC00`, and the pair reads as
`(high - D800) * 2^10 ||| (low - DC00)` above `0x10000`; a high surrogate alone reads as U+0000.
A low surrogate alone, or a high one before a lower escape, is refused. -/
def unicodeEscape (buf : Array UInt8) (i rel : Nat) : Except Fault (List UInt8 × Nat) :=
  let bad : Except Fault (List UInt8 × Nat) := .error ⟨.invalidUnicodeCodepoint, rel, some 'u'⟩
  match hex4At buf (i + 2) with
  | none => bad
  | some n =>
    if 0xD800 ≤ n ∧ n < 0xDC00 then
      if octetAt buf (i + 6) = 0x5C ∧ octetAt buf (i + 7) = 0x75 then
        match hex4At buf (i + 8) with
        | none => .ok ([0], i + 6)
        | some m =>
          if m < 0xDC00 then bad
          else .ok (codePointOctets ((((n - 0xD800) <<< 10) ||| (m - 0xDC00)) + 0x10000), i + 12)
      else .ok ([0], i + 6)
    else if 0xDC00 ≤ n ∧ n < 0xE000 then bad
    else .ok (codePointOctets n, i + 6)

/-- The octet a simple escape letter stands for. -/
def simpleEscape (b : UInt8) : Option UInt8 := Json.simpleEscape b

/-- Where an unknown escape letter is reported. Escapes are looked for in blocks of thirty-two
octets: the first block starts at the first backslash, and each later one right after the
escape before it, or thirty-two octets on when its block held none. The report names the
start of the block holding the bad escape; `anchor` is where the run of blocks started, `none`
before the first backslash. -/
def blockStart (anchor : Option Nat) (p : Nat) : Nat :=
  match anchor with
  | none => p
  | some s => s + 32 * ((p - s) / 32)

/-- The octets of a string from an index inside it up to its closing quote; `first` is the
index of its first octet and `anchor` the offset where the current run of escape blocks
started. -/
def stringFrom (buf : Array UInt8) (first i : Nat) (anchor : Option Nat) (acc : Array UInt8) :
    Except Fault (Array UInt8) :=
  if i < buf.size then
    let b := octetAt buf i
    if b = 0x22 then .ok acc
    else if b = 0x5C then
      let e := octetAt buf (i + 1)
      if e = 0x75 then
        match unicodeEscape buf i (i - first) with
        | .error f => .error f
        | .ok (os, next) =>
          if next > i then stringFrom buf first next (some (next - first)) (acc ++ os.toArray)
          else .ok acc
      else
        match simpleEscape e with
        | some x => stringFrom buf first (i + 2) (some (i + 2 - first)) (acc.push x)
        | none =>
          .error ⟨.invalidEscape, blockStart anchor (i - first), some (Char.ofNat e.toNat)⟩
    else stringFrom buf first (i + 1) anchor (acc.push b)
  else .error ⟨.malformed, 0, none⟩
termination_by buf.size - i

/-- The string whose opening quote is at an index. -/
def readString (buf : Array UInt8) (quote : Nat) : Except Fault String :=
  (stringFrom buf (quote + 1) (quote + 1) none #[]).map fun os => Utf8.decodeLossy os.toList

/-- Whether a literal is spelled out at an index and followed by the end of a value. -/
def literalAt (buf : Array UInt8) (i : Nat) (word : List UInt8) : Bool :=
  (List.range word.length).all (fun k => octetAt buf (i + k) = word.getD k 0) &&
    endsValue (octetAt buf (i + word.length))

/-! ## The second pass -/

/-- The walk over the structural indexes: those left, and the last one read with its octet. -/
structure Walk where
  /-- The structural indexes not yet read. -/
  rest : List Nat
  /-- The last index read. -/
  index : Nat := 0
  /-- The octet at it. -/
  octet : UInt8 := 0

/-- A failure at the last index read. -/
def Walk.fault (w : Walk) (cause : Cause) : Fault :=
  ⟨cause, w.index, some (Char.ofNat w.octet.toNat)⟩

/-- Reads the next structural index; `Syntax` at the last one when none is left. -/
def Walk.next (buf : Array UInt8) (w : Walk) : Except Fault Walk :=
  match w.rest with
  | [] => .error (w.fault .malformed)
  | i :: rest => .ok ⟨rest, i, octetAt buf i⟩

mutual

/-- The value starting at the index just read. -/
def value (buf : Array UInt8) : Nat → Walk → Except Fault (Node × Walk)
  | 0, w => .error (w.fault .tapeError)
  | fuel + 1, w =>
    let c := w.octet
    if c = 0x22 then (readString buf w.index).map fun s => (.str s, w)
    else if c = 0x74 then
      if literalAt buf w.index [0x74, 0x72, 0x75, 0x65] then .ok (.bool true, w)
      else .error (w.fault .expectedTrue)
    else if c = 0x66 then
      if literalAt buf w.index [0x66, 0x61, 0x6C, 0x73, 0x65] then .ok (.bool false, w)
      else .error (w.fault .expectedFalse)
    else if c = 0x6E then
      if literalAt buf w.index [0x6E, 0x75, 0x6C, 0x6C] then .ok (.null, w)
      else .error (w.fault .expectedNull)
    else if c = 0x2D || isDigit c then (readNumber buf w.index).map fun n => (n, w)
    else if c = 0x5B then
      match w.next buf with
      | .error f => .error f
      | .ok w =>
        if w.octet = 0x5D then .ok (.arr [], w) else items buf fuel [] w
    else if c = 0x7B then
      match w.next buf with
      | .error f => .error f
      | .ok w =>
        if w.octet = 0x22 then fields buf fuel [] w
        else if w.octet = 0x7D then .ok (.obj [], w)
        else .error (w.fault .expectedObjectKey)
    else .error (w.fault .tapeError)

/-- The items of an array from the value just read, after those in `acc` (last first). -/
def items (buf : Array UInt8) : Nat → List Node → Walk → Except Fault (Node × Walk)
  | 0, _, w => .error (w.fault .tapeError)
  | fuel + 1, acc, w =>
    match value buf fuel w with
    | .error f => .error f
    | .ok (v, w) =>
      match w.next buf with
      | .error f => .error f
      | .ok w =>
        if w.octet = 0x2C then
          match w.next buf with
          | .error f => .error f
          | .ok w => items buf fuel (v :: acc) w
        else if w.octet = 0x5D then .ok (.arr (v :: acc).reverse, w)
        else .error (w.fault .expectedArrayContent)

/-- The fields of an object from the key just read, after those in `acc` (last first). -/
def fields (buf : Array UInt8) : Nat → List (String × Node) → Walk → Except Fault (Node × Walk)
  | 0, _, w => .error (w.fault .tapeError)
  | fuel + 1, acc, w =>
    match readString buf w.index with
    | .error f => .error f
    | .ok key =>
      match w.next buf with
      | .error f => .error f
      | .ok w =>
        if w.octet != 0x3A then .error (w.fault .expectedObjectColon)
        else
          match w.next buf with
          | .error f => .error f
          | .ok w =>
            match value buf fuel w with
            | .error f => .error f
            | .ok (v, w) =>
              match w.next buf with
              | .error f => .error f
              | .ok w =>
                if w.octet = 0x2C then
                  match w.next buf with
                  | .error f => .error f
                  | .ok w =>
                    if w.octet = 0x22 then fields buf fuel ((key, v) :: acc) w
                    else .error (w.fault .expectedObjectKey)
                else if w.octet = 0x7D then .ok (.obj ((key, v) :: acc).reverse, w)
                else .error (w.fault .expectedObjectContent)

end

/-- A whole body as a value. -/
def read (bs : List UInt8) : Except Fault Node := do
  let marks ← structurals bs
  let buf := bs.toArray
  let w ← Walk.next buf ⟨marks, 0, 0⟩
  let (v, w) ← value buf (2 * marks.length + 2) w
  if w.rest.isEmpty then pure v else throw (w.fault .tapeError)

end Switchyard.Tape

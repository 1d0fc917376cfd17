import Switchyard.Number.Shortest
/-!
# JSON values

The dynamic values the router reads from bodies and writes into responses. A number keeps
the kind it was read as: a non-negative integer below `2^64`, a negative integer down to
`-2^63`, or a binary64. An object holds its fields in ascending key order with each key
once; `JsonObject.insert` keeps that, a later field replacing an earlier one of the same key.

`Json.compact` is the one writer: no blanks, object fields in their order, strings with the
escapes of RFC 8259 (`\"`, `\\`, `\n`, `\r`, `\t`, `\b`, `\f`, and `\u00XX` for the other
control characters), binary64 values in `FloatStyle.json` and non-finite ones as `null`.
-/
namespace Switchyard

/-- A JSON number as it was read. -/
inductive JsonNumber where
  /-- A non-negative integer below `2^64`. -/
  | pos (n : Nat)
  /-- The negative integer `-n`, for `0 < n ≤ 2^63`. -/
  | neg (n : Nat)
  /-- A binary64 value. -/
  | float (x : Binary64)
  deriving DecidableEq, Inhabited

/-- A JSON value. -/
inductive Json where
  /-- `null` -/
  | null
  /-- `true` or `false` -/
  | bool (b : Bool)
  /-- A number. -/
  | num (n : JsonNumber)
  /-- A string. -/
  | str (s : String)
  /-- An array. -/
  | arr (items : List Json)
  /-- An object, as its fields. -/
  | obj (fields : List (String × Json))
  deriving Inhabited

namespace JsonObject

/-- Adds a field to fields in ascending key order, replacing the field of the same key. -/
def insert (key : String) (v : Json) : List (String × Json) → List (String × Json)
  | [] => [(key, v)]
  | (k, w) :: rest =>
    if key = k then (key, v) :: rest
    else if key < k then (key, v) :: (k, w) :: rest
    else (k, w) :: insert key v rest

/-- Fields in ascending key order, the last of each key kept. -/
def ofList (fields : List (String × Json)) : List (String × Json) :=
  fields.foldl (fun acc (k, v) => insert k v acc) []

end JsonObject

/-- Binary64 as JSON writes it: positional for leading exponents from -5 to 15, an integral
value with `.0`, otherwise one digit, a point, the rest and a signed exponent. -/
def FloatStyle.json : FloatStyle := ⟨-5, 15, true, true, "null", "null", "0.0"⟩

/-- Binary64 as the debugging text writes it: positional for leading exponents from -4 to 15
with at least one decimal, otherwise scientific without a `+`. -/
def FloatStyle.debug : FloatStyle := ⟨-4, 15, true, false, "NaN", "inf", "0.0"⟩

/-- Binary64 as the plain display text writes it: always positional, no `.0`. -/
def FloatStyle.plain : FloatStyle := ⟨-100000, 100000, false, false, "NaN", "inf", "0"⟩

namespace Json

/-- Hex digit of a nibble, in lower case. -/
def hexDigit (n : Nat) : Char :=
  if n < 10 then Char.ofNat (48 + n) else Char.ofNat (87 + n)

/-- The escaped form of one character inside a JSON string. -/
def escapeChar (c : Char) : List Char :=
  if c = '"' then ['\\', '"']
  else if c = '\\' then ['\\', '\\']
  else if c = '\n' then ['\\', 'n']
  else if c = '\r' then ['\\', 'r']
  else if c = '\t' then ['\\', 't']
  else if c.toNat = 8 then ['\\', 'b']
  else if c.toNat = 12 then ['\\', 'f']
  else if c.toNat < 0x20 then
    ['\\', 'u', '0', '0', hexDigit (c.toNat / 16), hexDigit (c.toNat % 16)]
  else [c]

/-- A string as a JSON string literal. -/
def quote (s : String) : String :=
  String.ofList ('"' :: (s.toList.flatMap escapeChar ++ ['"']))

/-- The text of a number. -/
def numberText : JsonNumber → String
  | .pos n => toString n
  | .neg n => "-" ++ toString n
  | .float x => x.render FloatStyle.json

mutual
/-- Compact text of a value. -/
def compact : Json → String
  | .null => "null"
  | .bool true => "true"
  | .bool false => "false"
  | .num n => numberText n
  | .str s => quote s
  | .arr items => "[" ++ compactItems items ++ "]"
  | .obj fields => "\x7b" ++ compactFields fields ++ "\x7d"

/-- Compact text of array items, comma separated. -/
def compactItems : List Json → String
  | [] => ""
  | [v] => compact v
  | v :: rest => compact v ++ "," ++ compactItems rest

/-- Compact text of object fields, comma separated. -/
def compactFields : List (String × Json) → String
  | [] => ""
  | [(k, v)] => quote k ++ ":" ++ compact v
  | (k, v) :: rest => quote k ++ ":" ++ compact v ++ "," ++ compactFields rest
end

/-- The value of a field of an object; `none` for a missing field or a non-object. -/
def field? (j : Json) (key : String) : Option Json :=
  match j with
  | .obj fields => fields.lookup key
  | _ => none

/-- A natural number as a JSON number. -/
def nat (n : Nat) : Json := .num (.pos n)

/-- An integer as a JSON number. -/
def int (n : Int) : Json := if n < 0 then .num (.neg n.natAbs) else .num (.pos n.toNat)

/-- An optional text, `null` when absent. -/
def optStr : Option String → Json
  | some s => .str s
  | none => .null

/-- An object from fields in ascending key order, the last of each key kept. -/
def object (fields : List (String × Json)) : Json := .obj (JsonObject.ofList fields)

end Json

end Switchyard

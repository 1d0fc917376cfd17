/-!
# Base64 with the URL alphabet, without padding

RFC 4648 §5: the alphabet is `A`–`Z`, `a`–`z`, `0`–`9`, `-` and `_`. Encoding writes every
three octets as four characters and a final one or two octets as two or three characters, with
no `=` padding.

Decoding is strict, so that every octet string has exactly one accepted spelling: every
character must be in the alphabet (padding included is refused), a final group of one
character is refused, and the bits a final group of two or three characters carries beyond its
octets must be zero.
-/
namespace Switchyard.Base64

/-- The character of a six-bit value. -/
def charOf (n : Nat) : Char :=
  if n < 26 then Char.ofNat (65 + n)
  else if n < 52 then Char.ofNat (97 + n - 26)
  else if n < 62 then Char.ofNat (48 + n - 52)
  else if n = 62 then '-' else '_'

/-- The six-bit value of a character, if it is in the alphabet. -/
def valueOf (c : Char) : Option Nat :=
  if 'A' ≤ c ∧ c ≤ 'Z' then some (c.toNat - 65)
  else if 'a' ≤ c ∧ c ≤ 'z' then some (c.toNat - 97 + 26)
  else if '0' ≤ c ∧ c ≤ '9' then some (c.toNat - 48 + 52)
  else if c = '-' then some 62
  else if c = '_' then some 63
  else none

/-- The characters of octets. -/
def encodeChars : List UInt8 → List Char
  | [] => []
  | [a] =>
    let n := a.toNat
    [charOf (n / 4), charOf (n % 4 * 16)]
  | [a, b] =>
    let n := a.toNat * 256 + b.toNat
    [charOf (n / 1024), charOf (n / 16 % 64), charOf (n % 16 * 4)]
  | a :: b :: c :: rest =>
    let n := a.toNat * 65536 + b.toNat * 256 + c.toNat
    [charOf (n / 262144), charOf (n / 4096 % 64), charOf (n / 64 % 64), charOf (n % 64)] ++
      encodeChars rest

/-- The encoding of octets. -/
def encode (bs : List UInt8) : String := String.ofList (encodeChars bs)

/-- The octets of six-bit values, if they are a canonical encoding. -/
def decodeValues : List Nat → Option (List UInt8)
  | [] => some []
  | [_] => none
  | [a, b] =>
    if b % 16 = 0 then some [UInt8.ofNat (a * 4 + b / 16)] else none
  | [a, b, c] =>
    if c % 4 = 0 then
      let n := (a * 64 + b) * 64 + c
      some [UInt8.ofNat (n / 1024), UInt8.ofNat (n / 4 % 256)]
    else none
  | a :: b :: c :: d :: rest =>
    let n := ((a * 64 + b) * 64 + c) * 64 + d
    (decodeValues rest).map fun tail =>
      UInt8.ofNat (n / 65536) :: UInt8.ofNat (n / 256 % 256) :: UInt8.ofNat (n % 256) :: tail

/-- The octets a text encodes, if it is a canonical encoding. -/
def decode? (s : String) : Option (List UInt8) :=
  (s.toList.mapM valueOf).bind decodeValues

end Switchyard.Base64

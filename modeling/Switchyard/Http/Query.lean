import Switchyard.Text.Utf8
import Switchyard.Number.Read
/-!
# Query strings and form bodies

`urlDecode` decodes one key or value of a query string: `+` is a blank, `%` followed by two
octets that read as a hexadecimal octet is that octet, and every other octet stands for
itself, a lone `%` included; the octets are then read as UTF-8, each ill-formed sequence as
U+FFFD. The two octets after `%` are read as an unsigned number of radix 16, which also takes a
leading `+`: `%+5` is the octet 5.

`parseQuery` splits a query on `&`, drops empty pairs, and splits each pair at its first `=`
(a pair without one has an empty value), keeping pairs in order and repeats as they come.
-/
namespace Switchyard

/-- The octet two characters spell as an unsigned hexadecimal number, if they do. -/
def hexPairOctet (a b : UInt8) : Option UInt8 :=
  match Utf8.decode? [a, b] with
  | some text =>
    match readInt IntKind.u8 16 text with
    | .ok n => some (UInt8.ofNat n.toNat)
    | .error _ => none
  | none => none

/-- Decodes the escapes of a query component into octets. -/
def urlDecodeOctets : List UInt8 → List UInt8
  | [] => []
  | 43 :: rest => 32 :: urlDecodeOctets rest
  | 37 :: x :: y :: more =>
    match hexPairOctet x y with
    | some o => o :: urlDecodeOctets more
    | none => 37 :: urlDecodeOctets (x :: y :: more)
  | b :: rest => b :: urlDecodeOctets rest

/-- A query component decoded: escapes replaced, then read as UTF-8. -/
def urlDecode (s : String) : String := Utf8.decodeLossy (urlDecodeOctets (Utf8.encode s))

/-- The text before the first occurrence of a character and the text after it. -/
def splitOnce (c : Char) (s : String) : Option (String × String) :=
  let cs := s.toList
  if cs.contains c then
    some (String.ofList (cs.takeWhile (· != c)), String.ofList ((cs.dropWhile (· != c)).drop 1))
  else none

/-- The decoded key and value pairs of a query, in order. -/
def parseQuery (q : String) : List (String × String) :=
  ((q.splitOn "&").filter (!·.isEmpty)).map fun pair =>
    match splitOnce '=' pair with
    | some (k, v) => (urlDecode k, urlDecode v)
    | none => (urlDecode pair, "")

end Switchyard

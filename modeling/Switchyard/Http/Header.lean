import Switchyard.Text.Utf8
/-!
# Header fields

Header names are tokens, compared without regard to case and kept in lower case; header values
are octets. `HeaderName.parse?` and `HeaderValue.ofText?` accept exactly what may be sent:

- a name is one or more token characters (letters, digits and ``!#$%&'*+-.^_`|~``);
- a value holds no control character other than tab, and no DEL; octets above 127 pass.

`HeaderValue.text?` reads a value back as text only when every octet is visible ASCII or a tab.

A `HeaderMap` keeps every field in arrival order. `get?` finds the first value of a name,
`getAll` every value in order; `append` adds a field, `insert` replaces every field of the name
by one, `remove` drops them.
-/
namespace Switchyard

/-- The lower-case form of a token octet, or `none` for an octet no token holds. -/
def tokenOctet (b : UInt8) : Option Char :=
  let n := b.toNat
  if 65 ≤ n ∧ n ≤ 90 then some (Char.ofNat (n + 32))
  else if (97 ≤ n ∧ n ≤ 122) ∨ (48 ≤ n ∧ n ≤ 57) then some (Char.ofNat n)
  else if "!#$%&'*+-.^_`|~".toList.contains (Char.ofNat n) then some (Char.ofNat n)
  else none

/-- A header name: a token in lower case. -/
structure HeaderName where
  /-- The name in lower case. -/
  text : String
  deriving DecidableEq, Repr, Inhabited

/-- The name a text spells, in lower case, if it is a token. -/
def HeaderName.parse? (s : String) : Option HeaderName :=
  let bs := Utf8.encode s
  if bs.isEmpty then none
  else (bs.mapM tokenOctet).map fun cs => ⟨String.ofList cs⟩

/-- A header value: octets. -/
structure HeaderValue where
  /-- The octets. -/
  octets : List UInt8
  deriving DecidableEq, Repr, Inhabited

/-- Whether an octet may stand in a header value. -/
def HeaderValue.validOctet (b : UInt8) : Bool := (b ≥ 32 && b != 127) || b == 9

/-- Whether an octet is visible ASCII or a tab. -/
def HeaderValue.visibleOctet (b : UInt8) : Bool := (b ≥ 32 && b < 127) || b == 9

/-- The value a text spells, if every octet may stand in a value. -/
def HeaderValue.ofText? (s : String) : Option HeaderValue :=
  let bs := Utf8.encode s
  if bs.all HeaderValue.validOctet then some ⟨bs⟩ else none

/-- The value as text, when every octet is visible ASCII or a tab. -/
def HeaderValue.text? (v : HeaderValue) : Option String :=
  if v.octets.all HeaderValue.visibleOctet then some (Utf8.decodeLossy v.octets) else none

/-- The value as text, each ill-formed octet sequence read as U+FFFD. -/
def HeaderValue.lossy (v : HeaderValue) : String := Utf8.decodeLossy v.octets

/-- Header fields in arrival order. -/
structure HeaderMap where
  /-- The fields, oldest first. -/
  fields : List (HeaderName × HeaderValue) := []
  deriving DecidableEq, Repr, Inhabited

namespace HeaderMap

/-- Adds a field after the others. -/
def append (m : HeaderMap) (n : HeaderName) (v : HeaderValue) : HeaderMap :=
  ⟨m.fields ++ [(n, v)]⟩

/-- Drops every field of a name. -/
def remove (m : HeaderMap) (n : HeaderName) : HeaderMap :=
  ⟨m.fields.filter fun f => f.1 != n⟩

/-- Replaces every field of a name by one. -/
def insert (m : HeaderMap) (n : HeaderName) (v : HeaderValue) : HeaderMap :=
  (m.remove n).append n v

/-- Every value of a name, in arrival order. -/
def getAll (m : HeaderMap) (n : HeaderName) : List HeaderValue :=
  m.fields.filterMap fun (k, v) => if k = n then some v else none

/-- The first value of a name. -/
def get? (m : HeaderMap) (n : HeaderName) : Option HeaderValue := (m.getAll n).head?

/-- The first value of a name given as text, as text; `none` when the name is no token, the
field is missing, or the value is not visible ASCII. -/
def lookup (m : HeaderMap) (name : String) : Option String :=
  (HeaderName.parse? name).bind fun n => (m.get? n).bind HeaderValue.text?

/-- Whether a name has a field. -/
def contains (m : HeaderMap) (n : HeaderName) : Bool := m.fields.any (·.1 == n)

/-- The number of fields. -/
def size (m : HeaderMap) : Nat := m.fields.length

/-- The names in order of their first field, each once. -/
def names (m : HeaderMap) : List HeaderName := (m.fields.map (·.1)).eraseDups

end HeaderMap

end Switchyard

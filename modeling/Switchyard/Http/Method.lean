import Switchyard.Http.Header
/-!
# Methods

A request method is a token, compared with its case: `GET` and `get` are different methods.
`parseMethod?` accepts one or more token characters and keeps them as written.
-/
namespace Switchyard

/-- Whether an octet is a token character, in either case. -/
def isTokenOctet (b : UInt8) : Bool := (tokenOctet b).isSome

/-- The method a text spells, if it is a token. -/
def parseMethod? (s : String) : Option String :=
  let bs := Utf8.encode s
  if !bs.isEmpty && bs.all isTokenOctet then some s else none

end Switchyard

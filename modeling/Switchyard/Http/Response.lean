import Switchyard.Http.Header
/-!
# Responses

A finished response: a status, header fields and body octets. `Response.text` is a plain-text
response; `Response.header` reads the first value of a field as text.
-/
namespace Switchyard

/-- A finished HTTP response. -/
structure Response where
  /-- The status code. -/
  status : Nat := 200
  /-- The header fields. -/
  headers : HeaderMap := {}
  /-- The body. -/
  body : List UInt8 := []
  deriving DecidableEq, Repr, Inhabited

namespace Response

/-- The media type of plain text. -/
def plainText : String := "text/plain; charset=utf-8"

/-- A plain-text response. -/
def text (status : Nat) (body : String) : Response :=
  { status, headers := ({} : HeaderMap).insert ⟨"content-type"⟩ ⟨Utf8.encode plainText⟩,
    body := Utf8.encode body }

/-- The first value of a field as text. -/
def header (r : Response) (name : String) : Option String := r.headers.lookup name

/-- The body as text, each ill-formed sequence read as U+FFFD. -/
def bodyText (r : Response) : String := Utf8.decodeLossy r.body

end Response

end Switchyard

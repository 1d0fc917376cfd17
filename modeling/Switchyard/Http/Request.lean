import Switchyard.Http.Header
import Switchyard.Http.Query
import Switchyard.Text.Unicode
/-!
# Requests

A request as handlers see it: method, path, host, scheme and peer address, the raw query
string, header fields and the body octets.

- `Request.make` splits the target at its first `?` into path and query string.
- `withHeader` appends a field when its name and value are valid and ignores it otherwise; a
  `Host` field sets the host while none is set.
- `queryMap` holds the decoded query pairs, the last value of a key winning.
- `form` lists the values of each key: first those of a URL-encoded body (when the first
  `Content-Type` value starts with `application/x-www-form-urlencoded` and the body is UTF-8),
  then those of the query string, each in arrival order. Once read, the form is kept with the
  request; building steps (`withHeader`, `withBody`) drop what was kept, setting a header in
  place does not.
- `cookie` finds the first `name=value` pair of that name in the `Cookie` fields, with
  surrounding double quotes removed from the value.
-/
namespace Switchyard

/-- Decoded form values: each key with its values in arrival order, keys in order of first
arrival. -/
abbrev FormValues := List (String × List String)

/-- Adds one value to a key's values. -/
def FormValues.push (f : FormValues) (k v : String) : FormValues :=
  if f.any (·.1 == k) then f.map fun (k', vs) => if k' == k then (k', vs ++ [v]) else (k', vs)
  else f ++ [(k, [v])]

/-- An HTTP request. -/
structure Request where
  /-- The method, as sent. -/
  method : String
  /-- The path, without the query string. -/
  path : String
  /-- The host it was sent to. -/
  host : String := ""
  /-- The scheme, when known. -/
  scheme : Option String := none
  /-- The peer address, when known. -/
  remoteAddr : Option String := none
  /-- The raw query string. -/
  queryString : Option String := none
  /-- The header fields. -/
  headers : HeaderMap := {}
  /-- The body. -/
  body : List UInt8 := []
  /-- The form values, once read. -/
  formCache : Option FormValues := none
  deriving Inhabited

namespace Request

/-- A request for a target, which may carry a query string after `?`. -/
def make (method target : String) : Request :=
  match splitOnce '?' target with
  | some (p, q) => { method, path := p, queryString := some q }
  | none => { method, path := target }

/-- The request `GET /`. -/
def default : Request := make "GET" "/"

/-- Sets the host. -/
def withHost (r : Request) (host : String) : Request := { r with host }

/-- Appends a header field; an invalid name or value is ignored. -/
def withHeader (r : Request) (name value : String) : Request :=
  match HeaderName.parse? name, HeaderValue.ofText? value with
  | some n, some v =>
    let host := if n.text = "host" ∧ r.host.isEmpty then value else r.host
    { r with host, headers := r.headers.append n v, formCache := none }
  | _, _ => { r with formCache := none }

/-- Sets the body. -/
def withBody (r : Request) (body : List UInt8) : Request := { r with body, formCache := none }

/-- Sets the peer address. -/
def withRemoteAddr (r : Request) (addr : String) : Request := { r with remoteAddr := some addr }

/-- The first value of a header as text. -/
def header (r : Request) (name : String) : Option String := r.headers.lookup name

/-- Replaces every field of a name by one; an invalid name or value is ignored. -/
def setHeader (r : Request) (name value : String) : Request :=
  match HeaderName.parse? name, HeaderValue.ofText? value with
  | some n, some v => { r with headers := r.headers.insert n v }
  | _, _ => r

/-- The decoded query pairs, in order. -/
def queryPairs (r : Request) : List (String × String) :=
  match r.queryString with
  | some q => parseQuery q
  | none => []

/-- The query as a map: each key with its last value, keys in order of first arrival. -/
def queryMap (r : Request) : List (String × String) :=
  r.queryPairs.foldl (fun acc (k, v) =>
    if acc.any (·.1 == k) then acc.map fun (k', v') => if k' == k then (k', v) else (k', v')
    else acc ++ [(k, v)]) []

/-- The body as text, when it is UTF-8. -/
def bodyText? (r : Request) : Option String := Utf8.decode? r.body

/-- The form values as the current headers, body and query give them. -/
def freshForm (r : Request) : FormValues :=
  let isForm := match r.header "content-type" with
    | some ct => ct.startsWith "application/x-www-form-urlencoded"
    | none => false
  let fromBody := if isForm then
      match r.bodyText? with
      | some b => parseQuery b
      | none => []
    else []
  (fromBody ++ r.queryPairs).foldl (fun f (k, v) => f.push k v) []

/-- The form values: those kept since the last read, or fresh ones. -/
def form (r : Request) : FormValues := r.formCache.getD r.freshForm

/-- The request with its form values read and kept. -/
def readForm (r : Request) : Request := { r with formCache := some r.form }

/-- The values of a cookie line's pairs: each `;`-separated part, trimmed, split at its
first `=`. -/
def cookiePairs (line : String) : List (String × String) :=
  ((line.toList.splitOn ';').map String.ofList).filterMap fun part =>
    splitOnce '=' (Unicode.trim part)

/-- Removes double quotes from both ends of a text. -/
def trimQuotes (s : String) : String :=
  String.ofList ((s.toList.dropWhile (· == '"')).reverse.dropWhile (· == '"')).reverse

/-- The value of the first cookie of a name, over every readable `Cookie` field in order. -/
def cookie (r : Request) (name : String) : Option String :=
  let lines := (r.headers.getAll ⟨"cookie"⟩).filterMap HeaderValue.text?
  ((lines.flatMap cookiePairs).find? (·.1 == name)).map fun (_, v) => trimQuotes v

end Request

end Switchyard

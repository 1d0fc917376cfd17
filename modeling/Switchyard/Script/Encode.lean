import Switchyard.Error
import Switchyard.Json.Value
import Switchyard.Http.Response
import Switchyard.Route.Segment
/-!
# JSON views of results

The JSON forms in which traces and answers show errors, captured parameters and responses:

- an error is `{"error": kind, "message": its display text}`;
- captured parameters are an object from name to value;
- header fields are `[name, value]` pairs stably sorted by name, values read lossily;
- a body is `"body"` when it is UTF-8 and `"body_hex"` (lower-case hexadecimal) otherwise.
-/
namespace Switchyard

/-- An error as JSON. -/
def Error.toJson (e : Error) : Json :=
  Json.object [("error", .str e.kind), ("message", .str e.message)]

/-- Captured parameters as a JSON object. -/
def Params.toJson (p : Params) : Json := Json.object (p.entries.map fun (k, v) => (k, .str v))

/-- Lower-case hexadecimal of octets. -/
def hexText (bs : List UInt8) : String :=
  String.join (bs.map fun b => String.ofList [Json.hexDigit (b.toNat / 16), Json.hexDigit (b.toNat % 16)])

/-- Header fields as name and value pairs, stably sorted by name. -/
def HeaderMap.toJson (m : HeaderMap) : Json :=
  let pairs := m.fields.map fun (n, v) => (n.text, v.lossy)
  let sorted := pairs.mergeSort fun a b => decide (a.1 ≤ b.1)
  .arr (sorted.map fun (n, v) => .arr [.str n, .str v])

/-- A body as `body` or, when not UTF-8, `body_hex`. -/
def bodyField (bs : List UInt8) : String × Json :=
  match Utf8.decode? bs with
  | some t => ("body", .str t)
  | none => ("body_hex", .str (hexText bs))

/-- A response as JSON: status, header fields and body. -/
def Response.toJson (r : Response) : Json :=
  Json.object [("status", Json.nat r.status), ("headers", r.headers.toJson), bodyField r.body]

end Switchyard

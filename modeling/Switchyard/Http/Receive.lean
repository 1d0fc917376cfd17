import Switchyard.Http.Request
import Switchyard.Http.Uri
import Switchyard.Net.Addr
import Switchyard.Error
/-!
# Receiving a request

`Request.receive` builds a request from what arrived on a connection: the method, the parsed
target, the header fields, the body and the peer's address, refusing a body above the limit.
A `Content-Length` that reads as a count above the limit is refused before the body is looked
at; then the body's own length is checked.

The host is the first `Host` field when it is visible ASCII, else the target's authority; the
scheme is the target's.
-/
namespace Switchyard

/-- A request from its received parts, or `PayloadTooLarge`. -/
def Request.receive (method : String) (uri : Uri) (headers : HeaderMap) (body : List UInt8)
    (peer : Option SocketAddr) (limit : Nat) : Except Error Request :=
  let declared := (headers.lookup "content-length").bind fun s =>
    match readInt IntKind.u64 10 s with
    | .ok n => some n.toNat
    | .error _ => none
  match declared with
  | some n =>
    if n > limit then .error (.payloadTooLarge limit n) else accept
  | none => accept
where
  /-- The request once the declared length passed. -/
  accept : Except Error Request :=
    if body.length > limit then .error (.payloadTooLarge limit body.length)
    else
      let host := ((headers.lookup "host").orElse fun _ => uri.authority).getD ""
      .ok { method, path := uri.path, host, scheme := uri.scheme,
            remoteAddr := peer.map SocketAddr.toText, queryString := uri.query?, headers,
            body }

end Switchyard

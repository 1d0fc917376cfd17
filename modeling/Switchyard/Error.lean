/-!
# Errors

Every failure the router reports is an `Error`, one constructor per cause. Three functions
read it:

- `Error.message` is its text;
- `Error.statusCode` is the status a response gets when no error hook handles it: the chosen
  code of a status error, 413 for an oversized body, 400 for an undecodable one, else 500;
- `Error.publicMessage` is the body of that response: internal failures never show their
  text, only the status, size and decoding errors do.

`Error.ofPanic` turns what a panicking handler threw into an error: an error thrown as such is
kept, a text becomes a panic error, anything else an unknown panic.
-/
namespace Switchyard

/-- The kinds of operating-system input/output failures the router tells apart. -/
inductive IoKind where
  | notFound | permissionDenied | brokenPipe | timedOut | addrInUse | other
  deriving DecidableEq, Repr

/-- An input/output failure: its kind and its text. -/
structure IoError where
  /-- The kind. -/
  kind : IoKind
  /-- The text, which is also its message. -/
  message : String
  deriving DecidableEq, Repr

/-- A router failure. -/
inductive Error where
  /-- The server could not bind its address. -/
  | bind (address : String) (cause : IoError)
  /-- A route pattern that does not parse. -/
  | invalidPattern (pattern reason : String)
  /-- A handler asked for a dependency nobody provides; the type's name. -/
  | unresolved (typeName : String)
  /-- A handler panicked; the recovered text. -/
  | panic (message : String)
  /-- A middleware continued its pipeline twice. -/
  | nextAlreadyCalled
  /-- A handler chose an HTTP status and a body. -/
  | status (code : Nat) (message : String)
  /-- The session store failed. -/
  | session (message : String)
  /-- The template engine failed. -/
  | template (message : String)
  /-- A request payload did not decode. -/
  | decode (reason : String)
  /-- A response body did not encode; the format's name. -/
  | encode (format reason : String)
  /-- A request body above the limit. -/
  | payloadTooLarge (limit actual : Nat)
  /-- The HTTP layer failed. -/
  | http (message : String)
  /-- JSON did not read or write. -/
  | json (message : String)
  /-- An input/output failure. -/
  | io (cause : IoError)
  /-- An application failure, shown by its own text. -/
  | handler (message : String)
  deriving DecidableEq, Repr, Inhabited

namespace Error

/-- The name of the error's kind. -/
def kind : Error → String
  | .bind .. => "BindError"
  | .invalidPattern .. => "InvalidRoutePattern"
  | .unresolved .. => "Unresolved"
  | .panic .. => "Panic"
  | .nextAlreadyCalled => "NextAlreadyCalled"
  | .status .. => "Status"
  | .session .. => "Session"
  | .template .. => "Template"
  | .decode .. => "Decode"
  | .encode .. => "Encode"
  | .payloadTooLarge .. => "PayloadTooLarge"
  | .http .. => "Http"
  | .json .. => "Json"
  | .io .. => "Io"
  | .handler .. => "Handler"

/-- The text of an error. -/
def message : Error → String
  | .bind address cause => "Failed to bind server to " ++ address ++ ": " ++ cause.message
  | .invalidPattern pattern reason => "Invalid route pattern: " ++ pattern ++ ": " ++ reason
  | .unresolved typeName => "No provider registered for " ++ typeName
  | .panic m => "Handler panicked: " ++ m
  | .nextAlreadyCalled => "next() called more than once by the same middleware"
  | .status _ m => m
  | .session m => "Session error: " ++ m
  | .template m => "Template error: " ++ m
  | .decode r => "Decode error: " ++ r
  | .encode format r => format ++ " encode error: " ++ r
  | .payloadTooLarge limit actual =>
    "Payload too large: limit=" ++ toString limit ++ " bytes, received=" ++ toString actual ++
      " bytes"
  | .http m => "HTTP error: " ++ m
  | .json m => "JSON error: " ++ m
  | .io cause => "IO error: " ++ cause.message
  | .handler m => m

/-- The status of the response when no error hook handles the error. -/
def statusCode : Error → Nat
  | .status code _ => code
  | .payloadTooLarge .. => 413
  | .decode .. => 400
  | _ => 500

/-- The body of the response when no error hook handles the error. -/
def publicMessage : Error → String
  | .status _ m => m
  | e@(.payloadTooLarge ..) => e.message
  | e@(.decode ..) => e.message
  | _ => "Internal Server Error"

end Error

/-- What a panicking handler threw. -/
inductive PanicPayload where
  /-- A static text. -/
  | str (s : String)
  /-- A formatted text. -/
  | string (s : String)
  /-- An error, thrown as such. -/
  | error (e : Error)
  /-- Anything else. -/
  | other (n : Nat)
  deriving Repr

/-- The error a panic stands for. -/
def Error.ofPanic : PanicPayload → Error
  | .error e => e
  | .str s => .panic s
  | .string s => .panic s
  | .other _ => .panic "unknown panic"

end Switchyard

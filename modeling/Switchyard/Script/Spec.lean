import Switchyard.Json.Parse
import Switchyard.Http.Cookie
import Switchyard.Error
/-!
# Descriptions of errors and cookies

Scripts name errors and cookies by JSON descriptions.

- An error is `{"kind": K, ...}` with the fields its kind needs; an unknown input/output kind
  is `Other`, an `Encode` error is of `XML` unless its format is `CSV`, a `Json` error is the
  reading error of its `input`, and `FromPanic` is the error a panic with the given payload
  stands for.
- A cookie is `{"removal": name}`, or a name, a value and optional attributes; a `same_site`
  other than `Strict`, `Lax` or `None` is ignored.
-/
namespace Switchyard

namespace Spec

/-- A text field. -/
def text? (j : Json) (k : String) : Option String :=
  match j.field? k with
  | some (.str s) => some s
  | _ => none

/-- A natural-number field. -/
def nat? (j : Json) (k : String) : Option Nat :=
  match j.field? k with
  | some (.num (.pos n)) => some n
  | _ => none

/-- An integer field. -/
def int? (j : Json) (k : String) : Option Int :=
  match j.field? k with
  | some (.num (.pos n)) => some n
  | some (.num (.neg n)) => some (-(n : Int))
  | _ => none

/-- A boolean field. -/
def bool? (j : Json) (k : String) : Option Bool :=
  match j.field? k with
  | some (.bool b) => some b
  | _ => none

/-- The input/output kind a name stands for. -/
def ioKind (s : String) : IoKind :=
  match s with
  | "NotFound" => .notFound
  | "PermissionDenied" => .permissionDenied
  | "BrokenPipe" => .brokenPipe
  | "TimedOut" => .timedOut
  | "AddrInUse" => .addrInUse
  | _ => .other

/-- The full type name of a dependency type as scripts name it. -/
def typeName (t : String) : String :=
  if t = "string" then "alloc::string::String" else t

/-- The error a description stands for; `fuel` bounds the nesting of panic payloads. -/
def errorWith : Nat → Json → Option Error
  | 0, _ => none
  | fuel + 1, j =>
    let msg := (text? j "message").getD ""
    match text? j "kind" with
    | some "BindError" => some (.bind ((text? j "address").getD "") ⟨ioKind ((text? j "io_kind").getD ""), msg⟩)
    | some "InvalidRoutePattern" => some (.invalidPattern ((text? j "pattern").getD "") msg)
    | some "Unresolved" => some (.unresolved (typeName ((text? j "type").getD "")))
    | some "Panic" => some (.panic msg)
    | some "NextAlreadyCalled" => some .nextAlreadyCalled
    | some "Status" => some (.status ((nat? j "code").getD 500) msg)
    | some "Session" => some (.session msg)
    | some "Template" => some (.template msg)
    | some "Decode" => some (.decode msg)
    | some "Encode" => some (.encode (if text? j "format" == some "CSV" then "CSV" else "XML") msg)
    | some "PayloadTooLarge" => some (.payloadTooLarge ((nat? j "limit").getD 0) ((nat? j "actual").getD 0))
    | some "Json" =>
      match Json.parse ((text? j "input").getD "") with
      | .error e => some (.json e.message)
      | .ok _ => none
    | some "Io" => some (.io ⟨ioKind ((text? j "io_kind").getD ""), msg⟩)
    | some "Handler" => some (.handler msg)
    | some "FromPanic" =>
      match j.field? "payload" with
      | some p =>
        match text? p "str", text? p "string", p.field? "error", nat? p "opaque" with
        | some s, _, _, _ => some (Error.ofPanic (.str s))
        | _, some s, _, _ => some (Error.ofPanic (.string s))
        | _, _, some e, _ => (errorWith fuel e).map fun e => Error.ofPanic (.error e)
        | _, _, _, some n => some (Error.ofPanic (.other n))
        | _, _, _, _ => none
      | none => none
    | _ => none

/-- The error a description stands for. -/
def error? (j : Json) : Option Error := errorWith (j.compact.length + 1) j

/-- The cookie a description stands for. -/
def cookie? (j : Json) : Option Cookie :=
  match text? j "removal" with
  | some name => some (Cookie.removal name)
  | none =>
    match text? j "name", text? j "value" with
    | some name, some value =>
      some { name, value, path := text? j "path", domain := text? j "domain",
             maxAge := int? j "max_age", httpOnly := (bool? j "http_only").getD false,
             secure := (bool? j "secure").getD false,
             sameSite := match text? j "same_site" with
               | some "Strict" => some .strict
               | some "Lax" => some .lax
               | some "None" => some .none
               | _ => none }
    | _, _ => none

end Spec

end Switchyard

import Switchyard.Route.Segment
import Switchyard.Session
import Switchyard.Handler
import Switchyard.Http.Request
/-!
# Request contexts

A context carries one request's state from the route table through the pipeline into the
handler. It does not hold the request, the writer or the injector scope itself: it holds their
handles in the request's world, so that a handler that kept an earlier handle goes on seeing
what that handle names.

- `next` says where the pipeline stands relative to the running stage: nothing left to run
  (`idle`), the stages `next` will run (`pending`), or `next` already spent by the running
  stage (`consumed`).
- `values` is the request-local bag: each key holds one value, of one of three types, and a key
  set again keeps its place.
-/
namespace Switchyard

/-- A value of the request-local bag, tagged with its type. -/
inductive BagValue where
  /-- A text. -/
  | text (s : String)
  /-- An unsigned 64-bit number. -/
  | count (n : Nat)
  /-- A JSON value. -/
  | json (j : Json)
  deriving Inhabited

/-- Where the pipeline stands relative to the running stage. -/
inductive NextState where
  /-- No stage is left to run. -/
  | idle
  /-- `next` runs these stages, the first of which is never missing. -/
  | pending (rest : List Handler)
  /-- The running stage already called `next`. -/
  | consumed
  deriving Inhabited

/-- One request's state. -/
structure Context where
  /-- The handle of the response sink. -/
  writer : Nat := 0
  /-- The handle of the request. -/
  request : Nat := 0
  /-- The captured path parameters. -/
  params : Params := {}
  /-- Where the pipeline stands. -/
  next : NextState := .idle
  /-- The handle of the request's injector scope. -/
  scope : Nat := 0
  /-- Whether the request was abandoned. -/
  cancelled : Bool := false
  /-- The request's session. -/
  session : Session := Session.fresh .memory
  /-- The request-local values, in order of first setting. -/
  values : List (String × BagValue) := []
  /-- Whether a template engine is installed. -/
  templates : Bool := false
  deriving Inhabited

namespace Context

/-- Stores a request-local value under a key. -/
def set (c : Context) (key : String) (v : BagValue) : Context :=
  if c.values.any (·.1 == key) then
    { c with values := c.values.map fun (k, w) => if k == key then (k, v) else (k, w) }
  else { c with values := c.values ++ [(key, v)] }

/-- The request-local value under a key. -/
def get? (c : Context) (key : String) : Option BagValue := c.values.lookup key

/-- The debugging view of path parameters. -/
def paramsText (p : Params) : String :=
  "Vars(" ++ DebugView.openBrace ++
    ", ".intercalate (p.entries.map fun (k, v) => DebugView.quote k ++ ": " ++ DebugView.quote v) ++
    DebugView.closeBrace ++ ")"

/-- The debugging view of a context over its request. -/
def debugText (c : Context) (r : Request) : String :=
  DebugView.record "Context" [("method", r.method), ("path", DebugView.quote r.path),
    ("params", paramsText c.params),
    ("values", DebugView.list (c.values.map fun (k, _) => DebugView.quote k))] true

end Context

end Switchyard

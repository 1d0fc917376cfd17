import Switchyard.Route.Segment
import Switchyard.Handler
import Switchyard.Http.Header
/-!
# Routes and the route table

A route holds what selects it (a method, a pattern or a path prefix, a host, required header
values) and what runs for it (its pipeline and its hooks). The table keeps routes ordered by
`compareSegments`, a new route after those that do not sort after it.

`RouteTable.select` picks at most one route for a request in two passes, each taking the first
hit in table order among the routes whose host, method and required headers fit:

1. a route without a prefix whose segments match the path one for one;
2. a route whose prefix starts the path; its captures are those of a full match, or none.
-/
namespace Switchyard

/-- Hooks around a pipeline; each is a script. -/
structure Hooks where
  /-- Runs before the pipeline. -/
  beforeEach : Option (List Action) := none
  /-- Runs once after the pipeline, whatever happened. -/
  afterEach : Option (List Action) := none
  /-- Receives the pipeline's error. -/
  onError : Option (List Action) := none
  /-- Answers requests no route selects. -/
  notFound : Option (List Action) := none

namespace Hooks

/-- Each unset hook taken from a fallback. -/
def or (h fallback : Hooks) : Hooks :=
  { beforeEach := h.beforeEach.or fallback.beforeEach, afterEach := h.afterEach.or fallback.afterEach,
    onError := h.onError.or fallback.onError, notFound := h.notFound.or fallback.notFound }

/-- Whether no hook is set. -/
def isEmpty (h : Hooks) : Bool :=
  h.beforeEach.isNone && h.afterEach.isNone && h.onError.isNone && h.notFound.isNone

/-- The debugging view of hooks: which are set. -/
def debugText (h : Hooks) : String :=
  DebugView.record "Hooks" [("before_each", DebugView.bool h.beforeEach.isSome),
    ("after_each", DebugView.bool h.afterEach.isSome), ("on_error", DebugView.bool h.onError.isSome),
    ("not_found", DebugView.bool h.notFound.isSome)]

end Hooks

/-- A registered route. -/
structure Route where
  /-- The required method; `none` admits any. -/
  method : Option String := none
  /-- The pattern as declared. -/
  pattern : String
  /-- The parsed pattern. -/
  segments : List Segment
  /-- The path prefix of a prefix route. -/
  pathPrefix : Option String := none
  /-- The required host. -/
  domain : Option String := none
  /-- Required header values. -/
  headers : List (String × String) := []
  /-- The middlewares and the terminal handler. -/
  pipeline : List Handler
  /-- The route's hooks. -/
  hooks : Hooks := {}
  /-- The path of the group that declared it. -/
  scope : String := ""

namespace Route

/-- Whether the route matches by prefix. -/
def isPrefix (r : Route) : Bool := r.pathPrefix.isSome

/-- The debugging view of a route. -/
def debugText (r : Route) : String :=
  DebugView.record "Route" [("method", DebugView.option DebugView.quote r.method),
    ("pattern", DebugView.quote r.pattern), ("prefix", DebugView.option DebugView.quote r.pathPrefix),
    ("domain", DebugView.option DebugView.quote r.domain),
    ("headers", DebugView.list (r.headers.map fun (n, v) => DebugView.pair (DebugView.quote n) (DebugView.quote v))),
    ("stages", toString r.pipeline.length), ("scope", DebugView.quote r.scope)] true

/-- The debugging view of a route's pipeline: the shapes of its stages. -/
def pipelineText (r : Route) : String := DebugView.list (r.pipeline.map fun h => h.shape.name)

/-- Whether every required header has exactly the required value. -/
def headersFit (r : Route) (headers : HeaderMap) : Bool :=
  r.headers.all fun (n, v) => headers.lookup n == some v

/-- Whether the route admits a request's host, method and headers. -/
def admits (r : Route) (method host : String) (headers : HeaderMap) : Bool :=
  (r.domain.all (· == host)) && (r.method.all (· == method)) && r.headersFit headers

end Route

/-- Routes in table order. -/
structure RouteTable where
  /-- The routes. -/
  routes : List Route := []

namespace RouteTable

/-- Adds a route after every route that does not sort after it. -/
def insert (t : RouteTable) (r : Route) : RouteTable :=
  ⟨(t.routes ++ [r]).mergeSort fun a b => compareSegments a.segments b.segments != .gt⟩

/-- The route for a request, with its captures. -/
def select (t : RouteTable) (method host path : String) (headers : HeaderMap) :
    Option (Route × Params) :=
  let segs := splitPath path
  let exact := t.routes.findSome? fun r =>
    if r.isPrefix || !r.admits method host headers then none
    else (matchSegments r.segments segs).map fun ps => (r, ps)
  match exact with
  | some hit => some hit
  | none =>
    t.routes.findSome? fun r =>
      match r.pathPrefix with
      | some p =>
        if path.startsWith p && r.admits method host headers then
          some (r, (matchSegments r.segments segs).getD {})
        else none
      | none => none

/-- The number of routes. -/
def size (t : RouteTable) : Nat := t.routes.length

end RouteTable

end Switchyard

import Switchyard.Route.Table
import Switchyard.Session
import Switchyard.Time.Duration
import Switchyard.Http.Files
/-!
# Applications and route builders

An `App` holds the route table, the middlewares every route starts with, the application's
hooks, the session store each request gets, whether templates render, and the not-found hooks
registered for path scopes.

A `RouteBuilder` is a plain value collecting a route's settings; every setter returns a new
builder, and a group is a builder that starts from a copy of its parent's settings, so nothing
a child does reaches its parent.

- `path` and `pathPrefix` are relative to the builder's base; a prefix also sets the path.
- A builder registers at its *scope path*: the prefix when set, else the path.
- `group p` roots a child at the scope path followed by `p`, with no prefix;
  `pathPrefixGroup p` does the same and makes the child's base its prefix.
- Registering parses the scope path with the builder's constraints, and builds the pipeline
  from the application's middlewares as they are then, a response cache on a fresh slot when
  the builder caches, the builder's middlewares, and the terminal handler.
- `notFound` registers its hook for the builder's scope path at once, replacing a hook of the
  same scope.
-/
namespace Switchyard

/-- An application. -/
structure App where
  /-- The route table. -/
  table : RouteTable := {}
  /-- The middlewares every route registered later starts with. -/
  middlewares : List Handler := []
  /-- The application's hooks. -/
  hooks : Hooks := {}
  /-- Whether a template engine is installed. -/
  templates : Bool := false
  /-- The session store each request gets. -/
  sessions : SessionStore := .memory
  /-- Not-found hooks by path scope, in order of registration. -/
  scopedNotFound : List (String × List Action) := []
  /-- The number of cache slots handed out. -/
  cacheSlots : Nat := 0
  deriving Inhabited

namespace App

/-- Appends a middleware for routes registered later. -/
def useMiddleware (app : App) (h : Handler) : App := { app with middlewares := app.middlewares ++ [h] }

/-- Sets the application's own not-found hook. -/
def notFound (app : App) (hook : List Action) : App :=
  { app with hooks := { app.hooks with notFound := some hook } }

/-- Registers a not-found hook for a path scope, replacing one of the same scope. -/
def registerNotFound (app : App) (scope : String) (hook : List Action) : App :=
  { app with scopedNotFound := (app.scopedNotFound.filter (·.1 != scope)) ++ [(scope, hook)] }

/-- The debugging view of an application. -/
def debugText (app : App) : String :=
  DebugView.record "App" [("routes", toString app.table.size),
    ("middlewares", toString app.middlewares.length), ("hooks", app.hooks.debugText)] true

end App

/-- How a builder caches: the time to live in milliseconds and whether it runs on the wall
clock rather than the manual one. -/
structure CachePolicy where
  /-- The time to live in milliseconds. -/
  ttl : Nat
  /-- Whether the wall clock measures it. -/
  wall : Bool
  deriving Inhabited

/-- A builder of routes. -/
structure RouteBuilder where
  /-- The path its group is rooted at. -/
  base : String := ""
  /-- The required method, upper case. -/
  method : Option String := none
  /-- The exact path. -/
  path : String := ""
  /-- The path prefix of prefix routes. -/
  pathPrefix : Option String := none
  /-- The required host. -/
  domain : Option String := none
  /-- Required header values. -/
  headers : List (String × String) := []
  /-- Route-local middlewares. -/
  middlewares : List Handler := []
  /-- Constraints for placeholders without one of their own. -/
  regexVars : List (String × String) := []
  /-- The cache policy. -/
  cache : Option CachePolicy := none
  /-- The hooks of routes built from here. -/
  hooks : Hooks := {}
  deriving Inhabited

namespace RouteBuilder

/-- Sets the exact path, relative to the base. -/
def setPath (b : RouteBuilder) (p : String) : RouteBuilder :=
  { b with path := b.base ++ p, pathPrefix := none }

/-- Sets a path prefix, relative to the base; it is also the path. -/
def setPrefix (b : RouteBuilder) (p : String) : RouteBuilder :=
  { b with path := b.base ++ p, pathPrefix := some (b.base ++ p) }

/-- The ASCII upper-case form of a text. -/
def upper (s : String) : String := String.ofList (s.toList.map Char.toUpper)

/-- Sets the required method, in upper case. -/
def setMethod (b : RouteBuilder) (m : String) : RouteBuilder := { b with method := some (upper m) }

/-- Sets the required host. -/
def setDomain (b : RouteBuilder) (d : String) : RouteBuilder := { b with domain := some d }

/-- The ASCII lower-case form of a text. -/
def lower (s : String) : String := String.ofList (s.toList.map Char.toLower)

/-- Requires a header value, replacing a requirement of the same name in any case. -/
def header (b : RouteBuilder) (n v : String) : RouteBuilder :=
  { b with headers := (b.headers.filter fun (m, _) => lower m != lower n) ++ [(n, v)] }

/-- Requires several header values in order. -/
def withHeaders (b : RouteBuilder) (pairs : List (String × String)) : RouteBuilder :=
  pairs.foldl (fun b (n, v) => b.header n v) b

/-- Sets the constraint of a placeholder. -/
def regexVar (b : RouteBuilder) (n re : String) : RouteBuilder :=
  { b with regexVars := (b.regexVars.filter (·.1 != n)) ++ [(n, re)] }

/-- Appends a route-local middleware. -/
def useMiddleware (b : RouteBuilder) (h : Handler) : RouteBuilder :=
  { b with middlewares := b.middlewares ++ [h] }

/-- Caches responses for a time to live, on the manual or the wall clock. -/
def setCache (b : RouteBuilder) (ttl : Nat) (wall : Bool) : RouteBuilder :=
  { b with cache := some ⟨ttl, wall⟩ }

/-- Sets the error hook. -/
def onError (b : RouteBuilder) (hook : List Action) : RouteBuilder :=
  { b with hooks := { b.hooks with onError := some hook } }

/-- Sets the before hook. -/
def beforeEach (b : RouteBuilder) (hook : List Action) : RouteBuilder :=
  { b with hooks := { b.hooks with beforeEach := some hook } }

/-- Sets the after hook. -/
def afterEach (b : RouteBuilder) (hook : List Action) : RouteBuilder :=
  { b with hooks := { b.hooks with afterEach := some hook } }

/-- The path the builder registers at. -/
def scopePath (b : RouteBuilder) : String := b.pathPrefix.getD b.path

/-- Sets the not-found hook, registering it for the scope path at once. -/
def notFound (app : App) (b : RouteBuilder) (hook : List Action) : App × RouteBuilder :=
  (app.registerNotFound b.scopePath hook, { b with hooks := { b.hooks with notFound := some hook } })

/-- A child builder rooted at the scope path followed by a path. -/
def group (b : RouteBuilder) (p : String) : RouteBuilder :=
  let base := b.scopePath ++ p
  { b with base, path := base, pathPrefix := none }

/-- A child builder whose routes match by prefix under its base. -/
def pathPrefixGroup (b : RouteBuilder) (p : String) : RouteBuilder :=
  let child := b.group p
  { child with pathPrefix := some child.base }

/-- Registers a route with a terminal handler; the builder comes back unchanged. -/
def register (app : App) (b : RouteBuilder) (terminal : Handler) :
    Except Error (App × RouteBuilder) := do
  let pattern := b.scopePath
  let segments ← parsePattern pattern b.regexVars
  let (cacheStages, slots) := match b.cache with
    | some c => ([Handler.cache app.cacheSlots c.ttl c.wall], app.cacheSlots + 1)
    | none => ([], app.cacheSlots)
  let route : Route :=
    { method := b.method, pattern, segments, pathPrefix := b.pathPrefix, domain := b.domain,
      headers := b.headers, pipeline := app.middlewares ++ cacheStages ++ b.middlewares ++ [terminal],
      hooks := b.hooks, scope := b.base }
  pure ({ app with table := app.table.insert route, cacheSlots := slots }, b)

/-- Registers a route for a method and a path relative to the base. -/
def verb (app : App) (b : RouteBuilder) (m p : String) (terminal : Handler) :
    Except Error (App × RouteBuilder) :=
  register app ((b.setPath p).setMethod m) terminal

/-- Registers a static file handler for a directory of the tree on the path or the prefix. -/
def staticDir (app : App) (b : RouteBuilder) (root : List String) :
    Except Error (App × RouteBuilder) :=
  if b.path.isEmpty && b.pathPrefix.isNone then
    .error (.invalidPattern "" "static_dir needs a path or a path prefix")
  else register app b (.files (b.pathPrefix.getD "") root)

/-- The debugging view of a builder. -/
def debugText (b : RouteBuilder) : String :=
  DebugView.record "RouteBuilder" [("base", DebugView.quote b.base),
    ("method", DebugView.option DebugView.quote b.method), ("path", DebugView.quote b.path),
    ("prefix", DebugView.option DebugView.quote b.pathPrefix),
    ("domain", DebugView.option DebugView.quote b.domain),
    ("headers", DebugView.list (b.headers.map fun (n, v) => DebugView.pair (DebugView.quote n) (DebugView.quote v))),
    ("middlewares", toString b.middlewares.length),
    ("cache", DebugView.option (fun c : CachePolicy => (Duration.ofMillis c.ttl).debugText) b.cache),
    ("hooks", b.hooks.debugText)] true

end RouteBuilder

end Switchyard

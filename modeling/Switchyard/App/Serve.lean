import Switchyard.App.Builder
import Switchyard.Dispatch.Pipeline
/-!
# Serving requests

`App.serve` runs one request end to end in the world:

1. a fresh buffer becomes the writer, the request gets a handle, the context gets a child scope
   of the root injector, a fresh session of the application's store, and the application's
   template setting;
2. the session starts; if it cannot, the error answers the request;
3. the route table selects a route, which runs with its hooks, or the request is not found;
4. the answer is what the first buffer holds, `200` with nothing when it holds nothing.

A selected route runs its before hook and its pipeline; a panic in either becomes an error.
An error goes to the error hook, or answers the request with its status and public message when
no status is committed yet. The after hook runs last. Panics in the error, after and not-found
hooks are swallowed.

A request nobody routes goes to the not-found hook of the longest registered scope that holds
its path (a scope holds a path that it starts, when the rest is empty or starts with a slash,
or when the scope ends with a slash), else to the application's not-found hook, else it is
answered `404 page not found`.
-/
namespace Switchyard

/-- The frame hooks run in: the context, and the error they receive. -/
def hookFrame (e : Option Error) : Frame := { context := true, hookError := e }

/-- Answers with an error's status and public message, unless a status is committed. -/
def writeError (e : Error) : Run Unit := do
  let w := (← Run.context).writer
  if !(← Run.sinks).committed w then
    Run.modifySinks fun s => s.error w e.statusCode e.publicMessage

/-- The part of a selected route run under the panic guard: the before hook, then the
pipeline. -/
def runGuarded (hooks : Hooks) (fuel : Nat) (pipeline : List Handler) : Run Unit := do
  if let some before := hooks.beforeEach then runHook fuel (hookFrame none) before
  invoke fuel pipeline

/-- The error a route reports for how its guarded part ended: the error it returned, or the
error of its panic. -/
def failureOf : Except Halt Unit → Option Error
  | .error (.fail e) => some e
  | .error (.panic p) => some (Error.ofPanic p)
  | _ => none

/-- Reports a route's error: to the error hook, with its panic swallowed, or as the answer. -/
def reportError (hooks : Hooks) (fuel : Nat) (e : Error) : Run Unit :=
  match hooks.onError with
  | some hook => guarded (runHook fuel (hookFrame (some e)) hook)
  | none => writeError e

/-- Runs a selected route with its captures. -/
def runRoute (app : App) (route : Route) (params : Params) : Run Unit := do
  Run.modifyContext fun c => { c with params }
  let hooks := route.hooks.or app.hooks
  let fuel := pipelineFuel route.pipeline
  let outcome ← Run.attempt (runGuarded hooks fuel route.pipeline)
  if let some e := failureOf outcome then reportError hooks fuel e
  if let some after := hooks.afterEach then guarded (runHook fuel (hookFrame none) after)

/-- Whether a not-found scope holds a path. -/
def inScope (path scope : String) : Bool :=
  path.startsWith scope &&
    (let rest := String.ofList (path.toList.drop scope.length)
     rest.isEmpty || rest.startsWith "/" || scope.endsWith "/")

/-- The longest of the scopes holding a path, the last of equal ones. -/
def longestScope (path : String) (hooks : List (String × List Action)) : Option (List Action) :=
  (hooks.foldl (fun best (scope, hook) =>
    if inScope path scope then
      match best with
      | some (s, _) => if scope.length ≥ s.length then some (scope, hook) else best
      | none => some (scope, hook)
    else best) none).map (·.2)

/-- Answers a request no route selects. -/
def runNotFound (app : App) : Run Unit := do
  let c ← Run.context
  let path := (← Run.request c.request).path
  match (longestScope path app.scopedNotFound).or app.hooks.notFound with
  | some hook => guarded (runHook (pipelineFuel []) (hookFrame none) hook)
  | none => Run.modifySinks fun s => s.error c.writer 404 "404 page not found"

/-- Runs one request, already cancelled or not, and returns the answer. -/
def App.serve (app : App) (request : Request) (cancelled : Bool) : Run Response := do
  let (sinks, writer) := (← Run.sinks).fresh
  Run.modifySinks fun _ => sinks
  let id ← Run.addRequest request
  let w ← get
  let (injectors, scope) := w.injectors.add (some 0)
  set { w with injectors }
  let session := Session.fresh app.sessions
  set { (← get) with ctx := { writer, request := id, scope, cancelled, session, templates := app.templates } }
  match session.start with
  | .error e => writeError e
  | .ok s =>
    Run.modifyContext fun c => { c with session := s }
    match app.table.select request.method request.host request.path request.headers with
    | some (route, params) => runRoute app route params
    | none => runNotFound app
  let (r, sinks) := (← Run.sinks).take writer
  Run.modifySinks fun _ => sinks
  pure (r.getD {})

/-- Runs one request in a world. `serve` turns every failure and panic into an answer, so the
empty answer for an escape is never given. -/
def App.respond (app : App) (request : Request) (cancelled : Bool) (w : World) : Response × World :=
  match (app.serve request cancelled).run w with
  | (.ok r, w) => (r, w)
  | (.error _, w) => ({}, w)

end Switchyard

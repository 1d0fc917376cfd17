import Switchyard.Context
import Switchyard.Http.Writer
import Switchyard.Http.Files
import Switchyard.Injector
import Switchyard.Script.Encode
import Switchyard.Time.Duration
/-!
# The world a request runs in

Everything a running pipeline reads and changes lives in one `World`: the response sinks, the
requests by handle, the injector scopes, the context, the trace, the counters, the two clocks
with the last instant they can name, the cache slots and the rate-limit buckets.

A pipeline runs in `Run`, a state monad over the world with early exits: a failure (an error a
stage returns), a panic, or `stop` (a script ending early). The world keeps every change made
before an exit, as memory does when a stage returns early or unwinds.

Requests are shared values that are copied on change: `requestMut` puts a changed copy under a
new handle, so a handler that kept the old handle goes on seeing the old request. Reading a
request's form keeps the form with that request, under its own handle.
-/
namespace Switchyard

/-- A memoized response of a cache slot. -/
structure CacheEntry where
  /-- The status. -/
  status : Nat
  /-- The header fields set behind the cache. -/
  headers : HeaderMap
  /-- The body. -/
  body : List UInt8
  /-- When it expires, in milliseconds on the slot's clock. -/
  expiresAt : Nat
  deriving Inhabited

/-- A token bucket of a rate limiter. -/
structure Bucket where
  /-- The tokens left. -/
  tokens : Nat
  /-- When it was last refilled, in milliseconds of real time. -/
  lastRefill : Nat
  deriving Inhabited

/-- The state requests run in. -/
structure World where
  /-- The response sinks. -/
  sinks : Sinks := {}
  /-- The requests by handle. -/
  requests : Array Request := #[]
  /-- The injector scopes; the application's root scope is handle `0`. -/
  injectors : Injectors := {}
  /-- The current context. -/
  ctx : Context := {}
  /-- The trace entries. -/
  trace : Array Json := #[]
  /-- The named counters. -/
  counters : List (String × Nat) := []
  /-- The manual clock, in milliseconds. -/
  clock : Nat := 0
  /-- Real time passed, in milliseconds. -/
  elapsed : Nat := 0
  /-- The last instant the clocks can name, in milliseconds after their start: where the
  monotonic clock stood at the start decides it, so it is part of the world. -/
  lastInstant : Nat := Instant.maxMillis
  /-- The cache slots. -/
  caches : Array (Option CacheEntry) := #[]
  /-- The buckets of each rate limiter, by client key. -/
  limiters : Array (List (String × Bucket)) := #[]
  /-- The files static handlers serve. -/
  files : FileTree := .dir []
  deriving Inhabited

/-- Why a running script or stage stopped early. -/
inductive Halt where
  /-- It returned an error. -/
  | fail (e : Error)
  /-- It panicked. -/
  | panic (p : PanicPayload)
  /-- A script ended early without error. -/
  | stop
  deriving Inhabited

/-- A computation over the world that may stop early. -/
abbrev Run := ExceptT Halt (StateM World)

namespace Run

/-- Fails with an error. -/
def fail (e : Error) : Run α := throw (.fail e)

/-- Lifts a result, failing on its error. -/
def ofExcept : Except Error α → Run α
  | .ok a => pure a
  | .error e => fail e

/-- Runs a computation and returns how it ended; the world keeps its changes. -/
def attempt (x : Run α) : Run (Except Halt α) :=
  tryCatch (do let a ← x; pure (.ok a)) (fun h => pure (.error h))

/-- Ends as a recorded ending did. -/
def resume : Except Halt α → Run α
  | .ok a => pure a
  | .error h => throw h

/-- The failure nesting past the fuel gives. -/
def tooDeep : Halt := .fail (.handler "pipeline nested too deeply")

/-- Appends a trace entry. -/
def note (j : Json) : Run Unit := modify fun w => { w with trace := w.trace.push j }

/-- The current context. -/
def context : Run Context := do pure (← get).ctx

/-- Changes the current context. -/
def modifyContext (f : Context → Context) : Run Unit := modify fun w => { w with ctx := f w.ctx }

/-- Changes the sinks. -/
def modifySinks (f : Sinks → Sinks) : Run Unit := modify fun w => { w with sinks := f w.sinks }

/-- Reads the sinks. -/
def sinks : Run Sinks := do pure (← get).sinks

/-- The request under a handle. -/
def request (id : Nat) : Run Request := do pure ((← get).requests.getD id default)

/-- Adds a request under a new handle. -/
def addRequest (r : Request) : Run Nat := do
  let w ← get
  set { w with requests := w.requests.push r }
  pure w.requests.size

/-- The request under a handle with its form read and kept there. -/
def readForm (id : Nat) : Run Request := do
  let r := (← request id).readForm
  modify fun w => { w with requests := w.requests.set! id r }
  pure r

/-- Changes the context's request through a copy under a new handle. -/
def requestMut (f : Request → Request) : Run Unit := do
  let c ← context
  let r ← request c.request
  let id ← addRequest (f r)
  modifyContext fun c => { c with request := id }

/-- The panic of an instant plus a duration past the last instant. -/
def instantOverflow : Halt := .panic (.string Instant.overflowMessage)

/-- An instant plus a duration, both in milliseconds; past the last instant the addition
panics. -/
def addDuration (t d : Nat) : Run Nat := do
  if t + d ≤ (← get).lastInstant then pure (t + d) else throw instantOverflow

/-- A counter's value. -/
def counter (name : String) : Run Nat := do pure (((← get).counters.lookup name).getD 0)

/-- Increments a counter and returns its new value. -/
def bump (name : String) : Run Nat := do
  let n := (← counter name) + 1
  modify fun w => { w with counters := (name, n) :: w.counters.filter (·.1 != name) }
  pure n

/-- Resolves a dependency in an injector scope, tracing each provider run. -/
def resolveIn (scope : Nat) (t : DepType) : Run Json := do
  let w ← get
  let (r, injectors, notes) := w.injectors.resolve scope t
  set { w with injectors, trace := w.trace ++ (notes.map Json.str).toArray }
  ofExcept r

end Run

end Switchyard

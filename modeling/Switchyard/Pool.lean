import Switchyard.Dispatch.World
/-!
# Context pools

A pool keeps released contexts for reuse, at most `capacity` of them. A released context is
reset before anyone can take it again: a fresh writer, the default request, no parameters, no
pending stage, a fresh injector scope without a parent, not cancelled, a fresh memory session,
no values and no template engine. Taking a context hands out the last one released, or a fresh
one when none is kept.
-/
namespace Switchyard

/-- The number of idle contexts a pool keeps unless told otherwise. -/
def defaultPoolCapacity : Nat := 256

/-- A bounded pool of idle contexts. -/
structure ContextPool where
  /-- The most idle contexts kept. -/
  capacity : Nat := defaultPoolCapacity
  /-- The idle contexts, the last released first. -/
  idle : List Context := []
  deriving Inhabited

/-- A writer over an empty buffer, the default request and a root scope, all new: the handles
a context starts with. -/
def Run.freshHandles : Run (Nat × Nat × Nat) := do
  let (sinks, writer) := (← Run.sinks).fresh
  Run.modifySinks fun _ => sinks
  let request ← Run.addRequest Request.default
  let w ← get
  let (injectors, scope) := w.injectors.add none
  set { w with injectors }
  pure (writer, request, scope)

/-- Drops everything a context holds of its last request: it gets new handles, and loses its
parameters, pending stages, cancellation, session, values and template engine. -/
def Context.reset (c : Context) : Run Context := do
  let (writer, request, scope) ← Run.freshHandles
  pure { c with
    writer := writer, request := request, params := {}, next := .idle, scope := scope,
    cancelled := false, session := Session.fresh .memory, values := [], templates := false }

namespace ContextPool

/-- A fresh context in the world: new handles and every other field at its default. -/
def freshContext : Run Context := do
  let (writer, request, scope) ← Run.freshHandles
  pure { writer, request, scope }

/-- Takes a context: the last released one, or a fresh one. -/
def acquire (p : ContextPool) : Run (Context × ContextPool) := do
  match p.idle with
  | c :: rest => pure (c, { p with idle := rest })
  | [] => pure (← freshContext, p)

/-- Resets a context and keeps it when fewer than `capacity` are idle. -/
def release (p : ContextPool) (c : Context) : Run ContextPool := do
  let c ← c.reset
  if p.idle.length < p.capacity then pure { p with idle := c :: p.idle } else pure p

end ContextPool

end Switchyard

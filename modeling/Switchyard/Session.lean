import Switchyard.Json.Value
import Switchyard.Error
/-!
# Sessions

A session lives for one request. It must be started before it can change: `set`, `delete`,
`flash`, `flashes` and `refresh` fail with `session not started` until then, while `get`
always answers. Flash messages queue up until `flashes` takes them all.

Besides the store in memory, a session can come from a store that fails to start, or from one
whose `refresh` always fails.
-/
namespace Switchyard

/-- The kinds of session stores. -/
inductive SessionStore where
  /-- A store in memory. -/
  | memory
  /-- A store whose start fails. -/
  | failing
  /-- A store in memory whose refresh fails. -/
  | noRefresh
  deriving DecidableEq, Repr

/-- A session. -/
structure Session where
  /-- Its store. -/
  store : SessionStore := .memory
  /-- Whether it was started. -/
  started : Bool := false
  /-- The stored values, each key once, in order of first storing. -/
  values : List (String × Json) := []
  /-- The queued flash messages. -/
  flashes : List String := []
  /-- How many refreshes succeeded. -/
  refreshed : Nat := 0
  deriving Inhabited

namespace Session

/-- A fresh session of a store. -/
def fresh (store : SessionStore) : Session := { store }

/-- Starts the session; a failing store refuses. -/
def start (s : Session) : Except Error Session :=
  match s.store with
  | .failing => .error (.session "store offline")
  | _ => .ok { s with started := true }

/-- The value under a key. -/
def get (s : Session) (k : String) : Option Json := s.values.lookup k

/-- Fails unless the session was started. -/
def ensureStarted (s : Session) : Except Error Unit :=
  if s.started then .ok () else .error (.session "session not started")

/-- Stores a value. -/
def set (s : Session) (k : String) (v : Json) : Except Error Session := do
  s.ensureStarted
  let values := if s.values.any (·.1 == k) then s.values.map fun (k', w) => if k' == k then (k', v) else (k', w)
    else s.values ++ [(k, v)]
  pure { s with values }

/-- Removes a value. -/
def delete (s : Session) (k : String) : Except Error Session := do
  s.ensureStarted
  pure { s with values := s.values.filter (·.1 != k) }

/-- Queues a flash message. -/
def flash (s : Session) (m : String) : Except Error Session := do
  s.ensureStarted
  pure { s with flashes := s.flashes ++ [m] }

/-- Takes every queued flash message. -/
def takeFlashes (s : Session) : Except Error (List String × Session) := do
  s.ensureStarted
  pure (s.flashes, { s with flashes := [] })

/-- Extends the session's life. -/
def refresh (s : Session) : Except Error Session :=
  match s.store with
  | .noRefresh => .error (.session "refresh failed")
  | _ => do
    s.ensureStarted
    pure { s with refreshed := s.refreshed + 1 }

end Session

end Switchyard

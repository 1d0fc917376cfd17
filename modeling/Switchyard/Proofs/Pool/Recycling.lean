import Switchyard.Proofs.Dispatch.Exec
import Switchyard.Pool
/-!
# Recycled contexts

A context taken from a pool shows nothing of any request it served before. `Context.Pristine w c`
says what a fresh context shows in the world `w`: the default request `GET /`, no parameters, no
pending stage, a root scope with no values, no providers and no parent, no cancellation, an
uncommitted empty buffer as its writer, an unstarted memory session, no values and no template
engine.

* `Context.exec_reset`: resetting a context gives exactly what making a fresh one gives, whatever
  the context held; nothing of it survives.
* `ContextPool.Clean`: a pool keeps at most its capacity, and every context it keeps is pristine.
  A new pool is clean, and taking and releasing contexts keeps it so
  (`ContextPool.Clean.performAll`).
* `ContextPool.release_acquire_pristine`: from a clean pool, releasing any context and taking one
  gives a pristine context and leaves the pool clean.
-/
namespace Switchyard

/-- What a fresh context shows in a world: the default request, no parameters, no pending stage,
a root scope with nothing in it, no cancellation, an uncommitted empty writer, an unstarted memory
session, no values and no template engine. -/
structure Context.Pristine (w : World) (c : Context) : Prop where
  request : w.requests[c.request]? = some Request.default
  params : c.params = {}
  next : c.next = .idle
  scope : w.injectors.scopes[c.scope]? = some {}
  cancelled : c.cancelled = false
  writer : w.sinks.get? c.writer = some (.buffer {})
  session : c.session = Session.fresh .memory
  values : c.values = []
  templates : c.templates = false

/-- The world after new handles are made: an empty buffer, the default request and a root scope,
each added after the others of its kind. -/
def World.withFreshHandles (w : World) : World :=
  { w with
    sinks := ⟨w.sinks.items.push (.buffer {})⟩, requests := w.requests.push Request.default,
    injectors := ⟨w.injectors.scopes.push {}⟩ }

/-- The context made fresh in a world: its handles are the next of each kind. -/
def World.freshContext (w : World) : Context :=
  { writer := w.sinks.items.size, request := w.requests.size, scope := w.injectors.scopes.size }

theorem Run.exec_freshHandles (w : World) :
    Run.freshHandles.exec w =
      (.ok (w.sinks.items.size, w.requests.size, w.injectors.scopes.size), w.withFreshHandles) :=
  rfl

/-- Resetting a context gives what making a fresh one gives: no part of the context survives. -/
theorem Context.exec_reset (c : Context) (w : World) :
    c.reset.exec w = ContextPool.freshContext.exec w := rfl

namespace ContextPool

theorem exec_freshContext (w : World) :
    freshContext.exec w = (.ok w.freshContext, w.withFreshHandles) := by
  unfold freshContext
  rw [Run.exec_bind_of_ok (Run.exec_freshHandles w)]
  rfl

/-- A fresh context is pristine in the world it was made in. -/
theorem freshContext_pristine (w : World) : w.freshContext.Pristine w.withFreshHandles where
  request := Array.getElem?_push_size
  params := rfl
  next := rfl
  scope := Array.getElem?_push_size
  cancelled := rfl
  writer := Array.getElem?_push_size
  session := rfl
  values := rfl
  templates := rfl

end ContextPool

/-- Adding an element after the others keeps every element where it was. -/
theorem getElem?_push_of_eq_some {α : Type} {xs : Array α} {i : Nat} {a : α}
    (h : xs[i]? = some a) (x : α) : (xs.push x)[i]? = some a := by
  have hlt := (Array.getElem?_eq_some_iff.1 h).1
  rw [Array.getElem?_push, if_neg (Nat.ne_of_lt hlt)]
  exact h

/-- Making new handles leaves every context that was pristine pristine: each kind of handle only
grows. -/
theorem Context.Pristine.withFreshHandles {w : World} {c : Context} (h : c.Pristine w) :
    c.Pristine w.withFreshHandles where
  request := getElem?_push_of_eq_some h.request _
  params := h.params
  next := h.next
  scope := getElem?_push_of_eq_some h.scope _
  cancelled := h.cancelled
  writer := getElem?_push_of_eq_some h.writer _
  session := h.session
  values := h.values
  templates := h.templates

namespace ContextPool

/-- A pool keeps at most its capacity, and every context it keeps is pristine. -/
structure Clean (p : ContextPool) (w : World) : Prop where
  bounded : p.idle.length ≤ p.capacity
  pristine : ∀ c ∈ p.idle, c.Pristine w

/-- A new pool keeps nothing. -/
theorem clean_new (capacity : Nat) (w : World) : Clean { capacity } w where
  bounded := Nat.zero_le _
  pristine := nofun

variable {p : ContextPool} {w : World}

/-- Releasing a context resets it, and keeps it only while the pool has room. -/
theorem exec_release (c : Context) (w : World) :
    (p.release c).exec w =
      (.ok (if p.idle.length < p.capacity then { p with idle := w.freshContext :: p.idle } else p),
        w.withFreshHandles) := by
  unfold release
  rw [Run.exec_bind_of_ok ((Context.exec_reset c w).trans (exec_freshContext w))]
  split <;> rfl

/-- Taking a context hands out the last one released, or a fresh one. -/
theorem exec_acquire (w : World) :
    p.acquire.exec w = match p.idle with
      | c :: rest => (.ok (c, { p with idle := rest }), w)
      | [] => (.ok (w.freshContext, p), w.withFreshHandles) := by
  unfold acquire
  cases p.idle with
  | cons c rest => rfl
  | nil =>
    rw [Run.exec_bind_of_ok (exec_freshContext w)]
    rfl

/-- Releasing keeps a pool clean: the reset context is pristine, those kept stay so, and it is
kept only while there is room. -/
theorem Clean.release (hp : p.Clean w) (c : Context) :
    ∃ p', (p.release c).exec w = (.ok p', w.withFreshHandles) ∧
      p'.Clean w.withFreshHandles := by
  refine ⟨_, exec_release c w, ?_⟩
  split
  · rename_i hroom
    refine ⟨by simp; omega, ?_⟩
    intro d hd
    rcases List.mem_cons.1 hd with rfl | hd
    · exact freshContext_pristine w
    · exact (hp.pristine d hd).withFreshHandles
  · exact ⟨hp.bounded, fun d hd => (hp.pristine d hd).withFreshHandles⟩

/-- Taking from a clean pool gives a pristine context and keeps the pool clean. -/
theorem Clean.acquire (hp : p.Clean w) :
    ∃ c p' w', p.acquire.exec w = (.ok (c, p'), w') ∧ c.Pristine w' ∧ p'.Clean w' := by
  rw [exec_acquire]
  cases hidle : p.idle with
  | cons c rest =>
    -- the last context released, which the pool kept pristine
    have hbounded := hp.bounded
    rw [hidle] at hbounded
    refine ⟨c, { p with idle := rest }, w, rfl, hp.pristine c (by simp [hidle]), ?_, ?_⟩
    · simp at hbounded ⊢
      omega
    · exact fun d hd => hp.pristine d (by simp [hidle, hd])
  | nil =>
    -- nothing kept: a fresh context, and the pool stays empty
    refine ⟨_, p, _, rfl, freshContext_pristine w, hp.bounded, ?_⟩
    intro d hd
    simp [hidle] at hd

/-- A pool operation: taking a context, or releasing one in whatever state it is. -/
inductive PoolOp where
  | acquire
  | release (c : Context)

/-- Performs a pool operation; a context taken goes to its caller. -/
def perform (p : ContextPool) : PoolOp → Run ContextPool
  | .acquire => do
    let (_, p) ← p.acquire
    pure p
  | .release c => p.release c

/-- Performs pool operations in order. -/
def performAll (p : ContextPool) (ops : List PoolOp) : Run ContextPool := ops.foldlM perform p

/-- Every pool operation keeps a pool clean. -/
theorem Clean.perform (hp : p.Clean w) (op : PoolOp) :
    ∃ p' w', (p.perform op).exec w = (.ok p', w') ∧ p'.Clean w' := by
  cases op with
  | acquire =>
    obtain ⟨c, p', w', hexec, -, hclean⟩ := hp.acquire
    refine ⟨p', w', ?_, hclean⟩
    rw [ContextPool.perform, Run.exec_bind_of_ok hexec]
    rfl
  | release c =>
    obtain ⟨p', hexec, hclean⟩ := hp.release c
    exact ⟨p', _, hexec, hclean⟩

/-- Every sequence of pool operations keeps a pool clean; in particular its idle contexts never
outnumber its capacity. -/
theorem Clean.performAll (hp : p.Clean w) (ops : List PoolOp) :
    ∃ p' w', (p.performAll ops).exec w = (.ok p', w') ∧ p'.Clean w' := by
  induction ops generalizing p w with
  | nil => exact ⟨p, w, rfl, hp⟩
  | cons op ops ih =>
    obtain ⟨p₁, w₁, hexec, hclean⟩ := hp.perform op
    obtain ⟨p', w', hrest, hclean'⟩ := ih hclean
    refine ⟨p', w', ?_, hclean'⟩
    rw [ContextPool.performAll, List.foldlM_cons, Run.exec_bind_of_ok hexec]
    exact hrest

/-- From a clean pool, releasing a context in any state and then taking one gives a context that
shows nothing of any earlier request, and leaves the pool clean. -/
theorem release_acquire_pristine (p : ContextPool) (c : Context) (w : World) (hp : p.Clean w) :
    ∃ c' p' w', (p.release c >>= ContextPool.acquire).exec w = (.ok (c', p'), w') ∧
      c'.Pristine w' ∧ p'.Clean w' := by
  obtain ⟨p₁, hrelease, hclean⟩ := hp.release c
  obtain ⟨c', p', w', hacquire, hpristine, hclean'⟩ := hclean.acquire
  exact ⟨c', p', w', by rw [Run.exec_bind_of_ok hrelease]; exact hacquire, hpristine, hclean'⟩

/-- A context that served `POST /dirty?x=1` with a parameter, a value, a scope mapping, a
cancellation, a status `418`, a started session and a template engine, released into an empty
pool of four and taken again. -/
theorem release_acquire_pristine_dirty :
    ContextPool.Clean { capacity := 4 }
        { requests := #[Request.make "POST" "/dirty?x=1"],
          sinks := ⟨#[.buffer { status := some 418 }]⟩,
          injectors := ⟨#[{ values := [(.u64, Json.nat 9)] }]⟩ } ∧
      ∃ c' p' w',
        (({ capacity := 4 } : ContextPool).release
            { params := ⟨[("id", "1")]⟩, cancelled := true, values := [("user", .count 7)],
              session := { started := true }, templates := true, next := .consumed } >>=
          ContextPool.acquire).exec
            { requests := #[Request.make "POST" "/dirty?x=1"],
              sinks := ⟨#[.buffer { status := some 418 }]⟩,
              injectors := ⟨#[{ values := [(.u64, Json.nat 9)] }]⟩ } =
          (.ok (c', p'), w') ∧ c'.Pristine w' ∧ p'.Clean w' :=
  ⟨clean_new 4 _, release_acquire_pristine _ _ _ (clean_new 4 _)⟩

end ContextPool

end Switchyard

import Switchyard.Dispatch.Pipeline
/-!
# Running computations over the world

`Run.exec x w` runs `x` from the world `w` and gives how it ended with the world it left. The
lemmas here take one step of a computation at a time: a bind or a `tryCatch` whose first part
ended normally or early, and the primitive steps of the pipeline runner. Later proofs chain them
with `rw` instead of unfolding the monad.

`World.withNext` replaces the context's record of where the pipeline stands, the one part of the
world the runner writes itself.
-/

namespace Switchyard

namespace Run

/-- Runs a computation from a world: how it ended, and the world it left. -/
def exec (x : Run α) (w : World) : Except Halt α × World := x.run.run w

theorem exec_bind_of_ok {x : Run α} {w w' : World} {a : α} (h : x.exec w = (.ok a, w'))
    (f : α → Run β) : (x >>= f).exec w = (f a).exec w' := by
  simp only [exec, ExceptT.run_bind, StateT.run_bind]
  rw [show StateT.run x.run w = x.exec w from rfl, h]
  rfl

theorem exec_bind_of_error {x : Run α} {w w' : World} {e : Halt} (h : x.exec w = (.error e, w'))
    (f : α → Run β) : (x >>= f).exec w = (.error e, w') := by
  simp only [exec, ExceptT.run_bind, StateT.run_bind]
  rw [show StateT.run x.run w = x.exec w from rfl, h]
  rfl

theorem exec_tryCatch_of_ok {x : Run α} {w w' : World} {a : α} (h : x.exec w = (.ok a, w'))
    (handle : Halt → Run α) : (tryCatch x handle).exec w = (.ok a, w') := by
  show (ExceptT.tryCatch x handle).run.run w = _
  simp only [ExceptT.tryCatch, ExceptT.run_mk, StateT.run_bind]
  rw [show StateT.run x w = x.exec w from rfl, h]
  rfl

theorem exec_tryCatch_of_error {x : Run α} {w w' : World} {e : Halt}
    (h : x.exec w = (.error e, w')) (handle : Halt → Run α) :
    (tryCatch x handle).exec w = (handle e).exec w' := by
  show (ExceptT.tryCatch x handle).run.run w = _
  simp only [ExceptT.tryCatch, ExceptT.run_mk, StateT.run_bind]
  rw [show StateT.run x w = x.exec w from rfl, h]
  rfl

theorem exec_bind (x : Run α) (f : α → Run β) (w : World) :
    (x >>= f).exec w = match x.exec w with
      | (.ok a, w') => (f a).exec w'
      | (.error e, w') => (.error e, w') := by
  rcases hx : x.exec w with ⟨e | a, w'⟩
  · exact exec_bind_of_error hx f
  · exact exec_bind_of_ok hx f

theorem exec_tryCatch (x : Run α) (handle : Halt → Run α) (w : World) :
    (tryCatch x handle).exec w = match x.exec w with
      | (.ok a, w') => (.ok a, w')
      | (.error e, w') => (handle e).exec w' := by
  rcases hx : x.exec w with ⟨e | a, w'⟩
  · exact exec_tryCatch_of_error hx handle
  · exact exec_tryCatch_of_ok hx handle

@[simp] theorem exec_pure (a : α) (w : World) : (pure a : Run α).exec w = (.ok a, w) := rfl

@[simp] theorem exec_throw (h : Halt) (w : World) : (throw h : Run α).exec w = (.error h, w) :=
  rfl

@[simp] theorem exec_get (w : World) : (get : Run World).exec w = (.ok w, w) := rfl

@[simp] theorem exec_modify (f : World → World) (w : World) :
    (modify f : Run Unit).exec w = (.ok (), f w) := rfl

@[simp] theorem exec_context (w : World) : context.exec w = (.ok w.ctx, w) := rfl

@[simp] theorem exec_modifyContext (f : Context → Context) (w : World) :
    (modifyContext f).exec w = (.ok (), { w with ctx := f w.ctx }) := rfl

@[simp] theorem exec_sinks (w : World) : sinks.exec w = (.ok w.sinks, w) := rfl

@[simp] theorem exec_modifySinks (f : Sinks → Sinks) (w : World) :
    (modifySinks f).exec w = (.ok (), { w with sinks := f w.sinks }) := rfl

@[simp] theorem exec_request (id : Nat) (w : World) :
    (request id).exec w = (.ok (w.requests.getD id default), w) := rfl

@[simp] theorem exec_addRequest (r : Request) (w : World) :
    (addRequest r).exec w = (.ok w.requests.size, { w with requests := w.requests.push r }) := rfl

@[simp] theorem exec_set (w' : World) (w : World) : (set w' : Run Unit).exec w = (.ok (), w') := rfl

@[simp] theorem exec_resume (r : Except Halt α) (w : World) : (resume r).exec w = (r, w) := by
  cases r <;> rfl

@[simp] theorem exec_ofExcept (r : Except Error α) (w : World) :
    (ofExcept r).exec w = (r.mapError .fail, w) := by
  cases r <;> rfl

/-- An instant plus a duration ends normally up to the last instant and panics past it,
changing nothing. -/
theorem exec_addDuration (t d : Nat) (w : World) :
    (addDuration t d).exec w =
      (if t + d ≤ w.lastInstant then .ok (t + d) else .error instantOverflow, w) := by
  unfold addDuration
  rw [exec_bind_of_ok (exec_get w)]
  split <;> rfl

/-- `attempt` always ends normally, with the ending of what it ran. -/
theorem exec_attempt (x : Run α) (w : World) :
    (attempt x).exec w = (.ok (x.exec w).1, (x.exec w).2) := by
  rcases hx : x.exec w with ⟨_ | a, w'⟩
  · exact exec_tryCatch_of_error (exec_bind_of_error hx _) _
  · exact exec_tryCatch_of_ok (exec_bind_of_ok hx _) _

end Run

/-- The world with the context's record of where the pipeline stands replaced. -/
def World.withNext (w : World) (s : NextState) : World := { w with ctx := { w.ctx with next := s } }

namespace World

@[simp] theorem withNext_ctx_next (w : World) (s : NextState) : (w.withNext s).ctx.next = s := rfl

@[simp] theorem withNext_withNext (w : World) (s s' : NextState) :
    (w.withNext s).withNext s' = w.withNext s' := rfl

@[simp] theorem withNext_self (w : World) : w.withNext w.ctx.next = w := rfl

end World

@[simp] theorem exec_setNext (s : NextState) (w : World) :
    (setNext s).exec w = (.ok (), w.withNext s) := rfl

end Switchyard

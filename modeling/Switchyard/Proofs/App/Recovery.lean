import Switchyard.Proofs.Dispatch.Cache
import Switchyard.Proofs.Dispatch.Exec
import Switchyard.Proofs.Http.Recording
import Switchyard.App.Serve
/-!
# Hooks and recovery around a selected route

A selected route runs its effective hooks, each the route's own or else the application's, and
its pipeline under three guards: the outer one around the before hook and the pipeline, and one
each around the error hook and the after hook. `recoverRoute` states what that amounts to, given
how each hook and the pipeline run on their own:

* the before hook runs at most once, first, and when it panics no stage runs (`beforeThen`);
* a failure of that part, its error or the error of its panic (`failureOf`), goes once to the
  error hook, or else becomes the default answer (`answerError`): the error's status and public
  message with a newline, unless the writer committed a status;
* the after hook runs once, last, whatever the error hook did;
* no part's ending reaches the caller.

`runRoute_recovers` proves that a route runs so, for every behaviour of its hooks and stages,
and that serving a request never ends early.

The hooks run in the world the pipeline left. `pipeline_context_for_hooks` says what they find
there: the runner and a cache stage restore the context only when the stages below them return,
so after a panic `next` may still name stages to run and the writer may be a cache's recorder.
-/

namespace Switchyard

/-! ## Hooks end normally or by a panic -/

/-- A script never ends by `stop`: its runner takes that as an ending without error. -/
theorem runScript_ne_stop (f : Frame) (next : Run Unit) (acts : List Action) (w : World) :
    ((runScript f next acts).exec w).1 ≠ .error .stop := by
  unfold runScript
  rw [Run.exec_tryCatch]
  rcases (runActions f next acts).exec w with ⟨h | _, w'⟩
  · cases h <;> simp
  · simp

/-- A hook that ends early ends by a panic: an error it returns is traced instead. -/
theorem runHook_error_panic {fuel : Nat} {f : Frame} {acts : List Action} {w w' : World}
    {h : Halt} (hrun : (runHook fuel f acts).exec w = (.error h, w')) : ∃ p, h = .panic p := by
  have hstop := runScript_ne_stop f (callNext fuel) acts w
  unfold runHook at hrun
  rw [Run.exec_tryCatch] at hrun
  rcases hs : (runScript f (callNext fuel) acts).exec w with ⟨h' | _, w''⟩
  · rw [hs] at hstop hrun
    cases h' with
    | fail e => simp [Run.note] at hrun
    | panic p =>
      simp only [Run.exec_throw, Prod.mk.injEq, Except.error.injEq] at hrun
      exact ⟨p, hrun.1.symm⟩
    | stop => simp at hstop
  · rw [hs] at hrun
    simp at hrun

/-- A guarded hook always ends normally, in the world the hook left. -/
theorem exec_guarded_runHook (fuel : Nat) (f : Frame) (acts : List Action) (w : World) :
    (guarded (runHook fuel f acts)).exec w = (.ok (), ((runHook fuel f acts).exec w).2) := by
  unfold guarded
  rw [Run.exec_tryCatch]
  rcases hrun : (runHook fuel f acts).exec w with ⟨h | _, w'⟩
  · obtain ⟨p, rfl⟩ := runHook_error_panic hrun
    simp
  · simp

/-! ## The default answer -/

/-- The default answer to an error: its status and public message, unless the writer committed
a status. -/
def answerError (e : Error) (w : World) : World :=
  if w.sinks.committed w.ctx.writer then w
  else { w with sinks := w.sinks.error w.ctx.writer e.statusCode e.publicMessage }

theorem exec_writeError (e : Error) (w : World) :
    (writeError e).exec w = (.ok (), answerError e w) := by
  unfold writeError answerError
  simp only [Run.exec_bind, Run.exec_context, Run.exec_sinks]
  by_cases hcommitted : w.sinks.committed w.ctx.writer <;> simp [hcommitted]

/-- The default answer written into a buffer with no status. -/
theorem answerError_get?_of_buffer {e : Error} {w : World} {b : Buffer}
    (hb : w.sinks.get? w.ctx.writer = some (.buffer b)) (hs : b.status = none) :
    (answerError e w).sinks.get? w.ctx.writer = some (.buffer { b with
      status := some e.statusCode,
      headers := (b.headers.insert ⟨"content-type"⟩ ⟨Utf8.encode Response.plainText⟩).insert
        ⟨"x-content-type-options"⟩ ⟨Utf8.encode "nosniff"⟩,
      body := b.body ++ Utf8.encode (e.publicMessage ++ "\n") }) := by
  have huncommitted : w.sinks.committed w.ctx.writer = false := by
    simp [Sinks.committed, Sinks.status, hb, hs]
  simp only [answerError, huncommitted, Bool.false_eq_true, if_false]
  exact Sinks.error_get?_of_buffer hb hs _ _

/-! ## A route in phases -/

/-- The part under the outer guard, given how the before hook (when set) and the pipeline run:
the hook first, then the pipeline unless the hook panicked. -/
def beforeThen (before : Option (World → Except Halt Unit × World))
    (pipeline : World → Except Halt Unit × World) (w : World) : Except Halt Unit × World :=
  match before with
  | none => pipeline w
  | some hook =>
    match hook w with
    | (.error (.panic p), w') => (.error (.panic p), w')
    | (_, w') => pipeline w'

/-- How a selected route changes the world, given how its effective hooks and its pipeline run
on their own: the part under the outer guard, then its failure, if any, once to the error hook or
else as the default answer, then the after hook. Every hook's own ending is dropped. -/
def recoverRoute (before : Option (World → Except Halt Unit × World))
    (pipeline : World → Except Halt Unit × World)
    (onError : Option (Error → World → Except Halt Unit × World))
    (after : Option (World → Except Halt Unit × World)) (w : World) : World :=
  let guardedEnd := beforeThen before pipeline w
  let reported := match failureOf guardedEnd.1, onError with
    | none, _ => guardedEnd.2
    | some e, some hook => (hook e guardedEnd.2).2
    | some e, none => answerError e guardedEnd.2
  match after with
  | none => reported
  | some hook => (hook reported).2

theorem exec_runGuarded (hooks : Hooks) (fuel : Nat) (pipeline : List Handler) (w : World) :
    (runGuarded hooks fuel pipeline).exec w =
      beforeThen (hooks.beforeEach.map fun acts => (runHook fuel (hookFrame none) acts).exec)
        (invoke fuel pipeline).exec w := by
  unfold runGuarded
  cases hooks.beforeEach with
  | none => rfl
  | some before =>
    simp only [Run.exec_bind, Option.map_some, beforeThen]
    rcases hrun : (runHook fuel (hookFrame none) before).exec w with ⟨h | _, w'⟩
    · obtain ⟨p, rfl⟩ := runHook_error_panic hrun
      rfl
    · rfl

theorem exec_reportError (hooks : Hooks) (fuel : Nat) (e : Error) (w : World) :
    (reportError hooks fuel e).exec w = (.ok (), match hooks.onError with
      | some hook => ((runHook fuel (hookFrame (some e)) hook).exec w).2
      | none => answerError e w) := by
  unfold reportError
  cases hooks.onError with
  | none => exact exec_writeError e w
  | some hook => exact exec_guarded_runHook fuel _ hook w

/-- A selected route runs as `recoverRoute` says, with the route's hooks, else the
application's, and ends normally whatever its hooks and stages do. -/
theorem runRoute_exec (app : App) (route : Route) (params : Params) (w : World) :
    (runRoute app route params).exec w =
      (.ok (), recoverRoute
        ((route.hooks.beforeEach.or app.hooks.beforeEach).map fun acts =>
          (runHook (pipelineFuel route.pipeline) (hookFrame none) acts).exec)
        (invoke (pipelineFuel route.pipeline) route.pipeline).exec
        ((route.hooks.onError.or app.hooks.onError).map fun acts e =>
          (runHook (pipelineFuel route.pipeline) (hookFrame (some e)) acts).exec)
        ((route.hooks.afterEach.or app.hooks.afterEach).map fun acts =>
          (runHook (pipelineFuel route.pipeline) (hookFrame none) acts).exec)
        { w with ctx := { w.ctx with params } }) := by
  unfold runRoute recoverRoute
  simp only [Run.exec_bind, Run.exec_modifyContext, Run.exec_attempt, exec_runGuarded, Hooks.or]
  generalize beforeThen _ _ _ = guardedEnd
  obtain ⟨outcome, w₂⟩ := guardedEnd
  cases hfail : failureOf outcome <;>
    cases hafter : route.hooks.afterEach.or app.hooks.afterEach <;>
    cases honError : route.hooks.onError.or app.hooks.onError <;>
    simp [Run.exec_bind, exec_reportError, exec_guarded_runHook]

theorem runNotFound_exec_ok (app : App) (w : World) :
    ∃ w', (runNotFound app).exec w = (.ok (), w') := by
  unfold runNotFound
  simp only [Run.exec_bind, Run.exec_context, Run.exec_request]
  split <;> simp [exec_guarded_runHook]

theorem App.serve_exec_ok (app : App) (request : Request) (cancelled : Bool) (w : World) :
    ∃ r w', (app.serve request cancelled).exec w = (.ok r, w') := by
  unfold App.serve
  simp only [Run.exec_bind, Run.exec_sinks, Run.exec_modifySinks, Run.exec_addRequest, Run.exec_get,
    Run.exec_set]
  -- the request is answered by the session's error, a route, or the not-found rules, and then
  -- the answer is taken from the writer
  split
  · simp only [Run.exec_bind, exec_writeError, Run.exec_sinks, Run.exec_modifySinks, Run.exec_pure]
    exact ⟨_, _, rfl⟩
  · simp only [Run.exec_bind, Run.exec_modifyContext]
    split
    · simp only [Run.exec_bind, runRoute_exec, Run.exec_sinks, Run.exec_modifySinks, Run.exec_pure]
      exact ⟨_, _, rfl⟩
    · simp only [Run.exec_bind]
      obtain ⟨w', hw'⟩ := runNotFound_exec_ok app _
      rw [hw']
      simp only [Run.exec_sinks, Run.exec_modifySinks, Run.exec_pure]
      exact ⟨_, _, rfl⟩


/-- Hooks and recovery around a selected route: for every behaviour of its hooks and stages, the
route runs as `recoverRoute` says, with each hook the route's own or else the application's, and
ends normally; the default answer leaves a writer with a committed status alone and writes the
error's status and public message with a newline into a buffer with none; and serving any
request ends with an answer. -/
theorem runRoute_recovers (app : App) :
    (∀ route params w, (runRoute app route params).exec w =
      (.ok (), recoverRoute
        ((route.hooks.beforeEach.or app.hooks.beforeEach).map fun acts =>
          (runHook (pipelineFuel route.pipeline) (hookFrame none) acts).exec)
        (invoke (pipelineFuel route.pipeline) route.pipeline).exec
        ((route.hooks.onError.or app.hooks.onError).map fun acts e =>
          (runHook (pipelineFuel route.pipeline) (hookFrame (some e)) acts).exec)
        ((route.hooks.afterEach.or app.hooks.afterEach).map fun acts =>
          (runHook (pipelineFuel route.pipeline) (hookFrame none) acts).exec)
        { w with ctx := { w.ctx with params } })) ∧
    (∀ e w, w.sinks.committed w.ctx.writer → answerError e w = w) ∧
    (∀ e w b, w.sinks.get? w.ctx.writer = some (.buffer b) → b.status = none →
      (answerError e w).sinks.get? w.ctx.writer = some (.buffer { b with
        status := some e.statusCode,
        headers := (b.headers.insert ⟨"content-type"⟩ ⟨Utf8.encode Response.plainText⟩).insert
          ⟨"x-content-type-options"⟩ ⟨Utf8.encode "nosniff"⟩,
        body := b.body ++ Utf8.encode (e.publicMessage ++ "\n") })) ∧
    (∀ request cancelled w, ∃ r w', (app.serve request cancelled).exec w = (.ok r, w')) :=
  ⟨runRoute_exec app, fun _ _ hcommitted => if_pos hcommitted,
    fun _ _ _ hb hs => answerError_get?_of_buffer hb hs, App.serve_exec_ok app⟩

/-! ## What the pipeline leaves for the hooks -/

/-- One stage of the runner: while it runs `next` holds the stages after it, and when it returns,
normally or with an error, `next` is spent; a panic passes out with the world the stage left. -/
theorem exec_runStagesWith_cons (stage : Handler → Run Unit → Run Unit) (fuel : Nat)
    (h : Handler) (rest : List Handler) (w : World) :
    (runStagesWith stage (fuel + 1) (h :: rest)).exec w =
      match (stage h (callNextWith stage fuel)).exec (w.withNext (NextState.pendingOf rest)) with
      | (.error (.panic p), w') => (.error (.panic p), w')
      | (r, w') => (r, w'.withNext .consumed) := by
  rw [runStagesWith, Run.exec_bind_of_ok (exec_setNext _ _),
    Run.exec_bind_of_ok (Run.exec_attempt _ _)]
  rcases (stage h (callNextWith stage fuel)).exec (w.withNext (NextState.pendingOf rest)) with
    ⟨e | u, w'⟩
  · cases e <;> rfl
  · rfl

/-- The runner around the stages: when they return, normally or with an error, no stage is left
pending; a panic passes out with the world they left. -/
theorem exec_invokeWith (stage : Handler → Run Unit → Run Unit) (fuel : Nat)
    (stages : List Handler) (w : World) :
    (invokeWith stage fuel stages).exec w =
      match (runStagesWith stage fuel stages).exec w with
      | (.error (.panic p), w') => (.error (.panic p), w')
      | (r, w') => (r, w'.withNext .idle) := by
  rw [invokeWith, Run.exec_bind_of_ok (Run.exec_attempt _ _)]
  rcases (runStagesWith stage fuel stages).exec w with ⟨e | u, w'⟩
  · cases e <;> rfl
  · rfl

/-- What the hooks find in the context after the pipeline. When the stages return, normally or
with an error, the runner leaves none pending; a panic passes out with the world as the stage
that panicked left it, so a first stage that panics leaves the stages after it pending for a
hook's `next`. A cache stage puts the writer back when the stages behind it return, and leaves
its recorder as the writer when they panic; when they end normally it ends normally too, or
panics with an expiry past the last instant, the writer already back. -/
theorem pipeline_context_for_hooks (stage : Handler → Run Unit → Run Unit) (fuel : Nat) :
    (∀ stages w r w', (runStagesWith stage fuel stages).exec w = (r, w') →
      (∀ p, r ≠ .error (.panic p)) →
      (invokeWith stage fuel stages).exec w = (r, w'.withNext .idle)) ∧
    (∀ h rest w p w',
      (stage h (callNextWith stage fuel)).exec (w.withNext (NextState.pendingOf rest)) =
        (.error (.panic p), w') →
      (invokeWith stage (fuel + 1) (h :: rest)).exec w = (.error (.panic p), w')) ∧
    (∀ (next : Run Unit) slot ttl wall w r wₙ, w.freshEntry slot wall = none →
      next.exec w.recording = (r, wₙ) →
      (∀ h, r = .error h → ((cacheStage next slot ttl wall).exec w).1 = .error h) ∧
      (r = .ok () → ((cacheStage next slot ttl wall).exec w).1 = .ok () ∨
        ((cacheStage next slot ttl wall).exec w).1 = .error Run.instantOverflow) ∧
      ((cacheStage next slot ttl wall).exec w).2.ctx =
        match r with
        | .error (.panic _) => wₙ.ctx
        | _ => { wₙ.ctx with writer := w.ctx.writer }) := by
  refine ⟨fun stages w r w' hrun hnopanic => ?_, fun h rest w p w' hstage => ?_,
    fun next slot ttl wall w r wₙ hstale hnext => ?_⟩
  · rw [exec_invokeWith, hrun]
    rcases r with (_ | _ | _) | ⟨⟩
    · rfl
    · exact absurd rfl (hnopanic _)
    all_goals rfl
  · rw [exec_invokeWith, exec_runStagesWith_cons, hstage]
  · rw [exec_cacheStage_of_stale hstale]
    rcases r with h | ⟨⟩
    · -- an early ending passes out unchanged
      rw [exec_miss_of_error hnext]
      refine ⟨fun h' hh => by cases hh; rfl, nofun, ?_⟩
      cases h <;> rfl
    · obtain ⟨hend, hctx⟩ := exec_miss_ctx_of_ok slot ttl wall hnext
      exact ⟨nofun, fun _ => hend, hctx⟩

/-- A first stage that panics while a second is pending leaves the second pending, for a hook's
`next` to run. -/
theorem invoke_panic_leaves_next_pending :
    (invoke 6 [.script .empty [.panic (.string "boom")], .noop]).exec {} =
      (.error (.panic (.string "boom")), ({} : World).withNext (.pending [.noop])) := rfl

end Switchyard

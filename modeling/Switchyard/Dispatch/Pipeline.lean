import Switchyard.Dispatch.Step
/-!
# Running pipelines

A pipeline is its stages in order, the terminal handler last. Running the stage at some
position first records in the context that `next` will run the stages after it (or that none
is left), then dispatches it, then records that `next` is spent, so that a stage calling `next`
a second time fails with `nextAlreadyCalled`. An error leaves the same record behind; a panic
skips the last step, as unwinding does.

`callNextWith` is the context's `next`: it runs the stages the record names, fails when they
were already run, and does nothing when none is left. The runner is written for any stage
behaviour `stage h next`, the handler `h` given the context's `next`; `dispatch` is the
behaviour of the application's handlers, and `callNext` and `invoke` run them.

The runner takes fuel, spent one unit per call of `next` and one per stage: a stage's calls nest
no deeper than the stages after it, so `2 * n + 1` units run any pipeline of `n` stages to its
end (`pipelineFuel`).
-/
namespace Switchyard

/-- A resolved parameter of a generic handler. -/
structure Resolved where
  /-- The value the trace shows for it, if any. -/
  shown : Option Json := none
  /-- The writer it hands the handler. -/
  writer : Option Nat := none
  /-- The request it hands the handler. -/
  request : Option Nat := none
  deriving Inhabited

/-- Resolves a generic handler's parameter from the context. -/
def resolveParam : Param → Run Resolved
  | .dep t => do pure { shown := some (← Run.resolveIn (← Run.context).scope t) }
  | .optDep t => do
    match ← Run.attempt (Run.resolveIn (← Run.context).scope t) with
    | .ok v => pure { shown := some v }
    | .error (.fail (.unresolved _)) => pure { shown := some .null }
    | .error h => throw h
  | .vars => do pure { shown := some (← Run.context).params.toJson }
  | .json | .optJson => do
    let r ← Run.request (← Run.context).request
    pure { shown := some (← Run.ofExcept (BodyTarget.value.decode r.body)) }
  | .request => do
    let c ← Run.context
    pure { shown := some (.str (← Run.request c.request).path), request := some c.request }
  | .injector => do
    let w ← get
    let s := w.ctx.scope
    pure { shown := some (.arr ([DepType.u64, .string, .u32].map fun t => .bool (w.injectors.contains s t))) }
  | .cancellation => do pure { shown := some (.bool (← Run.context).cancelled) }
  | .writer => do pure { writer := some (← Run.context).writer }

/-- Hands a generic handler's resolved parameters to its script, in declaration order: the
values they show go to the trace, one entry each or all in one list, and the first writer and the
first request among them into the script's frame. -/
def callResolved (script : Frame → List Action → Run Unit) (takesContext together : Bool)
    (actions : List Action) (values : List Resolved) : Run Unit := do
  let shown := values.filterMap (·.shown)
  if together then Run.note (Json.object [("arg", .arr shown)])
  else shown.forM fun v => Run.note (Json.object [("arg", v)])
  let writer := (values.filterMap (·.writer)).head?
  let request := (values.filterMap (·.request)).head?
  script ⟨takesContext, writer, request, none⟩ actions

/-- Runs a handler, given the rest of the pipeline and a runner for a script in a frame. -/
def dispatchWith (next : Run Unit) (script : Frame → List Action → Run Unit) : Handler → Run Unit
  | .noop => pure ()
  | .script shape actions => do
    let c ← Run.context
    match shape with
    | .context => script { context := true } actions
    | .contextUnit => dropErrors (script { context := true } actions)
    | .empty => script {} actions
    | .emptyUnit => dropErrors (script {} actions)
    | .writerRequest | .requestWriter =>
      script { writer := some c.writer, request := some c.request } actions
    | .contextWriterRequest | .contextRequestWriter =>
      script { context := true, writer := some c.writer, request := some c.request } actions
    | .generic params takesContext together => do
      callResolved script takesContext together actions (← params.mapM resolveParam)
  | .stock m => stockStage next m
  | .cache slot ttl wall => cacheStage next slot ttl wall
  | .files strip root => do
    let c ← Run.context
    filesStage c.writer c.request strip root
where
  /-- Records a failure in the trace instead of returning it. -/
  dropErrors (x : Run Unit) : Run Unit :=
    tryCatch x fun
      | .fail e => Run.note (Json.object [("dropped_error", e.toJson)])
      | h => throw h

mutual

/-- Runs one action of a script; a conditional runs the list its test picks. -/
def runAction (f : Frame) (next : Run Unit) : Action → Run Unit
  | .ifHeader name yes no =>
    step f next (fun b => if b then runActions f next yes else runActions f next no)
      (.ifHeader name yes no)
  | .ifCount name bound yes no =>
    step f next (fun b => if b then runActions f next yes else runActions f next no)
      (.ifCount name bound yes no)
  | a => step f next (fun _ => pure ()) a

/-- Runs actions in order; `stop` travels on to the script around them. -/
def runActions (f : Frame) (next : Run Unit) : List Action → Run Unit
  | [] => pure ()
  | a :: acts => do
    runAction f next a
    runActions f next acts

end

/-- Runs a script's actions in a frame, given the rest of the pipeline; `stop` ends them without
error. -/
def runScript (f : Frame) (next : Run Unit) (actions : List Action) : Run Unit :=
  tryCatch (runActions f next actions) fun
    | .stop => pure ()
    | h => throw h

/-- Runs one of the application's handlers as a stage, given the rest of the pipeline. -/
def dispatch (h : Handler) (next : Run Unit) : Run Unit :=
  dispatchWith next (fun f acts => runScript f next acts) h

/-- Records where `next` stands. -/
def setNext (n : NextState) : Run Unit := Run.modifyContext fun c => { c with next := n }

/-- What `next` holds while the first of some stages runs: the others, or nothing. -/
def NextState.pendingOf (rest : List Handler) : NextState :=
  if rest.isEmpty then .idle else .pending rest

mutual

/-- The context's `next`, for stages that behave as `stage` says: runs the pending stages. -/
def callNextWith (stage : Handler → Run Unit → Run Unit) : Nat → Run Unit
  | 0 => throw Run.tooDeep
  | fuel + 1 => do
    match (← Run.context).next with
    | .pending rest =>
      setNext .consumed
      runStagesWith stage fuel rest
    | .consumed => Run.fail .nextAlreadyCalled
    | .idle => pure ()

/-- Runs the first of the given stages with the rest pending. -/
def runStagesWith (stage : Handler → Run Unit → Run Unit) : Nat → List Handler → Run Unit
  | 0, _ => throw Run.tooDeep
  | _ + 1, [] => pure ()
  | fuel + 1, h :: rest => do
    setNext (NextState.pendingOf rest)
    let r ← Run.attempt (stage h (callNextWith stage fuel))
    match r with
    | .error (.panic p) => throw (.panic p)
    | _ => setNext .consumed
    Run.resume r

end

/-- Runs a pipeline from its first stage; afterwards no stage is pending. -/
def invokeWith (stage : Handler → Run Unit → Run Unit) (fuel : Nat) (stages : List Handler) :
    Run Unit := do
  let r ← Run.attempt (runStagesWith stage fuel stages)
  match r with
  | .error (.panic p) => throw (.panic p)
  | _ => setNext .idle
  Run.resume r

/-- The fuel that runs a pipeline of these stages to its end, and any `next` called on it. -/
def pipelineFuel (stages : List Handler) : Nat := 2 * stages.length + 2

/-- The context's `next` over the application's handlers. -/
def callNext (fuel : Nat) : Run Unit := callNextWith dispatch fuel

/-- Runs a pipeline of the application's handlers. -/
def invoke (fuel : Nat) (stages : List Handler) : Run Unit := invokeWith dispatch fuel stages

/-- Runs a hook's script with the context: an error it returns is traced and ends it. -/
def runHook (fuel : Nat) (f : Frame) (actions : List Action) : Run Unit :=
  tryCatch (runScript f (callNext fuel) actions) fun
    | .fail e => Run.note (Json.object [("hook_error", e.toJson)])
    | h => throw h

/-- Runs a computation, swallowing a panic it raises. -/
def guarded (x : Run Unit) : Run Unit :=
  tryCatch x fun
    | .panic _ => pure ()
    | h => throw h

end Switchyard

import Mathlib
import Switchyard.Proofs.Dispatch.Exec
/-!
# The protocol of `next`

The runner keeps the whole protocol of `next` in one slot of the context, which `next` reads and
the runner overwrites before and after each stage. This module proves that the slot implements
the protocol as it is meant to be read, for every stage behaviour that reaches the pipeline only
through `next`:

* the first stage runs first;
* a stage's first call of `next` runs the next stage, once, during that call, and returns its
  result; a stage that never calls `next` ends the pipeline there;
* a later call fails with `nextAlreadyCalled` and runs nothing;
* every call by the last stage succeeds and runs nothing;
* the pipeline returns the first stage's result and leaves no stage pending.

A stage behaviour is a `StageProg`: a program that changes and reads the world and calls `next`,
branching on what each call returns. `StageProg.once` is the protocol itself, a stage run with a
`next` that keeps the one flag "called yet", and `runOnce` runs a pipeline of such stages. The
main theorem, `invokeWith_eq_runOnce`, says that the runner gives the same result and world, up
to the slot, which it leaves idle.

The proof carries one invariant down the nesting of stages: while a stage followed by `rest`
runs, the slot holds `NextState.during rest called`, and `next` then behaves as `NextSpec` says.
`StageProg.exec_run` runs one stage under that invariant, by induction on its program, and
`exec_runStagesWith` runs the stages, by induction on the list, building each stage's `NextSpec`
from the induction hypothesis for the stages after it.
-/

namespace Switchyard

/-- What a stage does, as a program over the world that reaches the rest of the pipeline only by
calling `next`. -/
inductive StageProg where
  /-- Return this result. -/
  | done (r : Except Error Unit)
  /-- Change the world, then go on. -/
  | effect (f : World → World) (k : StageProg)
  /-- Go on as the world says. -/
  | look (k : World → StageProg)
  /-- Call `next`, then go on as its result says. -/
  | call (k : Except Error Unit → StageProg)

namespace StageProg

/-- Runs a program as a stage, given the context's `next`. -/
def run (next : Run Unit) : StageProg → Run Unit
  | .done r => Run.ofExcept r
  | .effect f k => do
    modify f
    k.run next
  | .look k => do (k (← get)).run next
  | .call k => do
    match ← Run.attempt next with
    | .ok () => (k (.ok ())).run next
    | .error (.fail e) => (k (.error e)).run next
    | .error h => throw h

/-- The stage behaviour of a program for each handler. -/
def stage (prog : Handler → StageProg) (h : Handler) (next : Run Unit) : Run Unit :=
  (prog h).run next

/-- Runs a program by the protocol of `next`: as the last stage when `last`, with the stages
after it run by `rest`, and `called` saying whether it called `next` yet. The first call of a
stage that is not the last runs the rest and returns their result; a later call fails with
`nextAlreadyCalled`; a call by the last stage succeeds. Only a first call runs anything. -/
def once (last : Bool) (rest : World → Except Error Unit × World) :
    StageProg → Bool → World → Except Error Unit × World
  | .done r, _, w => (r, w)
  | .effect f k, called, w => k.once last rest called (f w)
  | .look k, called, w => (k w).once last rest called w
  | .call k, called, w =>
    if last then (k (.ok ())).once last rest called w
    else if called then (k (.error .nextAlreadyCalled)).once last rest called w
    else (k (rest w).1).once last rest true (rest w).2

/-- The program neither reads nor writes where the pipeline stands: its changes commute with
replacing the slot, and its branches do not depend on it. -/
inductive Oblivious : StageProg → Prop
  | done (r : Except Error Unit) : Oblivious (.done r)
  | effect {f : World → World} {k : StageProg} :
      (∀ w s, f (w.withNext s) = (f w).withNext s) → k.Oblivious → Oblivious (.effect f k)
  | look {k : World → StageProg} :
      (∀ w s, k (w.withNext s) = k w) → (∀ w, (k w).Oblivious) → Oblivious (.look k)
  | call {k : Except Error Unit → StageProg} : (∀ r, (k r).Oblivious) → Oblivious (.call k)

end StageProg

/-- Runs a pipeline of programs by the protocol of `next`, from its first stage. -/
def runOnce : List StageProg → World → Except Error Unit × World
  | [], w => (.ok (), w)
  | p :: ps, w => p.once ps.isEmpty (runOnce ps) false w

/-- A middleware that calls `next` twice gets `nextAlreadyCalled` the second time. -/
example : (runOnce [.call fun _ => .call .done, .done (.ok ())] {}).1 =
    .error .nextAlreadyCalled := rfl

/-- What the slot holds while a stage followed by `rest` runs, before or after its first call of
`next`. -/
def NextState.during (rest : List Handler) (called : Bool) : NextState :=
  if rest.isEmpty then .idle else if called then .consumed else .pending rest

theorem NextState.during_false (rest : List Handler) :
    NextState.during rest false = NextState.pendingOf rest := by
  cases rest <;> rfl

/-- How `next` behaves while a stage followed by `rest` runs, when `runRest` is what running
`rest` means: on a pending slot it runs them and spends the slot, on a spent slot it fails, on an
idle one it does nothing. -/
structure NextSpec (next : Run Unit) (rest : List Handler)
    (runRest : World → Except Error Unit × World) : Prop where
  pending : ∀ w : World, next.exec (w.withNext (.pending rest)) =
    ((runRest w).1.mapError .fail, (runRest w).2.withNext .consumed)
  consumed : ∀ w : World, next.exec (w.withNext .consumed) =
    (.error (.fail .nextAlreadyCalled), w.withNext .consumed)
  idle : ∀ w : World, next.exec (w.withNext .idle) = (.ok (), w.withNext .idle)

namespace StageProg

theorem exec_run_call {k : Except Error Unit → StageProg} {next : Run Unit} {w w' : World}
    {r : Except Error Unit} (h : next.exec w = (r.mapError .fail, w')) :
    ((StageProg.call k).run next).exec w = ((k r).run next).exec w' := by
  rw [run, Run.exec_bind_of_ok (by rw [Run.exec_attempt, h])]
  cases r <;> rfl

/-- One stage: run where the slot holds `NextState.during rest called`, with a `next` that meets
its spec, an oblivious program ends as the protocol says, in its world up to the slot. -/
theorem exec_run {p : StageProg} (hp : p.Oblivious) {next : Run Unit} {rest : List Handler}
    {runRest : World → Except Error Unit × World} (hnext : NextSpec next rest runRest)
    (called : Bool) (w : World) :
    ∃ s, (p.run next).exec (w.withNext (NextState.during rest called)) =
      ((p.once rest.isEmpty runRest called w).1.mapError .fail,
        (p.once rest.isEmpty runRest called w).2.withNext s) := by
  induction hp generalizing called w with
  | done r => exact ⟨NextState.during rest called, by simp [run, once]⟩
  | @effect f k hf _ ih =>
    obtain ⟨s, hs⟩ := ih called (f w)
    refine ⟨s, ?_⟩
    rw [run, Run.exec_bind_of_ok (Run.exec_modify f _), hf]
    exact hs
  | @look k hk _ ih =>
    obtain ⟨s, hs⟩ := ih w called w
    refine ⟨s, ?_⟩
    rw [run, Run.exec_bind_of_ok (Run.exec_get _), hk]
    exact hs
  | @call k _ ih =>
    -- `next` answers `r` and leaves the slot as `called'` says; the program goes on with `r`
    have hgoOn : ∀ (r : Except Error Unit) (called' : Bool) (w' : World),
        next.exec (w.withNext (NextState.during rest called)) =
          (r.mapError .fail, w'.withNext (NextState.during rest called')) →
        (call k).once rest.isEmpty runRest called w = (k r).once rest.isEmpty runRest called' w' →
        ∃ s, ((call k).run next).exec (w.withNext (NextState.during rest called)) =
          (((call k).once rest.isEmpty runRest called w).1.mapError .fail,
            ((call k).once rest.isEmpty runRest called w).2.withNext s) := by
      intro r called' w' hanswer honce
      obtain ⟨s, hs⟩ := ih r called' w'
      exact ⟨s, by rw [exec_run_call hanswer, hs, honce]⟩
    -- the three answers of `next`, by what the slot holds
    by_cases hlast : rest.isEmpty
    · exact hgoOn (.ok ()) called w (by simp [NextState.during, hlast, hnext.idle, Except.mapError])
        (by simp [once, hlast])
    · cases called with
      | true =>
        exact hgoOn (.error .nextAlreadyCalled) true w
          (by simp [NextState.during, hlast, hnext.consumed, Except.mapError]) (by simp [once, hlast])
      | false =>
        exact hgoOn (runRest w).1 true (runRest w).2
          (by simp [NextState.during, hlast, hnext.pending]) (by simp [once, hlast])

end StageProg

/-- `next` of a stage followed by `rest` meets its spec, given that the runner runs `rest` as
`runRest` says from a spent slot. -/
theorem nextSpec_callNextWith {stage : Handler → Run Unit → Run Unit} {fuel : Nat}
    {rest : List Handler} {runRest : World → Except Error Unit × World}
    (hrun : ∀ w, (runStagesWith stage fuel rest).exec (w.withNext .consumed) =
      ((runRest w).1.mapError .fail, (runRest w).2.withNext .consumed)) :
    NextSpec (callNextWith stage (fuel + 1)) rest runRest where
  pending w := by
    rw [callNextWith, Run.exec_bind_of_ok (Run.exec_context _), World.withNext_ctx_next]
    rw [Run.exec_bind_of_ok (exec_setNext _ _), World.withNext_withNext]
    exact hrun w
  consumed w := by
    rw [callNextWith, Run.exec_bind_of_ok (Run.exec_context _)]
    rfl
  idle w := by
    rw [callNextWith, Run.exec_bind_of_ok (Run.exec_context _)]
    rfl

/-- The runner runs oblivious programs by the protocol, from any slot, and leaves the slot spent
unless there was nothing to run. -/
theorem exec_runStagesWith (prog : Handler → StageProg) (hprog : ∀ h, (prog h).Oblivious)
    (stages : List Handler) (fuel : Nat) (hfuel : 2 * stages.length < fuel) (s : NextState)
    (w : World) :
    (runStagesWith (StageProg.stage prog) fuel stages).exec (w.withNext s) =
      ((runOnce (stages.map prog) w).1.mapError .fail,
        (runOnce (stages.map prog) w).2.withNext (if stages.isEmpty then s else .consumed)) := by
  induction stages generalizing fuel s w with
  | nil =>
    obtain ⟨fuel, rfl⟩ : ∃ f, fuel = f + 1 := ⟨fuel - 1, by simp at hfuel; omega⟩
    simp [runStagesWith, runOnce, Except.mapError]
  | cons h rest ih =>
    obtain ⟨fuel, rfl⟩ : ∃ f, fuel = f + 2 := ⟨fuel - 2, by simp at hfuel; omega⟩
    have hnext : NextSpec (callNextWith (StageProg.stage prog) (fuel + 1)) rest
        (runOnce (rest.map prog)) :=
      nextSpec_callNextWith fun w => by
        rw [ih fuel (by simp at hfuel; omega) .consumed w]
        split <;> rfl
    obtain ⟨s', hs'⟩ := StageProg.exec_run (hprog h) hnext false w
    rw [NextState.during_false] at hs'
    have hfirst : runOnce ((h :: rest).map prog) w =
        (prog h).once rest.isEmpty (runOnce (rest.map prog)) false w := by
      simp [runOnce]
    rw [runStagesWith, Run.exec_bind_of_ok (exec_setNext _ _), World.withNext_withNext]
    rw [Run.exec_bind_of_ok (Run.exec_attempt _ _), StageProg.stage, hs', hfirst]
    -- the stage returned normally, so the runner spends the slot and passes its result on
    rcases (prog h).once rest.isEmpty (runOnce (rest.map prog)) false w with ⟨_ | _, w'⟩ <;> rfl

/-- Invoking a pipeline of stages that reach it only through `next` runs them by the protocol of
`next` (`runOnce`): the same result, as a failure, and the same world, with no stage left
pending. -/
theorem invokeWith_eq_runOnce (prog : Handler → StageProg) (hprog : ∀ h, (prog h).Oblivious)
    (stages : List Handler) (fuel : Nat) (hfuel : 2 * stages.length < fuel) (w : World) :
    (invokeWith (StageProg.stage prog) fuel stages).exec w =
      ((runOnce (stages.map prog) w).1.mapError .fail,
        (runOnce (stages.map prog) w).2.withNext .idle) := by
  have hrun := exec_runStagesWith prog hprog stages fuel hfuel w.ctx.next w
  rw [World.withNext_self] at hrun
  rw [invokeWith, Run.exec_bind_of_ok (Run.exec_attempt _ _), hrun]
  rcases runOnce (stages.map prog) w with ⟨_ | _, w'⟩ <;> rfl

/-- Two stages that each hand on what `next` returns, with the fuel the application gives. -/
theorem invokeWith_relays_eq_runOnce :
    (∀ _ : Handler, (StageProg.call .done).Oblivious) ∧
      2 * [Handler.noop, .noop].length < pipelineFuel [.noop, .noop] ∧
      (invokeWith (StageProg.stage fun _ => .call .done) (pipelineFuel [.noop, .noop])
          [.noop, .noop]).exec {} =
        ((runOnce [.call .done, .call .done] {}).1.mapError .fail,
          (runOnce [.call .done, .call .done] {}).2.withNext .idle) :=
  ⟨fun _ => .call fun r => .done r, by decide,
    invokeWith_eq_runOnce (fun _ => .call .done) (fun _ => .call fun r => .done r)
      [.noop, .noop] (pipelineFuel [.noop, .noop]) (by decide) {}⟩

end Switchyard

import Switchyard.Proofs.Dispatch.Exec
/-!
# Response helpers encode before they write

The context's helpers that send an encoded body (JSON, the success and failure envelopes, XML
and CSV) all take one shape (`Run.writeEncoded`): find the context's writer, encode the body,
and only then set the content type, commit the status and write the body
(`exec_step_of_encoded`). So a helper that fails has written nothing at all
(`encodeFailure_writes_nothing`): the failure is the missing context or the encoder's
`Encode` error, and the world, every writer's header fields, status and body included, is the
one it started from. JSON values always encode; XML values fail on shapes with no root element,
CSV records on a record whose length differs from the first's.
-/
namespace Switchyard

theorem Frame.exec_contextWriter (f : Frame) (w : World) :
    f.contextWriter.exec w =
      if f.context then (.ok w.ctx.writer, w)
      else (.error (.fail (.handler "the handler has no context")), w) := by
  unfold Frame.contextWriter Frame.needContext
  cases f.context <;> rfl

/-- A response helper that encodes first: the context's writer, then the body encoded, then the
content type, the status and the body written. -/
def Run.writeEncoded (f : Frame) (contentType : String) (status : Nat)
    (body : Except Error (List UInt8)) : Run Unit := do
  let w ← f.contextWriter
  let b ← Run.ofExcept body
  Run.respond w (some contentType) status b

/-- The content type, status and encoded body of each of the context's encoding response
helpers; `none` for any other action. -/
def Action.encoded (f : Frame) : Action → Option (String × Nat × Except Error (List UInt8))
  | .json status v => some ("application/json; charset=utf-8", status, .ok (Run.jsonBody v))
  | .success message v =>
    some ("application/json; charset=utf-8", 200, .ok (Run.jsonBody (Run.envelope true message v)))
  | .fail status message v =>
    some ("application/json; charset=utf-8", status,
      .ok (Run.jsonBody (Run.envelope false message v)))
  | .failErr status v =>
    some ("application/json; charset=utf-8", status,
      .ok (Run.jsonBody (Run.envelope false ((f.hookError.map Error.message).getD "") v)))
  | .xml status v => some ("application/xml; charset=utf-8", status, xmlBody v)
  | .csv status records => some ("text/csv; charset=utf-8", status, csvBody records)
  | _ => none

/-- What an encoding helper does from a world: without the context it fails at once; with it,
an encoding error fails with the world untouched, and an encoded body is written. -/
theorem Run.exec_writeEncoded (f : Frame) (contentType : String) (status : Nat)
    (body : Except Error (List UInt8)) (w : World) :
    (Run.writeEncoded f contentType status body).exec w =
      if f.context then
        match body with
        | .ok b =>
          let s := w.sinks.setHeader w.ctx.writer "content-type" contentType
          (.ok (), { w with sinks := (s.writeHeader w.ctx.writer status).write w.ctx.writer b })
        | .error e => (.error (.fail e), w)
      else (.error (.fail (.handler "the handler has no context")), w) := by
  unfold Run.writeEncoded
  rw [Run.exec_bind, Frame.exec_contextWriter]
  cases f.context
  · rfl
  · cases body <;> rfl

/-- Each encoding helper runs as `Run.writeEncoded` of its content type, status and body. -/
theorem exec_step_of_encoded {f : Frame} {a : Action} {contentType : String} {status : Nat}
    {body : Except Error (List UInt8)} (ha : a.encoded f = some (contentType, status, body))
    (next : Run Unit) (branch : Bool → Run Unit) (w : World) :
    (step f next branch a).exec w = (Run.writeEncoded f contentType status body).exec w := by
  cases a <;> simp only [Action.encoded, Option.some.injEq, Prod.mk.injEq, reduceCtorEq] at ha
  all_goals
    obtain ⟨rfl, rfl, rfl⟩ := ha
    rfl

theorem csvBody_eq_error {records : List (List String)} {e : Error}
    (h : csvBody records = .error e) : ∃ reason, e = .encode "CSV" reason := by
  unfold csvBody at h
  split at h
  · cases h
  · dsimp only at h
    split at h
    · cases h
      exact ⟨_, rfl⟩
    · cases h

theorem xmlBody_eq_error {v : XmlValue} {e : Error} (h : xmlBody v = .error e) :
    ∃ reason, e = .encode "XML" reason := by
  unfold xmlBody at h
  split at h
  · cases h
  · cases h
    exact ⟨_, rfl⟩

/-- The only encoding errors are `Encode` errors: JSON bodies always encode. -/
theorem encoded_error {f : Frame} {a : Action} {contentType : String} {status : Nat}
    {body : Except Error (List UInt8)} (ha : a.encoded f = some (contentType, status, body))
    {e : Error} (he : body = .error e) : ∃ format reason, e = .encode format reason := by
  subst he
  cases a <;>
    simp only [Action.encoded, Option.some.injEq, Prod.mk.injEq, reduceCtorEq, and_false] at ha
  case csv records =>
    obtain ⟨-, -, hcsv⟩ := ha
    exact ⟨_, csvBody_eq_error hcsv⟩
  case xml v =>
    obtain ⟨-, -, hxml⟩ := ha
    exact ⟨_, xmlBody_eq_error hxml⟩

/-- A failed encode writes nothing. When an encoding response helper (JSON, the success and
failure envelopes, XML, CSV) fails, the world is the one it started from, so every writer keeps
its header fields, committed status and body; the failure is the encoder's `Encode` error or the
missing context. -/
theorem encodeFailure_writes_nothing {f : Frame} {next : Run Unit} {branch : Bool → Run Unit}
    {a : Action} (ha : (a.encoded f).isSome) {w w' : World} {h : Halt}
    (hrun : (step f next branch a).exec w = (.error h, w')) :
    w' = w ∧ (h = .fail (.handler "the handler has no context") ∨
      ∃ format reason, h = .fail (.encode format reason)) := by
  obtain ⟨⟨contentType, status, body⟩, hsome⟩ := Option.isSome_iff_exists.1 ha
  rw [exec_step_of_encoded hsome, Run.exec_writeEncoded] at hrun
  split at hrun
  · split at hrun
    · cases hrun
    · -- the encoder refused: its error is returned and nothing was written
      cases hrun
      obtain ⟨format, reason, hencode⟩ := encoded_error hsome rfl
      exact ⟨rfl, .inr ⟨format, reason, by rw [hencode]⟩⟩
  · cases hrun
    exact ⟨rfl, .inl rfl⟩

/-- Records of different lengths refuse to encode as CSV, and the writer stays an empty buffer
with no status. -/
theorem encodeFailure_writes_nothing_ragged :
    let w : World := { sinks := ⟨#[.buffer {}]⟩ }
    ∃ h w', (step { context := true } (pure ()) (fun _ => pure ())
        (.csv 200 [["a", "b"], ["c"]])).exec w = (.error h, w') ∧
      w' = w ∧ (h = .fail (.handler "the handler has no context") ∨
        ∃ format reason, h = .fail (.encode format reason)) := by
  intro w
  have hrun : (step { context := true } (pure ()) (fun _ => pure ())
      (.csv 200 [["a", "b"], ["c"]])).exec w =
      (.error (.fail (.encode "CSV"
        "CSV error: found record with 1 fields, but the previous record has 2 fields")), w) := by
    rfl
  exact ⟨_, _, hrun, encodeFailure_writes_nothing rfl hrun⟩

end Switchyard

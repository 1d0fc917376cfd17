import Switchyard.Proofs.Dispatch.Exec
import Switchyard.Proofs.Http.Recording
/-!
# The response cache stage

A cache stage looks its slot up on its clock. A fresh entry is played into the writer: its fields
merged, its status, its body. Otherwise the stages behind run with a recorder in front of the
writer (`World.recording`); when they end normally the recorder is given `200` unless it has a
status (`Sinks.settle`) and the slot stores what it recorded, expiring `ttl` after the clock then
reads (`Recorder.entry`).

* `cacheStage_slot`: the slot as a state machine. A hit runs nothing behind the stage and changes
  nothing but the writer; a miss runs the stages behind and ends as they do; only an ordinary
  ending changes the slot, to the recorder's entry.
* `cacheHit_replays_miss`: for stages that apply writer operations (`writerStage`), a hit from a
  writer buffer leaves in it exactly what the miss that filled the slot left in a buffer in the
  same state.
* `cacheMiss_response`: a miss gives the client the status and body the same stages give it
  without the cache, but not the same header fields: the recorder's own fields reach the client
  once, merged over the fields set before the cache, when its first status goes through.

The recorder's bookkeeping is the invariant `Sinks.Records` of the writer operations; here it is
started on a miss (`World.recording_records`) and carried past the settling status
(`Sinks.Records.settle`).
-/
namespace Switchyard

/-! ## The parts of the stage -/

/-- The reading of a cache slot's clock: real time, or the manual clock. -/
def World.cacheClock (w : World) (wall : Bool) : Nat := if wall then w.elapsed else w.clock

/-- The entry of a slot, while the slot clock reads before its expiry. -/
def World.freshEntry (w : World) (slot : Nat) (wall : Bool) : Option CacheEntry :=
  (w.caches.getD slot none).filter fun e => w.cacheClock wall < e.expiresAt

/-- The world the stages behind a cache run in on a miss: a recorder in front of the writer,
under a new handle, is the writer. -/
def World.recording (w : World) : World :=
  { w with
    sinks := ⟨w.sinks.items.push (.recorder { inner := w.ctx.writer })⟩
    ctx := { w.ctx with writer := w.sinks.items.size } }

/-- A sink given `200` unless it has a status. -/
def Sinks.settle (s : Sinks) (id : Nat) : Sinks :=
  if s.committed id then s else s.writeHeader id 200

/-- The world a miss leaves once the stages behind end normally: the writer put back, and the
recorder given `200` unless it has a status. -/
def World.settleMiss (w : World) (writer recorder : Nat) : World :=
  { w with ctx := { w.ctx with writer }, sinks := w.sinks.settle recorder }

/-- The world with a slot holding an entry, the slots padded up to it. -/
def World.store (w : World) (slot : Nat) (e : CacheEntry) : World :=
  { w with caches := (w.caches ++ Array.replicate (slot + 1 - w.caches.size) none).set! slot (some e) }

/-- How a miss ends over stages that end as `result`: as they do, except that an ordinary ending
whose expiry lies past the last instant panics. -/
def cacheMissEnding (result : Except Error Unit) (expiry last : Nat) : Except Halt Unit :=
  match result with
  | .ok () => if expiry ≤ last then .ok () else .error Run.instantOverflow
  | .error e => .error (.fail e)

/-- An entry played into a writer: its fields, its status, its body. -/
def Sinks.replayEntry (s : Sinks) (id : Nat) (e : CacheEntry) : Sinks :=
  ((s.mergeHeaders id e.headers).writeHeader id e.status).write id e.body

/-- The entry a recorder leaves, expiring at a given reading. -/
def Recorder.entry (r : Recorder) (expiresAt : Nat) : CacheEntry :=
  { status := r.status.getD 200, headers := r.sentHeaders, body := r.body, expiresAt }

/-- Stages behind a cache that apply writer operations to the writer in turn, then end as
`result`. -/
def writerStage : List WriterOp → Except Error Unit → Run Unit
  | [], result => Run.ofExcept result
  | op :: ops, result => do
    let c ← Run.context
    Run.modifySinks fun s => op.apply s c.writer
    writerStage ops result

/-! ## One run of the stage -/

@[simp] theorem Run.exec_cacheNow (wall : Bool) (w : World) :
    (cacheNow wall).exec w = (.ok (w.cacheClock wall), w) := rfl

/-- A fresh entry is played into the writer, and nothing else happens. -/
theorem exec_cacheStage_of_fresh {next : Run Unit} {slot ttl : Nat} {wall : Bool} {w : World}
    {e : CacheEntry} (he : w.freshEntry slot wall = some e) :
    (cacheStage next slot ttl wall).exec w =
      (.ok (), { w with sinks := w.sinks.replayEntry w.ctx.writer e }) := by
  simp only [World.freshEntry, Option.filter_eq_some_iff, decide_eq_true_eq] at he
  obtain ⟨hslot, hfresh⟩ := he
  unfold cacheStage
  simp only [Run.exec_bind, Run.exec_cacheNow, Run.exec_context, Run.exec_get, hslot]
  simp [hfresh, Sinks.replayEntry]

/-- Without a fresh entry the stage misses. -/
theorem exec_cacheStage_of_stale {next : Run Unit} {slot ttl : Nat} {wall : Bool} {w : World}
    (he : w.freshEntry slot wall = none) :
    (cacheStage next slot ttl wall).exec w =
      (cacheStage.miss next slot ttl wall w.ctx.writer).exec w := by
  simp only [World.freshEntry, Option.filter_eq_none_iff, decide_eq_true_eq] at he
  unfold cacheStage
  simp only [Run.exec_bind, Run.exec_cacheNow, Run.exec_context, Run.exec_get]
  cases hslot : w.caches.getD slot none with
  | none => rfl
  | some e => simp [he e hslot]

/-- A panic behind the cache passes out of the stage as the stages behind left the world, the
recorder still the writer; another early ending puts the writer back first. -/
theorem exec_miss_of_error {next : Run Unit} {slot ttl : Nat} {wall : Bool} {w wₙ : World}
    {h : Halt} (hnext : next.exec w.recording = (.error h, wₙ)) :
    (cacheStage.miss next slot ttl wall w.ctx.writer).exec w =
      (.error h, match h with
        | .panic _ => wₙ
        | _ => { wₙ with ctx := { wₙ.ctx with writer := w.ctx.writer } }) := by
  unfold cacheStage.miss
  simp only [Run.exec_bind, Run.exec_sinks, Run.exec_modifySinks, Run.exec_modifyContext,
    Run.exec_attempt, Sinks.add]
  unfold World.recording at hnext
  rw [hnext]
  cases h <;> simp [Run.exec_bind]

/-- An ordinary ending behind the cache puts the writer back and gives the recorder `200` unless
it has a status; then the slot keeps what the recorder recorded, expiring `ttl` after the clock
then reads, or, when that lies past the last instant, the stage panics. -/
theorem exec_miss_of_ok {next : Run Unit} (slot ttl : Nat) (wall : Bool) {w wₙ : World}
    {r : Recorder} (hnext : next.exec w.recording = (.ok (), wₙ))
    (hrec : (wₙ.sinks.settle w.sinks.items.size).get? w.sinks.items.size = some (.recorder r)) :
    (cacheStage.miss next slot ttl wall w.ctx.writer).exec w =
      if wₙ.cacheClock wall + ttl ≤ wₙ.lastInstant then
        (.ok (), (wₙ.settleMiss w.ctx.writer w.sinks.items.size).store slot
          (r.entry (wₙ.cacheClock wall + ttl)))
      else (.error Run.instantOverflow, wₙ.settleMiss w.ctx.writer w.sinks.items.size) := by
  unfold cacheStage.miss
  simp only [Run.exec_bind, Run.exec_sinks, Run.exec_modifySinks, Run.exec_modifyContext,
    Run.exec_attempt, Sinks.add]
  unfold World.recording at hnext
  rw [hnext]
  -- the recorder is given its status or not, and read back as `r`; the expiry fits or not
  simp only [Sinks.settle] at hrec
  by_cases hfit : wₙ.cacheClock wall + ttl ≤ wₙ.lastInstant <;>
    simp only [World.cacheClock] at hfit <;>
    by_cases hc : wₙ.sinks.committed w.sinks.items.size <;> simp [hc] at hrec <;>
    simp [Run.exec_bind, hc, hrec, hfit, Run.exec_addDuration, World.cacheClock,
      World.settleMiss, World.store, Sinks.settle, Recorder.entry]

/-- When the stages behind end normally, the stage ends normally or with the panic of an expiry
past the last instant, with the writer put back and the rest of the context as they left it. -/
theorem exec_miss_ctx_of_ok {next : Run Unit} (slot ttl : Nat) (wall : Bool) {w wₙ : World}
    (hnext : next.exec w.recording = (.ok (), wₙ)) :
    (((cacheStage.miss next slot ttl wall w.ctx.writer).exec w).1 = .ok () ∨
        ((cacheStage.miss next slot ttl wall w.ctx.writer).exec w).1 = .error Run.instantOverflow) ∧
      ((cacheStage.miss next slot ttl wall w.ctx.writer).exec w).2.ctx =
        { wₙ.ctx with writer := w.ctx.writer } := by
  unfold cacheStage.miss
  simp only [Run.exec_bind, Run.exec_sinks, Run.exec_modifySinks, Run.exec_modifyContext,
    Run.exec_attempt, Sinks.add]
  unfold World.recording at hnext
  rw [hnext]
  simp only [Run.exec_bind, Run.exec_modifyContext, Run.exec_resume, Run.exec_sinks]
  -- what follows gives the recorder its status and stores the slot, and leaves the context alone
  by_cases hc : wₙ.sinks.committed w.sinks.items.size
  all_goals
    simp only [hc, Bool.not_true, Bool.not_false, Bool.false_eq_true, if_true, if_false,
      Run.exec_bind, Run.exec_sinks, Run.exec_modifySinks]
    split
    · -- the recorder's entry is stored unless its expiry passes the last instant
      by_cases hfit : wₙ.cacheClock wall + ttl ≤ wₙ.lastInstant <;>
        simp only [World.cacheClock] at hfit <;>
        simp [Run.exec_bind, Run.exec_addDuration, World.cacheClock, hfit]
    · simp

theorem getD_set!_padded {α : Type} (c : Array (Option α)) (slot : Nat) (v : Option α) :
    ((c ++ Array.replicate (slot + 1 - c.size) none).set! slot v).getD slot none = v := by
  -- the padding makes the slot an index of the array
  have hlt : slot < (c ++ Array.replicate (slot + 1 - c.size) none).size := by
    simp only [Array.size_append, Array.size_replicate]
    omega
  rw [Array.getD_eq_getD_getElem?, Array.set!, Array.getElem?_setIfInBounds_self_of_lt hlt]
  rfl

@[simp] theorem World.store_getD (w : World) (slot : Nat) (e : CacheEntry) :
    (w.store slot e).caches.getD slot none = some e :=
  getD_set!_padded _ _ _

theorem exec_writerStage (ops : List WriterOp) (result : Except Error Unit) (w : World) :
    (writerStage ops result).exec w =
      (result.mapError .fail,
        { w with sinks := ops.foldl (fun s op => op.apply s w.ctx.writer) w.sinks }) := by
  induction ops generalizing w with
  | nil => simp [writerStage]
  | cons op ops ih => simp [writerStage, Run.exec_bind, ih]

/-! ## The sinks around a miss -/

namespace Sinks

variable {s : Sinks} {id : Nat} {b : Buffer} {r : Recorder}

/-- A status given to a sink changes no sink made after it: it only goes to the sinks behind. -/
theorem get?_writeHeader_of_lt {i j : Nat} (h : i < j) (code : Nat) :
    (s.writeHeader i code).get? j = s.get? j := by
  -- along the recursion of `writeHeader`, which only moves to the sink behind, an older one
  induction i using Nat.strongRecOn generalizing s with
  | ind i ih =>
    rw [writeHeader]
    split
    · split
      · rfl
      · exact get?_put_of_ne (Nat.ne_of_gt h) _
    · rename_i r _
      split
      · rename_i hlt
        have hinner : r.inner < j := Nat.lt_trans hlt h
        split
        · exact ih r.inner hlt hinner
        · rw [ih r.inner hlt hinner, get?_modifyHeaders_of_ne (Nat.ne_of_gt hinner),
            get?_put_of_ne (Nat.ne_of_gt h)]
      · rfl
    · rfl

/-- Settling a recorder leaves a recorder in its place. -/
theorem settle_get?_of_recorder (hr : s.get? id = some (.recorder r)) :
    ∃ r', (s.settle id).get? id = some (.recorder r') := by
  unfold settle
  split
  · exact ⟨r, hr⟩
  · by_cases hlt : r.inner < id
    · rw [writeHeader_of_recorder hr hlt]
      split
      · exact ⟨r, (get?_writeHeader_of_lt hlt 200).trans hr⟩
      · refine ⟨{ r with forwarded := true, status := some 200, sentHeaders := r.headers }, ?_⟩
        rw [get?_writeHeader_of_lt hlt, get?_modifyHeaders_of_ne (Nat.ne_of_gt hlt)]
        exact get?_put_self hr _
    · rw [writeHeader, hr]
      simp only [dif_neg hlt]
      exact ⟨r, hr⟩

/-- An entry played into a buffer leaves the buffer with the entry replayed into it. -/
theorem replayEntry_get?_of_buffer (hb : s.get? id = some (.buffer b)) (e : CacheEntry) :
    (s.replayEntry id e).get? id = some (.buffer (b.replay e.status e.headers e.body)) := by
  have hplayed := foldl_apply_get?_of_buffer hb
    [.mergeHeaders e.headers, .writeHeader e.status, .write e.body]
  have hreplay : s.replayEntry id e =
      ([.mergeHeaders e.headers, .writeHeader e.status, .write e.body] : List WriterOp).foldl
        (fun s op => op.apply s id) s := rfl
  rw [hreplay, hplayed, Buffer.foldl_apply]
  cases hs : b.status <;> simp [Buffer.replay, WriterOp.edit, WriterOp.status?, WriterOp.body, hs]

end Sinks

namespace World

variable {w : World} {b : Buffer}

/-- A miss swaps the writer alone: the clocks, the last instant and the slots stay. -/
@[simp] theorem recording_cacheClock (wall : Bool) : w.recording.cacheClock wall = w.cacheClock wall :=
  rfl

@[simp] theorem recording_lastInstant : w.recording.lastInstant = w.lastInstant := rfl

theorem recording_get?_self :
    w.recording.sinks.get? w.sinks.items.size = some (.recorder { inner := w.ctx.writer }) := by
  simp [recording, Sinks.get?]

/-- On a miss the recorder stands in front of the writer, nothing having gone through. -/
theorem recording_records (hb : w.sinks.get? w.ctx.writer = some (.buffer b)) :
    w.recording.sinks.Records w.sinks.items.size b { inner := w.ctx.writer } :=
  -- the writer is a sink made before the recorder, and pushing the recorder keeps it
  have hlt : w.ctx.writer < w.sinks.items.size := (Array.getElem?_eq_some_iff.mp hb).1
  { inner_lt := hlt
    recorder := recording_get?_self
    forwarded := rfl
    quiet := fun _ => rfl
    behind := by
      simp only [recording, Sinks.get?]
      rw [Array.getElem?_push, if_neg (Nat.ne_of_lt hlt)]
      exact hb }

end World

/-- Settling keeps the recorder in front of its buffer, given `200` unless it has a status. -/
theorem Sinks.Records.settle {s : Sinks} {id : Nat} {b₀ : Buffer} {r : Recorder}
    (h : s.Records id b₀ r) : (s.settle id).Records id b₀ (r.commit 200) := by
  have hc : s.committed id = r.forwarded := by
    simp [Sinks.committed, Sinks.status, h.recorder, h.forwarded]
  unfold Sinks.settle
  rw [hc]
  cases hf : r.forwarded with
  | true => simpa [Recorder.commit_of_forwarded hf] using h
  | false => simpa using h.writeHeader 200

/-- Once a status went through, the buffer behind holds the recorder's entry replayed. -/
theorem Sinks.Records.behind_entry {s : Sinks} {id : Nat} {b₀ : Buffer} {r : Recorder}
    (h : s.Records id b₀ r) (hf : r.forwarded = true) (t : Nat) :
    s.get? r.inner =
      some (.buffer (b₀.replay (r.entry t).status (r.entry t).headers (r.entry t).body)) := by
  obtain ⟨code, hcode⟩ := h.status_eq_some hf
  simpa [Recorder.passedOn, Recorder.entry, hcode] using h.behind

/-! ## Writer operations behind the cache -/

namespace Recorder

/-- A fresh recorder after a list of operations, given `200` unless one committed: the first
status or `200` went through, with the fields as they stood then, and every octet. -/
theorem foldl_apply_commit (ops : List WriterOp) (inner : Nat) :
    (ops.foldl apply { inner }).commit 200 =
      { inner, headers := WriterOp.editAll ops {}, forwarded := true,
        status := some ((WriterOp.firstStatus? ops).getD 200),
        sentHeaders := WriterOp.sentHeaders ops {}, body := WriterOp.bodyOf ops } := by
  rw [foldl_apply_of_unforwarded ops { inner } rfl rfl rfl]
  cases h : WriterOp.firstStatus? ops with
  | some code => simp [commit]
  | none =>
    simp [commit, WriterOp.sentHeaders_eq_editAll h, WriterOp.bodyOf_eq_nil_of_firstStatus? h]

/-- What a fresh recorder lets through of a list of operations: the list's recording replayed,
once it commits a status. -/
theorem passedOn_foldl_apply (ops : List WriterOp) (inner : Nat) (b : Buffer) :
    (ops.foldl apply { inner }).passedOn b =
      match WriterOp.firstStatus? ops with
      | some code => b.replay code (WriterOp.sentHeaders ops {}) (WriterOp.bodyOf ops)
      | none => b := by
  rw [foldl_apply_of_unforwarded ops { inner } rfl rfl rfl]
  cases WriterOp.firstStatus? ops <;> rfl

end Recorder

/-- Stages behind the cache that end normally leave the recorder given `200` unless it has a
status; the slot then stores its entry, or keeps what it held when the expiry lies past the last
instant. -/
theorem exec_miss_of_records {next : Run Unit} (slot ttl : Nat) (wall : Bool) {w wₙ : World}
    {b : Buffer} {r : Recorder} (hnext : next.exec w.recording = (.ok (), wₙ))
    (hr : wₙ.sinks.Records w.sinks.items.size b r) :
    ∃ w₁, (cacheStage.miss next slot ttl wall w.ctx.writer).exec w =
        (cacheMissEnding (.ok ()) (wₙ.cacheClock wall + ttl) wₙ.lastInstant, w₁) ∧
      w₁.sinks.Records w.sinks.items.size b (r.commit 200) ∧
      w₁.caches.getD slot none =
        if wₙ.cacheClock wall + ttl ≤ wₙ.lastInstant then
          some ((r.commit 200).entry (wₙ.cacheClock wall + ttl))
        else wₙ.caches.getD slot none := by
  rw [exec_miss_of_ok slot ttl wall hnext hr.settle.recorder]
  by_cases hfit : wₙ.cacheClock wall + ttl ≤ wₙ.lastInstant
  · simp only [cacheMissEnding, if_pos hfit]
    exact ⟨_, rfl, hr.settle, World.store_getD _ _ _⟩
  · simp only [cacheMissEnding, if_neg hfit]
    exact ⟨_, rfl, hr.settle, rfl⟩

/-- On a miss, writer operations behind the cache that end normally go to the recorder, which
is then given `200` unless it has a status, and the slot stores its entry unless the expiry lies
past the last instant. -/
theorem exec_miss_writerStage_ok (ops : List WriterOp) (slot ttl : Nat) (wall : Bool)
    {w : World} {b : Buffer} (hb : w.sinks.get? w.ctx.writer = some (.buffer b)) :
    ∃ w₁, (cacheStage.miss (writerStage ops (.ok ())) slot ttl wall w.ctx.writer).exec w =
        (cacheMissEnding (.ok ()) (w.cacheClock wall + ttl) w.lastInstant, w₁) ∧
      w₁.sinks.Records w.sinks.items.size b
        ((ops.foldl Recorder.apply { inner := w.ctx.writer }).commit 200) ∧
      w₁.caches.getD slot none =
        if w.cacheClock wall + ttl ≤ w.lastInstant then
          some (((ops.foldl Recorder.apply { inner := w.ctx.writer }).commit 200).entry
            (w.cacheClock wall + ttl))
        else w.caches.getD slot none :=
  -- the operations change the sinks alone, so the clock, the last instant and the slots are `w`'s
  have hmiss := exec_miss_of_records slot ttl wall (exec_writerStage ops (.ok ()) w.recording)
    ((World.recording_records hb).foldl_apply ops)
  hmiss

/-- On a miss, writer operations behind the cache that fail go to the recorder, and the stage
fails the same way. -/
theorem exec_miss_writerStage_error (ops : List WriterOp) (e : Error) (slot ttl : Nat)
    (wall : Bool) {w : World} {b : Buffer} (hb : w.sinks.get? w.ctx.writer = some (.buffer b)) :
    ∃ w₁, (cacheStage.miss (writerStage ops (.error e)) slot ttl wall w.ctx.writer).exec w =
        (.error (.fail e), w₁) ∧
      w₁.sinks.Records w.sinks.items.size b
        (ops.foldl Recorder.apply { inner := w.ctx.writer }) :=
  ⟨_, exec_miss_of_error (exec_writerStage ops (.error e) w.recording),
    (World.recording_records hb).foldl_apply ops⟩

/-- On a miss over writer operations, the client's buffer ends with their recording replayed into
it (the first status committed, or `200`; the fields as they stood then; every octet), unless
they fail before committing a status. The answer is written before the expiry is reckoned, so
it is the same when that expiry lies past the last instant. -/
theorem exec_miss_writerStage_client (ops : List WriterOp) (result : Except Error Unit)
    (slot ttl : Nat) (wall : Bool) (w : World) (b : Buffer)
    (hb : w.sinks.get? w.ctx.writer = some (.buffer b)) :
    ∃ w₁, (cacheStage.miss (writerStage ops result) slot ttl wall w.ctx.writer).exec w =
        (cacheMissEnding result (w.cacheClock wall + ttl) w.lastInstant, w₁) ∧
      w₁.sinks.get? w.ctx.writer = some (.buffer
        (if result.isOk || (WriterOp.firstStatus? ops).isSome then
          b.replay ((WriterOp.firstStatus? ops).getD 200) (WriterOp.sentHeaders ops {})
            (WriterOp.bodyOf ops)
        else b)) := by
  cases result with
  | ok u =>
    obtain ⟨w₁, hexec, hr, -⟩ := exec_miss_writerStage_ok ops slot ttl wall hb
    have hbehind := hr.behind
    rw [Recorder.foldl_apply_commit] at hbehind
    refine ⟨w₁, hexec, ?_⟩
    simpa [Except.isOk, Except.toBool, Recorder.passedOn] using hbehind
  | error e =>
    obtain ⟨w₁, hexec, hr⟩ := exec_miss_writerStage_error ops e slot ttl wall hb
    have hbehind := hr.behind
    have hinner : (ops.foldl Recorder.apply { inner := w.ctx.writer }).inner = w.ctx.writer := by
      rw [Recorder.foldl_apply_of_unforwarded ops _ rfl rfl rfl]
      split <;> rfl
    rw [hinner, Recorder.passedOn_foldl_apply] at hbehind
    refine ⟨w₁, hexec, ?_⟩
    cases h : WriterOp.firstStatus? ops <;> simpa [Except.isOk, Except.toBool, h] using hbehind

/-- Nothing behind the stage, a stale slot and an expiry past the last instant: the stage panics
and the slots stay as they were. -/
theorem exec_cacheStage_pure_of_overflow {slot ttl : Nat} {wall : Bool} {w : World}
    (hstale : w.freshEntry slot wall = none) (hpast : w.lastInstant < w.cacheClock wall + ttl) :
    ((cacheStage (pure ()) slot ttl wall).exec w).1 = .error Run.instantOverflow ∧
      ((cacheStage (pure ()) slot ttl wall).exec w).2.caches = w.caches := by
  have hnext : (pure () : Run Unit).exec w.recording = (.ok (), w.recording) := rfl
  obtain ⟨r, hr⟩ := Sinks.settle_get?_of_recorder (@World.recording_get?_self w)
  rw [exec_cacheStage_of_stale hstale, exec_miss_of_ok slot ttl wall hnext hr,
    World.recording_cacheClock, World.recording_lastInstant, if_neg (Nat.not_le.mpr hpast)]
  exact ⟨rfl, rfl⟩

/-! ## The slot -/

/-- The cache slot as a state machine. While the slot holds an entry the clock reads before, the
entry is played into the writer and nothing else runs or changes, whatever the stages behind
are. Otherwise the stages behind run with a recorder as the writer. A failure or a panic behind
ends the stage the same way and leaves the slot as it was. An ordinary ending stores the
recorder's entry, expiring `ttl` after the clock reads then, when that is an instant; past the
last instant the stage panics and the slot stays as it was. The stages behind keep the slot and
leave every recorder in place. -/
theorem cacheStage_slot (next : Run Unit) (slot ttl : Nat) (wall : Bool)
    (hslot : ∀ w, (next.exec w).2.caches.getD slot none = w.caches.getD slot none)
    (hrec : ∀ w id r, w.sinks.get? id = some (.recorder r) →
      ∃ r', (next.exec w).2.sinks.get? id = some (.recorder r'))
    (w : World) :
    (∀ e, w.freshEntry slot wall = some e →
      (cacheStage next slot ttl wall).exec w =
        (.ok (), { w with sinks := w.sinks.replayEntry w.ctx.writer e })) ∧
    (w.freshEntry slot wall = none →
      (∀ h wₙ, next.exec w.recording = (.error h, wₙ) →
        ∃ w₁, (cacheStage next slot ttl wall).exec w = (.error h, w₁) ∧
          w₁.caches.getD slot none = w.caches.getD slot none) ∧
      (∀ wₙ, next.exec w.recording = (.ok (), wₙ) →
        ∃ r w₁, w₁.sinks.get? w.sinks.items.size = some (.recorder r) ∧
          (cacheStage next slot ttl wall).exec w =
            (cacheMissEnding (.ok ()) (wₙ.cacheClock wall + ttl) wₙ.lastInstant, w₁) ∧
          w₁.caches.getD slot none =
            if wₙ.cacheClock wall + ttl ≤ wₙ.lastInstant then
              some (r.entry (wₙ.cacheClock wall + ttl))
            else w.caches.getD slot none)) := by
  refine ⟨fun e he => exec_cacheStage_of_fresh he, fun hstale => ⟨?_, ?_⟩⟩
  · -- a failure or a panic: the slot is as the stages behind left it
    intro h wₙ hnext
    have hkept := hslot w.recording
    rw [hnext] at hkept
    refine ⟨_, by rw [exec_cacheStage_of_stale hstale, exec_miss_of_error hnext], ?_⟩
    cases h <;> exact hkept
  · -- an ordinary ending: the settled recorder's entry is stored, if its expiry is an instant
    intro wₙ hnext
    have hkept := hslot w.recording
    obtain ⟨r₀, hr₀⟩ := hrec w.recording _ _ World.recording_get?_self
    rw [hnext] at hkept hr₀
    obtain ⟨r, hr⟩ := Sinks.settle_get?_of_recorder hr₀
    rw [exec_cacheStage_of_stale hstale, exec_miss_of_ok slot ttl wall hnext hr]
    by_cases hfit : wₙ.cacheClock wall + ttl ≤ wₙ.lastInstant
    · simp only [cacheMissEnding, if_pos hfit]
      refine ⟨r, _, ?_, rfl, World.store_getD _ _ _⟩
      exact hr
    · simp only [cacheMissEnding, if_neg hfit]
      refine ⟨r, _, ?_, rfl, hkept⟩
      exact hr

theorem cacheStage_slot_fills : (∀ w, ((pure () : Run Unit).exec w).2.caches.getD 0 none =
      w.caches.getD 0 none) ∧
    (∀ w id r, w.sinks.get? id = some (.recorder r) →
      ∃ r', ((pure () : Run Unit).exec w).2.sinks.get? id = some (.recorder r')) ∧
    ∃ r w₁, w₁.sinks.get? 1 = some (.recorder r) ∧
      (cacheStage (pure ()) 0 5 false).exec { sinks := ⟨#[.buffer {}]⟩ } = (.ok (), w₁) ∧
      w₁.caches.getD 0 none = some (r.entry 5) := by
  have hslot : ∀ w, ((pure () : Run Unit).exec w).2.caches.getD 0 none = w.caches.getD 0 none :=
    fun _ => rfl
  have hrec : ∀ w id r, w.sinks.get? id = some (.recorder r) →
      ∃ r', ((pure () : Run Unit).exec w).2.sinks.get? id = some (.recorder r') :=
    fun _ _ r h => ⟨r, h⟩
  obtain ⟨r, w₁, hr, hexec, hfilled⟩ :=
    (cacheStage_slot (pure ()) 0 5 false hslot hrec { sinks := ⟨#[.buffer {}]⟩ }).2 rfl |>.2 _ rfl
  exact ⟨hslot, hrec, r, w₁, hr, hexec, hfilled⟩

/-- Stages behind that end normally, a clock half a second before the last instant and a
lifetime of a second: the stage panics and no slot is filled. -/
theorem cacheStage_overflow_keeps_slot :
    ((pure () : Run Unit).exec
        ({ sinks := ⟨#[.buffer {}]⟩, clock := Instant.maxMillis - 500 } : World).recording).1 =
      .ok () ∧
    ((cacheStage (pure ()) 0 1000 false).exec
        { sinks := ⟨#[.buffer {}]⟩, clock := Instant.maxMillis - 500 }).1 =
      .error Run.instantOverflow ∧
    ((cacheStage (pure ()) 0 1000 false).exec
        { sinks := ⟨#[.buffer {}]⟩, clock := Instant.maxMillis - 500 }).2.caches = #[] :=
  ⟨rfl, exec_cacheStage_pure_of_overflow rfl (by decide)⟩

/-! ## An expiry past the last instant -/

/-- Stages behind a miss that end normally leave their answer settled in the writer; then the
slot stores the recorder's entry and the stage ends normally exactly when `ttl` after the
clock's reading is an instant. Past the last instant the stage panics, the answer already
written and the slot as the stages left it. -/
theorem cacheMiss_expiry_overflow (next : Run Unit) (slot ttl : Nat) (wall : Bool) {w wₙ : World}
    (hstale : w.freshEntry slot wall = none) (hnext : next.exec w.recording = (.ok (), wₙ))
    (hrec : ∃ r, wₙ.sinks.get? w.sinks.items.size = some (.recorder r)) :
    ∃ r, (wₙ.settleMiss w.ctx.writer w.sinks.items.size).sinks.get? w.sinks.items.size =
        some (.recorder r) ∧
      (cacheStage next slot ttl wall).exec w =
        if wₙ.cacheClock wall + ttl ≤ wₙ.lastInstant then
          (.ok (), (wₙ.settleMiss w.ctx.writer w.sinks.items.size).store slot
            (r.entry (wₙ.cacheClock wall + ttl)))
        else (.error Run.instantOverflow, wₙ.settleMiss w.ctx.writer w.sinks.items.size) := by
  obtain ⟨r₀, hr₀⟩ := hrec
  obtain ⟨r, hr⟩ := Sinks.settle_get?_of_recorder hr₀
  exact ⟨r, hr, by rw [exec_cacheStage_of_stale hstale, exec_miss_of_ok slot ttl wall hnext hr]⟩

/-- A lifetime of `Duration.max` from the clock's start: the expiry lies past the last instant,
so the stage panics. -/
theorem cacheMiss_expiry_overflow_duration_max :
    ∃ r, (({ sinks := ⟨#[.buffer {}]⟩ } : World).recording.settleMiss 0 1).sinks.get? 1 =
        some (.recorder r) ∧
      (cacheStage (pure ()) 0 Duration.max.millis false).exec { sinks := ⟨#[.buffer {}]⟩ } =
        if 0 + Duration.max.millis ≤ Instant.maxMillis then
          (.ok (), (({ sinks := ⟨#[.buffer {}]⟩ } : World).recording.settleMiss 0 1).store 0
            (r.entry (0 + Duration.max.millis)))
        else (.error Run.instantOverflow,
          ({ sinks := ⟨#[.buffer {}]⟩ } : World).recording.settleMiss 0 1) :=
  cacheMiss_expiry_overflow (pure ()) 0 Duration.max.millis false rfl rfl ⟨_, rfl⟩

/-- `Duration.max` as a cache lifetime: from the clock's start, stages behind that end normally
leave the stage panicking and no slot filled. -/
theorem cacheStage_duration_max_panics :
    ((cacheStage (pure ()) 0 Duration.max.millis false).exec { sinks := ⟨#[.buffer {}]⟩ }).1 =
      .error Run.instantOverflow ∧
    ((cacheStage (pure ()) 0 Duration.max.millis false).exec
        { sinks := ⟨#[.buffer {}]⟩ }).2.caches = #[] :=
  exec_cacheStage_pure_of_overflow rfl (by decide)

/-! ## A hit and a miss against the stages alone -/

/-- A hit replays the miss that filled the slot: from a writer buffer in the same state, the hit
leaves it holding what the miss left in it, the entry's recording replayed into it. A miss
whose expiry lies past the last instant fills nothing, so there is nothing to replay. -/
theorem cacheHit_replays_miss (ops : List WriterOp) (slot ttl : Nat) (wall : Bool) (w : World)
    (b : Buffer) (hb : w.sinks.get? w.ctx.writer = some (.buffer b))
    (hstale : w.freshEntry slot wall = none) :
    ∃ w₁, (cacheStage (writerStage ops (.ok ())) slot ttl wall).exec w =
        (cacheMissEnding (.ok ()) (w.cacheClock wall + ttl) w.lastInstant, w₁) ∧
      (w.lastInstant < w.cacheClock wall + ttl →
        w₁.caches.getD slot none = w.caches.getD slot none) ∧
      (w.cacheClock wall + ttl ≤ w.lastInstant → ∃ e, w₁.caches.getD slot none = some e ∧
        w₁.sinks.get? w.ctx.writer = some (.buffer (b.replay e.status e.headers e.body)) ∧
        ∀ (next : Run Unit) (w' : World), w'.sinks.get? w'.ctx.writer = some (.buffer b) →
          w'.freshEntry slot wall = some e →
          ∃ w₂, (cacheStage next slot ttl wall).exec w' = (.ok (), w₂) ∧
            w₂.sinks.get? w'.ctx.writer = w₁.sinks.get? w.ctx.writer) := by
  obtain ⟨w₁, hexec, hr, hslot⟩ := exec_miss_writerStage_ok ops slot ttl wall hb
  -- the recorder was given a status, so its entry went through to the client's buffer
  have hclient := hr.behind_entry (Recorder.commit_forwarded _ _) (w.cacheClock wall + ttl)
  rw [Recorder.foldl_apply_commit] at hclient hslot
  refine ⟨w₁, by rw [exec_cacheStage_of_stale hstale, hexec], fun hpast => ?_, fun hfit => ?_⟩
  · simpa [Nat.not_le.mpr hpast] using hslot
  · refine ⟨_, by simpa [hfit] using hslot, hclient, fun next w' hb' hfresh => ?_⟩
    refine ⟨_, exec_cacheStage_of_fresh hfresh, ?_⟩
    rw [hclient]
    exact Sinks.replayEntry_get?_of_buffer hb' _

theorem cacheHit_replays_text :
    ∃ w₁, (cacheStage (writerStage [.setHeader "X-A" "1", .write [104, 105]] (.ok ())) 0 60
        false).exec { sinks := ⟨#[.buffer {}]⟩ } = (.ok (), w₁) ∧
      ∃ e, w₁.caches.getD 0 none = some e ∧
        w₁.sinks.get? 0 = some (.buffer (({} : Buffer).replay e.status e.headers e.body)) := by
  obtain ⟨w₁, hexec, -, hfilled⟩ := cacheHit_replays_miss
    [.setHeader "X-A" "1", .write [104, 105]] 0 60 false { sinks := ⟨#[.buffer {}]⟩ } {} rfl rfl
  obtain ⟨e, hslot, hclient, -⟩ := hfilled (by decide)
  exact ⟨w₁, hexec, e, hslot, hclient⟩

/-- A miss gives the client the status and the body the stages behind give it without the cache,
and fails as they do. It ends normally when they do, unless the expiry lies past the last
instant, where it panics with the answer written. The header fields differ: without the cache
the client's fields take every change; through it they take the recorder's own fields once,
merged over them when the first status goes through (or when the stage ends normally with none),
so a field set before the cache can be replaced but never removed or added to, and changes after
the first status, or before a failure with none, are lost. -/
theorem cacheMiss_response (ops : List WriterOp) (result : Except Error Unit) (slot ttl : Nat)
    (wall : Bool) (w : World) (b : Buffer) (hb : w.sinks.get? w.ctx.writer = some (.buffer b))
    (hstale : w.freshEntry slot wall = none) :
    ∃ w₁ w₂ rc rd,
      (cacheStage (writerStage ops result) slot ttl wall).exec w =
        (cacheMissEnding result (w.cacheClock wall + ttl) w.lastInstant, w₁) ∧
      (writerStage ops result).exec w = (result.mapError .fail, w₂) ∧
      (w₁.sinks.take w.ctx.writer).1 = some rc ∧ (w₂.sinks.take w.ctx.writer).1 = some rd ∧
      rc.status = rd.status ∧ rc.body = rd.body ∧
      rd.headers = WriterOp.editAll ops b.headers ∧
      rc.headers = if result.isOk || (WriterOp.firstStatus? ops).isSome then
        b.headers.merge (WriterOp.sentHeaders ops {}) else b.headers := by
  obtain ⟨w₁, hexec, hclient⟩ := exec_miss_writerStage_client ops result slot ttl wall w b hb
  have hdirect := Sinks.foldl_apply_get?_of_buffer hb ops
  rw [Buffer.foldl_apply] at hdirect
  refine ⟨w₁, _, _, _, by rw [exec_cacheStage_of_stale hstale, hexec],
    exec_writerStage ops result w, Sinks.take_of_buffer hclient, Sinks.take_of_buffer hdirect,
    ?_, ?_, rfl, ?_⟩
  -- the status, the body and the fields, by how the stages end and whether they commit
  all_goals
    cases h : WriterOp.firstStatus? ops <;> cases result <;>
      simp [Buffer.replay, Except.isOk, Except.toBool, h, WriterOp.bodyOf_eq_nil_of_firstStatus?]

theorem cacheMiss_response_text :
    ∃ w₁ w₂ rc rd,
      (cacheStage (writerStage [.write [104, 105]] (.ok ())) 0 60 false).exec
        { sinks := ⟨#[.buffer {}]⟩ } = (.ok (), w₁) ∧
      (writerStage [.write [104, 105]] (.ok ())).exec { sinks := ⟨#[.buffer {}]⟩ } = (.ok (), w₂) ∧
      (w₁.sinks.take 0).1 = some rc ∧ (w₂.sinks.take 0).1 = some rd ∧
      rc.status = rd.status ∧ rc.body = rd.body := by
  obtain ⟨w₁, w₂, rc, rd, hcached, hdirect, hc, hd, hstatus, hbody, -, -⟩ := cacheMiss_response
    [.write [104, 105]] (.ok ()) 0 60 false { sinks := ⟨#[.buffer {}]⟩ } {} rfl rfl
  exact ⟨w₁, w₂, rc, rd, hcached, hdirect, hc, hd, hstatus, hbody⟩

/-- Upstream sets a field that the stages behind the cache remove before writing: through the
cache the client still gets it, without the cache it does not. -/
theorem cacheMiss_keeps_upstream_field :
    (((cacheStage (writerStage [.removeHeader "X-Up", .write [116]] (.ok ())) 0 1000 false).exec
        { sinks := ⟨#[.buffer { headers := ⟨[(⟨"x-up"⟩, ⟨[49]⟩)]⟩ }]⟩ }).2.sinks.take 0).1 =
      some { status := 200, headers := ⟨[(⟨"x-up"⟩, ⟨[49]⟩)]⟩, body := [116] } ∧
    (((writerStage [.removeHeader "X-Up", .write [116]] (.ok ())).exec
        { sinks := ⟨#[.buffer { headers := ⟨[(⟨"x-up"⟩, ⟨[49]⟩)]⟩ }]⟩ }).2.sinks.take 0).1 =
      some { status := 200, headers := {}, body := [116] } := by
  have hb : Sinks.get? ⟨#[.buffer { headers := ⟨[(⟨"x-up"⟩, ⟨[49]⟩)]⟩ }]⟩ 0 =
      some (.buffer { headers := ⟨[(⟨"x-up"⟩, ⟨[49]⟩)]⟩ }) := rfl
  obtain ⟨w₁, hexec, hclient⟩ := exec_miss_writerStage_client
    [.removeHeader "X-Up", .write [116]] (.ok ()) 0 1000 false
    { sinks := ⟨#[.buffer { headers := ⟨[(⟨"x-up"⟩, ⟨[49]⟩)]⟩ }]⟩ } _ hb
  have hdirect := Sinks.foldl_apply_get?_of_buffer hb [.removeHeader "X-Up", .write [116]]
  rw [exec_cacheStage_of_stale rfl, hexec, exec_writerStage]
  constructor
  · rw [Sinks.take_of_buffer hclient]
    decide +kernel
  · rw [Sinks.take_of_buffer hdirect]
    decide +kernel

end Switchyard

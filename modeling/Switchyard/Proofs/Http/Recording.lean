import Mathlib
import Switchyard.Http.Writer
/-!
# Writer operations, through a buffer and through a recorder

A stage writes its response by seven operations (`WriterOp`): three that change header fields, a
merge of fields, a status, body octets, and a plain-text error. Each is read two ways.

* On a buffer (`Buffer.apply`): the first status committed stays, the fields change as the
  operation says, and the body grows by what it writes.
* On a recorder (`Recorder.apply`): the fields change in a map of the recorder's own; the first
  status goes through to the sink behind it together with that map, merged over the fields
  there, and later fields stay behind; body octets go through as they come.

`Sinks.Records s id b₀ r` says that the sinks hold the recorder `r` in front of a buffer that held
`b₀` when the recorder was made, and that the buffer holds what the recorder let through: `b₀`
until the first status, then `b₀` with the recording replayed into it (`Buffer.replay`).
`Sinks.Records.apply` proves that each operation keeps this, and `Sinks.Records.foldl_apply` that
every sequence does.

In closed form, a list of operations leaves in a buffer its first status
(`WriterOp.firstStatus?`), all its field changes (`WriterOp.editAll`) and all its octets
(`WriterOp.bodyOf`), while a recorder from before its first status lets through the first
status, the fields as they stood when it went through (`WriterOp.sentHeaders`) and the octets.
-/
namespace Switchyard

/-- An operation a stage applies to its writer. -/
inductive WriterOp where
  /-- Replaces every field of a name by one. -/
  | setHeader (name value : String)
  /-- Adds a field. -/
  | addHeader (name value : String)
  /-- Drops every field of a name. -/
  | removeHeader (name : String)
  /-- Merges fields: each name among them replaces the fields of that name. -/
  | mergeHeaders (fields : HeaderMap)
  /-- Commits a status. -/
  | writeHeader (status : Nat)
  /-- Appends body octets. -/
  | write (bytes : List UInt8)
  /-- Answers with a plain-text error. -/
  | error (status : Nat) (message : String)

namespace WriterOp

/-- Applies an operation to the sink of a handle. -/
def apply (s : Sinks) (id : Nat) : WriterOp → Sinks
  | setHeader n v => s.setHeader id n v
  | addHeader n v => s.addHeader id n v
  | removeHeader n => s.removeHeader id n
  | mergeHeaders m => s.mergeHeaders id m
  | writeHeader code => s.writeHeader id code
  | write bytes => s.write id bytes
  | error code message => s.error id code message

/-- The change an operation makes to header fields. -/
def edit : WriterOp → HeaderMap → HeaderMap
  | setHeader n v, m =>
    match HeaderName.parse? n, HeaderValue.ofText? v with
    | some n, some v => m.insert n v
    | _, _ => m
  | addHeader n v, m =>
    match HeaderName.parse? n, HeaderValue.ofText? v with
    | some n, some v => m.append n v
    | _, _ => m
  | removeHeader n, m =>
    match HeaderName.parse? n with
    | some n => m.remove n
    | none => m
  | mergeHeaders f, m => m.merge f
  | error .., m =>
    (m.insert ⟨"content-type"⟩ ⟨Utf8.encode Response.plainText⟩).insert ⟨"x-content-type-options"⟩
      ⟨Utf8.encode "nosniff"⟩
  | writeHeader _, m => m
  | write _, m => m

/-- The status an operation commits when none is committed yet. -/
def status? : WriterOp → Option Nat
  | writeHeader code => some code
  | write _ => some 200
  | error code _ => some code
  | _ => none

/-- The body octets an operation writes. -/
def body : WriterOp → List UInt8
  | write bytes => bytes
  | error _ message => Utf8.encode (message ++ "\n")
  | _ => []

/-- An error is its fields, its status and its message, in that order. -/
theorem apply_error (s : Sinks) (id code : Nat) (message : String) :
    (error code message).apply s id =
      ((s.modifyHeaders id (error code message).edit).writeHeader id code).write id
        (error code message).body := rfl

/-- An operation that commits no status writes no octets. -/
theorem body_eq_nil_of_status? {op : WriterOp} (h : op.status? = none) : op.body = [] := by
  cases op <;> simp_all [status?, body]

/-- The status the first committing operation of a list commits. -/
def firstStatus? (ops : List WriterOp) : Option Nat := ops.findSome? status?

/-- All the field changes of a list, in order. -/
def editAll (ops : List WriterOp) (m : HeaderMap) : HeaderMap := ops.foldl (fun m op => op.edit m) m

/-- The body octets a list writes. -/
def bodyOf (ops : List WriterOp) : List UInt8 := ops.flatMap body

/-- The fields as they stand when the first status of a list goes through: its changes up to and
including those of the first committing operation, or all of them when none commits. -/
def sentHeaders : List WriterOp → HeaderMap → HeaderMap
  | [], m => m
  | op :: ops, m => if op.status?.isSome then op.edit m else sentHeaders ops (op.edit m)

@[simp] theorem firstStatus?_nil : firstStatus? [] = none := rfl

@[simp] theorem firstStatus?_cons (op : WriterOp) (ops : List WriterOp) :
    firstStatus? (op :: ops) = op.status?.or (firstStatus? ops) := by
  simp only [firstStatus?, List.findSome?_cons]
  cases op.status? <;> rfl

@[simp] theorem editAll_nil (m : HeaderMap) : editAll [] m = m := rfl

@[simp] theorem editAll_cons (op : WriterOp) (ops : List WriterOp) (m : HeaderMap) :
    editAll (op :: ops) m = editAll ops (op.edit m) := rfl

@[simp] theorem bodyOf_nil : bodyOf [] = [] := rfl

@[simp] theorem bodyOf_cons (op : WriterOp) (ops : List WriterOp) :
    bodyOf (op :: ops) = op.body ++ bodyOf ops := List.flatMap_cons

/-- A list that commits no status writes no octets. -/
theorem bodyOf_eq_nil_of_firstStatus? {ops : List WriterOp} (h : firstStatus? ops = none) :
    bodyOf ops = [] := by
  induction ops with
  | nil => rfl
  | cons op ops ih =>
    simp only [firstStatus?_cons, Option.or_eq_none_iff] at h
    simp [body_eq_nil_of_status? h.1, ih h.2]

/-- A list that commits no status sends every change it makes. -/
theorem sentHeaders_eq_editAll {ops : List WriterOp} (h : firstStatus? ops = none)
    (m : HeaderMap) : sentHeaders ops m = editAll ops m := by
  induction ops generalizing m with
  | nil => rfl
  | cons op ops ih =>
    simp only [firstStatus?_cons, Option.or_eq_none_iff] at h
    simp [sentHeaders, h.1, ih h.2]

end WriterOp

namespace Buffer

/-- A buffer after an operation: its committed status stays, else the operation's is committed;
the fields change as the operation says; the body grows by what it writes. -/
def apply (b : Buffer) (op : WriterOp) : Buffer :=
  { status := b.status.or op.status?, headers := op.edit b.headers, body := b.body ++ op.body }

/-- A buffer with a recording played into it: the recorded fields replace the fields of their
names, the recorded status is committed unless one is, and the recorded octets follow the body. -/
def replay (b : Buffer) (status : Nat) (headers : HeaderMap) (body : List UInt8) : Buffer :=
  { status := some (b.status.getD status), headers := b.headers.merge headers,
    body := b.body ++ body }

/-- A list of operations leaves in a buffer its first status unless one was committed, all its
field changes and all its octets. -/
theorem foldl_apply (ops : List WriterOp) (b : Buffer) :
    ops.foldl apply b =
      { status := b.status.or (WriterOp.firstStatus? ops),
        headers := WriterOp.editAll ops b.headers,
        body := b.body ++ WriterOp.bodyOf ops } := by
  induction ops generalizing b with
  | nil => simp
  | cons op ops ih => simp [ih, apply, Option.or_assoc]

end Buffer

namespace Recorder

/-- A recorder given a status: the first one goes through, with the recorder's fields as they
then are. -/
def commit (r : Recorder) (code : Nat) : Recorder :=
  if r.forwarded then r
  else { r with forwarded := true, status := some code, sentHeaders := r.headers }

/-- A recorder after an operation: its own fields change, a committing operation commits, and
the body grows by what it writes. -/
def apply (r : Recorder) (op : WriterOp) : Recorder :=
  let r := { r with headers := op.edit r.headers }
  match op.status? with
  | some code => { r.commit code with body := r.body ++ op.body }
  | none => r

/-- What the buffer behind a recorder holds, when it held `b₀` as the recorder was made. -/
def passedOn (r : Recorder) (b₀ : Buffer) : Buffer :=
  match r.status with
  | some code => b₀.replay code r.sentHeaders r.body
  | none => b₀

@[simp] theorem commit_body (r : Recorder) (code : Nat) : (r.commit code).body = r.body := by
  unfold commit; split <;> rfl

@[simp] theorem commit_inner (r : Recorder) (code : Nat) : (r.commit code).inner = r.inner := by
  unfold commit; split <;> rfl

theorem commit_of_forwarded {r : Recorder} (h : r.forwarded = true) (code : Nat) :
    r.commit code = r := by
  simp [commit, h]

theorem commit_of_unforwarded {r : Recorder} (h : r.forwarded = false) (code : Nat) :
    r.commit code =
      { r with forwarded := true, status := some code, sentHeaders := r.headers } := by
  simp [commit, h]

@[simp] theorem commit_forwarded (r : Recorder) (code : Nat) :
    (r.commit code).forwarded = true := by
  unfold commit; split <;> simp_all

theorem commit_commit (r : Recorder) (a b : Nat) : (r.commit a).commit b = r.commit a :=
  commit_of_forwarded (commit_forwarded r a) b

theorem apply_writeHeader (r : Recorder) (code : Nat) :
    r.apply (.writeHeader code) = r.commit code := by
  rcases r with ⟨inner, headers, forwarded, status, sent, body⟩
  cases forwarded <;> simp [apply, commit, WriterOp.edit, WriterOp.status?, WriterOp.body]

theorem apply_write (r : Recorder) (bytes : List UInt8) :
    r.apply (.write bytes) = { r.commit 200 with body := r.body ++ bytes } := by
  rcases r with ⟨inner, headers, forwarded, status, sent, body⟩
  cases forwarded <;> simp [apply, commit, WriterOp.edit, WriterOp.status?, WriterOp.body]

theorem apply_error (r : Recorder) (code : Nat) (message : String) :
    r.apply (.error code message) =
      { ({ r with headers := (WriterOp.error code message).edit r.headers }).commit code with
        body := r.body ++ (WriterOp.error code message).body } := rfl

/-- A recorder whose status went through keeps it, its recorded fields, and records every
change of its own fields and every octet after. -/
theorem foldl_apply_of_forwarded (ops : List WriterOp) (r : Recorder) (h : r.forwarded = true) :
    ops.foldl apply r =
      { r with
        headers := WriterOp.editAll ops r.headers, body := r.body ++ WriterOp.bodyOf ops } := by
  induction ops generalizing r with
  | nil => simp
  | cons op ops ih =>
    have hstep :
        r.apply op = { r with headers := op.edit r.headers, body := r.body ++ op.body } := by
      cases hop : op.status? with
      | none => simp [apply, hop, WriterOp.body_eq_nil_of_status? hop]
      | some code => simp [apply, hop, commit, h]
    rw [List.foldl_cons, hstep,
      ih { r with headers := op.edit r.headers, body := r.body ++ op.body } h]
    simp

/-- A recorder from before its first status records all the field changes of a list; when the
list commits, it records the first status, the fields as they stood then, and every octet. -/
theorem foldl_apply_of_unforwarded (ops : List WriterOp) (r : Recorder) (hf : r.forwarded = false)
    (hs : r.status = none) (hb : r.body = []) :
    ops.foldl apply r = match WriterOp.firstStatus? ops with
      | some code =>
        { r with
          headers := WriterOp.editAll ops r.headers, forwarded := true, status := some code,
          sentHeaders := WriterOp.sentHeaders ops r.headers, body := WriterOp.bodyOf ops }
      | none => { r with headers := WriterOp.editAll ops r.headers } := by
  induction ops generalizing r with
  | nil => simp
  | cons op ops ih =>
    rw [List.foldl_cons]
    cases hop : op.status? with
    | none =>
      -- the operation only changes fields: the recorder is still before its first status
      have hstep : r.apply op = { r with headers := op.edit r.headers } := by simp [apply, hop]
      rw [hstep, ih { r with headers := op.edit r.headers } hf hs hb]
      simp [WriterOp.sentHeaders, hop, WriterOp.body_eq_nil_of_status? hop]
    | some code =>
      -- the first status goes through here; from then on the recorder only records
      have hstep : r.apply op =
          { r with
            headers := op.edit r.headers, forwarded := true, status := some code,
            sentHeaders := op.edit r.headers, body := op.body } := by
        simp [apply, hop, commit, hf, hb]
      rw [hstep, foldl_apply_of_forwarded _ _ rfl]
      simp [WriterOp.sentHeaders, hop]

end Recorder

namespace Sinks

variable {s : Sinks} {id j : Nat} {b : Buffer} {r : Recorder}

theorem get?_put_self {k : Sink} (h : s.get? id = some k) (k' : Sink) :
    (s.put id k').get? id = some k' := by
  simp only [put, get?] at h ⊢
  have hid : id < s.items.size := (Array.getElem?_eq_some_iff.mp h).1
  simp [Array.set!, hid]

theorem get?_put_of_ne (hne : j ≠ id) (k : Sink) : (s.put id k).get? j = s.get? j := by
  simp [put, get?, Array.set!, Ne.symm hne]

theorem get?_change_of_ne (hne : j ≠ id) (f : Sink → Sink) :
    (s.change id f).get? j = s.get? j := by
  simp [change, get?, Array.getElem?_modify, Ne.symm hne]

theorem get?_change_self (f : Sink → Sink) : (s.change id f).get? id = (s.get? id).map f := by
  simp [change, get?, Array.getElem?_modify]

theorem get?_modifyHeaders_of_ne (hne : j ≠ id) (f : HeaderMap → HeaderMap) :
    (s.modifyHeaders id f).get? j = s.get? j :=
  get?_change_of_ne hne _

/-- Changing a sink's fields by nothing leaves the sinks as they are. -/
theorem modifyHeaders_id : s.modifyHeaders id (fun m => m) = s := by
  rcases s with ⟨items⟩
  simp only [modifyHeaders, change, Sinks.mk.injEq]
  ext i hi hi'
  · simp
  · simp only [Array.getElem_modify]
    split
    · rename_i h
      subst h
      split <;> simp_all
    · rfl

theorem modifyHeaders_get?_of_buffer (hb : s.get? id = some (.buffer b))
    (f : HeaderMap → HeaderMap) :
    (s.modifyHeaders id f).get? id = some (.buffer { b with headers := f b.headers }) := by
  simp only [get?, modifyHeaders, change] at hb ⊢
  simp [Array.getElem?_modify, hb]

theorem modifyHeaders_get?_of_recorder (hr : s.get? id = some (.recorder r))
    (f : HeaderMap → HeaderMap) :
    (s.modifyHeaders id f).get? id = some (.recorder { r with headers := f r.headers }) := by
  simp only [get?, modifyHeaders, change] at hr ⊢
  simp [Array.getElem?_modify, hr]

/-- A status written to a buffer puts the buffer with the first status committed in its place. -/
theorem writeHeader_of_buffer (hb : s.get? id = some (.buffer b)) (code : Nat) :
    s.writeHeader id code =
      if b.status.isSome then s else s.put id (.buffer { b with status := some code }) := by
  rw [writeHeader, hb]

theorem writeHeader_get?_of_buffer (hb : s.get? id = some (.buffer b)) (hs : b.status = none)
    (code : Nat) :
    (s.writeHeader id code).get? id = some (.buffer { b with status := some code }) := by
  rw [writeHeader, hb]
  simp only [hs, Option.isSome_none, Bool.false_eq_true, if_false]
  exact get?_put_self hb _

theorem write_get?_of_buffer (hb : s.get? id = some (.buffer b)) (bytes : List UInt8) :
    (s.write id bytes).get? id =
      some (.buffer { b with status := some (b.status.getD 200), body := b.body ++ bytes }) := by
  rw [write, hb]
  exact get?_put_self hb _

/-- An error written to a buffer with no status gives it the status, the plain-text fields, and
the message with a newline after what it held. -/
theorem error_get?_of_buffer (hb : s.get? id = some (.buffer b)) (hs : b.status = none)
    (code : Nat) (message : String) :
    (s.error id code message).get? id = some (.buffer { b with
      status := some code,
      headers := (b.headers.insert ⟨"content-type"⟩ ⟨Utf8.encode Response.plainText⟩).insert
        ⟨"x-content-type-options"⟩ ⟨Utf8.encode "nosniff"⟩,
      body := b.body ++ Utf8.encode (message ++ "\n") }) := by
  have hheaders := modifyHeaders_get?_of_buffer hb fun m =>
    (m.insert ⟨"content-type"⟩ ⟨Utf8.encode Response.plainText⟩).insert ⟨"x-content-type-options"⟩
      ⟨Utf8.encode "nosniff"⟩
  have hstatus := writeHeader_get?_of_buffer hheaders hs code
  exact write_get?_of_buffer hstatus _

theorem writeHeader_get?_buffer (hb : s.get? id = some (.buffer b)) (code : Nat) :
    (s.writeHeader id code).get? id =
      some (.buffer { b with status := b.status.or (some code) }) := by
  rw [writeHeader_of_buffer hb]
  cases b with
  | mk status headers body =>
    cases status with
    | none => simp [get?_put_self hb]
    | some c => simp [hb]

theorem get?_writeHeader_of_buffer (hb : s.get? id = some (.buffer b)) (hne : j ≠ id)
    (code : Nat) : (s.writeHeader id code).get? j = s.get? j := by
  rw [writeHeader_of_buffer hb]
  split
  · rfl
  · exact get?_put_of_ne hne _

theorem get?_write_of_buffer (hb : s.get? id = some (.buffer b)) (hne : j ≠ id)
    (bytes : List UInt8) : (s.write id bytes).get? j = s.get? j := by
  rw [write, hb]
  exact get?_put_of_ne hne _

/-- A status given to a recorder goes to the sink behind it once it went through; the first one
puts the recorder, marked, in its place, merges its fields into the sink behind, and goes on
there. -/
theorem writeHeader_of_recorder (hr : s.get? id = some (.recorder r)) (hlt : r.inner < id)
    (code : Nat) :
    s.writeHeader id code =
      if r.forwarded then s.writeHeader r.inner code
      else
        let marked : Recorder :=
          { r with forwarded := true, status := some code, sentHeaders := r.headers }
        ((s.put id (.recorder marked)).modifyHeaders r.inner fun m => m.merge r.headers).writeHeader
          r.inner code := by
  rw [writeHeader, hr]
  simp only [dif_pos hlt]

/-- Octets given to a recorder go through to the sink behind it, after the first status when
none went through, and are then recorded. -/
theorem write_of_recorder (hr : s.get? id = some (.recorder r)) (hlt : r.inner < id)
    (bytes : List UInt8) :
    s.write id bytes =
      ((if r.forwarded then s else s.writeHeader id 200).write r.inner bytes).change id fun
        | .recorder r => .recorder { r with body := r.body ++ bytes }
        | k => k := by
  rw [write, hr]
  exact dif_pos hlt

theorem take_of_buffer (hb : s.get? id = some (.buffer b)) :
    (s.take id).1 = some { status := b.status.getD 200, headers := b.headers, body := b.body } := by
  simp [Sinks.take, hb]

/-- Each operation leaves in a buffer what its reference reading says. -/
theorem apply_get?_of_buffer (hb : s.get? id = some (.buffer b)) (op : WriterOp) :
    (op.apply s id).get? id = some (.buffer (b.apply op)) := by
  cases op with
  | setHeader n v =>
    cases hn : HeaderName.parse? n <;> cases hv : HeaderValue.ofText? v <;>
      simp [WriterOp.apply, setHeader, Buffer.apply, WriterOp.edit, WriterOp.status?, WriterOp.body,
        hn, hv, hb, modifyHeaders_get?_of_buffer hb]
  | addHeader n v =>
    cases hn : HeaderName.parse? n <;> cases hv : HeaderValue.ofText? v <;>
      simp [WriterOp.apply, addHeader, Buffer.apply, WriterOp.edit, WriterOp.status?, WriterOp.body,
        hn, hv, hb, modifyHeaders_get?_of_buffer hb]
  | removeHeader n =>
    cases hn : HeaderName.parse? n <;>
      simp [WriterOp.apply, removeHeader, Buffer.apply, WriterOp.edit, WriterOp.status?,
        WriterOp.body, hn, hb, modifyHeaders_get?_of_buffer hb]
  | mergeHeaders m =>
    simp [WriterOp.apply, mergeHeaders, Buffer.apply, WriterOp.edit, WriterOp.status?,
      WriterOp.body, modifyHeaders_get?_of_buffer hb]
  | writeHeader code =>
    simp [WriterOp.apply, Buffer.apply, WriterOp.edit, WriterOp.status?, WriterOp.body,
      writeHeader_get?_buffer hb]
  | write bytes =>
    cases hs : b.status <;>
      simp [WriterOp.apply, Buffer.apply, WriterOp.edit, WriterOp.status?, WriterOp.body,
        write_get?_of_buffer hb, hs]
  | error code message =>
    -- the fields, then the status, then the message
    have hheaders := modifyHeaders_get?_of_buffer hb (WriterOp.error code message).edit
    have hstatus := writeHeader_get?_buffer hheaders code
    rw [WriterOp.apply_error, write_get?_of_buffer hstatus]
    cases hs : b.status <;> simp [Buffer.apply, WriterOp.status?, WriterOp.body, hs]

/-- A list of operations leaves in a buffer what the reference reading of the list says. -/
theorem foldl_apply_get?_of_buffer (hb : s.get? id = some (.buffer b)) (ops : List WriterOp) :
    (ops.foldl (fun s op => op.apply s id) s).get? id =
      some (.buffer (ops.foldl Buffer.apply b)) := by
  induction ops generalizing s b with
  | nil => exact hb
  | cons op ops ih => exact ih (apply_get?_of_buffer hb op)

end Sinks

/-- An operation that commits no status only changes the fields of its sink. -/
theorem WriterOp.apply_eq_modifyHeaders {op : WriterOp} (h : op.status? = none) (s : Sinks)
    (id : Nat) : op.apply s id = s.modifyHeaders id fun m => op.edit m := by
  cases op with
  | setHeader n v =>
    cases hn : HeaderName.parse? n <;> cases hv : HeaderValue.ofText? v <;>
      simp [WriterOp.apply, Sinks.setHeader, WriterOp.edit, hn, hv, Sinks.modifyHeaders_id]
  | addHeader n v =>
    cases hn : HeaderName.parse? n <;> cases hv : HeaderValue.ofText? v <;>
      simp [WriterOp.apply, Sinks.addHeader, WriterOp.edit, hn, hv, Sinks.modifyHeaders_id]
  | removeHeader n =>
    cases hn : HeaderName.parse? n <;>
      simp [WriterOp.apply, Sinks.removeHeader, WriterOp.edit, hn, Sinks.modifyHeaders_id]
  | mergeHeaders m => rfl
  | writeHeader code => simp [WriterOp.status?] at h
  | write bytes => simp [WriterOp.status?] at h
  | error code message => simp [WriterOp.status?] at h

/-- The sinks hold the recorder `r` under `id`, in front of a buffer that held `b₀` when the
recorder was made and holds now what the recorder let through. -/
structure Sinks.Records (s : Sinks) (id : Nat) (b₀ : Buffer) (r : Recorder) : Prop where
  /-- The sink behind was made before the recorder. -/
  inner_lt : r.inner < id
  /-- The recorder stands under its handle. -/
  recorder : s.get? id = some (.recorder r)
  /-- A status went through exactly when the recorder remembers one. -/
  forwarded : r.forwarded = r.status.isSome
  /-- No octet goes through before the status. -/
  quiet : r.status = none → r.body = []
  /-- The buffer behind holds what the recorder let through. -/
  behind : s.get? r.inner = some (.buffer (r.passedOn b₀))

namespace Sinks.Records

variable {s : Sinks} {id : Nat} {b₀ : Buffer} {r : Recorder}

theorem status_eq_some (h : s.Records id b₀ r) (hf : r.forwarded = true) :
    ∃ code, r.status = some code :=
  Option.isSome_iff_exists.mp (h.forwarded ▸ hf)

theorem status_eq_none (h : s.Records id b₀ r) (hf : r.forwarded = false) : r.status = none :=
  Option.not_isSome_iff_eq_none.mp (by rw [← h.forwarded, hf]; decide)

theorem modifyHeaders (h : s.Records id b₀ r) (f : HeaderMap → HeaderMap) :
    (s.modifyHeaders id f).Records id b₀ { r with headers := f r.headers } where
  inner_lt := h.inner_lt
  recorder := modifyHeaders_get?_of_recorder h.recorder f
  forwarded := h.forwarded
  quiet := h.quiet
  behind := by
    rw [get?_modifyHeaders_of_ne (Nat.ne_of_lt h.inner_lt)]
    exact h.behind

/-- A status given to the recorder: the first goes through, the recorder's fields merged into the
buffer behind; a later one changes nothing, the buffer behind having a status. -/
theorem writeHeader (h : s.Records id b₀ r) (code : Nat) :
    (s.writeHeader id code).Records id b₀ (r.commit code) := by
  rw [writeHeader_of_recorder h.recorder h.inner_lt]
  cases hf : r.forwarded with
  | true =>
    obtain ⟨c, hc⟩ := h.status_eq_some hf
    have hbehind : s.get? r.inner = some (.buffer (b₀.replay c r.sentHeaders r.body)) := by
      simpa [Recorder.passedOn, hc] using h.behind
    have hsame : s.writeHeader r.inner code = s := by
      rw [writeHeader_of_buffer hbehind]
      simp [Buffer.replay]
    simpa [hsame, Recorder.commit_of_forwarded hf] using h
  | false =>
    have hs := h.status_eq_none hf
    have hne : r.inner ≠ id := Nat.ne_of_lt h.inner_lt
    have hbehind : s.get? r.inner = some (.buffer b₀) := by
      simpa [Recorder.passedOn, hs] using h.behind
    let marked : Recorder :=
      { r with forwarded := true, status := some code, sentHeaders := r.headers }
    -- the recorder is marked in place, the buffer behind takes its fields, then the status
    have hput : (s.put id (.recorder marked)).get? r.inner = some (.buffer b₀) := by
      rw [get?_put_of_ne hne]
      exact hbehind
    have hmerged := modifyHeaders_get?_of_buffer hput fun m => m.merge r.headers
    have hstatus := writeHeader_get?_buffer hmerged code
    simp only [Bool.false_eq_true, if_false, Recorder.commit_of_unforwarded hf]
    refine ⟨h.inner_lt, ?_, rfl, nofun, ?_⟩
    · rw [get?_writeHeader_of_buffer hmerged (Ne.symm hne), get?_modifyHeaders_of_ne (Ne.symm hne)]
      exact get?_put_self h.recorder _
    · rw [hstatus]
      cases b₀
      simp [Recorder.passedOn, Buffer.replay, h.quiet hs]

/-- Octets given to the recorder go through after the first status, when none went through, and
are recorded. -/
theorem write (h : s.Records id b₀ r) (bytes : List UInt8) :
    (s.write id bytes).Records id b₀ { r.commit 200 with body := r.body ++ bytes } := by
  have hcommitted :
      (if r.forwarded then s else s.writeHeader id 200).Records id b₀ (r.commit 200) := by
    cases hf : r.forwarded with
    | true => simpa [Recorder.commit_of_forwarded hf] using h
    | false => simpa using h.writeHeader 200
  obtain ⟨c, hc⟩ := hcommitted.status_eq_some (Recorder.commit_forwarded r 200)
  have hne : r.inner ≠ id := Nat.ne_of_lt h.inner_lt
  have hbehind : (if r.forwarded then s else s.writeHeader id 200).get? r.inner =
      some (.buffer (b₀.replay c (r.commit 200).sentHeaders r.body)) := by
    simpa [Recorder.passedOn, hc] using hcommitted.behind
  rw [write_of_recorder h.recorder h.inner_lt]
  refine ⟨by simpa using h.inner_lt, ?_, by simp [hc], by simp [hc], ?_⟩
  · rw [get?_change_self, get?_write_of_buffer hbehind (Ne.symm hne), hcommitted.recorder]
    simp
  · rw [Recorder.commit_inner, get?_change_of_ne hne, write_get?_of_buffer hbehind]
    simp [Recorder.passedOn, hc, Buffer.replay]

/-- Each operation keeps the recorder in front of its buffer, recording what `Recorder.apply`
says. -/
theorem apply (h : s.Records id b₀ r) (op : WriterOp) :
    (op.apply s id).Records id b₀ (r.apply op) := by
  cases hop : op.status? with
  | none =>
    -- a field change stays with the recorder
    rw [WriterOp.apply_eq_modifyHeaders hop]
    simpa [Recorder.apply, hop] using h.modifyHeaders op.edit
  | some code =>
    cases op with
    | writeHeader code =>
      rw [Recorder.apply_writeHeader]
      exact h.writeHeader code
    | write bytes =>
      rw [Recorder.apply_write]
      exact h.write bytes
    | error code message =>
      -- the fields, then the status, then the message
      have hwritten := ((h.modifyHeaders (WriterOp.error code message).edit).writeHeader code).write
        (WriterOp.error code message).body
      rw [Recorder.commit_commit, Recorder.commit_body] at hwritten
      rw [WriterOp.apply_error, Recorder.apply_error]
      exact hwritten
    | _ => simp [WriterOp.status?] at hop

/-- Every sequence of operations keeps the recorder in front of its buffer. -/
theorem foldl_apply (h : s.Records id b₀ r) (ops : List WriterOp) :
    (ops.foldl (fun s op => op.apply s id) s).Records id b₀ (ops.foldl Recorder.apply r) := by
  induction ops generalizing s r with
  | nil => exact h
  | cons op ops ih => exact ih (h.apply op)

end Sinks.Records

end Switchyard

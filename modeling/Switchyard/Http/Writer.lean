import Switchyard.Http.Response
import Switchyard.Text.DebugView
/-!
# Response writers

Handlers write through handles to *sinks*; every handle to a sink sees the same sink. A sink
is either

- a **buffer**, which keeps a status, header fields and body: the first status written wins,
  and writing body octets first commits `200`; or
- a **recorder** in front of another sink, as a response cache installs it: it keeps header
  fields of its own, and on its first status forwards them (replacing fields of the same names)
  and the status to the sink behind it, remembering the status and those fields; body octets
  go through to the sink behind it and are remembered as well. Its status is the one it
  remembered; it yields no finished response.

`Sinks` holds the sinks of one request by handle, a recorder always behind a sink made before
it.
-/
namespace Switchyard

/-- A buffering sink. -/
structure Buffer where
  /-- The committed status. -/
  status : Option Nat := none
  /-- The header fields. -/
  headers : HeaderMap := {}
  /-- The body. -/
  body : List UInt8 := []
  deriving Inhabited

/-- A recording sink in front of another. -/
structure Recorder where
  /-- The handle of the sink behind it. -/
  inner : Nat
  /-- Its own header fields. -/
  headers : HeaderMap := {}
  /-- Whether a status went through. -/
  forwarded : Bool := false
  /-- The status that went through. -/
  status : Option Nat := none
  /-- Its header fields when the status went through. -/
  sentHeaders : HeaderMap := {}
  /-- The body octets that went through. -/
  body : List UInt8 := []
  deriving Inhabited

/-- A response sink. -/
inductive Sink where
  | buffer (b : Buffer)
  | recorder (r : Recorder)
  deriving Inhabited

/-- The sinks of a request by handle. -/
structure Sinks where
  /-- The sinks, the handle being the index. -/
  items : Array Sink := #[]
  deriving Inhabited

namespace HeaderMap

/-- The fields of `incoming` replace every field of the same names. -/
def merge (m incoming : HeaderMap) : HeaderMap :=
  let names := incoming.names
  ⟨(m.fields.filter fun f => !names.contains f.1) ++ incoming.fields⟩

end HeaderMap

namespace Sinks

/-- Adds a sink; its handle is the former size. -/
def add (s : Sinks) (k : Sink) : Sinks × Nat := (⟨s.items.push k⟩, s.items.size)

/-- The sink of a handle. -/
def get? (s : Sinks) (id : Nat) : Option Sink := s.items[id]?

/-- Replaces the sink of a handle. -/
def put (s : Sinks) (id : Nat) (k : Sink) : Sinks := ⟨s.items.set! id k⟩

/-- Changes the sink of a handle. -/
def change (s : Sinks) (id : Nat) (f : Sink → Sink) : Sinks := ⟨s.items.modify id f⟩

/-- Adds an empty buffer. -/
def fresh (s : Sinks) : Sinks × Nat := s.add (.buffer {})

/-- A sink's own header fields. -/
def headers (s : Sinks) (id : Nat) : HeaderMap :=
  match s.get? id with
  | some (.buffer b) => b.headers
  | some (.recorder r) => r.headers
  | none => {}

/-- Changes a sink's own header fields. -/
def modifyHeaders (s : Sinks) (id : Nat) (f : HeaderMap → HeaderMap) : Sinks :=
  s.change id fun
    | .buffer b => .buffer { b with headers := f b.headers }
    | .recorder r => .recorder { r with headers := f r.headers }

/-- A sink's status: committed for a buffer, remembered for a recorder. -/
def status (s : Sinks) (id : Nat) : Option Nat :=
  match s.get? id with
  | some (.buffer b) => b.status
  | some (.recorder r) => r.status
  | none => none

/-- Commits a status. -/
def writeHeader (s : Sinks) (id : Nat) (code : Nat) : Sinks :=
  match s.get? id with
  | some (.buffer b) =>
    if b.status.isSome then s else s.put id (.buffer { b with status := some code })
  | some (.recorder r) =>
    if _ : r.inner < id then
      if r.forwarded then writeHeader s r.inner code
      else
        let r' : Recorder := { r with forwarded := true, status := some code, sentHeaders := r.headers }
        let s := s.put id (.recorder r')
        let s := s.modifyHeaders r.inner fun m => m.merge r.headers
        writeHeader s r.inner code
    else s
  | none => s
termination_by id

/-- Appends body octets, committing `200` first when no status is committed. -/
def write (s : Sinks) (id : Nat) (bytes : List UInt8) : Sinks :=
  match s.get? id with
  | some (.buffer b) =>
    s.put id (.buffer { b with status := some (b.status.getD 200), body := b.body ++ bytes })
  | some (.recorder r) =>
    if _ : r.inner < id then
      let s := if r.forwarded then s else s.writeHeader id 200
      let s := write s r.inner bytes
      s.change id fun
        | .recorder r => .recorder { r with body := r.body ++ bytes }
        | k => k
    else s
  | none => s
termination_by id

/-- Takes the finished response out of a buffer, leaving it empty; a recorder has none. -/
def take (s : Sinks) (id : Nat) : Option Response × Sinks :=
  match s.get? id with
  | some (.buffer b) =>
    (some { status := b.status.getD 200, headers := b.headers, body := b.body }, s.put id (.buffer {}))
  | _ => (none, s)

/-- Replaces every field of a name by one; an invalid name or value is ignored. -/
def setHeader (s : Sinks) (id : Nat) (name value : String) : Sinks :=
  match HeaderName.parse? name, HeaderValue.ofText? value with
  | some n, some v => s.modifyHeaders id fun m => m.insert n v
  | _, _ => s

/-- Adds a field; an invalid name or value is ignored. -/
def addHeader (s : Sinks) (id : Nat) (name value : String) : Sinks :=
  match HeaderName.parse? name, HeaderValue.ofText? value with
  | some n, some v => s.modifyHeaders id fun m => m.append n v
  | _, _ => s

/-- Drops every field of a name. -/
def removeHeader (s : Sinks) (id : Nat) (name : String) : Sinks :=
  match HeaderName.parse? name with
  | some n => s.modifyHeaders id fun m => m.remove n
  | none => s

/-- The first value of a field of the sink's own fields, as text. -/
def header (s : Sinks) (id : Nat) (name : String) : Option String := (s.headers id).lookup name

/-- Merges fields into a sink's own fields. -/
def mergeHeaders (s : Sinks) (id : Nat) (incoming : HeaderMap) : Sinks :=
  s.modifyHeaders id fun m => m.merge incoming

/-- Whether a sink has a status. -/
def committed (s : Sinks) (id : Nat) : Bool := (s.status id).isSome

/-- A plain-text error: the plain-text and no-sniffing fields, the status, then the message
and a newline. -/
def error (s : Sinks) (id : Nat) (code : Nat) (message : String) : Sinks :=
  let s := s.modifyHeaders id fun m =>
    (m.insert ⟨"content-type"⟩ ⟨Utf8.encode Response.plainText⟩).insert ⟨"x-content-type-options"⟩
      ⟨Utf8.encode "nosniff"⟩
  let s := s.writeHeader id code
  s.write id (Utf8.encode (message ++ "\n"))

/-- The debugging view of a writer handle. -/
def debugText (s : Sinks) (id : Nat) : String :=
  DebugView.record "Writer" [("status", DebugView.option toString (s.status id))] true

end Sinks

end Switchyard

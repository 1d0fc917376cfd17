import Switchyard.Dispatch.World
import Switchyard.Script.Action
import Switchyard.Body.Csv
import Switchyard.Body.Xml
import Switchyard.Auth.Jwt
import Switchyard.Text.Unicode
/-!
# Single steps of scripts and stages

What one action, one probe and one stock stage do, given the two things that recurse: the rest
of the pipeline (`next`) and the branch a conditional action picks. Keeping those as arguments
keeps every definition here non-recursive; the pipeline module ties the knot.

A script runs in a *frame*: whether it has the context, and the writer and request its shape
hands it. Without a writer of its own a script writes through the context's writer, without a
request of its own it reads the context's request; the context's response helpers (`text` with
a context, `html`, `json`, `render` and the like) always write through the context's writer.
-/
namespace Switchyard

/-- What a running script can reach. -/
structure Frame where
  /-- Whether the script has the context. -/
  context : Bool := false
  /-- The writer its shape hands it. -/
  writer : Option Nat := none
  /-- The request its shape hands it. -/
  request : Option Nat := none
  /-- The error an error hook receives. -/
  hookError : Option Error := none
  deriving Inhabited

namespace Frame

/-- The writer a script writes through, if it has one. -/
def writerId? (f : Frame) : Run (Option Nat) := do
  match f.writer with
  | some w => pure (some w)
  | none => if f.context then pure (some (← Run.context).writer) else pure none

/-- The writer a script writes through. -/
def writerId (f : Frame) : Run Nat := do
  match ← f.writerId? with
  | some w => pure w
  | none => Run.fail (.handler "the handler has no writer")

/-- The request a script reads, if it has one. -/
def requestId? (f : Frame) : Run (Option Nat) := do
  match f.request with
  | some r => pure (some r)
  | none => if f.context then pure (some (← Run.context).request) else pure none

/-- The request whose form and cookies a script reads: the context's, when it has one. -/
def formRequestId? (f : Frame) : Run (Option Nat) := do
  if f.context then pure (some (← Run.context).request) else pure f.request

/-- Fails unless the script has the context. -/
def needContext (f : Frame) : Run Unit :=
  if f.context then pure () else Run.fail (.handler "the handler has no context")

/-- The context's writer, for the context's response helpers. -/
def contextWriter (f : Frame) : Run Nat := do
  f.needContext
  pure (← Run.context).writer

end Frame

/-! ## Writing -/

namespace Run

/-- Sets the content type, commits a status and writes a body. -/
def respond (w : Nat) (contentType : Option String) (status : Nat) (body : List UInt8) : Run Unit :=
  modifySinks fun s =>
    let s := match contentType with
      | some ct => s.setHeader w "content-type" ct
      | none => s
    (s.writeHeader w status).write w body

/-- A JSON body: the compact text and a newline. -/
def jsonBody (v : Json) : List UInt8 := Utf8.encode (v.compact ++ "\n")

/-- Answers with a JSON body. -/
def respondJson (w : Nat) (status : Nat) (v : Json) : Run Unit :=
  respond w (some "application/json; charset=utf-8") status (jsonBody v)

/-- The JSON envelope of a success or failure answer. -/
def envelope (success : Bool) (message : String) (body : Json) : Json :=
  Json.object [("meta", Json.object [("success", .bool success), ("message", .str message)]),
    ("body", body)]

/-- The page that sends a browser on to a URL. -/
def redirectPage (url : String) : String :=
  "<!DOCTYPE HTML>\n<html lang=\"en-US\">\n<head>\n<meta charset=\"UTF-8\">\n" ++
  "<meta http-equiv=\"refresh\" content=\"0; url=" ++ url ++ "\">\n" ++
  "<script type=\"text/javascript\">window.location.href = \"" ++ url ++ "\"</script>\n" ++
  "<title>Page Redirection</title>\n</head>\n" ++
  "<body><a href=\"" ++ url ++ "\">Redirection</a>.</body>\n</html>\n"

/-- The HTML content type. -/
def htmlType : String := "text/html; charset=utf-8"

end Run

/-! ## Form values -/

namespace FormType

/-- The integer kind of an integer type. -/
def intKind? : FormType → Option IntKind
  | .i64 => some IntKind.i64
  | .u64 => some IntKind.u64
  | .i32 => some IntKind.i32
  | .u32 => some IntKind.u32
  | .u8 => some IntKind.u8
  | .i8 => some IntKind.i8
  | .u16 => some IntKind.u16
  | _ => none

/-- A float as a trace shows it. -/
def floatJson (x : Binary64) : Json := .str (x.render FloatStyle.debug)

/-- A form value read as a type, as the trace shows it, or why it does not read. -/
def parse (t : FormType) (raw : String) : Except String Json :=
  match t.intKind? with
  | some k =>
    match readInt k 10 raw with
    | .ok n => .ok (Json.int n)
    | .error e => .error e.message
  | none =>
    match t with
    | .f64 =>
      match readFloat raw with
      | .ok x => .ok (floatJson x)
      | .error e => .error e.message
    | .bool => (readBool raw).map Json.bool
    | .char => (readChar raw).map fun c => .str (String.singleton c)
    | _ => .ok (.str raw)

/-- A JSON value converted to a type, as the trace shows it, if it converts. -/
def ofJson? (t : FormType) (j : Json) : Option Json :=
  match t.intKind?, j with
  | some k, .num (.pos n) => if n ≤ k.max then some (Json.nat n) else none
  | some k, .num (.neg n) => if k.signed ∧ n ≤ k.minMagnitude then some (Json.int (-(n : Int))) else none
  | some _, _ => none
  | none, _ =>
    match t, j with
    | .f64, .num (.pos n) => some (floatJson (Binary64.ofNat n))
    | .f64, .num (.neg n) => some (floatJson (Binary64.ofNat n).neg)
    | .f64, .num (.float x) => some (floatJson x)
    | .bool, .bool b => some (.bool b)
    | .char, .str s => if s.length = 1 then some (.str s) else none
    | .string, .str s => some (.str s)
    | _, _ => none

/-- The default value of a type, as the trace shows it. -/
def zero : FormType → Json
  | .f64 => .str "0.0"
  | .bool => .bool false
  | .char => .str (String.singleton (Char.ofNat 0))
  | .string => .str ""
  | _ => Json.nat 0

/-- The fallback of a read: the JSON value converted, or a text of it read, or the default. -/
def fallback (t : FormType) (j : Json) : Json :=
  match t.ofJson? j with
  | some v => v
  | none =>
    match j with
    | .str s => match t.parse s with
      | .ok v => v
      | .error _ => t.zero
    | _ => t.zero

end FormType

namespace Run

/-- The values of a form key on a request. -/
def formValues (id : Nat) (key : String) : Run (Option (List String)) := do
  let r ← readForm id
  pure (r.form.lookup key)

/-- The first value of a form key a script reads. -/
def formValue (f : Frame) (key : String) : Run (Option String) := do
  match ← f.formRequestId? with
  | some id => pure ((← formValues id key).bind List.head?)
  | none => pure none

end Run

/-! ## Probes -/

/-- The bag value as a probe shows it. -/
def BagValue.toJson : BagValue → Json
  | .text s => Json.object [("string", .str s)]
  | .count n => Json.object [("u64", Json.nat n)]
  | .json j => Json.object [("json", j)]

/-- The value a probe reads. -/
def probeValue (f : Frame) : Probe → Run Json
  | .path => fromRequest fun r => .str r.path
  | .method => fromRequest fun r => .str r.method
  | .host => fromRequest fun r => .str r.host
  | .scheme => fromRequest fun r => Json.optStr r.scheme
  | .remoteAddr => fromRequest fun r => Json.optStr r.remoteAddr
  | .queryString => fromRequest fun r => Json.optStr r.queryString
  | .body => fromRequest fun r => .str (Utf8.decodeLossy r.body)
  | .header n => fromRequest fun r => Json.optStr (r.header n)
  | .cookie n => do
    match ← f.formRequestId? with
    | some id => pure (Json.optStr ((← Run.request id).cookie n))
    | none => pure .null
  | .params => withContext fun c => c.params.toJson
  | .param n => withContext fun c => Json.optStr (c.params.get? n)
  | .formValue k => do pure (Json.optStr (← Run.formValue f k))
  | .has k => do
    match ← f.formRequestId? with
    | some id => pure (.bool (← Run.formValues id k).isSome)
    | none => pure .null
  | .getAll k => do
    match ← f.formRequestId? with
    | some id => pure (.arr (((← Run.formValues id k).getD []).map Json.str))
    | none => pure .null
  | .value k => withContext fun c => match c.get? k with
    | some v => v.toJson
    | none => .null
  | .session k => withContext fun c => (c.session.get k).getD .null
  | .respHeader n => fromWriter fun s w => Json.optStr (s.header w n)
  | .status => fromWriter fun s w => match s.status w with
    | some st => Json.nat st
    | none => .null
  | .committed => fromWriter fun s w => .bool (s.committed w)
  | .cancelled => withContext fun c => .bool c.cancelled
  | .error => pure (match f.hookError with
    | some e => e.toJson
    | none => .null)
  | .errorStatus => pure (match f.hookError with
    | some e => Json.nat e.statusCode
    | none => .null)
  | .errorPublic => pure (match f.hookError with
    | some e => .str e.publicMessage
    | none => .null)
  | .count n => do pure (Json.nat (← Run.counter n))
  | .debug => do
    if f.context then
      let c ← Run.context
      pure (.str (c.debugText (← Run.request c.request)))
    else pure .null
  | .debugWriter => fromWriter fun s w => .str (s.debugText w)
where
  /-- A value of the script's request. -/
  fromRequest (g : Request → Json) : Run Json := do
    match ← f.requestId? with
    | some id => pure (g (← Run.request id))
    | none => pure .null
  /-- A value of the context. -/
  withContext (g : Context → Json) : Run Json := do
    if f.context then pure (g (← Run.context)) else pure .null
  /-- A value of the script's writer. -/
  fromWriter (g : Sinks → Nat → Json) : Run Json := do
    match ← f.writerId? with
    | some w => pure (g (← Run.sinks) w)
    | none => pure .null

/-- The text an echo writes for a value: a text as it is, anything else as compact JSON. -/
def echoText : Json → String
  | .str s => s
  | j => j.compact

/-! ## Actions -/

/-- Runs one action, given the rest of the pipeline and the runner of a conditional's branches:
`branch true` runs its first list, `branch false` its second. -/
def step (f : Frame) (next : Run Unit) (branch : Bool → Run Unit) : Action → Run Unit
  | .mark s => Run.note (.str s)
  | .probe p => do Run.note (← probeValue f p)
  | .echo p => do
    let v ← probeValue f p
    let w ← f.writerId
    Run.modifySinks fun s => s.write w (Utf8.encode (echoText v))
  | .next => do f.needContext; next
  | .nextTry => do
    f.needContext
    match ← Run.attempt next with
    | .ok () => Run.note (.str "next:ok")
    | .error (.fail e) => Run.note (Json.object [("next_error", e.toJson)])
    | .error h => throw h
  | .stop => throw .stop
  | .text status body => do
    let w ← if f.context then f.contextWriter else f.writerId
    Run.respond w none status (Utf8.encode body)
  | .html status body => do
    let w ← f.contextWriter
    Run.respond w (some Run.htmlType) status (Utf8.encode body)
  | .json status v => do Run.respondJson (← f.contextWriter) status v
  | .csv status records => do
    let w ← f.contextWriter
    let body ← Run.ofExcept (csvBody records)
    Run.respond w (some "text/csv; charset=utf-8") status body
  | .success message v => do Run.respondJson (← f.contextWriter) 200 (Run.envelope true message v)
  | .fail status message v => do
    Run.respondJson (← f.contextWriter) status (Run.envelope false message v)
  | .redirect url status => do
    let w ← f.contextWriter
    Run.modifySinks fun s => (s.addHeader w "location" url).writeHeader w status
  | .redirectHtml url => do
    Run.respond (← f.contextWriter) (some Run.htmlType) 302 (Utf8.encode (Run.redirectPage url))
  | .render status name data => do
    let w ← f.contextWriter
    if !(← Run.context).templates then
      Run.fail (.template "no template engine configured")
    Run.modifySinks fun s => (s.setHeader w "content-type" Run.htmlType).writeHeader w status
    if name == "missing" then Run.fail (.template ("template \x60missing\x60 not found"))
    Run.modifySinks fun s => s.write w (Utf8.encode (name ++ ":" ++ data.compact))
  | .xml status v => do
    let w ← f.contextWriter
    let body ← Run.ofExcept (xmlBody v)
    Run.respond w (some "application/xml; charset=utf-8") status body
  | .failErr status v => do
    let message := (f.hookError.map Error.message).getD ""
    Run.respondJson (← f.contextWriter) status (Run.envelope false message v)
  | .errText status => do
    let message := (f.hookError.map Error.message).getD ""
    Run.respond (← f.contextWriter) none status (Utf8.encode message)
  | .write s => do
    let w ← f.writerId
    Run.modifySinks fun k => k.write w (Utf8.encode s)
  | .writeHeader status => do
    let w ← f.writerId
    Run.modifySinks fun s => s.writeHeader w status
  | .setHeader n v => do
    let w ← f.writerId
    Run.modifySinks fun s => s.setHeader w n v
  | .addHeader n v => do
    let w ← f.writerId
    Run.modifySinks fun s => s.addHeader w n v
  | .removeHeader n => do
    let w ← f.writerId
    Run.modifySinks fun s => s.removeHeader w n
  | .writerError status message => do
    let w ← f.writerId
    Run.modifySinks fun s => s.error w status message
  | .takeResponse => do
    let w ← f.writerId
    let (r, s) := (← Run.sinks).take w
    Run.modifySinks fun _ => s
    Run.note (Json.object [("taken", match r with
      | some r => r.toJson
      | none => .null)])
  | .sleep ms => modify fun w => { w with elapsed := w.elapsed + ms }
  | .setCookie c => do
    let w ← f.contextWriter
    Run.modifySinks fun s => s.addHeader w "set-cookie" c.render
  | .deleteCookie n => do
    let w ← f.contextWriter
    Run.modifySinks fun s => s.addHeader w "set-cookie" (Cookie.removal n).render
  | .failStatus status message => Run.fail (.status status message)
  | .failWith e => Run.fail e
  | .panic p => throw (.panic p)
  | .formGet key t => do
    match ← Run.formValue f key with
    | none => Run.fail (.decode ("missing form value \x60" ++ key ++ "\x60"))
    | some raw =>
      match t.parse raw with
      | .ok v => Run.note v
      | .error e => Run.fail (.decode ("form value \x60" ++ key ++ "\x60: " ++ e))
  | .getOpt key t => do
    let v := (← Run.formValue f key).bind fun raw => (t.parse raw).toOption
    Run.note (v.getD .null)
  | .getOr key t d => do
    let v := (← Run.formValue f key).bind fun raw => (t.parse raw).toOption
    Run.note (v.getD (t.fallback d))
  | .decodeJson target => do
    f.needContext
    let r ← Run.request (← Run.context).request
    let v ← Run.ofExcept (target.decode r.body)
    Run.note (Json.object [("decoded", v)])
  | .setValue k v => do
    f.needContext
    let b : BagValue := match v with
      | .str s => .text s
      | .num (.pos n) => .count n
      | j => .json j
    Run.modifyContext fun c => c.set k b
  | .sessionSet k v => withSession fun s => s.set k v
  | .sessionDelete k => withSession fun s => s.delete k
  | .flash m => withSession fun s => s.flash m
  | .refresh => withSession fun s => s.refresh
  | .flashes => do
    f.needContext
    let (ms, s) ← Run.ofExcept (← Run.context).session.takeFlashes
    Run.modifyContext fun c => { c with session := s }
    Run.note (Json.object [("flashes", .arr (ms.map Json.str))])
  | .resolve t => do
    f.needContext
    let v ← Run.resolveIn (← Run.context).scope t
    Run.note (Json.object [("resolved", v)])
  | .setRequestHeader n v => do
    f.needContext
    Run.requestMut fun r => r.setHeader n v
  | .setParam k v => do
    f.needContext
    Run.modifyContext fun c => { c with params := c.params.insert k v }
  | .cancel => do
    f.needContext
    Run.modifyContext fun c => { c with cancelled := true }
  | .count name => do
    let n ← Run.bump name
    Run.note (.str (name ++ "=" ++ toString n))
  | .countText status name => do
    let n ← Run.bump name
    let w ← f.writerId
    Run.modifySinks fun s => (s.writeHeader w status).write w (Utf8.encode (name ++ " " ++ toString n))
  | .countHeader header name => do
    let n ← Run.counter name
    let w ← f.writerId
    Run.modifySinks fun s => s.setHeader w header (toString n)
  | .ifHeader name _ _ => do
    let readable ← match ← f.requestId? with
      | some id => pure ((← Run.request id).header name).isSome
      | none => pure false
    branch readable
  | .ifCount name bound _ _ => do
    let n ← Run.counter name
    branch (decide (n < bound))
where
  /-- Changes the context's session through one of its operations. -/
  withSession (g : Session → Except Error Session) : Run Unit := do
    f.needContext
    let s ← Run.ofExcept (g (← Run.context).session)
    Run.modifyContext fun c => { c with session := s }

/-! ## Stock stages -/

/-- A token bucket's answer to a request at an instant, in milliseconds of real time, with the
bucket after it. The bucket first gains the whole tokens earned since its last refill, at
`refill` a second and up to `capacity`; its refill instant moves only when it gains one, so the
fraction of a token earned so far carries over to the next request. The request is admitted
when a token is left, and takes it. -/
def Bucket.draw (capacity refill now : Nat) (b : Bucket) : Bool × Bucket :=
  let gained := (now - b.lastRefill) * refill / 1000
  let b := if gained > 0 then ⟨min (b.tokens + gained) capacity, now⟩ else b
  if b.tokens > 0 then (true, { b with tokens := b.tokens - 1 }) else (false, b)

/-- A rate limiter's answer to a request of a client at an instant, with its buckets after it;
a client seen for the first time starts with a full bucket. -/
def allowClient (capacity refill : Nat) (key : String) (now : Nat)
    (buckets : List (String × Bucket)) : Bool × List (String × Bucket) :=
  let (allowed, b) := ((buckets.lookup key).getD ⟨capacity, now⟩).draw capacity refill now
  (allowed, (key, b) :: buckets.filter (·.1 != key))

/-- Runs a stock middleware, given the rest of the pipeline. -/
def stockStage (next : Run Unit) : Stock → Run Unit
  | .cors origin methods headers => do
    let c ← Run.context
    Run.modifySinks fun s =>
      ((s.setHeader c.writer "Access-Control-Allow-Origin" origin).setHeader c.writer
        "Access-Control-Allow-Methods" methods).setHeader c.writer "Access-Control-Allow-Headers" headers
    if (← Run.request c.request).method == "OPTIONS" then
      Run.modifySinks fun s => s.writeHeader c.writer 204
    else next
  | .proxyHeaders => do
    let r ← Run.request (← Run.context).request
    let forwardedFor := (r.header "x-forwarded-for").bind fun v =>
      let first := Unicode.trim ((v.splitOn ",").headD "")
      if first.isEmpty then none else some first
    let forwardedProto := r.header "x-forwarded-proto"
    if forwardedFor.isSome || forwardedProto.isSome then
      Run.requestMut fun r =>
        let r := match forwardedFor with
          | some a => { r with remoteAddr := some a }
          | none => r
        match forwardedProto with
        | some p => { r with scheme := some p }
        | none => r
    next
  | .refreshSession => do
    match (← Run.context).session.refresh with
    | .ok s => Run.modifyContext fun c => { c with session := s }
    | .error _ => pure ()
    next
  | .logging _ => next
  | .rateLimit limiter capacity refill => do
    let c ← Run.context
    let key := ((← Run.request c.request).remoteAddr).getD "unknown"
    let w ← get
    let (allowed, buckets) := allowClient capacity refill key w.elapsed (w.limiters.getD limiter [])
    modify fun w => { w with limiters := (w.limiters ++ Array.replicate (limiter + 1 - w.limiters.size) []).set! limiter buckets }
    if allowed then next
    else Run.respondJson c.writer 429 (Json.object [("error", .str "Rate limit exceeded")])
  | .jwt secret => do
    let c ← Run.context
    let token := ((← Run.request c.request).header "authorization").bind fun h =>
      if h.startsWith "Bearer " then some (String.ofList (h.toList.drop 7)) else none
    match token with
    | none =>
      Run.respondJson c.writer 401
        (Json.object [("error", .str "Missing or invalid Authorization header")])
    | some t =>
      match Jwt.verify secret t with
      | some claims =>
        Run.modifyContext fun c => c.set "claims" (.json claims)
        next
      | none => Run.respondJson c.writer 401 (Json.object [("error", .str "Unauthorized")])

/-- The current time of a cache slot's clock. -/
def cacheNow (wall : Bool) : Run Nat := do
  let w ← get
  pure (if wall then w.elapsed else w.clock)

/-- Runs a response cache stage over a slot, given the rest of the pipeline: a fresh entry is
replayed; otherwise the rest runs through a recorder, and what it recorded is kept, expiring
`ttl` after the clock then reads, an instant that may lie past the last one. -/
def cacheStage (next : Run Unit) (slot ttl : Nat) (wall : Bool) : Run Unit := do
  let now ← cacheNow wall
  let c ← Run.context
  match (← get).caches.getD slot none with
  | some e =>
    if now < e.expiresAt then
      Run.modifySinks fun s =>
        ((s.mergeHeaders c.writer e.headers).writeHeader c.writer e.status).write c.writer e.body
    else miss c.writer
  | none => miss c.writer
where
  /-- Runs the rest through a recorder and keeps its recording. -/
  miss (original : Nat) : Run Unit := do
    let (sinks, recorder) := (← Run.sinks).add (.recorder { inner := original })
    Run.modifySinks fun _ => sinks
    Run.modifyContext fun c => { c with writer := recorder }
    let r ← Run.attempt next
    match r with
    | .error (.panic p) => throw (.panic p)
    | _ => pure ()
    Run.modifyContext fun c => { c with writer := original }
    Run.resume r
    if !(← Run.sinks).committed recorder then
      Run.modifySinks fun s => s.writeHeader recorder 200
    match (← Run.sinks).get? recorder with
    | some (.recorder rec) =>
      let expiresAt ← Run.addDuration (← cacheNow wall) ttl
      let entry : CacheEntry :=
        { status := rec.status.getD 200, headers := rec.sentHeaders, body := rec.body, expiresAt }
      modify fun w =>
        let caches := w.caches ++ Array.replicate (slot + 1 - w.caches.size) none
        { w with caches := caches.set! slot (some entry) }
    | _ => pure ()

/-- Serves a file of the tree for a request through a writer, or answers `404`. -/
def filesStage (w request : Nat) (strip : String) (root : List String) : Run Unit := do
  let r ← Run.request request
  let tree := (← get).files
  let found := (tree.servedPath root strip r.path).bind fun p =>
    (tree.fileAt? p).map fun octets => (p, octets)
  match found with
  | some (p, octets) =>
    Run.respond w (some (contentType (p.getLastD ""))) 200 octets
  | none => Run.modifySinks fun s => s.error w 404 "404 page not found"

end Switchyard

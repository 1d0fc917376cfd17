import Switchyard.Script.Spec
import Switchyard.Handler
/-!
# Reading scripts and handlers from JSON

Scripts are written in JSON: an action is a name, or an array of a name and its arguments; a
probe likewise. A handler is an array of actions (a context handler), `"noop"`, an object
with a `shape` and the actions under `do`, or an object naming a stock middleware under `mw`.

Rate limiters are shared by name: the first `rate_limit` description naming a `shared` key
builds the limiter, and every later one naming that key is the same middleware, whatever its
other fields say. `Limiters` carries what was built so far while handlers are read.
-/
namespace Switchyard

namespace Decode

/-- The text of a JSON value, if it is one. -/
def text? : Json → Option String
  | .str s => some s
  | _ => none

/-- The natural number of a JSON value, if it is one. -/
def nat? : Json → Option Nat
  | .num (.pos n) => some n
  | _ => none

/-- The text of a JSON value, empty when it is none. -/
def textOf (j : Json) : String := (text? j).getD ""

/-- The natural number of a JSON value, zero when it is none. -/
def natOf (j : Json) : Nat := (nat? j).getD 0

/-- A probe from its description. -/
def probe? : Json → Option Probe
  | .str name =>
    match name with
    | "path" => some .path
    | "method" => some .method
    | "host" => some .host
    | "scheme" => some .scheme
    | "remote_addr" => some .remoteAddr
    | "query_string" => some .queryString
    | "body" => some .body
    | "params" => some .params
    | "status" => some .status
    | "committed" => some .committed
    | "cancelled" => some .cancelled
    | "error" => some .error
    | "error_status" => some .errorStatus
    | "error_public" => some .errorPublic
    | "debug" => some .debug
    | "debug_writer" => some .debugWriter
    | _ => none
  | .arr [.str name, .str arg] =>
    match name with
    | "header" => some (.header arg)
    | "cookie" => some (.cookie arg)
    | "param" => some (.param arg)
    | "form_value" => some (.formValue arg)
    | "has" => some (.has arg)
    | "get_all" => some (.getAll arg)
    | "value" => some (.value arg)
    | "session" => some (.session arg)
    | "resp_header" => some (.respHeader arg)
    | "count" => some (.count arg)
    | _ => none
  | _ => none

/-- The type a form value is read as; an unknown name reads texts. -/
def formType (name : String) : FormType :=
  match name with
  | "i64" => .i64
  | "u64" => .u64
  | "i32" => .i32
  | "u32" => .u32
  | "u8" => .u8
  | "i8" => .i8
  | "u16" => .u16
  | "f64" => .f64
  | "bool" => .bool
  | "char" => .char
  | _ => .string

/-- The dependency type a name resolves; an unknown name resolves texts. -/
def depType (name : String) : DepType :=
  match name with
  | "u64" => .u64
  | "u32" => .u32
  | "u16" => .u16
  | "i32" => .i32
  | "bool" => .bool
  | _ => .string

/-- The records of a CSV description. -/
def records (j : Json) : List (List String) :=
  match j with
  | .arr rows => rows.map fun r => match r with
    | .arr cells => cells.map textOf
    | _ => []
  | _ => []

/-- The failure an unreadable description stands for. -/
def unreadable (what : String) : Action := .failWith (.handler ("unreadable action: " ++ what))

/-- An action without nested scripts, from its name and arguments. -/
def simpleAction (name : String) (args : List Json) : Action :=
  match name, args with
  | "mark", [s] => .mark (textOf s)
  | "probe", [p] => match probe? p with
    | some p => .probe p
    | none => unreadable "probe"
  | "echo", [p] => match probe? p with
    | some p => .echo p
    | none => unreadable "echo"
  | "next", [] => .next
  | "next_try", [] => .nextTry
  | "stop", [] => .stop
  | "text", [st, s] => .text (natOf st) (textOf s)
  | "html", [st, s] => .html (natOf st) (textOf s)
  | "json", [st, v] => .json (natOf st) v
  | "csv", [st, rs] => .csv (natOf st) (records rs)
  | "success", [m, v] => .success (textOf m) v
  | "fail", [st, m, v] => .fail (natOf st) (textOf m) v
  | "redirect", [url, st] => .redirect (textOf url) (natOf st)
  | "redirect_html", [url] => .redirectHtml (textOf url)
  | "render", [st, n, d] => .render (natOf st) (textOf n) d
  | "xml", [st, v] => .xml (natOf st) (XmlValue.ofJson v)
  | "xml", [st, v, t] => match Record.xml? (text? t) v with
    | some x => .xml (natOf st) x
    | none => .failWith (.json "invalid type")
  | "fail_err", [st, v] => .failErr (natOf st) v
  | "err_text", [st] => .errText (natOf st)
  | "write", [s] => .write (textOf s)
  | "write_header", [st] => .writeHeader (natOf st)
  | "set_header", [n, v] => .setHeader (textOf n) (textOf v)
  | "add_header", [n, v] => .addHeader (textOf n) (textOf v)
  | "remove_header", [n] => .removeHeader (textOf n)
  | "writer_error", [st, m] => .writerError (natOf st) (textOf m)
  | "take_response", [] => .takeResponse
  | "sleep_ms", [n] => .sleep (natOf n)
  | "set_cookie", [c] => match Spec.cookie? c with
    | some c => .setCookie c
    | none => unreadable "set_cookie"
  | "delete_cookie", [n] => .deleteCookie (textOf n)
  | "fail_status", [st, m] => .failStatus (natOf st) (textOf m)
  | "fail_with", [e] => match Spec.error? e with
    | some e => .failWith e
    | none => unreadable "fail_with"
  | "panic", [s] => .panic (.string (textOf s))
  | "panic_str", [s] => .panic (.str (textOf s))
  | "panic_error", [e] => match Spec.error? e with
    | some e => .panic (.error e)
    | none => unreadable "panic_error"
  | "panic_opaque", [n] => .panic (.other (natOf n))
  | "form_get", [k, t] => .formGet (textOf k) (formType (textOf t))
  | "get_opt", [k, t] => .getOpt (textOf k) (formType (textOf t))
  | "get_or", [k, t, d] => .getOr (textOf k) (formType (textOf t)) d
  | "decode_json", [t] => match BodyTarget.ofName? (textOf t) with
    | some t => .decodeJson t
    | none => unreadable "decode_json"
  | "set_value", [k, v] => .setValue (textOf k) v
  | "session_set", [k, v] => .sessionSet (textOf k) v
  | "session_delete", [k] => .sessionDelete (textOf k)
  | "flash", [m] => .flash (textOf m)
  | "refresh", [] => .refresh
  | "flashes", [] => .flashes
  | "resolve", [t] => .resolve (depType (textOf t))
  | "set_request_header", [n, v] => .setRequestHeader (textOf n) (textOf v)
  | "set_param", [k, v] => .setParam (textOf k) (textOf v)
  | "cancel", [] => .cancel
  | "count", [c] => .count (textOf c)
  | "count_text", [st, c] => .countText (natOf st) (textOf c)
  | "count_header", [h, c] => .countHeader (textOf h) (textOf c)
  | _, _ => unreadable name

mutual

/-- An action from its description. -/
def action : Json → Action
  | .str name => simpleAction name []
  | .arr [.str "if_header", .str n, yes, no] => .ifHeader n (script yes) (script no)
  | .arr [.str "if_count", .str c, .num (.pos n), yes, no] => .ifCount c n (script yes) (script no)
  | .arr (.str name :: args) => simpleAction name args
  | _ => unreadable "action"

/-- A script from its description: an array of actions. -/
def script : Json → List Action
  | .arr xs => actions xs
  | _ => []

/-- Actions from their descriptions. -/
def actions : List Json → List Action
  | [] => []
  | x :: xs => action x :: actions xs

end

/-- The rate limiters built so far while reading handlers. -/
structure Limiters where
  /-- How many limiters were built. -/
  count : Nat := 0
  /-- The middlewares of shared limiters by name. -/
  shared : List (String × Handler) := []
  deriving Inhabited

/-- The script shape a name stands for. -/
def shape? (name : String) : Option ScriptShape :=
  match name with
  | "context" => some .context
  | "empty" => some .empty
  | "context_unit" => some .contextUnit
  | "empty_unit" => some .emptyUnit
  | "writer_request" => some .writerRequest
  | "request_writer" => some .requestWriter
  | "ctx_writer_request" => some .contextWriterRequest
  | "ctx_request_writer" => some .contextRequestWriter
  | "g_dep_u64" => some (.generic [.dep .u64, .writer] false false)
  | "g_dep_string_u64" => some (.generic [.dep .string, .dep .u64, .writer] false false)
  | "g_opt_string" => some (.generic [.optDep .string, .writer] false false)
  | "g_vars" => some (.generic [.vars, .writer] false false)
  | "g_ctx_vars" => some (.generic [.vars] true false)
  | "g_ctx_dep_u32" => some (.generic [.dep .u32] true false)
  | "g_json" => some (.generic [.json, .writer] false false)
  | "g_opt_json" => some (.generic [.optJson, .writer] false false)
  | "g_request" => some (.generic [.request, .writer] false false)
  | "g_injector" => some (.generic [.injector, .writer] false false)
  | "g_cancel" => some (.generic [.cancellation, .writer] false false)
  | "g_six" =>
    some (.generic [.dep .u64, .optDep .u16, .vars, .cancellation, .request, .writer] false true)
  | _ => none

/-- A stock middleware from its description, building rate limiters as needed. -/
def stock (l : Limiters) (j : Json) : Option (Handler × Limiters) :=
  match j.field? "mw" with
  | some (.str "cors") =>
    some (.stock (.cors ((Spec.text? j "origin").getD "*") ((Spec.text? j "methods").getD Stock.corsMethods)
      ((Spec.text? j "headers").getD Stock.corsHeaders)), l)
  | some (.str "proxy_headers") => some (.stock .proxyHeaders, l)
  | some (.str "refresh_session") => some (.stock .refreshSession, l)
  | some (.str "logging") => some (.stock (.logging ((Spec.bool? j "headers").getD false)), l)
  | some (.str "jwt") => some (.stock (.jwt ((Spec.text? j "secret").getD "")), l)
  | some (.str "rate_limit") =>
    let build : Handler × Limiters :=
      (.stock (.rateLimit l.count ((Spec.nat? j "capacity").getD 1) ((Spec.nat? j "refill").getD 0)),
        { l with count := l.count + 1 })
    match Spec.text? j "shared" with
    | some name =>
      match l.shared.lookup name with
      | some h => some (h, l)
      | none =>
        let (h, l) := build
        some (h, { l with shared := l.shared ++ [(name, h)] })
    | none => some build
  | _ => none

/-- A handler from its description. -/
def handler (l : Limiters) (j : Json) : Option (Handler × Limiters) :=
  match j with
  | .str "noop" => some (.noop, l)
  | .arr _ => some (.script .context (script j), l)
  | .obj _ =>
    match j.field? "shape" with
    | some (.str name) =>
      (shape? name).map fun s => (.script s (script ((j.field? "do").getD (.arr []))), l)
    | _ => stock l j
  | _ => none

end Decode

end Switchyard

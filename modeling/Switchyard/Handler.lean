import Switchyard.Script.Action
import Switchyard.Text.DebugView
/-!
# Handlers

A pipeline stage is a handler of one *shape*, which fixes what it receives: nothing, the
context, the writer and the request (in either order), the context with both, or parameters
resolved for each request (*generic*, possibly after the context). Scripts come in each shape;
the stock middlewares, the response cache and the static file server are stages too.

A generic handler is described by the type names of its parameters; an optional parameter is
absent when nothing provides it, while any other failure to resolve one stops the handler before
it runs.
-/
namespace Switchyard

/-- The shapes of handlers. -/
inductive Shape where
  | empty | context | writerRequest | requestWriter | contextWriterRequest | contextRequestWriter
  | generic
  deriving DecidableEq, Repr

/-- The name of a shape. -/
def Shape.name : Shape → String
  | .empty => "Empty"
  | .context => "Context"
  | .writerRequest => "WriterRequest"
  | .requestWriter => "RequestWriter"
  | .contextWriterRequest => "ContextWriterRequest"
  | .contextRequestWriter => "ContextRequestWriter"
  | .generic => "Generic"

/-- A parameter a generic handler resolves. -/
inductive Param where
  /-- A value of an injected type. -/
  | dep (t : DepType)
  /-- A value of an injected type, absent when nothing provides it. -/
  | optDep (t : DepType)
  /-- The captured path parameters. -/
  | vars
  /-- The body read as a JSON value. -/
  | json
  /-- The body read as a JSON value, absent when nothing provides it. -/
  | optJson
  | request | injector | cancellation | writer
  deriving DecidableEq, Repr

/-- The full type name of a parameter. -/
def Param.typeName : Param → String
  | .dep t => t.typeName
  | .optDep t => "core::option::Option<kiroute_core::resolve::Dep<" ++ t.typeName ++ ">>"
  | .vars => "kiroute_core::route::Vars"
  | .json => "kiroute_core::resolve::Json<serde_json::value::Value>"
  | .optJson => "core::option::Option<kiroute_core::resolve::Json<serde_json::value::Value>>"
  | .request => "alloc::sync::Arc<kiroute_core::request::Request>"
  | .injector => "kiroute_core::injector::Injector"
  | .cancellation => "tokio_util::sync::cancellation_token::CancellationToken"
  | .writer => "kiroute_core::writer::Writer"

/-- The shapes a script can take. -/
inductive ScriptShape where
  /-- The context; an error fails the stage. -/
  | context
  /-- Nothing. -/
  | empty
  /-- The context; an error is recorded and dropped. -/
  | contextUnit
  /-- Nothing; an error is recorded and dropped. -/
  | emptyUnit
  | writerRequest | requestWriter | contextWriterRequest | contextRequestWriter
  /-- Generic: its parameters, whether the context comes first, and whether the resolved
  parameters are recorded as one list. -/
  | generic (params : List Param) (takesContext : Bool) (together : Bool)
  deriving DecidableEq, Repr

/-- The shape of a script's handler. -/
def ScriptShape.shape : ScriptShape → Shape
  | .context | .contextUnit => .context
  | .empty | .emptyUnit => .empty
  | .writerRequest => .writerRequest
  | .requestWriter => .requestWriter
  | .contextWriterRequest => .contextWriterRequest
  | .contextRequestWriter => .contextRequestWriter
  | .generic .. => .generic

/-- The stock middlewares. -/
inductive Stock where
  /-- Cross-origin headers; preflight requests are answered with `204`. -/
  | cors (origin methods headers : String)
  /-- Takes the peer address and scheme from the forwarding headers. -/
  | proxyHeaders
  /-- Refreshes the session, ignoring a failure. -/
  | refreshSession
  /-- Logs each request. -/
  | logging (headers : Bool)
  /-- A token bucket per peer address; `limiter` names the shared bucket state. -/
  | rateLimit (limiter capacity refill : Nat)
  /-- Requires a bearer token signed with the secret. -/
  | jwt (secret : String)
  deriving DecidableEq, Repr

/-- The name a stock middleware reports. -/
def Stock.name : Stock → String
  | .cors .. => "CorsMiddleware"
  | .proxyHeaders => "ProxyHeaders"
  | .refreshSession => "RefreshSession"
  | .logging _ => "LoggingMiddleware"
  | .rateLimit .. => "RateLimitMiddleware"
  | .jwt _ => "JwtGuard"

/-- The default allowed methods of the cross-origin middleware. -/
def Stock.corsMethods : String := "GET, POST, PUT, DELETE, PATCH, OPTIONS"

/-- The default allowed headers of the cross-origin middleware. -/
def Stock.corsHeaders : String := "Content-Type, Authorization"

/-- A pipeline stage. -/
inductive Handler where
  /-- Does nothing. -/
  | noop
  /-- A script of a shape. -/
  | script (shape : ScriptShape) (actions : List Action)
  /-- A stock middleware. -/
  | stock (m : Stock)
  /-- A response cache: its slot, its time to live in milliseconds, and whether it runs on
  the wall clock. -/
  | cache (slot ttl : Nat) (wall : Bool)
  /-- A static file server: the path prefix it strips and its directory. -/
  | files (strip : String) (root : List String)

namespace Handler

/-- The shape of a handler. -/
def shape : Handler → Shape
  | .noop => .empty
  | .script s _ => s.shape
  | .stock _ => .context
  | .cache .. => .context
  | .files .. => .writerRequest

/-- The generic parameters of a handler and whether it takes the context first. -/
def generic? : Handler → Option (List Param × Bool)
  | .script (.generic ps ctx _) _ => some (ps, ctx)
  | _ => none

/-- The debugging view of a handler. -/
def debugText (h : Handler) : String :=
  match h.generic? with
  | some (ps, ctx) =>
    DebugView.record "Generic" [
      ("params", DebugView.list (ps.map fun p =>
        DebugView.record "ParamDescriptor" [("type_name", DebugView.quote p.typeName)])),
      ("takes_context", DebugView.bool ctx)]
  | none => h.shape.name

end Handler

end Switchyard

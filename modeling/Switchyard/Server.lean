import Switchyard.App.Builder
import Switchyard.Config.Server
/-!
# Servers

A server pairs an application with its settings. What a server decides before any connection
is modelled here: its debugging view, and whether its address can be bound by a process
without privileges on a host with loopback networking only:

- a port below 1024, other than `0`, is refused with permission denied;
- a loopback or unspecified address is bound;
- any other address is not available on the host.

The middlewares' debugging views and the logging setup live here too.
-/
namespace Switchyard

/-- The debugging view of server settings. -/
def ServerConfig.debugText (c : ServerConfig) : String :=
  DebugView.record "ServerConfig" [("address", c.address.toText),
    ("read_timeout", c.readTimeout.debugText), ("write_timeout", c.writeTimeout.debugText),
    ("shutdown_timeout", c.shutdownTimeout.debugText), ("max_body_size", toString c.maxBodySize),
    ("keep_alive", DebugView.bool c.keepAlive), ("templates_dir", DebugView.quote c.templatesDir)]

/-- A server for an application. -/
structure Server where
  /-- The application it serves. -/
  app : App
  /-- Its settings. -/
  config : ServerConfig

namespace Server

/-- The debugging view of a server. -/
def debugText (s : Server) : String :=
  DebugView.record "Server" [("app", s.app.debugText), ("config", s.config.debugText)]

/-- Whether an address is loopback or unspecified. -/
def localAddress : IpAddr → Bool
  | .v4 a _ _ _ => a = 127 ∨ a = 0
  | .v6 gs => gs = [0, 0, 0, 0, 0, 0, 0, 1] ∨ gs = [0, 0, 0, 0, 0, 0, 0, 0]

/-- Binds the server's address. -/
def bind (s : Server) : Except Error Unit :=
  let a := s.config.address
  if a.port ≠ 0 ∧ a.port < 1024 then
    .error (.bind a.toText ⟨.permissionDenied, "Permission denied (os error 13)"⟩)
  else if localAddress a.ip then .ok ()
  else .error (.bind a.toText ⟨.other, "Cannot assign requested address (os error 99)"⟩)

end Server

/-- The debugging view of a stock middleware. -/
def Stock.debugText : Stock → String
  | .cors origin methods headers =>
    DebugView.record "CorsMiddleware" [("allow_origin", DebugView.quote origin),
      ("allow_methods", DebugView.quote methods), ("allow_headers", DebugView.quote headers)]
  | .logging headers => DebugView.record "LoggingMiddleware" [("log_headers", DebugView.bool headers)]
  | m => m.name

/-- The name a response cache middleware reports. -/
def cacheName : String := "CacheMiddleware"

/-- The name a middleware without a name of its own reports. -/
def unnamedMiddleware : String := "Unknown"

/-- The debugging view of a response cache with a time to live in milliseconds. -/
def cacheDebugText (ttl : Nat) (warm : Bool) : String :=
  DebugView.record cacheName [("ttl", (Duration.ofMillis ttl).debugText), ("warm", DebugView.bool warm)] true

/-- The filter directive logging starts from. -/
def defaultDirective : String := "kiroute=info"

/-- Installs the process-wide log subscriber, which succeeds only when none is installed yet;
returns whether it installed one. -/
def installSubscriber (installed : Bool) : Bool × Bool := (!installed, true)

end Switchyard

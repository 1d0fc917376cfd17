import Switchyard.Config.Env
import Switchyard.Net.Addr
import Switchyard.Time.Duration
/-!
# Server settings

`ServerConfig.default` listens on `127.0.0.1:5000`, allows 60 seconds to read a request and
60 to answer it, 30 to drain on shutdown, bodies up to 1 MiB, keeps connections alive, and
looks for templates in `templates`.

`ServerConfig.ofEnv` overrides these from `HOST`, `PORT`, `READ_TIMEOUT_SECS`,
`WRITE_TIMEOUT_SECS`, `MAX_BODY_SIZE` and `TEMPLATES`. A value that does not read, or is out of
range for its field (a port above 65535, a negative count), leaves the default.
-/
namespace Switchyard

/-- The settings of a server. -/
structure ServerConfig where
  /-- The address to listen on. -/
  address : SocketAddr
  /-- Time to read a request. -/
  readTimeout : Duration
  /-- Time to answer a request. -/
  writeTimeout : Duration
  /-- Time to drain requests in flight on shutdown. -/
  shutdownTimeout : Duration
  /-- The largest body accepted, in octets. -/
  maxBodySize : Nat
  /-- Whether connections stay open between requests. -/
  keepAlive : Bool
  /-- Where templates live. -/
  templatesDir : String
  deriving DecidableEq, Repr

namespace ServerConfig

/-- The port when none is set. -/
def defaultPort : Nat := 5000

/-- The default settings. -/
def default : ServerConfig where
  address := ⟨.v4 127 0 0 1, defaultPort, 0⟩
  readTimeout := Duration.ofSecs 60
  writeTimeout := Duration.ofSecs 60
  shutdownTimeout := Duration.ofSecs 30
  maxBodySize := 1024 * 1024
  keepAlive := true
  templatesDir := "templates"

/-- A count of seconds from a variable, unless it is unset, unreadable or negative. -/
def secsOr (env : Env) (key : String) (fallback : Duration) : Duration :=
  let v := env.int key (-1)
  if v < 0 then fallback else Duration.ofSecs v.toNat

/-- The default settings with the environment's overrides. -/
def ofEnv (env : Env) : ServerConfig :=
  let d := default
  let host := env.text "HOST" d.address.ip.toText
  let ip := (IpAddr.parse? host).getD d.address.ip
  let portValue := env.int "PORT" defaultPort
  let port := if 0 ≤ portValue ∧ portValue < 65536 then portValue.toNat else defaultPort
  let bodyValue := env.int "MAX_BODY_SIZE" (-1)
  { d with
    address := ⟨ip, port, 0⟩
    readTimeout := secsOr env "READ_TIMEOUT_SECS" d.readTimeout
    writeTimeout := secsOr env "WRITE_TIMEOUT_SECS" d.writeTimeout
    maxBodySize := if bodyValue < 0 then d.maxBodySize else bodyValue.toNat
    templatesDir := env.text "TEMPLATES" "templates" }

end ServerConfig

end Switchyard

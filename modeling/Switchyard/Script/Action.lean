import Switchyard.Script.Record
import Switchyard.Http.Cookie
import Switchyard.Body.Target
import Switchyard.Injector
/-!
# Scripts

Handlers, middlewares and hooks are written as *scripts*: lists of actions run in order. An
action writes to the response, reads a value of the request or of the router and records it
in the trace, changes the request's state, calls the rest of the pipeline, fails, or panics.
A failing action ends its list with that error, which travels on like any handler error.

The values a probe can read are listed by `Probe`; the types a form value can be read as by
`FormType`.
-/
namespace Switchyard

/-- A value of the request or of the router that a script can read. -/
inductive Probe where
  | path | method | host | scheme | remoteAddr | queryString
  /-- The body as text, each ill-formed sequence read as U+FFFD. -/
  | body
  | header (name : String)
  | cookie (name : String)
  /-- The captured path parameters, as an object. -/
  | params
  | param (name : String)
  | formValue (key : String)
  | has (key : String)
  | getAll (key : String)
  /-- A request-local value: a text, a 64-bit number or a JSON value, tried in that order. -/
  | value (key : String)
  | session (key : String)
  /-- A response header field of the writer. -/
  | respHeader (name : String)
  | status | committed | cancelled
  /-- The error an error hook handles, its status and its public text. -/
  | error | errorStatus | errorPublic
  /-- A script counter. -/
  | count (name : String)
  /-- The debugging view of the context, and of the writer. -/
  | debug | debugWriter
  deriving Repr

/-- The types a form value can be read as. -/
inductive FormType where
  | i64 | u64 | i32 | u32 | u8 | i8 | u16 | f64 | bool | char | string
  deriving DecidableEq, Repr

/-- One action of a script. -/
inductive Action where
  /-- Records a text in the trace. -/
  | mark (s : String)
  /-- Records a probe's value in the trace. -/
  | probe (p : Probe)
  /-- Writes a probe's value to the body: a text as it is, anything else as compact JSON. -/
  | echo (p : Probe)
  /-- Runs the rest of the pipeline; its error ends the list. -/
  | next
  /-- Runs the rest of the pipeline and records how that went. -/
  | nextTry
  /-- Ends the list without error. -/
  | stop
  | text (status : Nat) (body : String)
  | html (status : Nat) (body : String)
  | json (status : Nat) (v : Json)
  | csv (status : Nat) (records : List (List String))
  | success (message : String) (v : Json)
  | fail (status : Nat) (message : String) (v : Json)
  | redirect (url : String) (status : Nat)
  | redirectHtml (url : String)
  | render (status : Nat) (name : String) (data : Json)
  | xml (status : Nat) (v : XmlValue)
  /-- A failure envelope with the handled error's text as message. -/
  | failErr (status : Nat) (v : Json)
  /-- The handled error's text as a plain body. -/
  | errText (status : Nat)
  | write (s : String)
  | writeHeader (status : Nat)
  | setHeader (name value : String)
  | addHeader (name value : String)
  | removeHeader (name : String)
  | writerError (status : Nat) (message : String)
  /-- Takes the finished response out of the writer and records it. -/
  | takeResponse
  /-- Lets time pass. -/
  | sleep (ms : Nat)
  | setCookie (c : Cookie)
  | deleteCookie (name : String)
  | failStatus (status : Nat) (message : String)
  | failWith (e : Error)
  | panic (payload : PanicPayload)
  | formGet (key : String) (t : FormType)
  | getOpt (key : String) (t : FormType)
  | getOr (key : String) (t : FormType) (fallback : Json)
  | decodeJson (target : BodyTarget)
  | setValue (key : String) (v : Json)
  | sessionSet (key : String) (v : Json)
  | sessionDelete (key : String)
  | flash (message : String)
  | refresh
  | flashes
  | resolve (t : DepType)
  | setRequestHeader (name value : String)
  | setParam (key value : String)
  | cancel
  /-- Counts one more and records `name=N`. -/
  | count (name : String)
  /-- Counts one more and answers `name N` with a status. -/
  | countText (status : Nat) (name : String)
  /-- Sets a response header to a counter's value. -/
  | countHeader (header name : String)
  /-- Runs the first list when the request header is readable, the second otherwise. -/
  | ifHeader (name : String) (yes no : List Action)
  /-- Runs the first list when a counter is below a bound, the second otherwise. -/
  | ifCount (name : String) (bound : Nat) (yes no : List Action)

end Switchyard

import Switchyard.App.Builder
import Switchyard.App.Serve
import Switchyard.Auth.Jwt
import Switchyard.Body.Csv
import Switchyard.Body.Target
import Switchyard.Body.Xml
import Switchyard.Config.Env
import Switchyard.Config.Server
import Switchyard.Context
import Switchyard.Crypto.Sha256
import Switchyard.Dispatch.Pipeline
import Switchyard.Dispatch.Step
import Switchyard.Dispatch.World
import Switchyard.Error
import Switchyard.Handler
import Switchyard.Http.Cookie
import Switchyard.Http.Files
import Switchyard.Http.Header
import Switchyard.Http.Method
import Switchyard.Http.Query
import Switchyard.Http.Receive
import Switchyard.Http.Request
import Switchyard.Http.Response
import Switchyard.Http.Uri
import Switchyard.Http.Writer
import Switchyard.Injector
import Switchyard.Json.Parse
import Switchyard.Json.Tape
import Switchyard.Json.Value
import Switchyard.Net.Addr
import Switchyard.Number.Binary64
import Switchyard.Number.Read
import Switchyard.Number.Shortest
import Switchyard.Pool
import Switchyard.Proofs.App.NotFound
import Switchyard.Proofs.App.Recovery
import Switchyard.Proofs.Config.Setting
import Switchyard.Proofs.Dispatch.Cache
import Switchyard.Proofs.Dispatch.Exec
import Switchyard.Proofs.Dispatch.Generic
import Switchyard.Proofs.Dispatch.Next
import Switchyard.Proofs.Dispatch.RateLimit
import Switchyard.Proofs.Dispatch.Respond
import Switchyard.Proofs.Http.Buffered
import Switchyard.Proofs.Http.Cookie
import Switchyard.Proofs.Http.Form
import Switchyard.Proofs.Http.Recording
import Switchyard.Proofs.Http.StaticPath
import Switchyard.Proofs.Http.UrlDecode
import Switchyard.Proofs.Injector.Resolve
import Switchyard.Proofs.Number.ReadInt
import Switchyard.Proofs.Pool.Recycling
import Switchyard.Proofs.Regex.Enclosed
import Switchyard.Proofs.Regex.Enclosed.Class
import Switchyard.Proofs.Regex.Enclosed.Escape
import Switchyard.Proofs.Regex.Enclosed.Group
import Switchyard.Proofs.Regex.Enclosed.Scan
import Switchyard.Proofs.Route.Capture
import Switchyard.Proofs.Route.Constraint
import Switchyard.Proofs.Route.Order
import Switchyard.Proofs.Route.Render
import Switchyard.Proofs.Route.Select
import Switchyard.Proofs.Route.Table
import Switchyard.Proofs.Session.History
import Switchyard.Proofs.Text.Split
import Switchyard.Regex.Automaton
import Switchyard.Regex.Match
import Switchyard.Regex.Parse
import Switchyard.Regex.Syntax
import Switchyard.Route.Segment
import Switchyard.Route.Table
import Switchyard.Script.Action
import Switchyard.Script.Decode
import Switchyard.Script.Encode
import Switchyard.Script.Record
import Switchyard.Script.Spec
import Switchyard.Server
import Switchyard.Session
import Switchyard.Text.Base64
import Switchyard.Text.DebugView
import Switchyard.Text.Unicode
import Switchyard.Text.Unicode.Age
import Switchyard.Text.Unicode.Property
import Switchyard.Text.Unicode.Script
import Switchyard.Text.Unicode.Segmentation
import Switchyard.Text.Utf8
import Switchyard.Time.Duration

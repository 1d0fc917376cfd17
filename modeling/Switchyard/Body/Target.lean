import Switchyard.Json.Tape
import Switchyard.Error
/-!
# Typed reading of JSON bodies

A body is read into one of a few targets: any JSON value, a map of texts, a list of 64-bit
integers, a 64-bit integer, an octet, a text, a boolean, a binary64, or a login record (a text
`user` and an optional 32-bit `age`, from an object or from a two-item array).

The body is first read whole by the two-pass reader; only then is the value matched against
the target, so a syntax error wins over a type error. A value of the wrong type fails with
`Expected…` at index 0; an integer out of the target's range fails like one of the wrong type.
An empty body fails before any reading. The result is the JSON that shows the target's value:
a binary64 target as its debugging text.
-/
namespace Switchyard

/-- What a body is read into. -/
inductive BodyTarget where
  | value | mapString | vecI64 | i64 | u8 | string | bool | f64 | login
  deriving DecidableEq, Repr

namespace BodyTarget

/-- The target a name stands for. -/
def ofName? : String → Option BodyTarget
  | "value" => some .value
  | "map_string" => some .mapString
  | "vec_i64" => some .vecI64
  | "i64" => some .i64
  | "u8" => some .u8
  | "string" => some .string
  | "bool" => some .bool
  | "f64" => some .f64
  | "login" => some .login
  | _ => none

/-- A failure of the typed reading. -/
def mismatch (c : Tape.Cause) : Tape.Fault := ⟨c, 0, none⟩

mutual

/-- A node as a JSON value: objects keep the last of each key. -/
def nodeJson : Tape.Node → Json
  | .null => .null
  | .bool b => .bool b
  | .u64 n => .num (.pos n)
  | .i64 n => Json.int n
  | .f64 x => if x.isFinite then .num (.float x) else .null
  | .str s => .str s
  | .arr xs => .arr (nodeItems xs)
  | .obj fs => .obj (JsonObject.ofList (nodeFields fs))

/-- Nodes as JSON values. -/
def nodeItems : List Tape.Node → List Json
  | [] => []
  | x :: rest => nodeJson x :: nodeItems rest

/-- Fields as JSON fields. -/
def nodeFields : List (String × Tape.Node) → List (String × Json)
  | [] => []
  | (k, x) :: rest => (k, nodeJson x) :: nodeFields rest

end

/-- A node as a signed 64-bit integer. -/
def signed (n : Tape.Node) : Except Tape.Fault Int :=
  match n with
  | .i64 v => .ok v
  | .u64 v => if v < Nat.pow 2 63 then .ok v else .error (mismatch .expectedSigned)
  | _ => .error (mismatch .expectedSigned)

/-- A node as an unsigned integer below a bound. -/
def unsigned (bound : Nat) (n : Tape.Node) : Except Tape.Fault Nat :=
  match n with
  | .u64 v => if v < bound then .ok v else .error (mismatch .expectedUnsigned)
  | .i64 v => if 0 ≤ v ∧ v.toNat < bound then .ok v.toNat else .error (mismatch .expectedUnsigned)
  | _ => .error (mismatch .expectedUnsigned)

/-- A node as a text. -/
def text (n : Tape.Node) : Except Tape.Fault String :=
  match n with
  | .str s => .ok s
  | _ => .error (mismatch .expectedString)

/-- The optional age of a login. -/
def age (n : Tape.Node) : Except Tape.Fault Json :=
  match n with
  | .null => .ok .null
  | n => (unsigned (Nat.pow 2 32) n).map Json.nat

/-- A login from its fields, with the user and age seen so far. -/
def loginFields : List (String × Tape.Node) → Option String → Option Json →
    Except Tape.Fault Json
  | [], user, age' =>
    match user with
    | some u => .ok (Json.object [("user", .str u), ("age", age'.getD .null)])
    | none => .error (mismatch (.custom "missing field \x60user\x60"))
  | (k, n) :: rest, user, age' =>
    if k = "user" then
      if user.isSome then .error (mismatch (.custom "duplicate field \x60user\x60"))
      else (text n).bind fun u => loginFields rest (some u) age'
    else if k = "age" then
      if age'.isSome then .error (mismatch (.custom "duplicate field \x60age\x60"))
      else (age n).bind fun a => loginFields rest user (some a)
    else loginFields rest user age'

/-- A login from an object or a two-item array. -/
def loginOf (n : Tape.Node) : Except Tape.Fault Json :=
  let short (k : Nat) : Tape.Fault :=
    mismatch (.custom ("invalid length " ++ toString k ++ ", expected struct Login with 2 elements"))
  match n with
  | .obj fs => loginFields fs none none
  | .arr [] => .error (short 0)
  | .arr [u] => (text u).bind fun _ => .error (short 1)
  | .arr (u :: a :: _) => do
    let user ← text u
    let a ← age a
    pure (Json.object [("user", .str user), ("age", a)])
  | _ => .error (mismatch .expectedMap)

/-- A node read into a target, as the JSON that shows it. -/
def ofNode (t : BodyTarget) (n : Tape.Node) : Except Tape.Fault Json :=
  match t with
  | .value => .ok (nodeJson n)
  | .mapString =>
    match n with
    | .obj fs =>
      (fs.mapM fun (kv : String × Tape.Node) => (text kv.2).map fun s => (kv.1, Json.str s)).map Json.object
    | _ => .error (mismatch .expectedMap)
  | .vecI64 =>
    match n with
    | .arr xs => (xs.mapM fun x => (signed x).map Json.int).map Json.arr
    | _ => .error (mismatch .expectedArray)
  | .i64 => (signed n).map Json.int
  | .u8 => (unsigned 256 n).map Json.nat
  | .string => (text n).map Json.str
  | .bool =>
    match n with
    | .bool b => .ok (.bool b)
    | _ => .error (mismatch .expectedBoolean)
  | .f64 =>
    let shown (x : Binary64) : Json := .str (x.render FloatStyle.debug)
    match n with
    | .f64 x => .ok (shown x)
    | .u64 v => .ok (shown (Binary64.ofNat v))
    | .i64 v => .ok (shown (if v < 0 then (Binary64.ofNat v.natAbs).neg else Binary64.ofNat v.toNat))
    | _ => .error (mismatch .expectedFloat)
  | .login => loginOf n

/-- A body read into a target; failures are `Decode` errors. -/
def decode (t : BodyTarget) (body : List UInt8) : Except Error Json :=
  if body.isEmpty then .error (.decode "empty body")
  else
    match (Tape.read body).bind t.ofNode with
    | .ok j => .ok j
    | .error f => .error (.decode ("Parse error: " ++ f.message))

end BodyTarget

end Switchyard

/-!
# Response cookies

A cookie to set: a name, a value and its attributes. `Cookie.render` writes the value of a
`Set-Cookie` field: `name=value`, then `Path`, `Domain`, `Max-Age` (a negative age written as
`0`, which expires the cookie at once), `HttpOnly`, `Secure` and `SameSite`, each only when
set. `Cookie.removal` is the cookie that makes a client drop a name.
-/
namespace Switchyard

/-- The `SameSite` policies. -/
inductive SameSite where
  | strict | lax | none
  deriving DecidableEq, Repr

/-- A cookie to set. -/
structure Cookie where
  /-- The name. -/
  name : String
  /-- The value. -/
  value : String
  /-- The `Path` attribute. -/
  path : Option String := none
  /-- The `Domain` attribute. -/
  domain : Option String := none
  /-- `Max-Age` in seconds; a negative age deletes the cookie. -/
  maxAge : Option Int := none
  /-- The `HttpOnly` flag. -/
  httpOnly : Bool := false
  /-- The `Secure` flag. -/
  secure : Bool := false
  /-- The `SameSite` attribute. -/
  sameSite : Option SameSite := none
  deriving DecidableEq, Repr

namespace Cookie

/-- The cookie that tells a client to drop a name. -/
def removal (name : String) : Cookie :=
  { name, value := "", path := some "/", maxAge := some (-1), httpOnly := true }

/-- The value of the `Set-Cookie` field for a cookie. -/
def render (c : Cookie) : String :=
  let path := match c.path with
    | some p => "; Path=" ++ p
    | none => ""
  let domain := match c.domain with
    | some d => "; Domain=" ++ d
    | none => ""
  let age := match c.maxAge with
    | some a => if a < 0 then "; Max-Age=0" else "; Max-Age=" ++ toString a
    | none => ""
  let sameSite := match c.sameSite with
    | some .strict => "; SameSite=Strict"
    | some .lax => "; SameSite=Lax"
    | some .none => "; SameSite=None"
    | none => ""
  c.name ++ "=" ++ c.value ++ path ++ domain ++ age ++ (if c.httpOnly then "; HttpOnly" else "") ++
    (if c.secure then "; Secure" else "") ++ sameSite

end Cookie

end Switchyard

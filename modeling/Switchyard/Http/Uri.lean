import Switchyard.Text.Utf8
/-!
# Request targets

A request target as the HTTP layer reads it (RFC 9112 §3.2): `*`, an origin form `/path?query`,
an absolute form `scheme://authority/path?query`, or an authority alone. A fragment after `#`
is dropped.

`Uri.parse?` accepts what the HTTP layer accepts:

- a path holds the octets `!`, `$` to `;`, `=`, `@` to `_`, `a` to `z`, `|`, `~`, and also
  `"`, `{` and `}`; a query additionally holds `?`, `` ` `` and `{` to `~`; both hold the
  octets from `0x80` up, so UTF-8 text stands in them as it is, but neither holds `0x7F`;
- a scheme is `http://` or `https://` in any case, which reads as `http` or `https`, or at
  most 64 letters, digits, `+`, `-` and `.` followed by `://`, the whole text being longer
  than three octets; a longer name before `://` is refused;
- an authority holds the URI characters up to the first `/`, `?` or `#`, at most one port
  colon outside brackets, balanced `[` and `]`, nothing empty after a `@`, and `%` only in the
  user part or inside brackets.

`Uri.path` is `/` for an absolute form with an empty path, and empty for an authority alone.
-/
namespace Switchyard

/-- A parsed request target. -/
structure Uri where
  /-- The scheme, when the target is in absolute form. -/
  scheme : Option String := none
  /-- The authority, when present. -/
  authority : Option String := none
  /-- The path and query, as written (without a fragment). -/
  pathAndQuery : String := ""
  deriving DecidableEq, Repr

namespace Uri

/-- Whether an octet may stand in a path. -/
def pathOctet (b : UInt8) : Bool :=
  b = 0x21 || (0x24 ≤ b && b ≤ 0x3B) || b = 0x3D || (0x40 ≤ b && b ≤ 0x5F) ||
    (0x61 ≤ b && b ≤ 0x7A) || b = 0x7C || b = 0x7E || b = 0x22 || b = 0x7B || b = 0x7D ||
    0x80 ≤ b

/-- Whether an octet may stand in a query. -/
def queryOctet (b : UInt8) : Bool :=
  b = 0x21 || (0x24 ≤ b && b ≤ 0x3B) || b = 0x3D || (0x3F ≤ b && b ≤ 0x7E) || 0x80 ≤ b

/-- The path and query of octets, without a fragment, if every octet may stand there. -/
def readPathAndQuery (bs : List UInt8) : Option (List UInt8) :=
  let rec query : List UInt8 → Option (List UInt8)
    | [] => some []
    | b :: rest =>
      if b = 0x23 then some []
      else if queryOctet b then (query rest).map (b :: ·) else none
  let rec path : List UInt8 → Option (List UInt8)
    | [] => some []
    | b :: rest =>
      if b = 0x3F then (query rest).map (b :: ·)
      else if b = 0x23 then some []
      else if pathOctet b then (path rest).map (b :: ·) else none
  path bs

/-- What the authority table makes of an octet: the octet itself when it is a URI character,
`0` otherwise. -/
def uriChar (b : UInt8) : UInt8 :=
  if b = 0x21 ∨ b = 0x23 ∨ b = 0x24 ∨ (0x26 ≤ b ∧ b ≤ 0x3B) ∨ b = 0x3D ∨ (0x3F ≤ b ∧ b ≤ 0x5B)
      ∨ b = 0x5D ∨ b = 0x5F ∨ (0x61 ≤ b ∧ b ≤ 0x7A) ∨ b = 0x7E then b
  else 0

/-- The length of the authority at the front of the octets, if it is well formed. -/
def authorityEnd (bs : List UInt8) : Option Nat :=
  let rec go : List UInt8 → Nat → Nat → Bool → Bool → Bool → Option Nat →
      Option (Nat × Nat × Bool × Bool × Bool × Option Nat)
    | [], i, colons, openB, closeB, pct, at? => some (i, colons, openB, closeB, pct, at?)
    | b :: rest, i, colons, openB, closeB, pct, at? =>
      let c := uriChar b
      if c = 0x2F ∨ c = 0x3F ∨ c = 0x23 then some (i, colons, openB, closeB, pct, at?)
      else if c = 0x3A then
        if colons ≥ 8 then none else go rest (i + 1) (colons + 1) openB closeB pct at?
      else if c = 0x5B then
        if pct ∨ openB then none else go rest (i + 1) colons true closeB pct at?
      else if c = 0x5D then
        if !openB ∨ closeB then none else go rest (i + 1) 0 openB true false at?
      else if c = 0x40 then go rest (i + 1) 0 openB closeB false (some i)
      else if c = 0 then
        if b = 0x25 then go rest (i + 1) colons openB closeB true at? else none
      else go rest (i + 1) colons openB closeB pct at?
  match go bs 0 0 false false false none with
  | none => none
  | some (stop, colons, openB, closeB, pct, at?) =>
    if openB != closeB then none
    else if colons > 1 then none
    else if stop > 0 ∧ at? = some (stop - 1) then none
    else if pct then none
    else some stop

/-- The longest scheme name accepted before `://`. -/
def maxSchemeLength : Nat := 64

/-- The scheme at the front of the octets and the length of it with its `://`: `none` when
there is no scheme, an error when the name is too long. `http` and `https` are recognised in
any case and read in lower case; any other name is kept as written. -/
def schemeEnd (bs : List UInt8) : Except Unit (Option (String × Nat)) :=
  let lower := bs.map fun b => if 0x41 ≤ b ∧ b ≤ 0x5A then b + 32 else b
  if (Utf8.encode "http://").isPrefixOf lower then .ok (some ("http", 7))
  else if (Utf8.encode "https://").isPrefixOf lower then .ok (some ("https", 8))
  else if bs.length > 3 then
    let schemeChar (b : UInt8) : Bool :=
      (0x30 ≤ b && b ≤ 0x39) || (0x41 ≤ b && b ≤ 0x5A) || (0x61 ≤ b && b ≤ 0x7A) ||
        b = 0x2B || b = 0x2D || b = 0x2E
    let name := bs.takeWhile schemeChar
    match bs.drop name.length with
    | 0x3A :: 0x2F :: 0x2F :: _ =>
      if name.length > maxSchemeLength then .error ()
      else .ok (some (Utf8.decodeLossy name, name.length + 3))
    | _ => .ok none
  else .ok none

/-- The target a text spells, if the HTTP layer accepts it. -/
def parse? (s : String) : Option Uri :=
  let bs := Utf8.encode s
  let text (xs : List UInt8) : String := Utf8.decodeLossy xs
  match bs with
  | [] => none
  | [0x2F] => some { pathAndQuery := "/" }
  | [0x2A] => some { pathAndQuery := "*" }
  | [_] =>
    (authorityEnd bs).bind fun stop =>
      if stop = 1 then some { authority := some s } else none
  | 0x2F :: _ => (readPathAndQuery bs).map fun pq => { pathAndQuery := text pq }
  | _ =>
    match schemeEnd bs with
    | .error () => none
    | .ok none =>
      (authorityEnd bs).bind fun stop =>
        if stop = bs.length then some { authority := some s } else none
    | .ok (some (scheme, n)) =>
      let rest := bs.drop n
      (authorityEnd rest).bind fun stop =>
        if stop = 0 then none
        else
          (readPathAndQuery (rest.drop stop)).map fun pq =>
            { scheme := some scheme, authority := some (text (rest.take stop)),
              pathAndQuery := text pq }

/-- The path: the part before `?`, `/` when that is empty in an absolute form, and empty for
an authority alone. -/
def path (u : Uri) : String :=
  let p := String.ofList (u.pathAndQuery.toList.takeWhile (· != '?'))
  if p.isEmpty then (if u.scheme.isSome then "/" else "") else p

/-- The query: the part after the first `?`, if any. -/
def query? (u : Uri) : Option String :=
  let cs := u.pathAndQuery.toList
  if cs.contains '?' then some (String.ofList ((cs.dropWhile (· != '?')).drop 1)) else none

end Uri

end Switchyard

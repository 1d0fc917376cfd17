/-!
# Internet addresses

IPv4 and IPv6 addresses and socket addresses (an address and a port), read from text and
written back.

Reading is strict: the whole text must be the address.

- IPv4 is four decimal octets separated by dots, each one to three digits, without a leading
  zero.
- IPv6 is up to eight groups of one to four hexadecimal digits separated by colons. One `::`
  stands for a run of zero groups. An IPv4 address may end the address in place of the last
  two groups.
- A socket address is `a.b.c.d:port`, or `[ipv6]:port` with an optional `%scope` before the
  `]`.

Writing IPv6 follows RFC 5952: groups in lower-case hexadecimal without leading zeros, and the
longest run of two or more zero groups (the first of equal runs) written as `::`. An
IPv4-mapped address is written `::ffff:a.b.c.d`.
-/
namespace Switchyard

/-- An IP address. -/
inductive IpAddr where
  /-- IPv4, by its four octets. -/
  | v4 (a b c d : Nat)
  /-- IPv6, by its eight groups. -/
  | v6 (groups : List Nat)
  deriving DecidableEq, Repr, Inhabited

/-- A socket address: an IP address, a port and, for IPv6, a scope. -/
structure SocketAddr where
  /-- The address. -/
  ip : IpAddr
  /-- The port. -/
  port : Nat
  /-- The IPv6 scope identifier, zero for none. -/
  scope : Nat := 0
  deriving DecidableEq, Repr, Inhabited

namespace Addr

/-- A number in a radix from the front of a text: at most `maxDigits` digits (any number when
`none`), a value below `bound`, and no leading zero before another digit unless allowed.
Returns the value and the text after it. -/
def readNumber (radix : Nat) (maxDigits : Option Nat) (zeroPrefix : Bool) (bound : Nat)
    (cs : List Char) : Option (Nat × List Char) :=
  let digitOf (c : Char) : Option Nat :=
    let v := if '0' ≤ c ∧ c ≤ '9' then some (c.toNat - 48)
      else if 'a' ≤ c ∧ c ≤ 'z' then some (c.toNat - 87)
      else if 'A' ≤ c ∧ c ≤ 'Z' then some (c.toNat - 55)
      else none
    v.bind fun d => if d < radix then some d else none
  let ds := cs.takeWhile fun c => (digitOf c).isSome
  let rest := cs.drop ds.length
  let value := ds.foldl (fun acc c => acc * radix + (digitOf c).getD 0) 0
  let tooMany := match maxDigits with
    | some m => ds.length > m
    | none => false
  if ds.isEmpty || tooMany || value ≥ bound then none
  else if !zeroPrefix && ds.length > 1 && ds.head? == some '0' then none
  else some (value, rest)

/-- An IPv4 address from the front of a text. -/
def readV4 (cs : List Char) : Option ((Nat × Nat × Nat × Nat) × List Char) := do
  let (a, r) ← readNumber 10 (some 3) false 256 cs
  let r ← match r with | '.' :: r => some r | _ => none
  let (b, r) ← readNumber 10 (some 3) false 256 r
  let r ← match r with | '.' :: r => some r | _ => none
  let (c, r) ← readNumber 10 (some 3) false 256 r
  let r ← match r with | '.' :: r => some r | _ => none
  let (d, r) ← readNumber 10 (some 3) false 256 r
  pure ((a, b, c, d), r)

/-- Colon-separated groups from the front of a text, at most `limit`, the last two of which
may be an IPv4 address; returns the groups, whether IPv4 ended them, and the rest. -/
def readGroups : Nat → Nat → List Nat → List Char → List Nat × Bool × List Char
  | 0, _, acc, cs => (acc.reverse, false, cs)
  | fuel + 1, limit, acc, cs =>
    let i := acc.length
    if i ≥ limit then (acc.reverse, false, cs)
    else
      let afterSep : Option (List Char) :=
        if i = 0 then some cs else match cs with
          | ':' :: r => some r
          | _ => none
      match afterSep with
      | none => (acc.reverse, false, cs)
      | some r =>
        let v4 := if i + 1 < limit then readV4 r else none
        match v4 with
        | some ((a, b, c, d), r') => ((acc.reverse ++ [a * 256 + b, c * 256 + d]), true, r')
        | none =>
          match readNumber 16 (some 4) true 65536 r with
          | some (g, r') => readGroups fuel limit (g :: acc) r'
          | none => (acc.reverse, false, cs)

/-- An IPv6 address from the front of a text. -/
def readV6 (cs : List Char) : Option (List Nat × List Char) :=
  let (head, headV4, r) := readGroups 9 8 [] cs
  if head.length = 8 then some (head, r)
  else if headV4 then none
  else
    match r with
    | ':' :: ':' :: r =>
      let limit := 8 - (head.length + 1)
      let (tail, _, r') := readGroups 9 limit [] r
      some (head ++ List.replicate (8 - head.length - tail.length) 0 ++ tail, r')
    | _ => none

end Addr

namespace IpAddr

/-- The address a whole text spells: IPv4 first, then IPv6. -/
def parse? (s : String) : Option IpAddr :=
  let cs := s.toList
  match Addr.readV4 cs with
  | some ((a, b, c, d), []) => some (.v4 a b c d)
  | _ =>
    match Addr.readV6 cs with
    | some (gs, []) => some (.v6 gs)
    | _ => none

/-- Lower-case hexadecimal of a group, without leading zeros. -/
def hexGroup (g : Nat) : String := String.ofList (Nat.toDigits 16 g)

/-- Groups joined by colons. -/
def joinGroups (gs : List Nat) : String := ":".intercalate (gs.map hexGroup)

/-- The first longest run of zero groups as `(start, length)`. -/
def longestZeroRun (gs : List Nat) : Nat × Nat :=
  let (best, _, _) := gs.foldl (fun (best, cur, i) g =>
    if g = 0 then
      let cur := if cur.2 = 0 then (i, 1) else (cur.1, cur.2 + 1)
      (if cur.2 > best.2 then cur else best, cur, i + 1)
    else (best, (0, 0), i + 1)) ((0, 0), (0, 0), 0)
  best

/-- The text of an address. -/
def toText : IpAddr → String
  | .v4 a b c d => toString a ++ "." ++ toString b ++ "." ++ toString c ++ "." ++ toString d
  | .v6 gs =>
    match gs with
    | [0, 0, 0, 0, 0, 0xFFFF, hi, lo] =>
      "::ffff:" ++ toText (.v4 (hi / 256) (hi % 256) (lo / 256) (lo % 256))
    | _ =>
      let (start, len) := longestZeroRun gs
      if len > 1 then
        joinGroups (gs.take start) ++ "::" ++ joinGroups (gs.drop (start + len))
      else joinGroups gs

end IpAddr

namespace SocketAddr

/-- The socket address a whole text spells. -/
def parse? (s : String) : Option SocketAddr :=
  let cs := s.toList
  let port (r : List Char) : Option Nat :=
    match r with
    | ':' :: p =>
      match Addr.readNumber 10 none true 65536 p with
      | some (n, []) => some n
      | _ => none
    | _ => none
  match Addr.readV4 cs with
  | some ((a, b, c, d), r) => (port r).map fun p => ⟨.v4 a b c d, p, 0⟩
  | none =>
    match cs with
    | '[' :: r =>
      match Addr.readV6 r with
      | some (gs, r) =>
        let (scope, r) := match r with
          | '%' :: more =>
            match Addr.readNumber 10 none true (Nat.pow 2 32) more with
            | some (n, r') => (some n, r')
            | none => (none, '%' :: more)
          | _ => (some 0, r)
        match scope, r with
        | some sc, ']' :: more => (port more).map fun p => ⟨.v6 gs, p, sc⟩
        | _, _ => none
      | none => none
    | _ => none

/-- The text of a socket address. -/
def toText (a : SocketAddr) : String :=
  match a.ip with
  | .v4 .. => a.ip.toText ++ ":" ++ toString a.port
  | .v6 _ =>
    let scope := if a.scope = 0 then "" else "%" ++ toString a.scope
    "[" ++ a.ip.toText ++ scope ++ "]:" ++ toString a.port

end SocketAddr

end Switchyard

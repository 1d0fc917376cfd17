/-!
# UTF-8 octets

Text travels as octets: request bodies, header values, files and the escapes of a query
string all arrive as bytes and are read back as text. This module holds the encoder and two
readers:

- `Utf8.decode?` accepts exactly the well-formed sequences of RFC 3629;
- `Utf8.decodeLossy` never fails: each maximal ill-formed subpart becomes one U+FFFD, the
  replacement policy the Unicode standard recommends (§3.9, "U+FFFD substitution of maximal
  subparts").

Both readers walk the octets with `Utf8.scan`, which looks at one lead octet and at most three
continuation octets.
-/
namespace Switchyard.Utf8

/-- Octets of a text, in UTF-8. -/
def encode (s : String) : List UInt8 := s.toUTF8.toList

/-- `%x80-BF`, a continuation octet. -/
def isTail (b : UInt8) : Bool := 0x80 ≤ b && b ≤ 0xBF

/-- The range the second octet of a sequence must lie in, and the sequence's length, for a
lead octet; `none` for an octet that cannot start a sequence of two or more. -/
def leadShape (b : UInt8) : Option (Nat × UInt8 × UInt8) :=
  if 0xC2 ≤ b && b ≤ 0xDF then some (2, 0x80, 0xBF)
  else if b = 0xE0 then some (3, 0xA0, 0xBF)
  else if 0xE1 ≤ b && b ≤ 0xEC then some (3, 0x80, 0xBF)
  else if b = 0xED then some (3, 0x80, 0x9F)
  else if 0xEE ≤ b && b ≤ 0xEF then some (3, 0x80, 0xBF)
  else if b = 0xF0 then some (4, 0x90, 0xBF)
  else if 0xF1 ≤ b && b ≤ 0xF3 then some (4, 0x80, 0xBF)
  else if b = 0xF4 then some (4, 0x80, 0x8F)
  else none

/-- How a lead octet and the octets after it read: a scalar value and how many following
octets it used, or an ill-formed subpart and how many following octets belong to it. -/
inductive Scan where
  /-- A well-formed sequence for the scalar value `c`. -/
  | scalar (c : Char) (used : Nat)
  /-- A maximal ill-formed subpart. -/
  | bad (used : Nat)

/-- The number of octets after the lead that a scan consumes. -/
def Scan.used : Scan → Nat
  | .scalar _ n => n
  | .bad n => n

/-- The scalar value of a sequence from its lead octet and continuation octets. -/
def assemble (len : Nat) (lead : UInt8) (tails : List UInt8) : Char :=
  let leadBits : Nat :=
    if len = 2 then (lead &&& 0x1F).toNat
    else if len = 3 then (lead &&& 0x0F).toNat
    else (lead &&& 0x07).toNat
  Char.ofNat (tails.foldl (fun acc t => acc * 64 + (t &&& 0x3F).toNat) leadBits)

/-- Reads the sequence led by `b`, given the octets that follow it. -/
def scan (b : UInt8) (rest : List UInt8) : Scan :=
  if b < 0x80 then .scalar (Char.ofNat b.toNat) 0
  else
    match leadShape b with
    | none => .bad 0
    | some (len, lo, hi) =>
      match rest with
      | [] => .bad 0
      | x :: more =>
        if !(lo ≤ x && x ≤ hi) then .bad 0
        else if len = 2 then .scalar (assemble 2 b [x]) 1
        else
          match more with
          | [] => .bad 1
          | y :: more' =>
            if !isTail y then .bad 1
            else if len = 3 then .scalar (assemble 3 b [x, y]) 2
            else
              match more' with
              | [] => .bad 2
              | z :: _ =>
                if !isTail z then .bad 2 else .scalar (assemble 4 b [x, y, z]) 3

/-- Characters of the octets, each maximal ill-formed subpart read as U+FFFD. -/
def decodeChars (bs : List UInt8) : List Char :=
  match bs with
  | [] => []
  | b :: rest =>
    match scan b rest with
    | .scalar c n => c :: decodeChars (rest.drop n)
    | .bad n => '�' :: decodeChars (rest.drop n)
termination_by bs.length
decreasing_by
  all_goals simp only [List.length_drop, List.length_cons]; omega

/-- The text of the octets, each maximal ill-formed subpart read as U+FFFD. -/
def decodeLossy (bs : List UInt8) : String := String.ofList (decodeChars bs)

/-- Whether every octet belongs to a well-formed sequence. -/
def valid (bs : List UInt8) : Bool :=
  match bs with
  | [] => true
  | b :: rest =>
    match scan b rest with
    | .scalar _ n => valid (rest.drop n)
    | .bad _ => false
termination_by bs.length
decreasing_by simp only [List.length_drop, List.length_cons]; omega

/-- The text of well-formed octets, and `none` for any other. -/
def decode? (bs : List UInt8) : Option String :=
  if valid bs then some (decodeLossy bs) else none

end Switchyard.Utf8

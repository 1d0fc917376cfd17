import Switchyard.Json.Parse
import Switchyard.Crypto.Sha256
import Switchyard.Text.Base64
/-!
# Bearer tokens signed with HS256

A token is `header.payload.signature`, split at its last two dots, each part Base64 with the
URL alphabet and no padding (RFC 7519, RFC 7515). `Jwt.verify` accepts a token when

- the header reads as a header (`headerFits`) and names the algorithm `HS256`;
- the signature is the canonical encoding of the HMAC-SHA-256, under the secret, of the text
  before the last dot;
- the payload is JSON whose registered claims read (`claimsFit`): `exp` is a time that is not
  more than sixty seconds past, and there is no audience, since the guard names none of its own.

A header or a claim set is read field by field as a record, from an object or from an array
of its fields in order. In an object a registered field may not appear twice and unknown fields
are skipped. A field of the wrong type makes the header unreadable. A claim of the wrong type
only counts as absent, unless the reader leaves it half read: then the claims do not read at
all.

The accepted token's claims are the payload as a JSON value.
-/
namespace Switchyard.Jwt

/-- Seconds since the Unix epoch at which tokens are checked. -/
def checkTime : Nat := 1794528000

/-- The leeway, in seconds, given to an expiry. -/
def leeway : Nat := 60

/-- The text before the last occurrence of a character and the text after it. -/
def splitLast (c : Char) (s : String) : Option (String × String) :=
  let cs := s.toList
  if cs.contains c then
    let after := (cs.reverse.takeWhile (· != c)).reverse
    some (String.ofList (cs.take (cs.length - after.length - 1)), String.ofList after)
  else none

/-- The octets a Base64 part encodes. -/
def decodePart (part : String) : Option (List UInt8) := Base64.decode? part

/-- Whether a value is a text. -/
def isText : Json → Bool
  | .str _ => true
  | _ => false

/-- Whether a value is a list of texts. -/
def isTextList : Json → Bool
  | .arr xs => xs.all isText
  | _ => false

/-- Whether a value is absent or null, or passes a test. -/
def optional (test : Json → Bool) : Option Json → Bool
  | none | some .null => true
  | some j => test j

/-- Whether a value is one of some texts. -/
def isOneOf (names : List String) : Json → Bool
  | .str s => names.contains s
  | _ => false

/-- The value of the only field of an object written with the key, if it has it once. -/
def fieldOnce (fields : List (String × Json)) (key : String) : Option (Option Json) :=
  match fields.filter (·.1 == key) with
  | [] => some none
  | [(_, v)] => some (some v)
  | _ => none

/-- The fields of a record, read from an object whose fields are kept as written or from an
array of exactly as many values: the value of each field (`none` when absent), or nothing when
a field is repeated or the value is neither. -/
def recordFields (names : List String) : Json → Option (List (Option Json))
  | .obj fields => names.mapM (fieldOnce fields)
  | .arr xs => if xs.length = names.length then some (xs.map some) else none
  | _ => none

/-- The names an algorithm of a key may have. -/
def keyAlgorithms : List String :=
  ["HS256", "HS384", "HS512", "ES256", "ES384", "RS256", "RS384", "RS512", "PS256", "PS384",
    "PS512", "EdDSA", "RSA1_5", "RSA-OAEP", "RSA-OAEP-256"]

/-- The curves a key may name. -/
def curves : List String := ["P-256", "P-384", "P-521", "Ed25519"]

/-- Whether the fields of a key, other than the common ones, read as the parameters of one of
the key types: an elliptic curve key, an RSA key, a secret (octet) key or an octet key pair.
Each needs its fields once each; other fields are skipped. -/
def keyParametersFit (rest : List (String × Json)) : Bool :=
  let fits (required : List (String × (Json → Bool))) : Bool :=
    required.all fun (k, test) =>
      match fieldOnce rest k with
      | some (some v) => test v
      | _ => false
  fits [("kty", isOneOf ["EC"]), ("crv", isOneOf curves), ("x", isText), ("y", isText)] ||
    fits [("kty", isOneOf ["RSA"]), ("n", isText), ("e", isText)] ||
    fits [("kty", isOneOf ["oct"]), ("k", isText)] ||
    fits [("kty", isOneOf ["OKP"]), ("crv", isOneOf curves), ("x", isText)]

/-- The common fields of a key, with the tests their values must pass when present. -/
def keyCommonFields : List (String × (Json → Bool)) :=
  [("use", isText), ("key_ops", isTextList), ("alg", isOneOf keyAlgorithms), ("kid", isText),
    ("x5u", isText), ("x5c", isTextList), ("x5t", isText), ("x5t#S256", isText)]

/-- Whether a value reads as a key (a JWK): an object whose common fields appear at most once,
each null or of its type, and whose other fields read as the parameters of a key type. -/
def keyFits : Json → Bool
  | .obj fields =>
    let common := keyCommonFields.map (·.1)
    (keyCommonFields.all fun (k, test) =>
      match fieldOnce fields k with
      | some v => optional test v
      | none => false) &&
      keyParametersFit (fields.filter fun (k, _) => !common.contains k)
  | _ => false

/-- Whether a value names the algorithm HS256: its name, or an object holding only that name
with a null value. -/
def namesHs256 : Json → Bool
  | .str s => s == "HS256"
  | .obj [("HS256", .null)] => true
  | _ => false

/-- The fields of a header, in order. -/
def headerNames : List String :=
  ["typ", "alg", "cty", "jku", "jwk", "kid", "x5u", "x5c", "x5t", "x5t#S256"]

/-- Whether a header, with its fields as written, reads as one an HS256 guard accepts: `alg`
names HS256, `jwk` is null or a key, `x5c` null or a list of texts, the others null or texts. -/
def headerFits (h : Json) : Bool :=
  match recordFields headerNames h with
  | some [typ, alg, cty, jku, jwk, kid, x5u, x5c, x5t, x5tS256] =>
    alg.any namesHs256 && optional keyFits jwk && optional isTextList x5c &&
      [typ, cty, jku, kid, x5u, x5t, x5tS256].all (optional isText)
  | _ => false

/-- How a registered claim reads. -/
inductive ClaimRead (α : Type) where
  /-- Absent, or null where null means absent. -/
  | absent
  /-- Of its type. -/
  | read (a : α)
  /-- Of another type, and skipped. -/
  | unreadable
  /-- Of another type, and left half read, so that the claims do not read. -/
  | stuck

/-- How a time (`exp`, `nbf`) reads: an unsigned integer, or a finite number from zero (negative
zero included) below `2^64`, rounded half away from zero. An array or an object that is not
empty is left half read. -/
def readTime : Option Json → ClaimRead Nat
  | none => .absent
  | some (.num (.pos n)) => .read n
  | some (.num (.float x)) =>
    let (_, n, d) := x.toRat
    if x.isFinite && (!x.negative || x.isZero) && n < Nat.pow 2 64 * d then .read x.roundHalfAway
    else .unreadable
  | some (.arr (_ :: _)) => .stuck
  | some (.obj (_ :: _)) => .stuck
  | some _ => .unreadable

/-- How the subject (`sub`) reads: a text, absent when null; an array or an object is left
half read. -/
def readSubject : Option Json → ClaimRead Unit
  | none | some .null => .absent
  | some (.str _) => .read ()
  | some (.arr _) => .stuck
  | some (.obj _) => .stuck
  | some _ => .unreadable

/-- Whether an audience (`aud`) reads as one: a text or a list of texts. -/
def audienceRead : Option Json → Bool
  | some (.str _) => true
  | some (.arr xs) => xs.all isText
  | _ => false

/-- Whether a claim read leaves the claims readable. -/
def ClaimRead.readable {α : Type} : ClaimRead α → Bool
  | .stuck => false
  | _ => true

/-- Whether claims, with their fields as written, pass at `now`: they read as a record of
`exp`, `nbf`, `sub`, `iss` and `aud`; `exp` reads as a time no more than the leeway before
`now`; and there is no audience. -/
def claimsFit (now : Nat) (claims : Json) : Bool :=
  match recordFields ["exp", "nbf", "sub", "iss", "aud"] claims with
  | some [exp, nbf, sub, _, aud] =>
    (readTime nbf).readable && (readSubject sub).readable && !audienceRead aud &&
      match readTime exp with
      | .read t => !(t < now - leeway)
      | _ => false
  | _ => false

/-- The claims of a token accepted under a secret. -/
def verify (secret : String) (token : String) : Option Json := do
  let (message, signature) ← splitLast '.' token
  let (header, payload) ← splitLast '.' message
  let h ← (decodePart header).bind fun bs => (Json.parseOctetsAsWritten bs).toOption
  if !headerFits h then none
  let expected := Base64.encode (Sha256.hmac (Utf8.encode secret) (Utf8.encode message))
  if expected != signature then none
  let bs ← decodePart payload
  let claims ← (Json.parseOctets bs).toOption
  let written ← (Json.parseOctetsAsWritten bs).toOption
  if !claimsFit checkTime written then none
  pure claims

end Switchyard.Jwt

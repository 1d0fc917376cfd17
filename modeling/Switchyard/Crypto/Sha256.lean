/-!
# SHA-256 and HMAC-SHA-256

SHA-256 as FIPS 180-4 defines it: the message is padded with a one bit, zero bits and its
bit length as a 64-bit big-endian number up to a multiple of 512 bits, and each 512-bit block
is compressed into eight 32-bit words of state by 64 rounds.

HMAC-SHA-256 as RFC 2104 defines it over SHA-256, whose block is 64 octets: a longer key is
hashed first, the key is padded with zeros to a block, and the digest is
`H((key ⊕ opad) ‖ H((key ⊕ ipad) ‖ message))`.
-/
namespace Switchyard.Sha256

/-- The round constants: the first 32 bits of the fractional parts of the cube roots of the
first 64 primes. -/
def roundConstants : Array UInt32 := #[
  0x428a2f98, 0x71374491, 0xb5c0fbcf, 0xe9b5dba5, 0x3956c25b, 0x59f111f1, 0x923f82a4, 0xab1c5ed5,
  0xd807aa98, 0x12835b01, 0x243185be, 0x550c7dc3, 0x72be5d74, 0x80deb1fe, 0x9bdc06a7, 0xc19bf174,
  0xe49b69c1, 0xefbe4786, 0x0fc19dc6, 0x240ca1cc, 0x2de92c6f, 0x4a7484aa, 0x5cb0a9dc, 0x76f988da,
  0x983e5152, 0xa831c66d, 0xb00327c8, 0xbf597fc7, 0xc6e00bf3, 0xd5a79147, 0x06ca6351, 0x14292967,
  0x27b70a85, 0x2e1b2138, 0x4d2c6dfc, 0x53380d13, 0x650a7354, 0x766a0abb, 0x81c2c92e, 0x92722c85,
  0xa2bfe8a1, 0xa81a664b, 0xc24b8b70, 0xc76c51a3, 0xd192e819, 0xd6990624, 0xf40e3585, 0x106aa070,
  0x19a4c116, 0x1e376c08, 0x2748774c, 0x34b0bcb5, 0x391c0cb3, 0x4ed8aa4a, 0x5b9cca4f, 0x682e6ff3,
  0x748f82ee, 0x78a5636f, 0x84c87814, 0x8cc70208, 0x90befffa, 0xa4506ceb, 0xbef9a3f7, 0xc67178f2]

/-- The initial state: the first 32 bits of the fractional parts of the square roots of the
first eight primes. -/
def initialState : Array UInt32 := #[
  0x6a09e667, 0xbb67ae85, 0x3c6ef372, 0xa54ff53a, 0x510e527f, 0x9b05688c, 0x1f83d9ab, 0x5be0cd19]

/-- Rotation right. -/
def rotr (x : UInt32) (n : UInt32) : UInt32 := (x >>> n) ||| (x <<< (32 - n))

/-- A big-endian word from four octets. -/
def word (a b c d : UInt8) : UInt32 :=
  (a.toUInt32 <<< 24) ||| (b.toUInt32 <<< 16) ||| (c.toUInt32 <<< 8) ||| d.toUInt32

/-- The sixteen words of a block. -/
def blockWords : List UInt8 → List UInt32
  | a :: b :: c :: d :: rest => word a b c d :: blockWords rest
  | _ => []

/-- The message schedule: the block's sixteen words extended to sixty-four. -/
def schedule (ws : List UInt32) : Array UInt32 :=
  (List.range 48).foldl (fun w i =>
    let t := i + 16
    let x := w[t - 15]!
    let y := w[t - 2]!
    let s0 := rotr x 7 ^^^ rotr x 18 ^^^ (x >>> 3)
    let s1 := rotr y 17 ^^^ rotr y 19 ^^^ (y >>> 10)
    w.push (w[t - 16]! + s0 + w[t - 7]! + s1)) ws.toArray

/-- One round applied to the working variables. -/
def round (v : Array UInt32) (k w : UInt32) : Array UInt32 :=
  let a := v[0]!
  let b := v[1]!
  let c := v[2]!
  let d := v[3]!
  let e := v[4]!
  let f := v[5]!
  let g := v[6]!
  let h := v[7]!
  let s1 := rotr e 6 ^^^ rotr e 11 ^^^ rotr e 25
  let ch := (e &&& f) ^^^ ((~~~ e) &&& g)
  let t1 := h + s1 + ch + k + w
  let s0 := rotr a 2 ^^^ rotr a 13 ^^^ rotr a 22
  let maj := (a &&& b) ^^^ (a &&& c) ^^^ (b &&& c)
  let t2 := s0 + maj
  #[t1 + t2, a, b, c, d + t1, e, f, g]

/-- The state after compressing one block. -/
def compress (state : Array UInt32) (block : List UInt8) : Array UInt32 :=
  let w := schedule (blockWords block)
  let v := (List.range 64).foldl (fun v i => round v roundConstants[i]! w[i]!) state
  (List.range 8).toArray.map fun i => state[i]! + v[i]!

/-- The eight big-endian octets of a number below `2^64`. -/
def lengthOctets (n : Nat) : List UInt8 :=
  (List.range 8).reverse.map fun i => UInt8.ofNat (n / Nat.pow 2 (8 * i) % 256)

/-- The message padded to a multiple of 64 octets. -/
def pad (msg : List UInt8) : List UInt8 :=
  let len := msg.length
  let zeros := (119 - len % 64) % 64
  msg ++ [0x80] ++ List.replicate zeros 0 ++ lengthOctets (8 * len)

/-- Splits octets into blocks of 64. -/
def blocks (bs : List UInt8) : List (List UInt8) :=
  go bs.length bs
where
  /-- Splits with fuel at least the number of octets. -/
  go : Nat → List UInt8 → List (List UInt8)
    | 0, _ => []
    | _, [] => []
    | fuel + 1, bs => bs.take 64 :: go fuel (bs.drop 64)

/-- The four big-endian octets of a word. -/
def wordOctets (x : UInt32) : List UInt8 :=
  [(x >>> 24).toUInt8, (x >>> 16).toUInt8, (x >>> 8).toUInt8, x.toUInt8]

/-- The SHA-256 digest of a message: 32 octets. -/
def digest (msg : List UInt8) : List UInt8 :=
  ((blocks (pad msg)).foldl compress initialState).toList.flatMap wordOctets

/-- The HMAC-SHA-256 of a message under a key: 32 octets. -/
def hmac (key msg : List UInt8) : List UInt8 :=
  let key := if key.length > 64 then digest key else key
  let block := key ++ List.replicate (64 - key.length) 0
  let inner := digest (block.map (· ^^^ 0x36) ++ msg)
  digest (block.map (· ^^^ 0x5c) ++ inner)

end Switchyard.Sha256

import Switchyard.Text.Unicode.Property
/-!
# Unicode character data

The general category of every code point, the simple case folding and the word characters, as
of Unicode 16.0: the tables that character classes of patterns consult (`\d`, `\w`, `\p` and
case-insensitive matching).

The category table lists where each run of code points of one category starts, in order; a
code point's category is that of the last run starting at or before it. The table is kept as
text, one letter for the category followed by the distance from the previous start in
decimal, and read once into an array.

The fold table lists runs `(start, count, delta, stride)`: the code points
`start + i · stride` for `i < count` fold to themselves plus `delta`.

The word characters are kept as an inversion list (see `readBoundaries`).
-/
namespace Switchyard.Unicode

/-- The thirty general categories of the Unicode standard. -/
inductive Category where
  | Lu | Ll | Lt | Lm | Lo | Mn | Mc | Me | Nd | Nl | No | Pc | Pd | Ps | Pe | Pi | Pf | Po
  | Sm | Sc | Sk | So | Zs | Zl | Zp | Cc | Cf | Cs | Co | Cn
  deriving DecidableEq, Repr, Inhabited

namespace Category

/-- Every category, in the order of the letters of the table. -/
def all : List Category :=
  [Lu, Ll, Lt, Lm, Lo, Mn, Mc, Me, Nd, Nl, No, Pc, Pd, Ps, Pe, Pi, Pf, Po, Sm, Sc, Sk, So, Zs,
    Zl, Zp, Cc, Cf, Cs, Co, Cn]

/-- The two-letter name of a category. -/
def code : Category → String
  | Lu => "Lu" | Ll => "Ll" | Lt => "Lt" | Lm => "Lm" | Lo => "Lo" | Mn => "Mn" | Mc => "Mc"
  | Me => "Me" | Nd => "Nd" | Nl => "Nl" | No => "No" | Pc => "Pc" | Pd => "Pd" | Ps => "Ps"
  | Pe => "Pe" | Pi => "Pi" | Pf => "Pf" | Po => "Po" | Sm => "Sm" | Sc => "Sc" | Sk => "Sk"
  | So => "So" | Zs => "Zs" | Zl => "Zl" | Zp => "Zp" | Cc => "Cc" | Cf => "Cf" | Cs => "Cs"
  | Co => "Co" | Cn => "Cn"

/-- The major class of a category: its first letter. -/
def major (c : Category) : Char := c.code.front

end Category

/-- The letters that stand for the categories in the table, in the order of `Category.all`. -/
def categoryLetters : List Char := "abcdefghijklmnopqrstuvwxyzABCD".toList

/-- The category table as text. -/
def categoryText : String :=
  "z0w32r1t3r1n3o1r1s1r1m1r1i2r10s2r3a2n26r1o1u1l1u1b1n26s1o1s1z1w33r1t1v4r1u1v1e1p1s1A1v1u1v1s" ++
  "1k1u2b1r1u2k1e1q1k1r3a1s23a1b7s24b1a8b1a1b1a1b1a1b1a1b1a1b1a1b1a1b1a1b1a1b1a1b1a1b1a1b1a1b1a" ++
  "1b1a1b1a1b1a1b1a1b1a1b1a1b1a1b1a1b1a1b1a1b1a1b1a1b1a1b1a2b1a1b1a1b1a1b1a1b1a1b1a1b1a1b1a2b1a" ++
  "1b1a1b1a1b1a1b1a1b1a1b1a1b1a1b1a1b1a1b1a1b1a1b1a1b1a1b1a1b1a1b1a1b1a1b1a1b1a1b1a1b1a1b1a1b2a" ++
  "1b1a1b1a3b2a1b1a1b2a1b3a2b4a1b2a1b3a3b2a1b2a1b1a1b1a1b2a1b1a2b1a1b2a1b3a1b1a1b2e2a1b1e3a4c1b" ++
  "1a1c1b1a1c1b1a1b1a1b1a1b1a1b1a1b1a1b1a1b1a1b1a2b1a1b1a1b1a1b1a1b1a1b1a1b1a1b1a1b1a2c1b1a1b1a" ++
  "1b3a1b1a1b1a1b1a1b1a1b1a1b1a1b1a1b1a1b1a1b1a1b1a1b1a1b1a1b1a1b1a1b1a1b1a1b1a1b1a1b1a1b1a1b1a" ++
  "1b1a1b1a1b1a1b1a1b1a1b1a1b1a7b2a1b2a2b1a1b4a1b1a1b1a1b1a1b1e69b1d27u18d4u12d14u5d7u1d1u1f17a" ++
  "112b1a1b1d1u1a1b1D1d2b1r3a1D1u4a2r1a1D3a1D1a1b2a1D17a1b9a35b1a2b3a3b1a1b1a1b1a1b1a1b1a1b1a1b" ++
  "1a1b1a1b1a1b1a1b1a1b1a5b1s1a1b1a1b2a2b51a48b1a1b1a1b1a1b1a1b1a1b1a1b1a1b1a1b1a1b1a1b1a1b1a1b" ++
  "1a1b1a1b1a1b1a1b1v1f1h5a2b1a1b1a1b1a1b1a1b1a1b1a1b1a1b1a1b1a1b1a1b1a1b1a1b1a1b1a1b1a1b1a1b1a" ++
  "1b1a1b1a1b1a1b1a1b1a1b1a1b1a1b1a1b1a1b1a1b2a1b1a1b1a1b1a1b1a1b1a1b1a2b1a1b1a1b1a1b1a1b1a1b1a" ++
  "1b1a1b1a1b1a1b1a1b1a1b1a1b1a1b1a1b1a1b1a1b1a1b1a1b1a1b1a1b1a1b1a1b1a1b1a1b1a1b1a1b1a1b1a1b1a" ++
  "1b1a1b1a1b1a1b1a1b1a1b1a1b1a1b1a1b1a1b1a1b1a1b1a1b1a1b1a1b1a1b1a1b1a1b1a1b1D1a1D38d2r1b6r41m" ++
  "1D1v2t2D1f1m45f1r1f1r2f1r2f1D1e8D27e4r4D2A11s6r3t2r1v2f2r11A1r1e3d32e1f10i21r10e4f2e1r99e1f1" ++
  "A7v1f1d6f2v2f1e4i2e10v3e2r1D14A1e1f1e1f30D27e2f89e11D1i14e10f33d9v2r1d3D1f2t1e2f22d4f1d9f1d3" ++
  "f1D5r2D15e1f25D3r2D1e1D11e5u24e1D6A1D2f5e9d41f1A24f1g32e1f54g1f1e1g1f3g8f4g1e2f1e7f10r2i2r10" ++
  "d1e1f15g1D2e1D8e2D2e2D22e1D7e1D1e3D4f2e1g1f3D4g2D2g2f2e1D1g8D1e4D2e1f3D2i2e10t2k2v6t1e1r1f1D" ++
  "1f2g2D1e1D6e4D2e2D22e1D7e1D2e1D2e1D2f2D1g1f3D2f4D2f2D3f3D1e7D4e1D1i7f10e2f3r1D1f10g2D1e1D9e1" ++
  "D3e1D22e1D7e1D2e1D5f2e1g1f3D5f1g2D1g1f2D1e2D1e15f2D2i2r10t1D1e7f1D6f1g1D2e1D8e2D2e2D22e1D7e1" ++
  "D2e1D5f2e1g1f1g1f1D4g2D2g2f2D1f7g2D1e4D2e1f3D2i2v10e1k1D6f10e1D1e1D6e3D3e1D4e3D2e1D1e1D2e3D2" ++
  "e3D3e3D12g4f2g1D2g3D3g1f3D1e2D1g6D1i14k10v3t6v1D1f5g1f3e1D8e1D3e1D23e1D16f2e1f1g3D4f1D3f1D4f" ++
  "7D2e1D3e2D1e2f2D2i2D10r7k1v7e1f1g1r2e1D8e1D3e1D23e1D10e1D5f2e1g1f1g1D5f1g1D2g1f2D2g7D2e6D2e1" ++
  "f2D2i2D10e1g2D1f12g2e2D9e1D3e1f41e2g1f3D4g1D3g1f3e1v1D1e4g3k1e7f3D2i2k10v9e1D6f1g1D2e1D18e3D" ++
  "24e1D9e1D1e2D7f3D1g4f3D3f1D1g1D8i6D10g2r2D1e12f48e1f2D7t4e1d6f1r8i1r10D2e37D2e1D1e1D5e1D24e1" ++
  "D1e1f10e1f2e9D1e2D5d1D1f1D7i1D10e2D4e32v1r3v15r1v1f3v2i6k10v10f1v1f1v1f1n1o1n1o1g1e2D8e1D36f" ++
  "4g14f1r5f1e2f5D11f1D36v1f8v1D6v1r2v5r4D2e37g43f2g4f1g6f1g2f2e2i1r10e6g6f2e2f4e3g1e3g2e7f3e4f" ++
  "13g1f2g2f6e1g1i1g10f3v1a2D38a1D1a5D1b2r43d1b1e3D329e1D4e2D7e1D1e1D4e2D41e1D4e2D33e1D4e2D7e1D" ++
  "1e1D4e2D15e1D57e1D4e2D67f2r3k9D20e3v16D10a6D86b2D6m2e1v620r1e1w17e1n26o1D1e3r75j3e3D8e7f18g3" ++
  "D1e9f19g2r1D2e9f18D2e12D13e1D3f1D2e12f52g2f1g7f8g1f2r11d3r1t3e1f1D1i2D10k6D10r6m6r1f4A3f1i1D" ++
  "10e6d35e1D53e7f5e2f34e1D1e5D70e10D31f1g3f4g2D3g4f2g1f6D3v4D1r3i2e10D30e2D5e11D44e4D26i6k10D1" ++
  "v3e34f23g2f2D1r2e2g53f1g1f1D7f1g1f1g1f2g8f6D10f2i1D10i6D10r6d7r1D6f2h14f1D16f49g4e1f47g1f1g5" ++
  "f1g1f5g1e2D8r1i2r10v7f10v9r9f3g2e1g30f1g4f2g2f1e3i2e10f44g1f1g2f3g1f1g3D2r8e4g36f8g8f2D2r3i5" ++
  "D10e3i3e10d30r6b2a9b1D1a5D43a2r3D8f8r3f1g13f1e7f4e1f6e1g2f1e2D1b5d44b63d13b1d34f37a64b1a1b1a" ++
  "1b1a1b1a1b1a1b1a1b1a1b1a1b1a1b1a1b1a1b1a1b1a1b1a1b1a1b1a1b1a1b1a1b1a1b1a1b1a1b1a1b1a1b1a1b1a" ++
  "1b1a1b1a1b1a1b1a1b1a1b1a1b1a1b1a1b1a1b1a1b1a1b1a1b1a1b1a1b1a1b1a1b1a1b1a1b1a1b1a1b1a1b1a1b1a" ++
  "1b1a1b1a1b1a1b1a1b1a1b1a1b1a1b1a1b1a1b1a1b1a1b1a1b1a1b1a1b1a1b1a1b1a1b1a1b1a1b1a1b1a1b1a1b1a" ++
  "1b1a1b1a1b1a1b1a9b1a1b1a1b1a1b1a1b1a1b1a1b1a1b1a1b1a1b1a1b1a1b1a1b1a1b1a1b1a1b1a1b1a1b1a1b1a" ++
  "1b1a1b1a1b1a1b1a1b1a1b1a1b1a1b1a1b1a1b1a1b1a1b1a1b1a1b1a1b1a1b1a1b1a1b1a1b1a1b1a1b1a1b1a1b1a" ++
  "1b1a1b1a1b1a1b1a1b1a1b1a1b1a9b8D6a2D6b2a8b8a8b8D6a2D6b2D8a1D1a1D1a1D1a1b1a8b8D14b2c8b8c8b8c8" ++
  "b8D5b1a2c4u1b1u1b3D3b1a2c4u1b3D4b2a2D4u1b3a8u5D3b2D3b1a2c4u1D2w1A11m5r6p2q1n1p1q2n1p1r1x8y1A" ++
  "1w5r1p9q1r1l4r2s3n1o1r1s11r1l1r1w10A1D5A1k10d1D1k2s6n3o1d1k1s10n3o1D1d1D13t3D33f15h13f4h1f3D" ++
  "12v15a2v1a4v1b2a1b3a2b3v1a1v1s2a1v5a6v1a1v1a1v1a1v4b1a1b4e1b4v1b2a2s2a5b1v4s1v1b2v1k1j16a35b" ++
  "1j1k4v1D2s4v5s5v2s4v1s2v1s2v1s7v1s31v2s2v1s1v1s31v268n8o1n1o1v1s20v2n7o1v1s81v1s30v25s40v6D7" ++
  "2v22D11k21v60k78v22s183v1s9v1s54v8s111v1n248o1n1o1n1o1n1o1n1o1n1o1n1o1k1v30s44n5o1s1n31o1n1o" ++
  "1n1o1n1o1n1o1s1v16s256n131o1n1o1n1o1n1o1n1o1n1o1n1o1n1o1n1o1n1o1n1o1s1n63o1n1o1s1n32o1s1v258" ++
  "s48v21s2v6D39v2D32v1a105b48a48b1a1b3a2b1a1b1a1b1a1b4a1b1a2b1d6a2b3a1b1a1b1a1b1a1b1a1b1a1b1a1" ++
  "b1a1b1a1b1a1b1a1b1a1b1a1b1a1b1a1b1a1b1a1b1a1b1a1b1a1b1a1b1a1b1a1b1a1b1a1b1a1b1a1b1a1b1a1b1a1" ++
  "b1a1b1a1b1a1b1a1b1a1b1a1b1a1b1a1b1a1b1a1b1a1b1a1b1a1b1a1b1a1b1a1b1a1b1a1b1a1b1v2a6b1a1b1f1a3" ++
  "b1D1r5k4r1b2D38b1D1b5D1e2D56d7r1D1f14e1D23e9D7e1D7e1D7e1D7e1D7e1D7e1D7e1D7f1r32p2q1p1q1r1p3q" ++
  "1r1p1q1r1m9r1m2r1p1q1r1p2q1n1o1n1o1n1o1n1o1r1d5r1m10r2m4r1n1r1v13r2n3o1n1o1n1o1n1o1m1D1v34D2" ++
  "6v1D89v12D214v26w16r1v3d1e1j1n1o1n1o1n1o1n1o1n1o1v1n2o1n1o1n1o1n1o1m1n1o1v2j1f9g4m2d1v5j2d3e" ++
  "1r1v1D2e1D86f2u2d2e2m1e1r90d1e3D1e5D43e1D94v1k2v4e10v32D38v9e1v16D31k1v10k30v8k1v15k32v10k39" ++
  "v15e320v6592e64d21013e1D1143v3D55e9d40r6e2d268r1e3i16e10D2a20b1a1b1a1b1a1b1a1b1a1b1a1b1a1b1a" ++
  "1b1a1b1a1b1a1b1a1b1a1b1a1b1a1b1a1b1a1b1a1b1a1b1a1b1a1b1a1b1e1f1h1r3f1r10d1a1b1a1b1a1b1a1b1a1" ++
  "b1a1b1a1b1a1b1a1b1a1b1a1b1a1b1a1b1a1b1d1f2e2j70f10r2D6u8d23u9a2b1a1b1a1b1a1b1a1b1a1b1a1b1a3b" ++
  "1a1b1a1b1a1b1a1b1a1b1a1b1a1b1a1b1a1b1a1b1a1b1a1b1a1b1a1b1a1b1a1b1a1b1a1b1a1b1a1b1a1b1a1b1a1b" ++
  "1a1b1a1b1a1b1a1b1a1b1a1b1a1b1d1b1a8b1a1b1a1b2a1b1a1b1a1b1a1b1d1u1a2b1a1b1e1a1b1a1b1a3b1a1b1a" ++
  "1b1a1b1a1b1a1b1a1b1a1b1a1b1a1b1a1b5a1b5a1b1a1b1a1b1a1b1a1b1a1b1a1b1a1b4a1b1a1b2D1a2b1D1b1D1b" ++
  "1a1b1a1b1a1b1a1D1d21a3b1e1d1b2e1f7e1f3e1f4e1g23f2g2v1f4D1k3v6t2v1D1e6r52D4g8e2g50f16D2r8i2D1" ++
  "0f6e18r6e3r1e1f2i1e10f28r8e2f23g11D2r11e1D29f3g3e1f47g1f2g4f2g2r3D13d1i1D10r4e2f5d1e1i9e10D5" ++
  "e1f41g6f2g2f2D2e9f3e1f8g1D1i2D10r2e4d16e1v6e3g1f1g1e1f50e1f1e3f2e2f5e2f1e1D1e24d2r1e2g11f1g2" ++
  "r2e2d1g2f1D1e10D6e2D6e2D6e9D7e1D7b1u43d1b4d9u1D2b4e80g35f2g1f2g1r2g1f1D1i2D10e6D11172e12D23e" ++
  "4D49B4C2048e6400D366e2D106b38D7b12D5e5f1e1s10e1D13e1D5e1D1e1D2e1D2e1u108D17e16o363n1v1e16D64" ++
  "e2D54v7D1e32t12v1f3r16n7o1r1D1f6r16m1l2n2o1n1o1n1o1n1o1n1o1n1o1n1o1n1o1r1n2o1r1l4r3D3r1m4n1o" ++
  "1n1o1n1o1r1s3m1s1D3r1t1r1D2e4D5e1D135A2D1r1t3r1n3o1r1s1r1m1r1i2r10s2r3a2n26r1o1u1l1u1b1n26s1" ++
  "o1s1n1o1r1n1o1r1e2d10e1d45e2D31e3D6e2D6e2D6e2D3t3s2u1v1t1D2v1s1v4D2A10v3D2e2D12e1D26e1D19e1D" ++
  "2e1D15e2D14e34D123r5D3k4D45v3j9k53v4k17v2D3v1D13v3D1v47f45D1e130D29e3D49f15k1D27e4k32D4e9j20" ++
  "e1j8D1e5f38D5e5D30r1e1D36e4r8j1D5a42b40e40D78i2D10a6D36b4D36e4D40e8D52r11a1D11a1D15a1D7a1D2b" ++
  "1D11b1D15b1D7b1D2e3D52e12D311e9D22e10D8d24D6d1D42d1D9e69D6e2D1e1D44e1D2e3D1e2D23r1k1e8v23k2e" ++
  "7D31k8D9e48D19e1D2k5e5k22D6r3e1D26r5D1e64D56k4e2k2D16k2e46f1D3f1D2f5e4D4e1D3e1D29f2D3f4k1D9r" ++
  "7D9e7k29r2e1k29D3e32v8e1f28D2k4r5D7e9D54r3e7D22k2e8D19k5e8D18r7D4k12D7e80D73a55D51b13D51k7e6" ++
  "f36D4i8D10i6e10d4e1a1D22f3m5d1b1D22s8D2k208D31e1D42f1m2D1e2D2e16D3f55e4k29e10D1e8f22k11r4D5e" ++
  "22f18r4D4e38k21D7e20D23g9f1g1e1f53r15D7k4i20f10e1f2e2D1f9g3e1g45f3g4f2r2A2r1f4D1A10D1e2D25i7" ++
  "D10f6e3f36g5f1D8i1r10e4g1e2D1e8f35r1e2D1f9g2e1g48f3g9e2r4f4r4g1f1i1e10r1e1r1D3k1D20e11D18e1g" ++
  "25f3g3f2g1f1r2f6e1f2D1e62D7e1D1e1D4e1D15e1r10D1e6f47g1f3D8i5D10f6g2D2e1D8e2D2e2D22e1D7e1D2e1" ++
  "D5f1e2g1f2g1D4g2D2g2D3e2D1g6D1e5g5D2f2D7f3D5e11D10e1D1e2D1e1D38e1g1f3D6g1D1g2D1g1D4g1f2g1f1e" ++
  "1f1e1r1D2r1D2f8D2e29g53f3g8f2g3f1e1r4i5r10D2r1f1e1D3e30g48f3g6f1g1f4g2f1e2r2e1D1i8D10e166g47" ++
  "f3D4g2f4g2f1r2e23f4D2e34g48f3g8f2g1f1r2e3D1i11D10r6D13e19f43g1f1g1f2g6f1e1r1D1i6D10i6D20e28D" ++
  "27f2g1f1g1f2g4f1D5i4k10r2v3e1D7e185g44f3g9f1r2D1a100b32i32k10D9e12D8e2D1e2D8e1D2e1g24D6g1D2f" ++
  "2g2f1e1g1e1g1f1r1D3i9D10e70D8e2g39f3D4f2g2f4e1r1e1g1D1e27f1e10f40g6e1f1r4f8D1e8f1g6f2e3f46g1" ++
  "3f1r2e3r1D5e13D73r7D10e182r33D1i14D10e6D9e1g37f1D7f1g6f1e1r1D5i10k10D19r3e2D30f2D22g1f1g7f1g" ++
  "2f1D2e73D7e1D2e1f38D6f3D1f1D2f1e7f1D1i8D10e6D6e1D2e1g32D5f1D2g1f2g1f1e1D1i7D10e310f19g2r2D2f" ++
  "7e2g1e1D13e1g34f2D5g3f2g1f1r1i13f10D1e85D1k15v21t8v4D17r13e1D922j102D111r1D5e11D196e2636r97D" ++
  "2e13A1072f16e1f6D15e10D3995e5D583e6841f30g12f3i3D10e1734D569e7D31i1D10r4e2D79i1D10e6D30f2r5D" ++
  "1e10f48r7v5d4r4v1D1i10D10k1D7e1D21e5D19d432e3d40r2i3D10a198b32k32r23D4e101D75f4e1g1D55f7d4D1" ++
  "3d64r2d1f1D1g11D2e14D6136e8D1238e41D10d8935D4d1D7d1D2e1D291e15D1e29D3e2D1e14D4e8D396e2308D10" ++
  "7e5D13e3D9e7D10v2f1r2A1D4v3932i240D10v6D436f76D46f2D23v9D116v60D246v10D39v2g60f2v3g3A6f8v8f2" ++
  "v7f30v4D61v21f66v3D1k122D20k12D20v12D87k9D25a135b26a26b26D7b1a18b26a26D1a1D2a2D1a2D2a2D4a1b8" ++
  "D4b1D1b1D7b1a11b26a26D2a1D4a2D8a1D7b1a26D2a1D4a1D5a1D1a3D7b1a26b26a26b26a26b26a26b26a26b26a2" ++
  "6b26D28a2s25b1s25b1a6s25b1s25b1a6s25b1s25b1a6s25b1s25b1a6s25b1s25b1a6b1D1i2v50f512v55f4v50f8" ++
  "v1f14v1r2D5f15D5f1D15b1104e10b1D20b6D6f213D7f1D17f2D7f1D2f1D5d5D62f33D1e112D45f3d7D7i2D10e4v" ++
  "1D1e320f30D1e17f44i4D10t5D1e464d27f1i4D10e214f30e2i1D10r4D1e480D7e1D4e1D2e1D15e1D197k2f9D7a4" ++
  "1b34f34d7D1i4D10r4D2k785v59k1t3k1D4k76v45k1D15e194D4e1D27e1D2e1D1e2D1e1D10e1D4e1D1e1D1e6D1e4" ++
  "D1e1D1e1D1e1D3e1D2e1D1e2D1e1D1e1D1e1D1e1D1e1D2e1D1e2D4e1D7e1D4e1D4e1D1e1D10e1D17e5D3e1D5e1D1" ++
  "7s52D2v270D44v4D100v12D15v2D15v1D15v1D37k10v13D161v56D29v13D44v4D9v7D2v14D6v154u251v5D728v4D" ++
  "17v3D13v3D119v4D95v6D12v4D1v15D12v4D56v8D10v6D40v8D30v2D12v4D2v62D340v12D14v2D13v3D10v5D56v7" ++
  "D15v2D11v6D9v7D147v1i92D10e1030D42720e32D4154e6D222e2D5762e14D7473e15D622e2466D542e1506D4939" ++
  "e5D4192A711761D1A30D96f128D240C65040D65534C2D65534"

/-- Reads the category table: each letter starts a run, the digits after it give the distance
from the previous run's start. -/
def readCategoryRuns (cs : List Char) : Array (Nat × Category) :=
  go cs 0 none 0 #[]
where
  /-- `pending` is the category of the run whose distance is being read. -/
  go : List Char → Nat → Option Category → Nat → Array (Nat × Category) → Array (Nat × Category)
    | [], prev, pending, dist, acc =>
      match pending with
      | some cat => acc.push (prev + dist, cat)
      | none => acc
    | c :: rest, prev, pending, dist, acc =>
      if c.isDigit then go rest prev pending (dist * 10 + (c.toNat - 48)) acc
      else
        let (prev, acc) := match pending with
          | some cat => (prev + dist, acc.push (prev + dist, cat))
          | none => (prev, acc)
        let cat := (categoryLetters.idxOf? c).bind fun i => Category.all[i]?
        go rest prev cat 0 acc

/-- The starts of the category runs, ascending, with their categories. -/
def categoryRuns : Array (Nat × Category) := readCategoryRuns categoryText.toList

/-- The index of the last run starting at or before `cp`, searching `[lo, hi)`. -/
def lastRunAtOrBefore (runs : Array (Nat × Category)) (cp : Nat) (lo hi : Nat) : Nat :=
  if h : lo + 1 < hi then
    let mid := (lo + hi) / 2
    if (runs[mid]?.map (·.1)).getD 0 ≤ cp then lastRunAtOrBefore runs cp mid hi
    else lastRunAtOrBefore runs cp lo mid
  else lo
termination_by hi - lo

/-- The general category of a character. -/
def category (c : Char) : Category :=
  let runs := categoryRuns
  (runs[lastRunAtOrBefore runs c.toNat 0 runs.size]?.map (·.2)).getD .Cn

/-- Runs of the simple case folding: `(start, count, delta, stride)`. -/
def foldRuns : List (Nat × Nat × Int × Nat) := [
  (65, 26, 32, 1),
  (181, 1, 775, 1),
  (192, 23, 32, 1),
  (216, 7, 32, 1),
  (256, 24, 1, 2),
  (306, 3, 1, 2),
  (313, 8, 1, 2),
  (330, 23, 1, 2),
  (376, 1, -121, 1),
  (377, 3, 1, 2),
  (383, 1, -268, 1),
  (385, 1, 210, 1),
  (386, 2, 1, 2),
  (390, 1, 206, 1),
  (391, 1, 1, 1),
  (393, 2, 205, 1),
  (395, 1, 1, 1),
  (398, 1, 79, 1),
  (399, 1, 202, 1),
  (400, 1, 203, 1),
  (401, 1, 1, 1),
  (403, 1, 205, 1),
  (404, 1, 207, 1),
  (406, 1, 211, 1),
  (407, 1, 209, 1),
  (408, 1, 1, 1),
  (412, 1, 211, 1),
  (413, 1, 213, 1),
  (415, 1, 214, 1),
  (416, 3, 1, 2),
  (422, 1, 218, 1),
  (423, 1, 1, 1),
  (425, 1, 218, 1),
  (428, 1, 1, 1),
  (430, 1, 218, 1),
  (431, 1, 1, 1),
  (433, 2, 217, 1),
  (435, 2, 1, 2),
  (439, 1, 219, 1),
  (440, 1, 1, 1),
  (444, 1, 1, 1),
  (452, 1, 2, 1),
  (453, 1, 1, 1),
  (455, 1, 2, 1),
  (456, 1, 1, 1),
  (458, 1, 2, 1),
  (459, 9, 1, 2),
  (478, 9, 1, 2),
  (497, 1, 2, 1),
  (498, 2, 1, 2),
  (502, 1, -97, 1),
  (503, 1, -56, 1),
  (504, 20, 1, 2),
  (544, 1, -130, 1),
  (546, 9, 1, 2),
  (570, 1, 10795, 1),
  (571, 1, 1, 1),
  (573, 1, -163, 1),
  (574, 1, 10792, 1),
  (577, 1, 1, 1),
  (579, 1, -195, 1),
  (580, 1, 69, 1),
  (581, 1, 71, 1),
  (582, 5, 1, 2),
  (837, 1, 116, 1),
  (880, 2, 1, 2),
  (886, 1, 1, 1),
  (895, 1, 116, 1),
  (902, 1, 38, 1),
  (904, 3, 37, 1),
  (908, 1, 64, 1),
  (910, 2, 63, 1),
  (913, 17, 32, 1),
  (931, 9, 32, 1),
  (962, 1, 1, 1),
  (975, 1, 8, 1),
  (976, 1, -30, 1),
  (977, 1, -25, 1),
  (981, 1, -15, 1),
  (982, 1, -22, 1),
  (984, 12, 1, 2),
  (1008, 1, -54, 1),
  (1009, 1, -48, 1),
  (1012, 1, -60, 1),
  (1013, 1, -64, 1),
  (1015, 1, 1, 1),
  (1017, 1, -7, 1),
  (1018, 1, 1, 1),
  (1021, 3, -130, 1),
  (1024, 16, 80, 1),
  (1040, 32, 32, 1),
  (1120, 17, 1, 2),
  (1162, 27, 1, 2),
  (1216, 1, 15, 1),
  (1217, 7, 1, 2),
  (1232, 48, 1, 2),
  (1329, 38, 48, 1),
  (4256, 38, 7264, 1),
  (4295, 1, 7264, 1),
  (4301, 1, 7264, 1),
  (5112, 6, -8, 1),
  (7296, 1, -6222, 1),
  (7297, 1, -6221, 1),
  (7298, 1, -6212, 1),
  (7299, 2, -6210, 1),
  (7301, 1, -6211, 1),
  (7302, 1, -6204, 1),
  (7303, 1, -6180, 1),
  (7304, 1, 35267, 1),
  (7305, 1, 1, 1),
  (7312, 43, -3008, 1),
  (7357, 3, -3008, 1),
  (7680, 75, 1, 2),
  (7835, 1, -58, 1),
  (7838, 1, -7615, 1),
  (7840, 48, 1, 2),
  (7944, 8, -8, 1),
  (7960, 6, -8, 1),
  (7976, 8, -8, 1),
  (7992, 8, -8, 1),
  (8008, 6, -8, 1),
  (8025, 4, -8, 2),
  (8040, 8, -8, 1),
  (8072, 8, -8, 1),
  (8088, 8, -8, 1),
  (8104, 8, -8, 1),
  (8120, 2, -8, 1),
  (8122, 2, -74, 1),
  (8124, 1, -9, 1),
  (8126, 1, -7173, 1),
  (8136, 4, -86, 1),
  (8140, 1, -9, 1),
  (8147, 1, -7235, 1),
  (8152, 2, -8, 1),
  (8154, 2, -100, 1),
  (8163, 1, -7219, 1),
  (8168, 2, -8, 1),
  (8170, 2, -112, 1),
  (8172, 1, -7, 1),
  (8184, 2, -128, 1),
  (8186, 2, -126, 1),
  (8188, 1, -9, 1),
  (8486, 1, -7517, 1),
  (8490, 1, -8383, 1),
  (8491, 1, -8262, 1),
  (8498, 1, 28, 1),
  (8544, 16, 16, 1),
  (8579, 1, 1, 1),
  (9398, 26, 26, 1),
  (11264, 48, 48, 1),
  (11360, 1, 1, 1),
  (11362, 1, -10743, 1),
  (11363, 1, -3814, 1),
  (11364, 1, -10727, 1),
  (11367, 3, 1, 2),
  (11373, 1, -10780, 1),
  (11374, 1, -10749, 1),
  (11375, 1, -10783, 1),
  (11376, 1, -10782, 1),
  (11378, 1, 1, 1),
  (11381, 1, 1, 1),
  (11390, 2, -10815, 1),
  (11392, 50, 1, 2),
  (11499, 2, 1, 2),
  (11506, 1, 1, 1),
  (42560, 23, 1, 2),
  (42624, 14, 1, 2),
  (42786, 7, 1, 2),
  (42802, 31, 1, 2),
  (42873, 2, 1, 2),
  (42877, 1, -35332, 1),
  (42878, 5, 1, 2),
  (42891, 1, 1, 1),
  (42893, 1, -42280, 1),
  (42896, 2, 1, 2),
  (42902, 10, 1, 2),
  (42922, 1, -42308, 1),
  (42923, 1, -42319, 1),
  (42924, 1, -42315, 1),
  (42925, 1, -42305, 1),
  (42926, 1, -42308, 1),
  (42928, 1, -42258, 1),
  (42929, 1, -42282, 1),
  (42930, 1, -42261, 1),
  (42931, 1, 928, 1),
  (42932, 8, 1, 2),
  (42948, 1, -48, 1),
  (42949, 1, -42307, 1),
  (42950, 1, -35384, 1),
  (42951, 2, 1, 2),
  (42955, 1, -42343, 1),
  (42956, 1, 1, 1),
  (42960, 1, 1, 1),
  (42966, 3, 1, 2),
  (42972, 1, -42561, 1),
  (42997, 1, 1, 1),
  (43888, 80, -38864, 1),
  (64261, 1, 1, 1),
  (65313, 26, 32, 1),
  (66560, 40, 40, 1),
  (66736, 36, 40, 1),
  (66928, 11, 39, 1),
  (66940, 15, 39, 1),
  (66956, 7, 39, 1),
  (66964, 2, 39, 1),
  (68736, 51, 64, 1),
  (68944, 22, 32, 1),
  (71840, 32, 32, 1),
  (93760, 32, 32, 1),
  (125184, 34, 34, 1)]

/-- The simple case folding of a character: the character all its case variants fold to. -/
def fold (c : Char) : Char :=
  let cp := c.toNat
  let hit := foldRuns.find? fun (start, count, _, stride) =>
    start ≤ cp ∧ cp < start + count * stride ∧ (cp - start) % stride = 0
  match hit with
  | some (_, _, delta, _) => Char.ofNat ((cp : Int) + delta).toNat
  | none => c

/-- Every character that folds to the same character as `c`, `c` included. -/
def caseVariants (c : Char) : List Char :=
  let target := fold c
  let sources := foldRuns.flatMap fun (start, count, delta, stride) =>
    (List.range count).filterMap fun i =>
      let cp := start + i * stride
      if ((cp : Int) + delta).toNat = target.toNat then some (Char.ofNat cp) else none
  (target :: sources).eraseDups

/-- `White_Space`: the characters the standard counts as blanks. -/
def isWhiteSpace (c : Char) : Bool :=
  let n := c.toNat
  (9 ≤ n ∧ n ≤ 13) ∨ n = 32 ∨ n = 0x85 ∨ n = 0xA0 ∨ n = 0x1680 ∨ (0x2000 ≤ n ∧ n ≤ 0x200A) ∨
    n = 0x2028 ∨ n = 0x2029 ∨ n = 0x202F ∨ n = 0x205F ∨ n = 0x3000

/-- A text without `White_Space` characters at either end. -/
def trim (s : String) : String :=
  String.ofList ((s.toList.dropWhile isWhiteSpace).reverse.dropWhile isWhiteSpace).reverse

/-- Decimal digits: category `Nd`. -/
def isDigit (c : Char) : Bool := category c == .Nd

/-- The word characters as an inversion list: the alphabetic characters, marks of any kind,
decimal digits, connector punctuation and the two joiners. -/
def wordText : String :=
  "48 10 7 26 4 1 1 26 47 1 10 1 4 1 5 23 1 31 1 458 4 12 14 5 7 1 1 1 17 117 1 2 2 4 1 1 6 1 1 " ++
  "3 1 1 1 20 1 83 1 139 1 173 1 38 2 1 6 41 8 45 1 1 1 2 1 2 1 1 8 27 4 4 29 11 5 74 4 102 1 8 " ++
  "2 10 1 19 2 1 16 59 2 101 14 54 4 1 2 1 2 46 18 28 4 11 5 24 1 6 8 75 1 129 2 10 1 19 1 8 2 " ++
  "2 2 22 1 7 1 1 3 4 2 9 2 2 2 4 8 1 4 2 1 5 2 12 10 1 1 1 2 3 1 6 4 2 2 22 1 7 1 2 1 2 1 2 2 " ++
  "1 1 5 4 2 2 3 3 1 7 4 1 1 7 16 11 3 1 9 1 3 1 22 1 7 1 2 1 5 2 10 1 3 1 3 2 1 15 4 2 10 9 7 " ++
  "1 3 1 8 2 2 2 22 1 7 1 2 1 5 2 9 2 2 2 3 7 3 4 2 1 5 2 10 1 1 16 2 1 6 3 3 1 4 3 2 1 1 1 2 3 " ++
  "2 3 3 3 12 4 5 3 3 1 4 2 1 6 1 14 10 16 13 1 3 1 23 1 16 2 9 1 3 1 4 7 2 1 3 2 1 2 4 2 10 16 " ++
  "4 1 8 1 3 1 23 1 10 1 5 2 9 1 3 1 4 7 2 6 2 1 4 2 10 1 3 12 13 1 3 1 51 1 3 1 5 5 4 7 5 2 10 " ++
  "10 6 1 3 1 18 3 24 1 9 1 1 2 7 3 1 4 6 1 1 1 8 6 10 2 2 13 58 5 15 1 10 39 2 1 1 1 5 1 24 1 " ++
  "1 1 23 2 5 1 1 1 7 1 10 2 4 32 1 23 2 6 10 11 1 1 1 1 1 4 10 1 36 4 20 1 18 1 36 9 1 57 74 6 " ++
  "78 2 38 1 1 5 1 2 43 1 333 1 4 2 7 1 1 1 4 2 41 1 4 2 33 1 4 2 7 1 1 1 4 2 15 1 57 1 4 2 67 " ++
  "2 3 32 16 16 86 2 6 3 620 2 17 1 26 5 75 3 11 7 22 9 22 11 20 12 13 1 3 1 2 12 84 3 1 4 2 2 " ++
  "10 33 3 1 11 6 89 7 43 5 70 10 31 1 12 4 12 10 40 2 5 11 44 4 26 6 10 38 28 4 63 1 29 2 11 6 " ++
  "10 13 1 8 31 49 77 3 10 17 9 12 116 12 56 8 10 3 49 2 11 5 43 2 3 16 3 1 39 5 534 2 6 2 38 2 " ++
  "6 2 8 1 1 1 1 1 1 1 31 2 53 1 7 1 1 3 3 1 7 3 4 2 6 4 13 5 3 1 7 15 2 49 2 19 1 28 1 13 1 16 " ++
  "13 51 33 17 1 4 1 2 10 1 1 3 5 6 1 1 1 1 1 1 4 1 11 2 4 5 5 4 1 17 41 813 52 1814 229 6 9 12 " ++
  "38 1 1 5 1 2 56 7 1 15 24 9 7 1 7 1 7 1 7 1 7 1 7 1 7 1 7 1 32 47 1 469 3 25 15 1 5 2 5 4 86 " ++
  "2 2 2 3 1 90 1 4 5 43 1 94 17 32 48 16 512 6592 64 22157 67 46 2 269 3 28 20 51 1 10 1 115 " ++
  "37 9 2 103 2 67 2 2 1 1 1 8 21 54 4 1 19 52 12 70 10 10 6 24 3 1 1 49 2 36 12 29 3 65 14 11 " ++
  "6 31 1 55 9 14 2 10 6 23 3 73 24 3 2 16 2 5 10 6 2 6 2 6 9 7 1 7 1 43 1 14 6 123 1 2 2 10 6 " ++
  "11172 12 23 4 49 8452 366 2 106 38 7 12 5 5 12 1 13 1 5 1 1 1 2 1 2 1 108 33 363 18 64 2 54 " ++
  "40 12 4 16 16 16 3 2 24 3 32 5 1 135 19 10 7 26 4 1 1 26 11 89 3 6 2 6 2 6 2 3 35 12 1 26 1 " ++
  "19 1 2 1 15 2 14 34 123 69 53 136 1 130 29 3 49 15 1 31 32 13 30 5 43 5 30 2 36 4 8 1 5 42 " ++
  "158 2 10 6 36 4 36 4 40 8 52 12 11 1 15 1 7 1 2 1 11 1 15 1 7 1 2 3 52 12 311 9 22 10 8 24 6 " ++
  "1 42 1 9 69 6 2 1 1 44 1 2 3 1 2 23 10 23 9 31 65 19 1 2 10 22 10 26 70 56 6 2 64 4 1 2 5 8 " ++
  "1 3 1 29 2 3 4 1 32 29 3 29 35 8 1 30 25 54 10 22 10 19 13 18 110 73 55 51 13 51 13 40 8 10 " ++
  "6 38 3 5 1 23 250 42 1 2 3 2 16 3 55 33 10 1 8 33 31 22 42 21 27 23 9 71 31 16 9 60 7 1 13 " ++
  "25 7 10 6 53 1 10 4 4 8 36 2 1 9 69 4 4 1 13 1 1 35 18 1 37 6 4 62 7 1 1 1 4 1 15 1 10 7 59 " ++
  "5 10 6 4 1 8 2 2 2 22 1 7 1 2 1 5 1 10 2 2 2 3 2 1 6 1 5 7 2 7 3 5 11 10 1 1 2 1 1 38 1 10 1 " ++
  "1 2 1 1 4 1 8 13 2 29 75 5 10 4 4 30 70 1 1 8 10 166 54 2 9 23 6 34 65 3 1 11 10 38 57 7 10 " ++
  "6 20 28 27 2 15 4 10 6 7 185 59 101 74 21 8 2 1 2 8 1 2 1 30 1 2 2 9 12 10 70 8 2 46 2 8 1 2 " ++
  "27 63 8 1 8 74 3 1 18 73 199 33 15 10 6 9 1 45 1 9 15 10 24 30 2 22 1 14 73 7 1 2 1 44 3 1 1 " ++
  "2 1 9 8 10 6 6 1 2 1 37 1 2 1 6 7 10 310 23 9 17 1 41 3 5 13 11 85 1 79 922 102 111 17 196 " ++
  "2636 97 15 1072 16 22 10 3995 5 583 6841 58 1734 569 7 31 1 10 6 79 1 10 6 30 2 5 11 55 9 4 " ++
  "12 10 9 21 5 19 432 45 3 10 198 64 128 75 4 57 7 17 64 2 1 2 11 2 14 6136 8 1238 41 10 8935 " ++
  "4 1 7 1 2 1 291 15 1 29 3 2 1 14 4 8 396 2308 107 5 13 3 9 7 10 3 2 4177 10 518 46 2 23 542 " ++
  "5 3 6 8 8 2 7 30 4 148 3 443 85 1 71 1 2 2 1 2 2 2 4 1 12 1 1 1 7 1 65 1 4 2 8 1 7 1 28 1 4 " ++
  "1 5 1 1 3 7 1 340 2 25 1 25 1 31 1 25 1 31 1 25 1 31 1 25 1 31 1 25 1 8 2 50 512 55 4 50 8 1 " ++
  "14 1 22 5 1 15 1104 31 6 6 213 7 1 17 2 7 1 2 1 5 5 62 33 1 112 45 3 14 2 10 4 1 321 31 17 " ++
  "58 470 42 214 43 485 7 1 4 1 2 1 15 1 197 11 7 41 76 4 10 1190 4 1 27 1 2 1 1 2 1 1 10 1 4 1 " ++
  "1 1 1 6 1 4 1 1 1 1 1 1 3 1 2 1 1 2 1 1 1 1 1 1 1 1 1 1 2 1 1 2 4 1 7 1 4 1 4 1 1 1 10 1 17 " ++
  "5 3 1 5 1 17 628 26 6 26 6 26 2662 10 1030 42720 32 4154 6 222 2 5762 14 7473 15 622 2466 " ++
  "542 1506 4939 5 4192 712016 240"

/-- The word characters, read once. -/
def wordBoundaries : Array Nat := readBoundaries wordText

/-- Word characters: the alphabetic characters, marks of any kind, decimal digits, connector
punctuation and the two joiners. -/
def isWord (c : Char) : Bool :=
  let n := c.toNat
  if n < 128 then c.isAlphanum || c == '_' else inBoundaries wordBoundaries n

/-- The characters of the `Alphabetic` property, read once. -/
def alphabeticBoundaries : Array Nat := (binaryProperty? "alphabetic").getD #[]

/-- Whether a character is alphabetic: a letter, a letter number, or one of the marks and
symbols the standard counts as alphabetic (`Other_Alphabetic`). -/
def isAlphabetic (c : Char) : Bool :=
  let n := c.toNat
  if n < 128 then c.isAlpha else inBoundaries alphabeticBoundaries n

end Switchyard.Unicode

import Switchyard.Http.Query
import Switchyard.Proofs.Number.ReadInt
/-!
# Decoding query components

`urlDecode` is the decoder of the `application/x-www-form-urlencoded` format (`formUnescape`:
`+` is a blank, `%` and two octets that spell an escape are that octet, every other octet stands
for itself) followed by lossy UTF-8 decoding, with one difference in what spells an escape. The
two octets after `%` go to the radix-16 reader for an unsigned octet, which also takes a leading
`+`: besides two hexadecimal digits (`hexEscape`), `+` and one hexadecimal digit is read as that
digit (`signedDigitEscape`). `hexPairOctet_eq` says exactly this for every pair of octets, and
`urlDecode_eq_formUnescape` lifts it to whole texts; `urlDecode_plus_escape` shows `%+5` read
as the octet 5 where the form decoder keeps `% 5`.
-/

namespace Switchyard

/-- The value of an ASCII hexadecimal digit, in either case. -/
def hexDigit? (b : UInt8) : Option Nat :=
  if 48 ≤ b.toNat ∧ b.toNat ≤ 57 then some (b.toNat - 48)
  else if 65 ≤ b.toNat ∧ b.toNat ≤ 70 then some (b.toNat - 55)
  else if 97 ≤ b.toNat ∧ b.toNat ≤ 102 then some (b.toNat - 87)
  else none

/-- The escape of the form encoding: two hexadecimal digits, the first the high one. -/
def hexEscape (x y : UInt8) : Option UInt8 :=
  match hexDigit? x, hexDigit? y with
  | some h, some l => some (UInt8.ofNat (16 * h + l))
  | _, _ => none

/-- A `+` and one hexadecimal digit, read as that digit. -/
def signedDigitEscape (x y : UInt8) : Option UInt8 :=
  if x = 43 then (hexDigit? y).map UInt8.ofNat else none

/-- Octets decoded as a form encoding, with `esc` reading the two octets after a `%`: `+` is a
blank, `%` and an escape that reads are the octet read, and every other octet stands for itself,
a `%` whose escape does not read included. -/
def formUnescape (esc : UInt8 → UInt8 → Option UInt8) : List UInt8 → List UInt8
  | [] => []
  | 43 :: rest => 32 :: formUnescape esc rest
  | 37 :: x :: y :: more =>
    match esc x y with
    | some o => o :: formUnescape esc more
    | none => 37 :: formUnescape esc (x :: y :: more)
  | b :: rest => b :: formUnescape esc rest

/-! ## Two octets as UTF-8 -/

theorem scan_ascii {b : UInt8} (h : b < 128) (rest : List UInt8) :
    Utf8.scan b rest = .scalar (Char.ofNat b.toNat) 0 := by
  simp [Utf8.scan, h]

theorem decode_ascii_pair {x y : UInt8} (hx : x < 128) (hy : y < 128) :
    Utf8.decode? [x, y] = some (String.ofList [Char.ofNat x.toNat, Char.ofNat y.toNat]) := by
  simp [Utf8.decode?, Utf8.valid, Utf8.decodeLossy, Utf8.decodeChars, scan_ascii hx,
    scan_ascii hy]

theorem leadShape_two {x lo hi : UInt8} (h : Utf8.leadShape x = some (2, lo, hi)) :
    194 ≤ x.toNat ∧ x.toNat ≤ 223 := by
  unfold Utf8.leadShape at h
  split_ifs at h with h1
  · simp only [Bool.and_eq_true, decide_eq_true_eq] at h1
    exact ⟨by simpa [UInt8.le_iff_toNat_le] using h1.1, by simpa [UInt8.le_iff_toNat_le] using h1.2⟩
  all_goals simp at h

/-- A two-octet sequence reads as a character above ASCII. -/
theorem assemble_two_ge (x y : UInt8) (hx : 194 ≤ x.toNat ∧ x.toNat ≤ 223) :
    128 ≤ (Utf8.assemble 2 x [y]).toNat := by
  have hlead : (x &&& 0x1F).toNat = x.toNat % 32 := by
    rw [UInt8.toNat_and]
    exact Nat.and_two_pow_sub_one_eq_mod x.toNat 5
  have htail : (y &&& 0x3F).toNat = y.toNat % 64 := by
    rw [UInt8.toNat_and]
    exact Nat.and_two_pow_sub_one_eq_mod y.toNat 6
  simp only [Utf8.assemble, if_pos, List.foldl_cons, List.foldl_nil, hlead, htail]
  rw [charOfNat_toNat (by simp only [Nat.isValidChar]; omega)]
  omega

theorem scan_two_ge {x y : UInt8} {c : Char} {n : Nat} (hx : ¬ x < 128)
    (h : Utf8.scan x [y] = .scalar c n) : n = 1 ∧ 128 ≤ c.toNat := by
  unfold Utf8.scan at h
  simp only [hx, if_false] at h
  split at h
  · cases h
  · rename_i len lo hi hshape
    split at h
    · cases h
    · split at h
      · cases h
        subst len
        exact ⟨rfl, assemble_two_ge x y (leadShape_two hshape)⟩
      · cases h

/-- An octet above ASCII with nothing after it is ill-formed. -/
theorem scan_nil_bad {y : UInt8} (hy : ¬ y < 128) : ∃ n, Utf8.scan y [] = .bad n := by
  unfold Utf8.scan
  simp only [hy, if_false]
  split <;> exact ⟨_, rfl⟩

/-- Two octets that are not both ASCII read, if at all, as one character above ASCII. -/
theorem decode_pair_of_not_ascii {x y : UInt8} (h : ¬ (x < 128 ∧ y < 128)) {t : String}
    (ht : Utf8.decode? [x, y] = some t) : ∃ c, 128 ≤ c.toNat ∧ t.toList = [c] := by
  unfold Utf8.decode? at ht
  split_ifs at ht with hvalid
  cases ht
  by_cases hx : x < 128
  · have hy : ¬ y < 128 := fun hy => h ⟨hx, hy⟩
    obtain ⟨n, hn⟩ := scan_nil_bad hy
    simp only [Utf8.valid, scan_ascii hx, List.drop_zero, hn] at hvalid
    cases hvalid
  · cases hsc : Utf8.scan x [y] with
    | bad n =>
      rw [Utf8.valid, hsc] at hvalid
      cases hvalid
    | scalar c n =>
      obtain ⟨rfl, hc⟩ := scan_two_ge hx hsc
      exact ⟨c, hc, by simp [Utf8.decodeLossy, Utf8.decodeChars, hsc]⟩

/-! ## Hexadecimal digits -/

theorem hexDigit?_lt {b : UInt8} {d : Nat} (h : hexDigit? b = some d) : d < 16 := by
  unfold hexDigit? at h
  split_ifs at h <;> cases h <;> omega

theorem lt_of_hexDigit? {b : UInt8} {d : Nat} (h : hexDigit? b = some d) : b < 128 := by
  unfold hexDigit? at h
  rw [UInt8.lt_iff_toNat_lt]
  split_ifs at h <;> cases h <;> (show b.toNat < 128; omega)

/-- An octet read as a character keeps its code. -/
theorem charOfNat_octet_toNat (b : UInt8) : (Char.ofNat b.toNat).toNat = b.toNat :=
  charOfNat_toNat (by have := b.toNat_lt; simp only [Nat.isValidChar]; omega)

theorem charOfNat_octet_ne {b : UInt8} {c : Char} (h : b.toNat ≠ c.toNat) :
    Char.ofNat b.toNat ≠ c := fun heq => h (by rw [← heq, charOfNat_octet_toNat])

/-- The reader's digits of radix 16, on an octet read as a character, are the hexadecimal
digits. -/
theorem digitValue_hex_octet (b : UInt8) : digitValue 16 (Char.ofNat b.toNat) = hexDigit? b := by
  have hc := charOfNat_octet_toNat b
  have hle : ∀ d : Char, (d ≤ Char.ofNat b.toNat ↔ d.toNat ≤ b.toNat) ∧
      (Char.ofNat b.toNat ≤ d ↔ b.toNat ≤ d.toNat) := by
    intro d; simp only [Char.le_def, UInt32.le_iff_toNat_le, Char.toNat_val, hc, and_self]
  simp only [digitValue, hexDigit?, (hle _).1, (hle _).2, hc]
  split_ifs <;> simp_all <;> omega

theorem digitValue_of_high {radix : Nat} {c : Char} (hc : 128 ≤ c.toNat) :
    digitValue radix c = none := by
  have hle : ∀ d : Char, d.toNat < 128 → ¬ c ≤ d := by
    intro d hd hcd
    simp only [Char.le_def, UInt32.le_iff_toNat_le, Char.toNat_val] at hcd
    omega
  simp [digitValue, hle '9' (by decide), hle 'z' (by decide), hle 'Z' (by decide)]

/-! ## The escape reader -/

/-- The radix-16 reader on two characters: a `+` and a digit, or two digits. -/
theorem readInt_hex_pair (a b : Char) :
    readInt IntKind.u8 16 (String.ofList [a, b]) =
      if a = '+' then (readDigits 16 255 .posOverflow 0 [b]).map Int.ofNat
      else if a = '-' then .error .invalidDigit
      else (readDigits 16 255 .posOverflow 0 [a, b]).map Int.ofNat := by
  rw [readInt, String.toList_ofList]
  by_cases hp : a = '+'
  · subst hp; rfl
  by_cases hm : a = '-'
  · subst hm; rfl
  rw [if_neg hp, if_neg hm]
  split
  case h_1 h => cases h
  case h_2 h => cases h
  case h_3 h => exact absurd (List.cons.inj h).1 hp
  case h_4 h => exact absurd (List.cons.inj h).1 hm
  case h_5 => rfl

theorem readDigits_hex_one (y : UInt8) :
    readDigits 16 255 .posOverflow 0 [Char.ofNat y.toNat] =
      match hexDigit? y with
      | some l => .ok l
      | none => .error .invalidDigit := by
  cases hl : hexDigit? y with
  | none => simp [readDigits, digitValue_hex_octet, hl]
  | some l =>
    have := hexDigit?_lt hl
    simp [readDigits, digitValue_hex_octet, hl]
    omega

theorem readDigits_hex_two (x y : UInt8) :
    readDigits 16 255 .posOverflow 0 [Char.ofNat x.toNat, Char.ofNat y.toNat] =
      match hexDigit? x, hexDigit? y with
      | some h, some l => .ok (h * 16 + l)
      | _, _ => .error .invalidDigit := by
  cases hh : hexDigit? x with
  | none => simp [readDigits, digitValue_hex_octet, hh]
  | some h =>
    have := hexDigit?_lt hh
    cases hl : hexDigit? y with
    | none => simp [readDigits, digitValue_hex_octet, hh, hl]; omega
    | some l =>
      have := hexDigit?_lt hl
      simp only [readDigits, digitValue_hex_octet, hh, hl, Nat.zero_mul, Nat.zero_add]
      rw [if_neg (by omega), if_neg (by omega)]

theorem hexPairOctet_ascii {x y : UInt8} (hx : x < 128) (hy : y < 128) :
    hexPairOctet x y = (hexEscape x y <|> signedDigitEscape x y) := by
  unfold hexPairOctet
  rw [decode_ascii_pair hx hy]
  simp only []
  rw [readInt_hex_pair]
  by_cases hp : x = 43
  · subst hp
    have hplus : Char.ofNat (43 : UInt8).toNat = '+' := by decide
    have h43 : hexDigit? 43 = none := by decide
    rw [if_pos hplus, readDigits_hex_one]
    cases hl : hexDigit? y <;> simp [hexEscape, signedDigitEscape, h43, hl, Except.map]
  by_cases hm : x = 45
  · subst hm
    have hminus : Char.ofNat (45 : UInt8).toNat = '-' := by decide
    have h45 : hexDigit? 45 = none := by decide
    rw [if_neg (by rw [hminus]; decide), if_pos hminus]
    simp [hexEscape, signedDigitEscape, h45]
  have hp' : x.toNat ≠ '+'.toNat := fun h => hp (UInt8.toNat_inj.1 h)
  have hm' : x.toNat ≠ '-'.toNat := fun h => hm (UInt8.toNat_inj.1 h)
  rw [if_neg (charOfNat_octet_ne hp'), if_neg (charOfNat_octet_ne hm'), readDigits_hex_two]
  cases hh : hexDigit? x <;> cases hl : hexDigit? y
  case some.some h l =>
    simp only [hexEscape, signedDigitEscape, hp, hh, hl, Except.map, if_false,
      Int.ofNat_eq_natCast, Int.toNat_natCast, Nat.mul_comm h 16]
    rfl
  all_goals simp [hexEscape, signedDigitEscape, hp, hh, hl, Except.map]

theorem escape_of_not_ascii {x y : UInt8} (h : ¬ (x < 128 ∧ y < 128)) :
    (hexEscape x y <|> signedDigitEscape x y) = none := by
  have hxy : hexDigit? x = none ∨ hexDigit? y = none := by
    by_contra hc
    simp only [not_or] at hc
    obtain ⟨d, hd⟩ := Option.ne_none_iff_exists'.1 hc.1
    obtain ⟨e, he⟩ := Option.ne_none_iff_exists'.1 hc.2
    exact h ⟨lt_of_hexDigit? hd, lt_of_hexDigit? he⟩
  have hsigned : signedDigitEscape x y = none := by
    unfold signedDigitEscape
    split_ifs with hx
    · subst hx
      have hy : ¬ y < 128 := fun hy => h ⟨by decide, hy⟩
      cases hd : hexDigit? y with
      | none => rfl
      | some d => exact absurd (lt_of_hexDigit? hd) hy
    · rfl
  rcases hxy with hx | hy
  · simp [hexEscape, hsigned, hx]
  · simp [hexEscape, hsigned, hy]

theorem readInt_high_char {c : Char} (hc : 128 ≤ c.toNat) :
    readInt IntKind.u8 16 (String.ofList [c]) = .error .invalidDigit := by
  have hsign : ¬ (c = '+' ∨ c = '-') := by
    rintro (rfl | rfl) <;> simp at hc
  rw [readInt, String.toList_ofList]
  simp [hsign, readDigits, digitValue_of_high hc, Except.map]

/-- The octet `%` and two octets stand for: two hexadecimal digits, or `+` and one. -/
theorem hexPairOctet_eq (x y : UInt8) :
    hexPairOctet x y = (hexEscape x y <|> signedDigitEscape x y) := by
  by_cases h : x < 128 ∧ y < 128
  · exact hexPairOctet_ascii h.1 h.2
  rw [escape_of_not_ascii h]
  unfold hexPairOctet
  cases hd : Utf8.decode? [x, y] with
  | none => rfl
  | some t =>
    -- a pair that is not ASCII is at best one character, and no digit
    obtain ⟨c, hc, ht⟩ := decode_pair_of_not_ascii h hd
    have : t = String.ofList [c] := by rw [← ht, String.ofList_toList]
    subst this
    simp only [readInt_high_char hc]

/-! ## Whole components -/

theorem urlDecodeOctets_eq_formUnescape (bs : List UInt8) :
    urlDecodeOctets bs = formUnescape hexPairOctet bs := by
  fun_induction urlDecodeOctets bs <;> simp_all [formUnescape]

/-- A query component decodes as the form encoding whose escapes are two hexadecimal digits or
a `+` and one, read as UTF-8 with each ill-formed part replaced. -/
theorem urlDecode_eq_formUnescape (s : String) :
    urlDecode s = Utf8.decodeLossy
      (formUnescape (fun x y => hexEscape x y <|> signedDigitEscape x y) (Utf8.encode s)) := by
  have hesc : hexPairOctet = fun x y => hexEscape x y <|> signedDigitEscape x y :=
    funext fun x => funext fun y => hexPairOctet_eq x y
  rw [urlDecode, urlDecodeOctets_eq_formUnescape, hesc]

/-- `%+5` is read as the octet 5, where the form encoding keeps `%` and reads `+` as a blank. -/
theorem urlDecode_plus_escape :
    urlDecode "%+5" = "\x05" ∧
      Utf8.decodeLossy (formUnescape hexEscape (Utf8.encode "%+5")) = "% 5" :=
  ⟨by decide +kernel, by decide +kernel⟩

end Switchyard

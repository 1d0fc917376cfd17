import Switchyard.Config.Env
import Switchyard.Proofs.Number.ReadInt
/-!
# The grammar of integer settings

`readSetting` strips one sign by hand (`-`, else `+`), lower-cases the rest, picks the radix
from a `0x`, `0o` or `0b` prefix, and hands the digits to the 64-bit integer reader, which
takes a sign of its own. So a setting is an outer sign, a radix prefix, an inner sign and
digits (`readSetting_eq_some_iff`):

- the inner sign follows the outer one or the prefix, so `--5` reads as 5 and `0x-1` as -1;
- the range of 64-bit integers bounds the inner value, before the outer sign applies, so
  `-9223372036854775808` is refused while `--9223372036854775808` is read;
- an outer `-` then negates in two's complement, and the negation of the smallest value
  overflows back to itself (`readSetting_doubled_sign`).
-/

namespace Switchyard

/-- The radix prefixes of a lower-cased setting; a decimal setting has none. -/
inductive RadixMark where
  /-- No prefix: decimal. -/
  | dec
  /-- `0x`: hexadecimal. -/
  | hex
  /-- `0o`: octal. -/
  | oct
  /-- `0b`: binary. -/
  | bin
  deriving DecidableEq, Repr

namespace RadixMark

/-- The characters of a prefix. -/
def text : RadixMark → List Char
  | .dec => []
  | .hex => ['0', 'x']
  | .oct => ['0', 'o']
  | .bin => ['0', 'b']

/-- The radix a prefix selects. -/
def base : RadixMark → Nat
  | .dec => 10
  | .hex => 16
  | .oct => 8
  | .bin => 2

/-- The prefix a lower-cased text starts with, and the characters after it. -/
def split : List Char → RadixMark × List Char
  | '0' :: 'x' :: r => (.hex, r)
  | '0' :: 'o' :: r => (.oct, r)
  | '0' :: 'b' :: r => (.bin, r)
  | l => (.dec, l)

end RadixMark

/-- What the sign in front of a setting does to the value after it: `-` negates in 64-bit
two's complement. -/
def Sign.settle : Sign → Int → Int
  | .minus, v => wrapNeg64 v
  | _, v => v

/-- A text does not start with a sign. -/
def NoSignHead (l : List Char) : Prop := ∀ c r, l = c :: r → c ≠ '-' ∧ c ≠ '+'

/-! ## Characters -/

/-- Lower-casing an ASCII letter never makes a sign. -/
theorem lowerChar_eq_sign_iff {c s : Char} (hs : s = '-' ∨ s = '+') :
    (if 'A' ≤ c ∧ c ≤ 'Z' then Char.ofNat (c.toNat + 32) else c) = s ↔ c = s := by
  split
  case isTrue hup =>
    have hlo : 65 ≤ c.toNat ∧ c.toNat ≤ 90 := by
      simpa [Char.le_def, UInt32.le_iff_toNat_le] using hup
    have hlow : (Char.ofNat (c.toNat + 32)).toNat = c.toNat + 32 :=
      charOfNat_toNat (by simp only [Nat.isValidChar]; omega)
    constructor
    · intro h
      have := congrArg Char.toNat h
      rw [hlow] at this
      rcases hs with rfl | rfl <;> simp at this <;> omega
    · rintro rfl
      rcases hs with rfl | rfl <;> simp at hlo
  case isFalse => exact Iff.rfl

theorem noSignHead_of_digitsOf {radix : Nat} {cs : List Char} {ds : List Nat}
    (h : DigitsOf radix cs ds) : NoSignHead cs := by
  rintro c r rfl
  exact ⟨fun hc => not_digitsOf_sign (Or.inr hc) h, fun hc => not_digitsOf_sign (Or.inl hc) h⟩

/-! ## The outer sign -/

theorem settingSign_of_noSignHead {l : List Char} (h : NoSignHead l) : settingSign l = (false, l) := by
  unfold settingSign
  split
  case h_1 r => exact absurd rfl (h '-' r rfl).1
  case h_2 r => exact absurd rfl (h '+' r rfl).2
  case h_3 => rfl

/-- Stripping the outer sign of `outer.text ++ body`, when `body` cannot be taken for one. -/
theorem settingSign_text_append {outer : Sign} {body : List Char}
    (h : outer = .none → NoSignHead body) :
    settingSign (outer.text ++ body) = (decide (outer = .minus), body) := by
  cases outer with
  | none => simpa [Sign.text] using settingSign_of_noSignHead (h rfl)
  | plus => rfl
  | minus => rfl

/-- Every text is an outer sign and what `settingSign` leaves. -/
theorem exists_settingSign (l : List Char) :
    ∃ outer : Sign, l = outer.text ++ (settingSign l).2 ∧
      (settingSign l).1 = decide (outer = .minus) ∧ (outer = .none → NoSignHead l) := by
  by_cases hm : ∃ r, l = '-' :: r
  · obtain ⟨r, rfl⟩ := hm
    exact ⟨.minus, rfl, rfl, by simp⟩
  by_cases hp : ∃ r, l = '+' :: r
  · obtain ⟨r, rfl⟩ := hp
    exact ⟨.plus, rfl, rfl, by simp⟩
  have hl : NoSignHead l := by
    rintro c r rfl
    refine ⟨?_, ?_⟩ <;> rintro rfl
    exacts [hm ⟨r, rfl⟩, hp ⟨r, rfl⟩]
  exact ⟨.none, by simp [Sign.text, settingSign_of_noSignHead hl],
    by simp [settingSign_of_noSignHead hl], fun _ => hl⟩

theorem asciiLower_signText (outer : Sign) (body : List Char) :
    asciiLower (outer.text ++ body) = outer.text ++ asciiLower body := by
  cases outer <;> simp [asciiLower, Sign.text]

theorem noSignHead_asciiLower {l : List Char} (h : NoSignHead l) : NoSignHead (asciiLower l) := by
  cases l with
  | nil => rintro c r ⟨⟩
  | cons c r =>
    rintro c' r' hcons
    simp only [asciiLower, List.map_cons, List.cons.injEq] at hcons
    obtain ⟨hc', -⟩ := hcons
    rw [← hc', ne_eq, ne_eq, lowerChar_eq_sign_iff (Or.inl rfl), lowerChar_eq_sign_iff (Or.inr rfl)]
    exact h c r rfl

/-- Lower-casing and stripping the outer sign commute. -/
theorem settingSign_asciiLower (l : List Char) :
    settingSign (asciiLower l) = ((settingSign l).1, asciiLower (settingSign l).2) := by
  obtain ⟨outer, hl, hneg, hhead⟩ := exists_settingSign l
  rw [hneg]
  conv_lhs => rw [hl, asciiLower_signText]
  apply settingSign_text_append
  intro hnone
  rw [settingSign_of_noSignHead (hhead hnone)]
  exact noSignHead_asciiLower (hhead hnone)

/-! ## The radix prefix -/

/-- A text that starts with none of the prefixes `0x`, `0o` and `0b`. -/
def NoRadixPrefix (r : List Char) : Prop := ∀ rm : RadixMark, rm ≠ .dec → ¬ rm.text <+: r

theorem RadixMark.split_text_append {rm : RadixMark} {r : List Char}
    (h : rm = .dec → NoRadixPrefix r) : RadixMark.split (rm.text ++ r) = (rm, r) := by
  cases rm with
  | dec =>
    have hr := h rfl
    simp only [RadixMark.text, List.nil_append] at hr ⊢
    unfold RadixMark.split
    split
    case h_1 _ t => exact absurd ⟨t, rfl⟩ (hr .hex (by decide))
    case h_2 _ t => exact absurd ⟨t, rfl⟩ (hr .oct (by decide))
    case h_3 _ t => exact absurd ⟨t, rfl⟩ (hr .bin (by decide))
    case h_4 => rfl
  | hex => rfl
  | oct => rfl
  | bin => rfl

theorem RadixMark.split_spec (b : List Char) :
    b = (RadixMark.split b).1.text ++ (RadixMark.split b).2 := by
  unfold RadixMark.split
  split <;> rfl

/-- The prefix test on text is the prefix test on its characters. -/
theorem settingRadix_ofList (b : List Char) :
    settingRadix (String.ofList b) =
      ((RadixMark.split b).1.base, String.ofList (RadixMark.split b).2) := by
  have hdrop : ((String.ofList b).drop 2).copy = String.ofList (b.drop 2) := by
    apply String.toList_inj.1; simp
  unfold settingRadix
  rw [hdrop]
  by_cases hx : ['0', 'x'] <+: b
  · obtain ⟨r, rfl⟩ := hx
    simp [RadixMark.split, RadixMark.base]
  by_cases ho : ['0', 'o'] <+: b
  · obtain ⟨r, rfl⟩ := ho
    simp [RadixMark.split, RadixMark.base]
  by_cases hb : ['0', 'b'] <+: b
  · obtain ⟨r, rfl⟩ := hb
    simp [RadixMark.split, RadixMark.base]
  have hdec : RadixMark.split b = (.dec, b) := by
    have : NoRadixPrefix b := by
      intro rm hrm; cases rm <;> simp_all [RadixMark.text]
    simpa [RadixMark.text] using @RadixMark.split_text_append .dec b fun _ => this
  simp [hx, ho, hb, hdec, RadixMark.base]

/-- Decimal digits start with no prefix: `x`, `o` and `b` are no decimal digits. -/
theorem noRadixPrefix_of_digitsOf_ten {cs : List Char} {ds : List Nat} (h : DigitsOf 10 cs ds) :
    NoRadixPrefix cs := by
  rintro rm hrm ⟨t, rfl⟩
  cases rm <;> simp_all [RadixMark.text, DigitsOf, List.forall₂_cons_left_iff, digitValue]

theorem noRadixPrefix_signText {sg : Sign} (hsg : sg ≠ .none) (cs : List Char) :
    NoRadixPrefix (sg.text ++ cs) := by
  rintro rm hrm ⟨t, ht⟩
  cases sg <;> cases rm <;> simp_all [Sign.text, RadixMark.text]

/-! ## The grammar -/

theorem toOption_eq_some_iff {ε α : Type} {x : Except ε α} {a : α} :
    x.toOption = some a ↔ x = .ok a := by
  cases x <;> simp [Except.toOption]

/-- The body after the outer sign starts with no sign when its own sign is not first. -/
theorem noSignHead_body {rm : RadixMark} {inner : Sign} {cs : List Char} {m : Int}
    (hspell : SpellsInt IntKind.i64 rm.base inner cs m) (h : rm = .dec → inner = .none) :
    NoSignHead (rm.text ++ inner.text ++ cs) := by
  obtain ⟨-, -, ds, hds, -⟩ := hspell
  cases rm with
  | dec => simpa [RadixMark.text, h rfl, Sign.text] using noSignHead_of_digitsOf hds
  | hex | oct | bin => rintro c r hc; simp [RadixMark.text] at hc; grind

/-- Only a prefix is taken for one: what follows a decimal body's sign is digits. -/
theorem noRadixPrefix_body {inner : Sign} {cs : List Char} {m : Int}
    (hspell : SpellsInt IntKind.i64 RadixMark.dec.base inner cs m) :
    NoRadixPrefix (inner.text ++ cs) := by
  obtain ⟨-, -, ds, hds, -⟩ := hspell
  by_cases hnone : inner = .none
  · simpa [hnone, Sign.text] using noRadixPrefix_of_digitsOf_ten hds
  · exact noRadixPrefix_signText hnone cs

/-- Lower-casing the whole text first reads the same: signs have no case. -/
theorem readSetting_eq_lower (raw : String) :
    readSetting raw =
      let (negative, body) := settingSign (asciiLower (Unicode.trim raw).toList)
      let (radix, rest) := settingRadix (String.ofList body)
      (readInt IntKind.i64 radix rest).toOption.map fun v => if negative then wrapNeg64 v else v := by
  unfold readSetting
  rw [settingSign_asciiLower]

/-- A setting reads as `v` exactly when, lower-cased, it is an outer sign, a radix prefix, an
inner sign and digits of that radix, where the inner sign does not stand first, the inner value
is a 64-bit integer and `v` is what the outer sign makes of it. -/
theorem readSetting_eq_some_iff {raw : String} {v : Int} :
    readSetting raw = some v ↔
      ∃ (outer inner : Sign) (rm : RadixMark) (cs : List Char) (m : Int),
        asciiLower (Unicode.trim raw).toList = outer.text ++ rm.text ++ inner.text ++ cs ∧
        (outer = .none → rm = .dec → inner = .none) ∧
        SpellsInt IntKind.i64 rm.base inner cs m ∧ v = outer.settle m := by
  rw [readSetting_eq_lower]
  generalize asciiLower (Unicode.trim raw).toList = l
  constructor
  · intro h
    obtain ⟨outer, hl, hneg, hhead⟩ := exists_settingSign l
    generalize settingSign l = p at h hl hneg
    obtain ⟨neg, body⟩ := p
    subst hl hneg
    generalize hsplit : RadixMark.split body = q at h
    obtain ⟨rm, r⟩ := q
    have hbody : body = rm.text ++ r := by simpa [hsplit] using RadixMark.split_spec body
    simp only [settingRadix_ofList, hsplit] at h
    obtain ⟨m, hm, rfl⟩ := Option.map_eq_some_iff.1 h
    obtain ⟨inner, cs, hcs, hspell⟩ := readInt_eq_ok_iff.1 (toOption_eq_some_iff.1 hm)
    rw [String.toList_ofList] at hcs
    subst hbody hcs
    refine ⟨outer, inner, rm, cs, m, by simp, ?_, hspell, ?_⟩
    · rintro rfl rfl
      -- with no outer sign the text starts with the inner sign, which would have been the outer one
      have hfree := hhead rfl
      cases inner with
      | none => rfl
      | plus => exact absurd rfl (hfree '+' cs rfl).2
      | minus => exact absurd rfl (hfree '-' cs rfl).1
    · cases outer <;> simp [Sign.settle]
  · rintro ⟨outer, inner, rm, cs, m, rfl, hgreedy, hspell, rfl⟩
    have hsign := @settingSign_text_append outer (rm.text ++ inner.text ++ cs)
      fun hnone => noSignHead_body hspell (hgreedy hnone)
    have hradix := @RadixMark.split_text_append rm (inner.text ++ cs)
      fun hdec => by subst hdec; exact noRadixPrefix_body hspell
    have hread : readInt IntKind.i64 rm.base (String.ofList (inner.text ++ cs)) = .ok m :=
      readInt_eq_ok_iff.2 ⟨inner, cs, by simp, hspell⟩
    simp only [List.append_assoc] at hsign hradix ⊢
    rw [hsign]
    simp only [settingRadix_ofList, hradix, hread]
    cases outer <;> simp [Except.toOption, Sign.settle]

/-- A doubled sign is read; the smallest 64-bit value is refused with one `-`, and read with
two, the outer negation overflowing back to it. -/
theorem readSetting_doubled_sign :
    readSetting "--5" = some 5 ∧ readSetting "-9223372036854775808" = none ∧
      readSetting "--9223372036854775808" = some (-9223372036854775808) :=
  ⟨by decide +kernel, by decide +kernel, by decide +kernel⟩

end Switchyard

import Mathlib.Data.List.Forall2
import Mathlib.Data.Nat.Digits.Defs
import Switchyard.Number.Read
/-!
# What the integer reader accepts

`readInt` checks digits left to right and stops at the first accumulator above the type's
bound. The accumulator never shrinks, so that early stop is the same as one range check on the
whole value: `readInt_eq_ok_iff` says the reader accepts exactly an optional sign (`-` only for
a signed type) followed by a nonempty run of digits of the radix, and returns the value those
digits spell (`Nat.ofDigits`, most significant digit first) when it lies in the type's range.
-/

namespace Switchyard

/-- The optional sign at the head of an integer's text. -/
inductive Sign where
  /-- No sign. -/
  | none
  /-- `+`. -/
  | plus
  /-- `-`. -/
  | minus
  deriving DecidableEq, Repr

namespace Sign

/-- The characters a sign is written with. -/
def text : Sign → List Char
  | .none => []
  | .plus => ['+']
  | .minus => ['-']

/-- The integer a sign makes of a magnitude. -/
def apply : Sign → Nat → Int
  | .minus, n => -(n : Int)
  | _, n => n

end Sign

/-- Whether a value lies in the range of an integer type. -/
def IntKind.Holds (k : IntKind) (v : Int) : Prop := -(k.minMagnitude : Int) ≤ v ∧ v ≤ k.max

/-- Characters that are, one for one, the digits `ds` of a radix. -/
def DigitsOf (radix : Nat) (cs : List Char) (ds : List Nat) : Prop :=
  List.Forall₂ (fun c d => digitValue radix c = some d) cs ds

/-- A sign and a nonempty run of digits that spell `v` in `radix`, within the range of
`kind`; a `-` only for a signed type. -/
def SpellsInt (kind : IntKind) (radix : Nat) (sg : Sign) (cs : List Char) (v : Int) : Prop :=
  cs ≠ [] ∧ (sg = .minus → kind.signed) ∧
    ∃ ds, DigitsOf radix cs ds ∧ v = sg.apply (Nat.ofDigits radix ds.reverse) ∧ kind.Holds v

/-! ## Digits -/

/-- A character made from a valid code keeps it. -/
theorem charOfNat_toNat {n : Nat} (h : n.isValidChar) : (Char.ofNat n).toNat = n := by
  rw [Char.ofNat, dif_pos h]
  exact BitVec.toNat_ofNatLT _ _

theorem digitValue_lt {radix d : Nat} {c : Char} (h : digitValue radix c = some d) :
    d < radix := by
  simp only [digitValue] at h
  split at h
  · split at h
    · cases h; assumption
    · cases h
  · cases h

@[simp] theorem digitValue_plus (radix : Nat) : digitValue radix '+' = none := by
  simp [digitValue]

@[simp] theorem digitValue_minus (radix : Nat) : digitValue radix '-' = none := by
  simp [digitValue]

theorem DigitsOf.unique {radix : Nat} {cs : List Char} {ds ds' : List Nat}
    (h : DigitsOf radix cs ds) (h' : DigitsOf radix cs ds') : ds = ds' := by
  induction h generalizing ds' with
  | nil => cases h'; rfl
  | cons hc _ ih =>
    cases h' with
    | cons hc' hrest => rw [hc] at hc'; cases hc'; rw [ih hrest]

theorem not_digitsOf_sign {radix : Nat} {c : Char} {cs : List Char} {ds : List Nat}
    (hc : c = '+' ∨ c = '-') : ¬ DigitsOf radix (c :: cs) ds := by
  rcases hc with rfl | rfl <;> simp [DigitsOf, List.forall₂_cons_left_iff]

/-- Reading digits most significant first is `Nat.ofDigits` on the reversed digits. -/
theorem foldl_horner (radix acc : Nat) (ds : List Nat) :
    ds.foldl (fun a d => a * radix + d) acc =
      acc * radix ^ ds.length + Nat.ofDigits radix ds.reverse := by
  induction ds generalizing acc with
  | nil => simp
  | cons d ds ih =>
    rw [List.foldl_cons, ih, List.reverse_cons, Nat.ofDigits_append]
    simp only [List.length_reverse, Nat.ofDigits_singleton, List.length_cons, pow_succ]
    ring

theorem le_foldl_horner {radix : Nat} (hr : 0 < radix) (acc : Nat) (ds : List Nat) :
    acc ≤ ds.foldl (fun a d => a * radix + d) acc := by
  induction ds generalizing acc with
  | nil => simp
  | cons d ds ih =>
    calc acc ≤ acc * radix + d := by nlinarith
      _ ≤ _ := ih _

/-- The reader's early overflow check is one range check on the final value, since the
accumulator only grows. -/
theorem readDigits_eq_ok_iff {radix limit : Nat} {ov : IntError} {acc n : Nat} {cs : List Char}
    (hacc : acc ≤ limit) :
    readDigits radix limit ov acc cs = .ok n ↔
      ∃ ds, DigitsOf radix cs ds ∧ n = ds.foldl (fun a d => a * radix + d) acc ∧ n ≤ limit := by
  induction cs generalizing acc with
  | nil =>
    simp only [readDigits, DigitsOf, List.forall₂_nil_left_iff, exists_eq_left, List.foldl_nil,
      Except.ok.injEq]
    constructor
    · rintro rfl; exact ⟨rfl, hacc⟩
    · rintro ⟨rfl, -⟩; rfl
  | cons c cs ih =>
    cases hc : digitValue radix c with
    | none => simp [readDigits, hc, DigitsOf, List.forall₂_cons_left_iff]
    | some d =>
      have hr : 0 < radix := Nat.lt_of_le_of_lt (Nat.zero_le d) (digitValue_lt hc)
      simp only [DigitsOf, List.forall₂_cons_left_iff, hc, Option.some.injEq]
      by_cases hover : acc * radix + d > limit
      · simp only [readDigits, hc, hover, if_true, reduceCtorEq, false_iff]
        -- every later accumulator is at least this one, which is already too large
        rintro ⟨_, ⟨_, ds, rfl, -, rfl⟩, rfl, hle⟩
        have := le_foldl_horner hr (acc * radix + d) ds
        simp only [List.foldl_cons] at hle
        omega
      · simp only [readDigits, hc, hover, if_false]
        rw [ih (by omega)]
        constructor
        · rintro ⟨ds, hds, rfl, hle⟩
          exact ⟨d :: ds, ⟨d, ds, rfl, hds, rfl⟩, rfl, hle⟩
        · rintro ⟨_, ⟨_, ds, rfl, hds, rfl⟩, rfl, hle⟩
          exact ⟨ds, hds, rfl, hle⟩

theorem readDigits_zero_eq_ok_iff {radix limit : Nat} {ov : IntError} {n : Nat}
    {cs : List Char} :
    readDigits radix limit ov 0 cs = .ok n ↔
      ∃ ds, DigitsOf radix cs ds ∧ n = Nat.ofDigits radix ds.reverse ∧ n ≤ limit := by
  simp [readDigits_eq_ok_iff (Nat.zero_le limit), foldl_horner]

/-! ## Signs -/

theorem exists_sign_append_iff {l : List Char} {P : Sign → List Char → Prop} :
    (∃ sg cs, l = sg.text ++ cs ∧ P sg cs) ↔
      P .none l ∨ (∃ r, l = '+' :: r ∧ P .plus r) ∨ (∃ r, l = '-' :: r ∧ P .minus r) := by
  constructor
  · rintro ⟨sg, cs, rfl, h⟩
    cases sg <;> simp_all [Sign.text]
  · rintro (h | ⟨r, rfl, h⟩ | ⟨r, rfl, h⟩)
    · exact ⟨.none, l, rfl, h⟩
    · exact ⟨.plus, r, rfl, h⟩
    · exact ⟨.minus, r, rfl, h⟩

theorem spellsInt_plus_iff {kind : IntKind} {radix : Nat} {cs : List Char} {v : Int} :
    SpellsInt kind radix .plus cs v ↔ SpellsInt kind radix .none cs v := by
  simp [SpellsInt, Sign.apply]

theorem not_spellsInt_none_sign {kind : IntKind} {radix : Nat} {c : Char} {cs : List Char}
    {v : Int} (hc : c = '+' ∨ c = '-') : ¬ SpellsInt kind radix .none (c :: cs) v := by
  rintro ⟨-, -, ds, hds, -⟩
  exact not_digitsOf_sign hc hds

/-- Unsigned digits, read up to the type's largest value. -/
theorem readDigits_max_eq_ok_iff {kind : IntKind} {radix : Nat} {cs : List Char} {v : Int}
    (hcs : cs ≠ []) :
    Except.map Int.ofNat (readDigits radix kind.max .posOverflow 0 cs) = .ok v ↔
      SpellsInt kind radix .none cs v := by
  simp only [SpellsInt, hcs, ne_eq, not_false_eq_true, reduceCtorEq, false_implies, true_and,
    Sign.apply, IntKind.Holds]
  cases h : readDigits radix kind.max .posOverflow 0 cs with
  | error e =>
    simp only [Except.map, reduceCtorEq, false_iff, not_exists, not_and]
    rintro ds hds rfl - hle
    have hok : readDigits radix kind.max .posOverflow 0 cs = .ok (Nat.ofDigits radix ds.reverse) :=
      readDigits_zero_eq_ok_iff.2 ⟨ds, hds, rfl, by exact_mod_cast hle⟩
    rw [h] at hok; cases hok
  | ok n =>
    obtain ⟨ds, hds, rfl, hle⟩ := readDigits_zero_eq_ok_iff.1 h
    simp only [Except.map, Except.ok.injEq, Int.ofNat_eq_natCast]
    constructor
    · rintro rfl
      exact ⟨ds, hds, rfl, by omega, by exact_mod_cast hle⟩
    · rintro ⟨ds', hds', rfl, -, -⟩
      rw [hds.unique hds']

/-- Digits after a `-`, read down to the type's smallest value. -/
theorem readDigits_min_eq_ok_iff {kind : IntKind} {radix : Nat} {cs : List Char} {v : Int}
    (hcs : cs ≠ []) :
    (if kind.signed then
        Except.map (fun n => -n)
          (readDigits radix kind.minMagnitude .negOverflow 0 cs >>= fun a => pure (a : Int))
      else .error .invalidDigit) = .ok v ↔
      SpellsInt kind radix .minus cs v := by
  simp only [SpellsInt, hcs, ne_eq, not_false_eq_true, forall_const, true_and, Sign.apply,
    IntKind.Holds]
  cases hsigned : kind.signed with
  | false => simp
  | true =>
    simp only [if_true, true_and]
    cases h : readDigits radix kind.minMagnitude .negOverflow 0 cs with
    | error e =>
      simp only [bind, Except.bind, Except.map, reduceCtorEq, false_iff, not_exists, not_and]
      rintro ds hds rfl hle -
      have hok : readDigits radix kind.minMagnitude .negOverflow 0 cs =
          .ok (Nat.ofDigits radix ds.reverse) :=
        readDigits_zero_eq_ok_iff.2 ⟨ds, hds, rfl, by omega⟩
      rw [h] at hok; cases hok
    | ok n =>
      obtain ⟨ds, hds, rfl, hle⟩ := readDigits_zero_eq_ok_iff.1 h
      simp only [bind, Except.bind, pure, Except.pure, Except.map, Except.ok.injEq]
      constructor
      · rintro rfl
        exact ⟨ds, hds, rfl, by omega, by omega⟩
      · rintro ⟨ds', hds', rfl, -, -⟩
        rw [hds.unique hds']

/-! ## The reader -/

/-- `readInt` reads exactly an optional sign and a nonempty run of digits of the radix whose
value lies in the type's range; `-` only for a signed type. -/
theorem readInt_eq_ok_iff {kind : IntKind} {radix : Nat} {s : String} {v : Int} :
    readInt kind radix s = .ok v ↔
      ∃ sg cs, s.toList = sg.text ++ cs ∧ SpellsInt kind radix sg cs v := by
  rw [exists_sign_append_iff, readInt]
  split
  case h_1 h => simp [h, SpellsInt]
  case h_2 c h =>
    by_cases hc : c = '+' ∨ c = '-'
    · rw [if_pos hc]
      simp only [h, reduceCtorEq, false_iff, not_or, List.cons.injEq, not_exists, not_and]
      -- a lone sign has no digits after it
      refine ⟨not_spellsInt_none_sign hc, ?_, ?_⟩ <;>
        · rintro r ⟨-, rfl⟩ ⟨hne, -⟩
          exact hne rfl
    · rw [if_neg hc, readDigits_max_eq_ok_iff (List.cons_ne_nil c [])]
      simp only [not_or] at hc
      simp [h, hc.1, hc.2]
  case h_3 rest hrest h =>
    rw [readDigits_max_eq_ok_iff hrest, h]
    simp [not_spellsInt_none_sign (Or.inl rfl), spellsInt_plus_iff]
  case h_4 rest hrest h =>
    rw [readDigits_min_eq_ok_iff hrest, h]
    simp [not_spellsInt_none_sign (Or.inr rfl)]
  case h_5 hnil _ hplus hminus =>
    rw [readDigits_max_eq_ok_iff hnil]
    constructor
    · exact Or.inl
    · rintro (h | ⟨r, hr, -⟩ | ⟨r, hr, -⟩)
      exacts [h, (hplus r hr).elim, (hminus r hr).elim]

end Switchyard

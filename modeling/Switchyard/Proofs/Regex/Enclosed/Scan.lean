import Switchyard.Regex.Parse
/-!
# Scans of a text and of the text followed by `)$`

A placeholder's constraint `re` is compiled from the text `^(?:re)$`, so the body of the group
is `re` read with `)$` after it. This module and the ones under it compare the two readings,
the parser run on `re` alone and on `re ++ ")$"`. They relate the scans by `Scan.Follows`: the
same characters are left, then `)$`. The readings part only where a verbose comment runs to the
end of `re`: it runs over the `)$` too, and nothing is left on either side. Positions differ by
the four characters of `^(?:` and take no part in what is read.

Here are the scans' own lemmas and the relation with the readings that need nothing of the
grammar: blank stretches, runs of characters, an optional `?` and a decimal count.
-/

namespace Switchyard.Regex

namespace Scan

@[simp] theorem bump_rest (s : Scan) : s.bump.rest = s.rest.tail := rfl
@[simp] theorem bump_names (s : Scan) : s.bump.names = s.names := rfl
@[simp] theorem skip_rest (s : Scan) (n : Nat) : (s.skip n).rest = s.rest.drop n := rfl
@[simp] theorem skip_names (s : Scan) (n : Nat) : (s.skip n).names = s.names := rfl
@[simp] theorem blanks_false (s : Scan) : s.blanks false = s := rfl
@[simp] theorem blanks_names (s : Scan) (v : Bool) : (s.blanks v).names = s.names := by
  unfold blanks; split <;> rfl
@[simp] theorem bumpBlanks_names (s : Scan) (v : Bool) : (s.bumpBlanks v).names = s.names := by
  simp [bumpBlanks]
@[simp] theorem defer_rest (s : Scan) (e : ParseError) : (s.defer e).rest = s.rest := by
  unfold defer; split <;> rfl
@[simp] theorem defer_names (s : Scan) (e : ParseError) : (s.defer e).names = s.names := by
  unfold defer; split <;> rfl
@[simp] theorem deferIf_rest (s : Scan) (e : Option ParseError) : (s.deferIf e).rest = s.rest := by
  cases e <;> simp [deferIf]
@[simp] theorem deferIf_names (s : Scan) (e : Option ParseError) :
    (s.deferIf e).names = s.names := by
  cases e <;> simp [deferIf]

theorem blankLength_le (b : Bool) (cs : List Char) : blankLength b cs ≤ cs.length := by
  induction cs generalizing b with
  | nil => cases b <;> simp [blankLength]
  | cons c cs ih =>
    cases b
    · simp only [blankLength]
      split
      · have := ih false; simp; omega
      · split
        · have := ih true; simp; omega
        · omega
    · simp only [blankLength]
      have := ih (c != '\n'); simp; omega

theorem blanks_rest (s : Scan) (v : Bool) :
    (s.blanks v).rest = if v then s.rest.drop (blankLength false s.rest) else s.rest := by
  unfold blanks; split <;> rfl

theorem blanks_length_le (s : Scan) (v : Bool) : (s.blanks v).rest.length ≤ s.rest.length := by
  rw [blanks_rest]; split <;> simp

theorem bumpBlanks_length_lt {s : Scan} (hs : s.rest ≠ []) (v : Bool) :
    (s.bumpBlanks v).rest.length < s.rest.length := by
  have := blanks_length_le s.bump v
  have : s.bump.rest.length < s.rest.length := by
    cases h : s.rest with
    | nil => exact absurd h hs
    | cons c cs => simp [h]
  unfold bumpBlanks; omega

theorem length_le_of_startsWith {s : Scan} {p : String} (h : s.startsWith p = true) :
    p.toList.length ≤ s.rest.length :=
  (List.isPrefixOf_iff_prefix.mp h).length_le

/-- A blank stretch reads the same in a text followed by `)$`, unless a comment runs to the
end of the text: then it runs over the `)$` too. -/
theorem blankLength_append_close (b : Bool) (cs : List Char) :
    blankLength b (cs ++ [')', '$']) = blankLength b cs ∨
      (blankLength b cs = cs.length ∧ blankLength b (cs ++ [')', '$']) = cs.length + 2) := by
  induction cs generalizing b with
  | nil => cases b <;> simp [blankLength, Unicode.isWhiteSpace]
  | cons c cs ih =>
    cases b
    · simp only [List.cons_append, blankLength]
      split
      · rcases ih false with h | ⟨h1, h2⟩
        · simp [h]
        · simp [h1, h2]
      · split
        · rcases ih true with h | ⟨h1, h2⟩
          · simp [h]
          · simp [h1, h2]
        · simp
    · simp only [List.cons_append, blankLength]
      rcases ih (c != '\n') with h | ⟨h1, h2⟩
      · simp [h]
      · simp [h1, h2]

theorem isPrefixOf_append_close {p : List Char} (hp : ')' ∉ p) (xs : List Char) :
    p.isPrefixOf (xs ++ [')', '$']) = p.isPrefixOf xs := by
  induction p generalizing xs with
  | nil => simp [List.isPrefixOf]
  | cons a p ih =>
    have ha : a ≠ ')' := fun h => hp (h ▸ List.mem_cons_self)
    have hp' : ')' ∉ p := fun h => hp (List.mem_cons_of_mem _ h)
    cases xs with
    | nil => simp [List.isPrefixOf, ha]
    | cons x xs => simp [List.isPrefixOf, ih hp' xs]

/-- The scan `t` of a text followed by `)$` stands where the scan `s` of the text alone
stands: the same characters are left and then `)$` (or nothing on either side, once a
comment has run over the `)$`), and the same capture names have been met. -/
structure Follows (s t : Scan) : Prop where
  rest : t.rest = s.rest ++ [')', '$'] ∨ s.rest = [] ∧ t.rest = []
  names : t.names.map Prod.fst = s.names.map Prod.fst

namespace Follows

variable {s t : Scan}

theorem rest_cons (h : Follows s t) {c : Char} {cs : List Char} (hs : s.rest = c :: cs) :
    t.rest = c :: (cs ++ [')', '$']) := by
  rcases h.rest with ht | ⟨hs', -⟩
  · rw [ht, hs, List.cons_append]
  · rw [hs] at hs'; cases hs'

theorem rest_nil (h : Follows s t) (hs : s.rest = []) : t.rest = [')', '$'] ∨ t.rest = [] := by
  rcases h.rest with ht | ⟨-, ht⟩
  · left; rw [ht, hs]; rfl
  · right; exact ht

theorem length_le (h : Follows s t) : s.rest.length ≤ t.rest.length := by
  rcases h.rest with ht | ⟨hs, ht⟩
  · simp [ht]
  · simp [hs]

theorem bump (h : Follows s t) (hs : s.rest ≠ []) : Follows s.bump t.bump := by
  obtain ⟨c, cs, hcs⟩ := List.exists_cons_of_ne_nil hs
  refine ⟨.inl ?_, h.names⟩
  simp [h.rest_cons hcs, hcs]

theorem skip (h : Follows s t) {n : Nat} (hn : n ≤ s.rest.length) :
    Follows (s.skip n) (t.skip n) := by
  refine ⟨?_, h.names⟩
  rcases h.rest with ht | ⟨hs, ht⟩
  · left; simp [ht, List.drop_append_of_le_length hn]
  · right; simp [hs, ht]

theorem blanks (h : Follows s t) (v : Bool) : Follows (s.blanks v) (t.blanks v) := by
  cases v
  · simpa [Scan.blanks] using h
  · simp only [Scan.blanks, if_true]
    rcases h.rest with ht | ⟨hs, ht⟩
    · rw [ht]
      rcases blankLength_append_close false s.rest with hb | ⟨hb, hb'⟩
      · rw [hb]; exact h.skip (blankLength_le _ _)
      · -- a comment runs to the end of the text, and over the `)$`
        refine ⟨.inr ⟨?_, ?_⟩, h.names⟩
        · simp [hb]
        · simp [ht, hb']
    · have : Follows (s.skip 0) (t.skip 0) := h.skip (Nat.zero_le _)
      simpa [hs, ht, blankLength] using this

theorem bumpBlanks (h : Follows s t) (hs : s.rest ≠ []) (v : Bool) :
    Follows (s.bumpBlanks v) (t.bumpBlanks v) :=
  (h.bump hs).blanks v

theorem defer (h : Follows s t) (e e' : ParseError) : Follows (s.defer e) (t.defer e') :=
  ⟨by simpa using h.rest, by simpa using h.names⟩

theorem deferIf (h : Follows s t) (e e' : Option ParseError) :
    Follows (s.deferIf e) (t.deferIf e') :=
  ⟨by simpa using h.rest, by simpa using h.names⟩

theorem deferIte (h : Follows s t) (b : Bool) (e e' : ParseError) :
    Follows (if b = true then s.defer e else s) (if b = true then t.defer e' else t) := by
  cases b
  · exact h
  · exact h.defer e e'

theorem atEnd_eq_false (h : Follows s t) (hs : s.atEnd = false) : t.atEnd = false := by
  cases hr : s.rest with
  | nil => simp [Scan.atEnd, hr] at hs
  | cons c cs => simp [Scan.atEnd, h.rest_cons hr]

theorem not_atEnd (h : Follows s t) (hs : ¬s.atEnd = true) : ¬t.atEnd = true := by
  simpa using h.atEnd_eq_false (by simpa using hs)

theorem startsWith_eq (h : Follows s t) {p : String} (hp : ')' ∉ p.toList) :
    t.startsWith p = s.startsWith p := by
  unfold Scan.startsWith
  rcases h.rest with ht | ⟨hs, ht⟩
  · rw [ht, isPrefixOf_append_close hp]
  · rw [hs, ht]

theorem peek?_eq (h : Follows s t) (hs : s.rest ≠ []) : t.peek? = s.peek? := by
  obtain ⟨c, cs, hcs⟩ := List.exists_cons_of_ne_nil hs
  simp [Scan.peek?, hcs, h.rest_cons hcs]

/-- Whether the next character is a given one other than `)` reads the same, also at the end
of the text. -/
theorem peek?_beq (h : Follows s t) {c : Char} (hc : c ≠ ')') :
    (t.peek? == some c) = (s.peek? == some c) := by
  by_cases hs : s.rest = []
  · rcases h.rest_nil hs with ht | ht <;> simp [Scan.peek?, hs, ht, Ne.symm hc]
  · rw [h.peek?_eq hs]

end Follows

/-- A run of characters that satisfy a test reads the same in a text followed by `)$`, when
`)` fails the test, given fuel for the whole text. -/
theorem run_follows {p : Char → Bool} (hp : p ')' = false) (v : Bool) :
    ∀ (n m : Nat) (s t : Scan), s.rest.length ≤ n → n ≤ m → Follows s t →
      (run p v m t).1 = (run p v n s).1 ∧ Follows (run p v n s).2 (run p v m t).2 := by
  intro n
  induction n with
  | zero =>
    intro m s t hn hm h
    have hs : s.rest = [] := List.eq_nil_of_length_eq_zero (by omega)
    cases m with
    | zero => exact ⟨rfl, h⟩
    | succ m =>
      rcases h.rest_nil hs with ht | ht <;> simp [run, ht, hp, h]
  | succ n ih =>
    intro m s t hn hm h
    obtain ⟨m, rfl⟩ : ∃ m', m = m' + 1 := ⟨m - 1, by omega⟩
    cases hs : s.rest with
    | nil =>
      rcases h.rest_nil hs with ht | ht <;> simp [run, ht, hs, hp, h]
    | cons c cs =>
      have hne : s.rest ≠ [] := by simp [hs]
      have hlen : (s.bumpBlanks v).rest.length ≤ n := by
        have := bumpBlanks_length_lt hne v
        rw [hs] at this hn
        simp only [List.length_cons] at this hn
        omega
      obtain ⟨h1, h2⟩ :=
        ih m (s.bumpBlanks v) (t.bumpBlanks v) hlen (by omega) (h.bumpBlanks hne v)
      simp only [run, hs, h.rest_cons hs]
      split
      · simp [h1, h2]
      · exact ⟨rfl, h⟩

end Scan

open Scan

theorem skipLazy_follows {s t : Scan} (h : Follows s t) : Follows (skipLazy s) (skipLazy t) := by
  cases hs : s.rest with
  | nil =>
    rcases h.rest_nil hs with ht | ht <;> simp [skipLazy, Scan.peek?, hs, ht, h]
  | cons c cs =>
    have ht := h.rest_cons hs
    unfold skipLazy
    simp only [Scan.peek?, hs, ht, List.head?_cons]
    split
    · exact h.bump (by simp [hs])
    · exact h

theorem takeWhile_white_append_close (cs : List Char) :
    ((cs ++ [')', '$']).takeWhile Unicode.isWhiteSpace).length =
      (cs.takeWhile Unicode.isWhiteSpace).length := by
  rw [List.takeWhile_append]
  split
  · rename_i heq
    simp [heq, Unicode.isWhiteSpace]
  · rfl

/-- A count reads the same in a text followed by `)$`. -/
theorem countDecimal_follows {s t : Scan} (h : Follows s t) (v : Bool) :
    (countDecimal v t).1.toOption = (countDecimal v s).1.toOption ∧
      Follows (countDecimal v s).2 (countDecimal v t).2 := by
  -- the white space in front, the digits, then the white space after them
  have h0 : Follows (s.skip (s.rest.takeWhile Unicode.isWhiteSpace).length)
      (t.skip (t.rest.takeWhile Unicode.isWhiteSpace).length) := by
    rcases h.rest with ht | ⟨hs, ht⟩
    · rw [ht, takeWhile_white_append_close]
      exact h.skip (List.takeWhile_prefix _).length_le
    · simpa [hs, ht] using h.skip (n := 0) (Nat.zero_le _)
  unfold countDecimal
  generalize s.skip (s.rest.takeWhile Unicode.isWhiteSpace).length = s0 at h0 ⊢
  generalize t.skip (t.rest.takeWhile Unicode.isWhiteSpace).length = t0 at h0 ⊢
  obtain ⟨hd1, hd2⟩ := run_follows (p := Char.isDigit) (by decide) v s0.rest.length
    t0.rest.length s0 t0 (Nat.le_refl _) h0.length_le h0
  rcases hr : run Char.isDigit v s0.rest.length s0 with ⟨ds, s1⟩
  rcases hr' : run Char.isDigit v t0.rest.length t0 with ⟨ds', t1⟩
  rw [hr, hr'] at hd1 hd2
  simp only at hd1 hd2
  obtain ⟨hw1, hw2⟩ := run_follows (p := Unicode.isWhiteSpace) (by decide) v s1.rest.length
    t1.rest.length s1 t1 (Nat.le_refl _) hd2.length_le hd2
  rcases hw : run Unicode.isWhiteSpace v s1.rest.length s1 with ⟨ws, s2⟩
  rcases hw' : run Unicode.isWhiteSpace v t1.rest.length t1 with ⟨ws', t2⟩
  rw [hw, hw'] at hw2
  simp only at hw2
  simp only [hr, hr', hw, hw', hd1]
  by_cases hds : ds.isEmpty = true
  · simp only [hds, if_true]
    exact ⟨rfl, hw2⟩
  · simp only [hds, Bool.false_eq_true, if_false]
    by_cases hbig : List.foldl (fun acc c => acc * 10 + (c.toNat - 48)) 0 ds ≥ Nat.pow 2 32
    · rw [if_pos hbig, if_pos hbig]
      exact ⟨rfl, hw2⟩
    · rw [if_neg hbig, if_neg hbig]
      exact ⟨rfl, hw2⟩

end Switchyard.Regex

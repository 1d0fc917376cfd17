import Switchyard.Proofs.Regex.Enclosed.Escape
/-!
# Classes, read with `)$` after the text

The parts of a bracketed class read the same with `)$` after the text: an item, a member or a
range `a-b` (`classRange_follows`), an ASCII class `[:name:]` (`asciiClassAt_follows`, both
failing or both reading the same class), and the opening of a class with its negation and its
leading `-` and `]` (`classOpen_follows`). Members are compared by their characters only, which
is all `classSoFar` reads of them.
-/

namespace Switchyard.Regex

open Scan

/-- Whether a look-ahead finds a character that ends a class range: `]` or `-`. -/
def closesRange (o : Option Char) : Bool := o == some ']' || o == some '-'

theorem peekPast_go_follows (a : List Char) :
    ∀ (b : Bool) (ys : List Char),
      (∃ c ∈ ys, Scan.peekPast.go a b ys = some c ∧
        Scan.peekPast.go (a ++ [')', '$']) b (ys ++ [')', '$']) = some c) ∨
      (Scan.peekPast.go a b ys = a.head? ∧ (∀ c ∈ ys, Unicode.isWhiteSpace c = true ∨ c = '#') ∧
        Scan.peekPast.go (a ++ [')', '$']) b (ys ++ [')', '$']) = some ')') := by
  intro b ys
  induction ys generalizing b with
  | nil =>
    right
    refine ⟨rfl, by simp, ?_⟩
    cases b <;> simp [Scan.peekPast.go, Unicode.isWhiteSpace]
  | cons c ys ih =>
    simp only [Scan.peekPast.go, List.cons_append]
    split
    · rename_i hw
      rcases ih b with ⟨d, hd, h1, h2⟩ | ⟨h1, hall, h2⟩
      · exact .inl ⟨d, List.mem_cons_of_mem _ hd, h1, h2⟩
      · exact .inr ⟨h1, by simpa [hw] using hall, h2⟩
    · split
      · rename_i hw hh
        have hc : c = '#' := by simp only [Bool.and_eq_true, beq_iff_eq] at hh; exact hh.2
        rcases ih true with ⟨d, hd, h1, h2⟩ | ⟨h1, hall, h2⟩
        · exact .inl ⟨d, List.mem_cons_of_mem _ hd, h1, h2⟩
        · exact .inr ⟨h1, by simpa [hc] using hall, h2⟩
      · exact .inl ⟨c, List.mem_cons_self, rfl, rfl⟩

/-- Whether the character after the next one ends a class range reads the same in a text
followed by `)$`. -/
theorem closesRange_peekPast {s t : Scan} (h : Follows s t) (hs : s.rest ≠ []) (v : Bool) :
    closesRange (t.peekPast v) = closesRange (s.peekPast v) := by
  obtain ⟨c, xs, hcs⟩ := List.exists_cons_of_ne_nil hs
  have ht := h.rest_cons hcs
  unfold Scan.peekPast
  cases v
  · -- the character right after the next one
    simp only [Bool.not_false, if_true, Scan.peek2?, hcs, ht, List.tail_cons]
    cases xs <;> simp [closesRange]
  · simp only [Bool.not_true, Bool.false_eq_true, if_false, hcs, ht]
    rcases peekPast_go_follows xs false xs with ⟨d, -, h1, h2⟩ | ⟨h1, hall, h2⟩
    · rw [h1, h2]
    · rw [h1, h2]
      -- only blanks and a comment sign stand after the next character
      cases xs with
      | nil => rfl
      | cons x xs =>
        rcases hall x List.mem_cons_self with hx | hx
        · have h1 : x ≠ ']' := by rintro rfl; simp [Unicode.isWhiteSpace] at hx
          have h2 : x ≠ '-' := by rintro rfl; simp [Unicode.isWhiteSpace] at hx
          simp [closesRange, h1, h2]
        · subst hx; rfl

/-- An item of a class reads the same in a text followed by `)$`. -/
theorem classItem_follows {flags : Flags} {s t s₁ : Scan} {p : Prim}
    (hf : classItem flags s = .ok (p, s₁)) (h : Follows s t) :
    ∃ p' t₁, classItem flags t = .ok (p', t₁) ∧ p'.erase = p.erase ∧ Follows s₁ t₁ := by
  unfold classItem at hf ⊢
  rcases hs : s.rest with _ | ⟨c, cs⟩
  · rw [hs] at hf; cases hf
  have hne : s.rest ≠ [] := by rw [hs]; exact List.cons_ne_nil _ _
  rw [hs] at hf
  rw [h.rest_cons hs]
  by_cases hc : c = '\\'
  · subst hc
    exact escape_follows hf hne h
  · split at hf
    · rename_i heq; simp only [List.cons.injEq] at heq; exact absurd heq.1 hc
    · rename_i heq
      cases hf
      obtain ⟨rfl, -⟩ := List.cons.inj heq
      exact ⟨_, _, rfl, rfl, h.bump hne⟩
    · rename_i heq; cases heq

theorem rangeCondition_eq (c : Char) (x : Option Char) :
    (c != '-' || x == some ']' || x == some '-') = (c != '-' || closesRange x) := by
  simp [closesRange, Bool.or_assoc]

/-- A class member or range reads the same in a text followed by `)$`. -/
theorem classRange_follows {flags : Flags} {sp : Span} (sp' : Span) {s t s₁ : Scan} {m : Member}
    (hf : classRange flags sp s = .ok (m, s₁)) (h : Follows s t) :
    ∃ m' t₁, classRange flags sp' t = .ok (m', t₁) ∧ m'.cls = m.cls ∧ Follows s₁ t₁ := by
  unfold classRange at hf ⊢
  dsimp only at hf ⊢
  split at hf
  · cases hf
  rename_i p1 s1 hi1
  obtain ⟨p1', t1, hi1', hp1, h1⟩ := classItem_follows hi1 h
  rw [hi1']
  dsimp only
  have h1b := h1.blanks flags.verbose
  rcases hs1 : (s1.blanks flags.verbose).rest with _ | ⟨c, cs⟩
  · rw [hs1] at hf; cases hf
  have hne1 : (s1.blanks flags.verbose).rest ≠ [] := by rw [hs1]; exact List.cons_ne_nil _ _
  rw [hs1] at hf
  rw [h1b.rest_cons hs1]
  dsimp only at hf ⊢
  rw [rangeCondition_eq] at hf ⊢
  rw [closesRange_peekPast h1b hne1]
  split at hf
  · -- a single member
    rename_i hcond
    rw [if_pos hcond]
    rcases hk : p1.toClass with _ | k
    · rw [hk] at hf; cases hf
    rw [hk] at hf
    cases hf
    rw [Prim.toClass_of_erase hp1 hk]
    exact ⟨_, _, rfl, rfl, h1b.deferIf _ _⟩
  · -- a range: the dash, then its other end
    rename_i hcond
    rw [if_neg hcond]
    have h2 := h1b.bumpBlanks hne1 flags.verbose
    split at hf
    · cases hf
    rename_i hne2
    rw [if_neg (h2.not_atEnd hne2)]
    split at hf
    · cases hf
    rename_i p2 s3 hi2
    obtain ⟨p2', t3, hi2', hp2, h3⟩ := classItem_follows hi2 h2
    rw [hi2']
    dsimp only
    split at hf
    · cases hf
    · cases hf
    · rename_i a b ha hb
      rw [Prim.toRangeEnd_of_erase hp1 ha, Prim.toRangeEnd_of_erase hp2 hb]
      dsimp only
      split at hf
      · rename_i hab
        rw [if_pos hab]
        cases hf
        exact ⟨_, _, rfl, rfl, (h3.deferIf _ _).deferIf _ _⟩
      · cases hf

theorem dropWhile_ne_colon_append_close (body : List Char) :
    (body ++ [')', '$']).dropWhile (· != ':') =
      if ':' ∈ body then body.dropWhile (· != ':') ++ [')', '$'] else [] := by
  induction body with
  | nil => simp
  | cons c body ih =>
    by_cases hc : c = ':'
    · subst hc; simp
    · have hc' : ':' ≠ c := fun h => hc h.symm
      simp [hc, hc', ih]

theorem takeWhile_ne_colon_append_close (body : List Char) (hb : ':' ∈ body) :
    (body ++ [')', '$']).takeWhile (· != ':') = body.takeWhile (· != ':') := by
  induction body with
  | nil => simp at hb
  | cons c body ih =>
    by_cases hc : c = ':'
    · subst hc; simp
    · have hb' : ':' ∈ body := by
        rcases List.mem_cons.mp hb with h | h
        · exact absurd h.symm hc
        · exact h
      simp [hc, ih hb']

theorem dropWhile_ne_colon_of_not_mem {body : List Char} (hb : ':' ∉ body) :
    body.dropWhile (· != ':') = [] := by
  induction body with
  | nil => rfl
  | cons c body ih =>
    have hc : c ≠ ':' := fun h => hb (h ▸ List.mem_cons_self)
    simp [hc, ih (fun h => hb (List.mem_cons_of_mem _ h))]

theorem dropWhile_ne_colon_of_mem {body : List Char} (hb : ':' ∈ body) :
    ∃ r, body.dropWhile (· != ':') = ':' :: r := by
  induction body with
  | nil => simp at hb
  | cons c body ih =>
    by_cases hc : c = ':'
    · subst hc; simp
    · have hb' : ':' ∈ body := by
        rcases List.mem_cons.mp hb with h | h
        · exact absurd h.symm hc
        · exact h
      simpa [hc] using ih hb'

/-- The name of an ASCII class reads the same in a text followed by `)$`. -/
theorem asciiName_append_close (body : List Char) :
    asciiName (body ++ [')', '$']) = asciiName body := by
  unfold asciiName
  rw [dropWhile_ne_colon_append_close]
  by_cases hm : ':' ∈ body
  · rw [if_pos hm, takeWhile_ne_colon_append_close body hm]
    obtain ⟨r, hr⟩ := dropWhile_ne_colon_of_mem hm
    rw [hr]
    rcases r with _ | ⟨c, r⟩
    · rfl
    · by_cases hc : c = ']' <;> simp [hc]
  · rw [if_neg hm, dropWhile_ne_colon_of_not_mem hm]

theorem asciiName_length {body name : List Char} (h : asciiName body = some name) :
    name.length + 2 ≤ body.length := by
  unfold asciiName at h
  have hsplit := List.takeWhile_append_dropWhile (p := (· != ':')) (l := body)
  split at h
  · rename_i tail hd
    cases h
    have := congrArg List.length hsplit
    simp only [List.length_append, hd, List.length_cons] at this
    omega
  · cases h

/-- What an ASCII class reads, given its negation mark and the text after it. -/
theorem asciiFinish_follows {s t : Scan} (h : Follows s t) (neg : Bool) (body : List Char)
    (hlen : 2 + (if neg then 1 else 0) + body.length ≤ s.rest.length) :
    Option.Rel (fun a b => a.1 = b.1 ∧ a.2.1 = b.2.1 ∧ Follows a.2.2 b.2.2)
      ((asciiName body).bind fun name => (asciiClass (String.ofList name)).map fun k =>
        (k, neg, s.skip (2 + (if neg then 1 else 0) + name.length + 2)))
      ((asciiName (body ++ [')', '$'])).bind fun name => (asciiClass (String.ofList name)).map
        fun k => (k, neg, t.skip (2 + (if neg then 1 else 0) + name.length + 2))) := by
  rw [asciiName_append_close]
  cases hn : asciiName body with
  | none => exact .none
  | some name =>
    have := asciiName_length hn
    simp only [Option.bind_some]
    cases asciiClass (String.ofList name) with
    | none => exact .none
    | some k => exact .some ⟨rfl, rfl, h.skip (by omega)⟩

theorem asciiClassAt_follows {s t : Scan} (h : Follows s t) :
    Option.Rel (fun a b => a.1 = b.1 ∧ a.2.1 = b.2.1 ∧ Follows a.2.2 b.2.2)
      (asciiClassAt s) (asciiClassAt t) := by
  unfold asciiClassAt
  rcases h.rest with ht | ⟨hs, ht⟩
  · rw [ht]
    rcases hs : s.rest with _ | ⟨c1, _ | ⟨c2, rest⟩⟩
    · exact .none
    · by_cases hc : c1 = '[' <;> simp [hc]
    · by_cases h12 : c1 = '[' ∧ c2 = ':'
      · obtain ⟨rfl, rfl⟩ := h12
        simp only [List.cons_append]
        rcases rest with _ | ⟨c3, more⟩
        · exact asciiFinish_follows h false [] (by simp [hs])
        · by_cases h3 : c3 = '^'
          · subst h3
            exact asciiFinish_follows h true more (by simp [hs]; omega)
          · simp [h3]
            exact asciiFinish_follows h false (c3 :: more) (by simp [hs]; omega)
      · by_cases h1 : c1 = '['
        · have h2 : c2 ≠ ':' := fun h2 => h12 ⟨h1, h2⟩
          simp [h1, h2]
        · simp [h1]
  · rw [hs, ht]; exact .none

/-- The leading dashes of a class read the same in a text followed by `)$`, given fuel for
the whole text. -/
theorem leadingDashes_follows {v : Bool} :
    ∀ (n m : Nat) (acc acc' : List Member) (s t s₁ : Scan) (items : List Member),
      s.rest.length ≤ n → n ≤ m → Follows s t → acc'.map Member.cls = acc.map Member.cls →
      leadingDashes v n acc s = some (items, s₁) →
      ∃ items' t₁, leadingDashes v m acc' t = some (items', t₁) ∧
        items'.map Member.cls = items.map Member.cls ∧ Follows s₁ t₁ := by
  intro n
  induction n with
  | zero =>
    intro m acc acc' s t s₁ items hn _ h hacc hf
    have hs : s.rest = [] := List.eq_nil_of_length_eq_zero (by omega)
    simp only [leadingDashes, Option.some.injEq, Prod.mk.injEq] at hf
    obtain ⟨rfl, rfl⟩ := hf
    have hpeek : (t.peek? == some '-') = false := by
      rw [h.peek?_beq (by decide)]; simp [Scan.peek?, hs]
    cases m with
    | zero => exact ⟨acc', t, rfl, hacc, h⟩
    | succ m => exact ⟨acc', t, by simp [leadingDashes, hpeek], hacc, h⟩
  | succ n ih =>
    intro m acc acc' s t s₁ items hn hm h hacc hf
    obtain ⟨m, rfl⟩ : ∃ k, m = k + 1 := ⟨m - 1, by omega⟩
    unfold leadingDashes at hf ⊢
    dsimp only at hf ⊢
    rw [h.peek?_beq (by decide)]
    by_cases hd : (s.peek? == some '-') = true
    · rw [if_pos hd] at hf ⊢
      have hne : s.rest ≠ [] := by intro h0; simp [Scan.peek?, h0] at hd
      have h1 := h.bumpBlanks hne v
      cases hend : (s.bumpBlanks v).atEnd
      case true => rw [if_pos hend] at hf; cases hf
      rw [if_neg (by simp [hend])] at hf
      rw [if_neg (by simp [h1.atEnd_eq_false hend])]
      have := bumpBlanks_length_lt hne v
      exact ih m _ _ _ _ s₁ items (by omega) (by omega) h1 (by simp [hacc]) hf
    · rw [if_neg hd] at hf ⊢
      simp only [Option.some.injEq, Prod.mk.injEq] at hf
      obtain ⟨rfl, rfl⟩ := hf
      exact ⟨acc', t, rfl, hacc, h⟩

/-- The negation mark of a class reads the same in a text followed by `)$`. -/
theorem classNegation_follows {s t : Scan} (h : Follows s t) (v : Bool) :
    ∃ neg s₁ t₁, (if s.peek? == some '^' then (true, s.bumpBlanks v) else (false, s)) = (neg, s₁) ∧
      (if t.peek? == some '^' then (true, t.bumpBlanks v) else (false, t)) = (neg, t₁) ∧
      Follows s₁ t₁ := by
  rw [h.peek?_beq (by decide)]
  by_cases hc : (s.peek? == some '^') = true
  · have hne : s.rest ≠ [] := by intro h0; simp [Scan.peek?, h0] at hc
    rw [if_pos hc, if_pos hc]
    exact ⟨true, _, _, rfl, rfl, h.bumpBlanks hne v⟩
  · rw [if_neg hc, if_neg hc]
    exact ⟨false, s, t, rfl, rfl, h⟩

/-- The opening of a class reads the same in a text followed by `)$`. -/
theorem classOpen_follows {v : Bool} {s t s₁ : Scan} {neg : Bool} {items : List Member}
    {sp : Span} {st : Nat} (hf : classOpen v s = .ok (neg, items, sp, st, s₁)) (hs : s.rest ≠ [])
    (h : Follows s t) :
    ∃ items' sp' st' t₁, classOpen v t = .ok (neg, items', sp', st', t₁) ∧
      items'.map Member.cls = items.map Member.cls ∧ Follows s₁ t₁ := by
  unfold classOpen at hf ⊢
  dsimp only at hf ⊢
  have h1 := h.bumpBlanks hs v
  cases he1 : (s.bumpBlanks v).atEnd
  case true => rw [if_pos he1] at hf; cases hf
  rw [if_neg (by simp [he1])] at hf
  rw [if_neg (by simp [h1.atEnd_eq_false he1])]
  obtain ⟨neg0, s2, t2, hns, hnt, h2⟩ := classNegation_follows h1 v
  rw [hns] at hf
  rw [hnt]
  dsimp only at hf ⊢
  cases he2 : s2.atEnd
  case true => rw [if_pos he2] at hf; cases hf
  rw [if_neg (by simp [he2])] at hf
  rw [if_neg (by simp [h2.atEnd_eq_false he2])]
  split at hf
  · cases hf
  rename_i items3 s3 hld
  obtain ⟨items3', t3, hld', hcls, h3⟩ :=
    leadingDashes_follows _ _ [] [] s2 t2 s3 items3 (Nat.le_refl _) h2.length_le h2 rfl hld
  rw [hld']
  dsimp only
  have hempty : items3'.isEmpty = items3.isEmpty := by
    simpa using congrArg List.isEmpty hcls
  rw [hempty, h3.peek?_beq (by decide)]
  by_cases hb : items3.isEmpty = true ∧ (s3.peek? == some ']') = true
  · rw [if_pos hb] at hf ⊢
    have hne : s3.rest ≠ [] := by intro h0; simp [Scan.peek?, h0] at hb
    have h4 := h3.bumpBlanks hne v
    cases he4 : (s3.bumpBlanks v).atEnd
    case true => rw [if_pos he4] at hf; cases hf
    rw [if_neg (by simp [he4])] at hf
    rw [if_neg (by simp [h4.atEnd_eq_false he4])]
    simp only [Except.ok.injEq, Prod.mk.injEq] at hf
    obtain ⟨rfl, rfl, rfl, rfl, rfl⟩ := hf
    exact ⟨_, _, _, _, rfl, rfl, h4⟩
  · rw [if_neg hb] at hf ⊢
    simp only [Except.ok.injEq, Prod.mk.injEq] at hf
    obtain ⟨rfl, rfl, rfl, rfl, rfl⟩ := hf
    exact ⟨_, _, _, _, rfl, hcls, h3⟩

/-- The characters of the members read so far and of a pending set operator's left side
decide the class they make, not where they stand. -/
theorem classSoFar_cls_congr {flags : Flags} {lhs lhs' : Option (ClassOp × Member)}
    {start start' : Nat} {items items' : List Member}
    (hl : lhs'.map (fun p => (p.1, p.2.cls)) = lhs.map (fun p => (p.1, p.2.cls)))
    (hi : items'.map Member.cls = items.map Member.cls) :
    (classSoFar flags lhs' start' items').cls = (classSoFar flags lhs start items).cls := by
  have hu : (unionOf start' items').cls = (unionOf start items).cls := by
    simp only [unionOf, List.map_reverse, hi]
  cases lhs with
  | none =>
    cases lhs' with
    | none => exact hu
    | some _ => cases hl
  | some p =>
    cases lhs' with
    | none => cases hl
    | some p' =>
      simp only [Option.map_some, Option.some.injEq, Prod.mk.injEq] at hl
      simp only [classSoFar, hu, hl.1, hl.2]

end Switchyard.Regex

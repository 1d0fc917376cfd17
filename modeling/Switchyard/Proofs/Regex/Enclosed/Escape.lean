import Switchyard.Proofs.Regex.Enclosed.Group
/-!
# Escapes, read with `)$` after the text

An escape reads the same primitive with `)$` after the text, up to where it stands
(`Prim.erase`): hex escapes of fixed width and braced, Unicode classes by letter or by braced
name, word boundaries, Perl classes and escaped characters (`escape_follows`). None of them ends
at a `)`: the digits, letters and names they read stop before it, and a brace or a name that is
not closed fails in the text alone too.
-/

namespace Switchyard.Regex

open Scan

/-- A primitive with its stretch forgotten: what it stands for. -/
def Prim.erase : Prim → Prim
  | .lit c _ b => .lit c ⟨0, 0⟩ b
  | .cls k _ => .cls k ⟨0, 0⟩
  | .look l _ => .look l ⟨0, 0⟩

theorem Prim.toExpr_of_erase {p p' : Prim} (hp : p'.erase = p.erase) (flags : Flags) :
    p'.toExpr flags = p.toExpr flags := by
  cases p <;> cases p' <;> simp_all [Prim.erase, Prim.toExpr]

theorem Prim.toClass_of_erase {p p' : Prim} (hp : p'.erase = p.erase) {k : CharClass}
    (h : p.toClass = .ok k) : p'.toClass = .ok k := by
  cases p <;> cases p' <;> simp_all [Prim.erase, Prim.toClass]

theorem Prim.toRangeEnd_of_erase {p p' : Prim} (hp : p'.erase = p.erase) {a : Char}
    (h : p.toRangeEnd = .ok a) : p'.toRangeEnd = .ok a := by
  cases p <;> cases p' <;> simp_all [Prim.erase, Prim.toRangeEnd]

/-- The digits of a fixed-width hex escape read the same in a text followed by `)$`. -/
theorem hexFixed_go_follows {v : Bool} :
    ∀ (n : Nat) (first : Bool) (acc : List Char) (s t : Scan) {ds : List Char} {s₁ : Scan},
      s.rest ≠ [] → Follows s t → hexFixed.go v n first acc s = .ok (ds, s₁) →
      ∃ t₁, hexFixed.go v n first acc t = .ok (ds, t₁) ∧ Follows s₁ t₁ ∧ s₁.rest ≠ [] := by
  intro n
  induction n with
  | zero =>
    intro first acc s t ds s₁ hs h hf
    simp only [hexFixed.go, Except.ok.injEq, Prod.mk.injEq] at hf
    obtain ⟨rfl, rfl⟩ := hf
    exact ⟨t, rfl, h, hs⟩
  | succ n ih =>
    intro first acc s t ds s₁ hs h hf
    -- the digit stands after the blanks that follow the previous one
    have h' : Follows (if first then s else s.bumpBlanks v)
        (if first then t else t.bumpBlanks v) := by
      cases first
      · exact h.bumpBlanks hs v
      · exact h
    simp only [hexFixed.go] at hf ⊢
    generalize (if first then s else s.bumpBlanks v) = s' at h' hf
    generalize (if first then t else t.bumpBlanks v) = t' at h' ⊢
    rcases hs' : s'.rest with _ | ⟨c, cs⟩
    · simp [hs'] at hf
    rw [hs'] at hf
    rw [h'.rest_cons hs']
    simp only at hf ⊢
    split at hf
    · rename_i hc
      rw [if_pos hc]
      exact ih false (c :: acc) s' t' (by simp [hs']) h' hf
    · cases hf

/-- A fixed-width hex escape reads the same in a text followed by `)$`. -/
theorem hexFixed_follows {v : Bool} {st st' count : Nat} {s t s₁ : Scan} {p : Prim}
    (hf : hexFixed v st count s = .ok (p, s₁)) (hs : s.rest ≠ []) (h : Follows s t) :
    ∃ p' t₁, hexFixed v st' count t = .ok (p', t₁) ∧ p'.erase = p.erase ∧ Follows s₁ t₁ := by
  unfold hexFixed at hf ⊢
  dsimp only at hf ⊢
  split at hf
  · cases hf
  · rename_i ds s2 hgo
    obtain ⟨t2, hgo', h2, hs2⟩ := hexFixed_go_follows count true [] s t hs h hgo
    rw [hgo']
    simp only
    split at hf
    · cases hf
      exact ⟨_, _, rfl, rfl, h2.bumpBlanks hs2 v⟩
    · cases hf

/-- The digits of a braced hex escape read the same in a text followed by `)$`, given fuel. -/
theorem hexBraced_go_follows {v : Bool} {bp : Nat} (bp' : Nat) :
    ∀ (n m : Nat) (acc : List Char) (s t : Scan) {ds : List Char} {s₁ : Scan},
      n ≤ m → s.rest ≠ [] → Follows s t → hexBraced.go v bp n acc s = .ok (ds, s₁) →
      ∃ t₁, hexBraced.go v bp' m acc t = .ok (ds, t₁) ∧ Follows s₁ t₁ ∧ s₁.rest ≠ [] := by
  intro n
  induction n with
  | zero => intro m acc s t ds s₁ _ _ _ hf; simp [hexBraced.go] at hf
  | succ n ih =>
    intro m acc s t ds s₁ hm hs h hf
    obtain ⟨m, rfl⟩ : ∃ m', m = m' + 1 := ⟨m - 1, by omega⟩
    have h' := h.bumpBlanks hs v
    simp only [hexBraced.go] at hf ⊢
    rcases hs' : (s.bumpBlanks v).rest with _ | ⟨c, cs⟩
    · simp [hs'] at hf
    rw [hs'] at hf
    rw [h'.rest_cons hs']
    simp only at hf ⊢
    split at hf
    · rename_i hc
      rw [if_pos hc]
      cases hf
      exact ⟨_, rfl, h', by simp [hs']⟩
    · rename_i hc
      rw [if_neg hc]
      split at hf
      · rename_i hx
        rw [if_pos hx]
        exact ih m (c :: acc) _ _ (by omega) (by simp [hs']) h' hf
      · cases hf

/-- A braced hex escape reads the same in a text followed by `)$`. -/
theorem hexBraced_follows {v : Bool} {st st' : Nat} {s t s₁ : Scan} {p : Prim}
    (hf : hexBraced v st s = .ok (p, s₁)) (hs : s.rest ≠ []) (h : Follows s t) :
    ∃ p' t₁, hexBraced v st' t = .ok (p', t₁) ∧ p'.erase = p.erase ∧ Follows s₁ t₁ := by
  unfold hexBraced at hf ⊢
  dsimp only at hf ⊢
  split at hf
  · cases hf
  · rename_i ds s2 hgo
    obtain ⟨t2, hgo', h2, hs2⟩ := hexBraced_go_follows t.pos _ (t.rest.length + 1) [] s t
      (Nat.add_le_add_right h.length_le 1) hs h hgo
    rw [hgo']
    simp only
    split at hf
    · cases hf
    · rename_i hne
      rw [if_neg hne]
      split at hf
      · cases hf
        exact ⟨_, _, rfl, rfl, h2.bumpBlanks hs2 v⟩
      · cases hf

/-- A braced property name reads the same in a text followed by `)$`, given fuel. -/
theorem bracedName_follows {v : Bool} :
    ∀ (n m : Nat) (acc : List Char) (s t : Scan) {cs : List Char} {s₁ : Scan},
      n ≤ m → s.rest ≠ [] → Follows s t → bracedName v n acc s = .ok (cs, s₁) →
      ∃ t₁, bracedName v m acc t = .ok (cs, t₁) ∧ Follows s₁ t₁ := by
  intro n
  induction n with
  | zero => intro m acc s t cs s₁ _ _ _ hf; simp [bracedName] at hf
  | succ n ih =>
    intro m acc s t cs s₁ hm hs h hf
    obtain ⟨m, rfl⟩ : ∃ m', m = m' + 1 := ⟨m - 1, by omega⟩
    have h' := h.bumpBlanks hs v
    simp only [bracedName] at hf ⊢
    rcases hs' : (s.bumpBlanks v).rest with _ | ⟨c, cs'⟩
    · simp [hs'] at hf
    rw [hs'] at hf
    rw [h'.rest_cons hs']
    simp only at hf ⊢
    split at hf
    · rename_i hc
      rw [if_pos hc]
      cases hf
      exact ⟨_, rfl, h'.bump (by simp [hs'])⟩
    · rename_i hc
      rw [if_neg hc]
      exact ih m (c :: acc) _ _ (by omega) (by simp [hs']) h' hf

/-- The name of a Unicode class reads the same in a text followed by `)$`. -/
theorem propertyName_follows {v : Bool} {s t s₁ : Scan} {name : String}
    (hf : propertyName v s = .ok (name, s₁)) (h : Follows s t) :
    ∃ t₁, propertyName v t = .ok (name, t₁) ∧ Follows s₁ t₁ := by
  unfold propertyName at hf ⊢
  rcases hs : s.rest with _ | ⟨c, cs⟩
  · simp [hs] at hf
  rw [hs] at hf
  rw [h.rest_cons hs]
  simp only at hf ⊢
  split at hf
  · rename_i hc
    rw [if_pos hc]
    rcases hb : bracedName v ((c :: cs).length + 1) [] s with _ | ⟨ns, s2⟩
    · rw [hb] at hf; cases hf
    · rw [hb] at hf
      cases hf
      obtain ⟨t2, hb', h2⟩ := bracedName_follows _ ((c :: (cs ++ [')', '$'])).length + 1) [] s t
        (by simp) (by simp [hs]) h hb
      rw [hb']
      exact ⟨_, rfl, h2⟩
  · rename_i hc
    rw [if_neg hc]
    split at hf
    · cases hf
    · rename_i hb
      rw [if_neg hb]
      cases hf
      exact ⟨_, rfl, h.bumpBlanks (by simp [hs]) v⟩

/-- A Unicode class reads the same in a text followed by `)$`. -/
theorem unicodeClass_follows {flags : Flags} {st st' : Nat} {s t s₁ : Scan} {p : Prim}
    (hf : unicodeClass flags st s = .ok (p, s₁)) (hs : s.rest ≠ []) (h : Follows s t) :
    ∃ p' t₁, unicodeClass flags st' t = .ok (p', t₁) ∧ p'.erase = p.erase ∧ Follows s₁ t₁ := by
  unfold unicodeClass at hf ⊢
  dsimp only at hf ⊢
  rw [h.peek?_eq hs]
  split at hf
  · cases hf
  · rename_i name s2 hname
    obtain ⟨t2, hname', h2⟩ := propertyName_follows hname (h.bumpBlanks hs flags.verbose)
    rw [hname']
    simp only
    split at hf
    · rename_i hu
      rw [if_pos hu]
      cases hf
      exact ⟨_, _, rfl, rfl, h2.defer _ _⟩
    · rename_i hu
      rw [if_neg hu]
      split at hf
      · cases hf
        exact ⟨_, _, rfl, rfl, h2⟩
      · cases hf
        exact ⟨_, _, rfl, rfl, h2.defer _ _⟩

/-- A word boundary, plain or special, reads the same in a text followed by `)$`. -/
theorem wordBoundary_follows {v u : Bool} {st st' : Nat} {s t s₁ : Scan} {p : Prim}
    (hf : wordBoundary v u st s = .ok (p, s₁)) (h : Follows s t) :
    ∃ p' t₁, wordBoundary v u st' t = .ok (p', t₁) ∧ p'.erase = p.erase ∧ Follows s₁ t₁ := by
  unfold wordBoundary at hf ⊢
  rcases hs : s.rest with _ | ⟨c, cs⟩
  · -- nothing follows the `\b`: the plain boundary
    rw [hs] at hf
    cases hf
    rcases h.rest_nil hs with ht | ht <;> rw [ht] <;> exact ⟨_, _, rfl, rfl, h⟩
  rw [hs] at hf
  rw [h.rest_cons hs]
  by_cases hc : c = '\x7b'
  · subst hc
    simp only at hf ⊢
    have h1 := h.bumpBlanks (by simp [hs]) v
    rcases hs1 : (s.bumpBlanks v).rest with _ | ⟨d, ds⟩
    · simp [hs1] at hf
    rw [hs1] at hf
    rw [h1.rest_cons hs1]
    simp only at hf ⊢
    split at hf
    · rename_i hd
      rw [if_pos hd]
      cases hf
      exact ⟨_, _, rfl, rfl, h⟩
    · rename_i hd
      rw [if_neg hd]
      obtain ⟨hname, h2⟩ := run_follows (p := isBoundaryChar) (by decide) v (d :: ds).length
        (d :: (ds ++ [')', '$'])).length _ _ (by simp [hs1]) (by simp) h1
      rw [hname]
      generalize run isBoundaryChar v (d :: ds).length (s.bumpBlanks v) = r at hf h2
      generalize run isBoundaryChar v (d :: (ds ++ [')', '$'])).length (t.bumpBlanks v) = r' at h2 ⊢
      rcases hs2 : r.2.rest with _ | ⟨e, es⟩
      · simp [hs2] at hf
      rw [hs2] at hf
      rw [h2.rest_cons hs2]
      by_cases he : e = '\x7d'
      · subst he
        simp only at hf ⊢
        split at hf
        · cases hf
          exact ⟨_, _, rfl, rfl, h2.bump (by simp [hs2])⟩
        · cases hf
      · simp [he] at hf
  · simp [hc] at hf
    obtain ⟨rfl, rfl⟩ := hf
    split
    · rename_i heq
      simp only [List.cons.injEq] at heq
      exact absurd heq.1 hc
    · exact ⟨_, _, rfl, rfl, h⟩

/-- An escape reads the same in a text followed by `)$`. -/
theorem escape_follows {flags : Flags} {s t s₁ : Scan} {p : Prim}
    (hf : escape flags s = .ok (p, s₁)) (hs : s.rest ≠ []) (h : Follows s t) :
    ∃ p' t₁, escape flags t = .ok (p', t₁) ∧ p'.erase = p.erase ∧ Follows s₁ t₁ := by
  unfold escape at hf ⊢
  dsimp only at hf ⊢
  have h1 := h.bump hs
  obtain ⟨c, cs, hs1⟩ : ∃ c cs, s.bump.rest = c :: cs := by
    cases hr : s.bump.rest with
    | nil => rw [hr] at hf; cases hf
    | cons c cs => exact ⟨c, cs, rfl⟩
  have hne1 : s.bump.rest ≠ [] := by rw [hs1]; exact List.cons_ne_nil _ _
  rw [hs1] at hf
  rw [h1.rest_cons hs1]
  dsimp only at hf ⊢
  have h2 := h1.bump hne1
  -- the escaped character decides the kind, the same way on both sides
  by_cases hdigit : '0' ≤ c ∧ c ≤ '9'
  · rw [if_pos hdigit] at hf; cases hf
  rw [if_neg hdigit] at hf ⊢
  by_cases hx : c = 'x' ∨ c = 'u' ∨ c = 'U'
  · -- hex digits, braced or of a fixed count
    rw [if_pos hx] at hf ⊢
    have h3 := h1.bumpBlanks hne1 flags.verbose
    rcases hs3 : (s.bump.bumpBlanks flags.verbose).rest with _ | ⟨d, ds⟩
    · rw [hs3] at hf; cases hf
    have hne3 : (s.bump.bumpBlanks flags.verbose).rest ≠ [] := by
      rw [hs3]; exact List.cons_ne_nil _ _
    rw [hs3] at hf
    rw [h3.rest_cons hs3]
    by_cases hd : d = '\x7b'
    · subst hd
      exact hexBraced_follows hf hne3 h3
    · split at hf
      · rename_i heq; simp only [List.cons.injEq] at heq; exact absurd heq.1 hd
      · cases hf
      · split
        · rename_i heq; simp only [List.cons.injEq] at heq; exact absurd heq.1 hd
        · rename_i heq; cases heq
        · exact hexFixed_follows hf hne3 h3
  rw [if_neg hx] at hf ⊢
  by_cases hk : c = 'p' ∨ c = 'P'
  · rw [if_pos hk] at hf ⊢
    exact unicodeClass_follows hf hne1 h1
  rw [if_neg hk] at hf ⊢
  by_cases hk : c = 'd'
  · rw [if_pos hk] at hf ⊢
    cases hf
    exact ⟨_, _, rfl, rfl, h2.deferIte _ _ _⟩
  rw [if_neg hk] at hf ⊢
  by_cases hk : c = 'D'
  · rw [if_pos hk] at hf ⊢
    cases hf
    exact ⟨_, _, rfl, rfl, h2.deferIte _ _ _⟩
  rw [if_neg hk] at hf ⊢
  by_cases hk : c = 'w'
  · rw [if_pos hk] at hf ⊢
    cases hf
    exact ⟨_, _, rfl, rfl, h2.deferIte _ _ _⟩
  rw [if_neg hk] at hf ⊢
  by_cases hk : c = 'W'
  · rw [if_pos hk] at hf ⊢
    cases hf
    exact ⟨_, _, rfl, rfl, h2.deferIte _ _ _⟩
  rw [if_neg hk] at hf ⊢
  by_cases hk : c = 's'
  · rw [if_pos hk] at hf ⊢
    cases hf
    exact ⟨_, _, rfl, rfl, h2.deferIte _ _ _⟩
  rw [if_neg hk] at hf ⊢
  by_cases hk : c = 'S'
  · rw [if_pos hk] at hf ⊢
    cases hf
    exact ⟨_, _, rfl, rfl, h2.deferIte _ _ _⟩
  rw [if_neg hk] at hf ⊢
  by_cases hk : isEscapeable c = true
  · rw [if_pos hk] at hf ⊢
    cases hf
    exact ⟨_, _, rfl, rfl, h2⟩
  rw [if_neg hk] at hf ⊢
  by_cases hk : c = 'a'
  · rw [if_pos hk] at hf ⊢
    cases hf
    exact ⟨_, _, rfl, rfl, h2⟩
  rw [if_neg hk] at hf ⊢
  by_cases hk : c = 'f'
  · rw [if_pos hk] at hf ⊢
    cases hf
    exact ⟨_, _, rfl, rfl, h2⟩
  rw [if_neg hk] at hf ⊢
  by_cases hk : c = 't'
  · rw [if_pos hk] at hf ⊢
    cases hf
    exact ⟨_, _, rfl, rfl, h2⟩
  rw [if_neg hk] at hf ⊢
  by_cases hk : c = 'n'
  · rw [if_pos hk] at hf ⊢
    cases hf
    exact ⟨_, _, rfl, rfl, h2⟩
  rw [if_neg hk] at hf ⊢
  by_cases hk : c = 'r'
  · rw [if_pos hk] at hf ⊢
    cases hf
    exact ⟨_, _, rfl, rfl, h2⟩
  rw [if_neg hk] at hf ⊢
  by_cases hk : c = 'v'
  · rw [if_pos hk] at hf ⊢
    cases hf
    exact ⟨_, _, rfl, rfl, h2⟩
  rw [if_neg hk] at hf ⊢
  by_cases hk : c = 'A'
  · rw [if_pos hk] at hf ⊢
    cases hf
    exact ⟨_, _, rfl, rfl, h2⟩
  rw [if_neg hk] at hf ⊢
  by_cases hk : c = 'z'
  · rw [if_pos hk] at hf ⊢
    cases hf
    exact ⟨_, _, rfl, rfl, h2⟩
  rw [if_neg hk] at hf ⊢
  by_cases hk : c = 'b'
  · rw [if_pos hk] at hf ⊢
    exact wordBoundary_follows hf h2
  rw [if_neg hk] at hf ⊢
  by_cases hk : c = 'B'
  · rw [if_pos hk] at hf ⊢
    cases hf
    exact ⟨_, _, rfl, rfl, h2⟩
  rw [if_neg hk] at hf ⊢
  by_cases hk : c = '<'
  · rw [if_pos hk] at hf ⊢
    cases hf
    exact ⟨_, _, rfl, rfl, h2⟩
  rw [if_neg hk] at hf ⊢
  by_cases hk : c = '>'
  · rw [if_pos hk] at hf ⊢
    cases hf
    exact ⟨_, _, rfl, rfl, h2⟩
  rw [if_neg hk] at hf ⊢
  cases hf

end Switchyard.Regex

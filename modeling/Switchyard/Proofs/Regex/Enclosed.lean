import Switchyard.Proofs.Regex.Enclosed.Class
/-!
# A pattern read inside `^(?:…)$`

A placeholder's constraint `re` is compiled from the text `^(?:re)$`. When `re` reads as a
pattern `e` on its own and the wrapped text reads at all, it reads as `e.anchor`, `e` between a
start and an end assertion (`Expr.eq_anchor_of_parse_wrapped`): `re` cannot close the group
around it early, nor reach past it.

The four parts of the parser (`branches`, `pieces`, `bracketClass` and `classBody`) call one
another with one unit of fuel less. One induction on the fuel (`parts_follow`) shows that each
reads a text the same way when `)$` follows it, with any fuel at least as large; each part's
step is one lemma (`…_follows_succ`) over the lemmas of the modules under this one, and the
four statements of the induction are named (`BranchesFollow`, `PiecesFollow`, `ClassFollows`,
`BodyFollows`). At the top the whole text is compared with the body of the wrapper's group:
where the text alone ends, the group closes at the `)` after it (`branches_enclosed`).
-/

namespace Switchyard.Regex

open Scan

/-- An expression between a start-of-text and an end-of-text assertion: how `^(?:re)$` reads
when `re` reads as the expression. -/
def Expr.anchor (e : Expr) : Expr := .seq (.look .textStart) (.seq e (.look .textEnd))

/-- A bracketed class reads the same in a text followed by `)$`, with any fuel at least as
large. -/
def ClassFollows (n : Nat) : Prop :=
  ∀ (m : Nat) (flags : Flags) (s t s₁ : Scan) (k : CharClass) (nest : Nest),
    n ≤ m → Follows s t → s.rest ≠ [] → bracketClass n flags s = .ok (k, nest, s₁) →
    ∃ nest' t₁, bracketClass m flags t = .ok (k, nest', t₁) ∧ Follows s₁ t₁

/-- The members of a class after its opening read the same in a text followed by `)$`. -/
def BodyFollows (n : Nat) : Prop :=
  ∀ (m : Nat) (flags : Flags) (neg : Bool) (sp sp' : Span) (lhs lhs' : Option (ClassOp × Member))
    (start start' : Nat) (items items' : List Member) (s t s₁ : Scan) (k : CharClass)
    (nest : Nest),
    n ≤ m → Follows s t → lhs'.map (fun p => (p.1, p.2.cls)) = lhs.map (fun p => (p.1, p.2.cls)) →
    items'.map Member.cls = items.map Member.cls →
    classBody n flags neg sp lhs start items s = .ok (k, nest, s₁) →
    ∃ nest' t₁, classBody m flags neg sp' lhs' start' items' t = .ok (k, nest', t₁) ∧
      Follows s₁ t₁

theorem bracketClass_follows_succ {n : Nat} (hD : BodyFollows n) : ClassFollows (n + 1) := by
  intro m flags s t s₁ k nest hm h hs hf
  obtain ⟨m, rfl⟩ : ∃ m', m = m' + 1 := ⟨m - 1, by omega⟩
  unfold bracketClass at hf ⊢
  split at hf
  · cases hf
  rename_i neg items sp st s' hopen
  obtain ⟨items', sp', st', t', hopen', hcls, h'⟩ := classOpen_follows hopen hs h
  rw [hopen']
  exact hD m flags neg sp sp' none none st st' items items' s' t' s₁ k nest (by omega) h' rfl hcls
    hf

/-- A member or range, then the rest of the class. -/
theorem classBody_range_follows {n m : Nat} (hD : BodyFollows n) (hm : n ≤ m) {flags : Flags}
    {neg : Bool} {sp sp' : Span} {lhs lhs' : Option (ClassOp × Member)} {start start' : Nat}
    {items items' : List Member} {s t s' s₁ : Scan} {m1 : Member} {k : CharClass} {nest : Nest}
    (h : Follows s t)
    (hl : lhs'.map (fun p => (p.1, p.2.cls)) = lhs.map (fun p => (p.1, p.2.cls)))
    (hi : items'.map Member.cls = items.map Member.cls)
    (hr : classRange flags sp s = .ok (m1, s'))
    (hb : classBody n flags neg sp lhs start (m1 :: items) s' = .ok (k, nest, s₁)) :
    ∃ m1' t', classRange flags sp' t = .ok (m1', t') ∧ ∃ nest' t₁,
      classBody m flags neg sp' lhs' start' (m1' :: items') t' = .ok (k, nest', t₁) ∧
        Follows s₁ t₁ := by
  obtain ⟨m1', t', hr', hcls, h'⟩ := classRange_follows sp' hr h
  exact ⟨m1', t', hr', hD m flags neg sp sp' lhs lhs' start start' _ _ s' t' s₁ k nest hm h' hl
    (by simp [hi, hcls]) hb⟩

theorem classBody_follows_succ {n : Nat} (hC : ClassFollows n) (hD : BodyFollows n) :
    BodyFollows (n + 1) := by
  intro m flags neg sp sp' lhs lhs' start start' items items' s0 t0 s₁ k nest hm h hl hi hf
  obtain ⟨m, rfl⟩ : ∃ m', m = m' + 1 := ⟨m - 1, by omega⟩
  unfold classBody at hf ⊢
  dsimp only at hf ⊢
  have h1 := h.blanks flags.verbose
  generalize s0.blanks flags.verbose = s at h1 hf
  generalize t0.blanks flags.verbose = t at h1 ⊢
  rcases hs : s.rest with _ | ⟨c, cs⟩
  · rw [hs] at hf; cases hf
  rw [hs] at hf
  rw [h1.rest_cons hs]
  have hne : s.rest ≠ [] := by simp [hs]
  by_cases hc1 : c = ']'
  · -- the end of the class
    subst hc1
    simp only at hf ⊢
    rw [classSoFar_cls_congr hl hi]
    simp only [Except.ok.injEq, Prod.mk.injEq] at hf
    obtain ⟨rfl, rfl, rfl⟩ := hf
    exact ⟨_, _, rfl, (h1.bump hne).deferIte _ _ _⟩
  by_cases hc2 : c = '['
  · -- an ASCII class, else a nested class
    subst hc2
    simp only at hf ⊢
    have hrel := asciiClassAt_follows h1
    generalize asciiClassAt s = a at hrel hf
    generalize asciiClassAt t = b at hrel ⊢
    cases hrel with
    | none =>
      simp only at hf ⊢
      split at hf
      · cases hf
      rename_i k1 nest1 s' hbc
      obtain ⟨nest1', t', hbc', h'⟩ := hC m flags s t s' k1 nest1 (by omega) h1 hne hbc
      rw [hbc']
      exact hD m flags neg sp sp' lhs lhs' start start' _ _ s' t' s₁ k nest (by omega) h' hl
        (by simp [hi]) hf
    | some hab =>
      rename_i a b
      obtain ⟨k1, neg1, s'⟩ := a
      obtain ⟨k2, neg2, t'⟩ := b
      obtain ⟨rfl, rfl, h'⟩ := hab
      simp only at hf ⊢
      exact hD m flags neg sp sp' lhs lhs' start start' _ _ _ _ s₁ k nest (by omega)
        (h'.deferIte _ _ _) hl (by simp [hi]) hf
  by_cases hop : ∃ cs', cs = c :: cs' ∧ (c = '&' ∨ c = '-' ∨ c = '~')
  · -- a set operator: the members so far become its left side
    obtain ⟨cs, rfl, hc⟩ := hop
    have h2 := h1.skip (n := 2) (by simp [hs])
    have hsf : (classSoFar flags lhs' start' items').cls = (classSoFar flags lhs start items).cls :=
      classSoFar_cls_congr hl hi
    rcases hc with rfl | rfl | rfl <;> simp only [List.cons_append] at hf ⊢ <;>
      exact hD m flags neg sp sp' _ _ _ _ [] [] _ _ s₁ k nest (by omega) h2 (by simp [hsf]) rfl hf
  -- a member or a range
  rcases cs with _ | ⟨d, cs⟩
  · simp at hf ⊢
    split at hf
    · cases hf
    obtain ⟨m1', t', hr', hrest⟩ :=
      classBody_range_follows hD (Nat.le_of_succ_le_succ hm) h1 hl hi ‹_› hf
    rw [hr']
    exact hrest
  · have hamp : c = '&' → d ≠ '&' := fun hc hd => hop ⟨cs, by rw [hc, hd], .inl hc⟩
    have hdash : c = '-' → d ≠ '-' := fun hc hd => hop ⟨cs, by rw [hc, hd], .inr (.inl hc)⟩
    have htilde : c = '~' → d ≠ '~' := fun hc hd => hop ⟨cs, by rw [hc, hd], .inr (.inr hc)⟩
    simp +contextual [hamp, hdash, htilde] at hf ⊢
    split at hf
    · cases hf
    obtain ⟨m1', t', hr', hrest⟩ :=
      classBody_range_follows hD (Nat.le_of_succ_le_succ hm) h1 hl hi ‹_› hf
    rw [hr']
    exact hrest

/-- The choice among the branches read so far and the last one is the same on both sides when
the branches are. -/
theorem altAll_branches_congr {b b' : Expr} {n n' : Nest} {done done' : List (Expr × Nest)}
    (hb : b' = b) (hd : done'.map Prod.fst = done.map Prod.fst) :
    Expr.altAll (((b', n') :: done').reverse.map Prod.fst) =
      Expr.altAll (((b, n) :: done).reverse.map Prod.fst) := by
  simp only [List.reverse_cons, List.map_append, List.map_reverse, List.map_cons, List.map_nil,
    hd, hb]

/-- A branch's pieces read the same in a text followed by `)$`, with any fuel at least as
large. -/
def PiecesFollow (n : Nat) : Prop :=
  ∀ (m : Nat) (flags : Flags) (ps qs : List Piece) (s t s₁ : Scan) (ps₁ : List Piece)
    (flags₁ : Flags),
    n ≤ m → Follows s t → SamePieces ps qs → pieces n flags ps s = .ok (ps₁, flags₁, s₁) →
    ∃ qs₁ t₁, pieces m flags qs t = .ok (qs₁, flags₁, t₁) ∧ SamePieces ps₁ qs₁ ∧ Follows s₁ t₁

/-- The branches of a group read the same in a text followed by `)$`. -/
def BranchesFollow (n : Nat) : Prop :=
  ∀ (m : Nat) (flags : Flags) (sp sp' : Span) (first first' : Nat)
    (done done' : List (Expr × Nest)) (s t s₁ : Scan) (r : Expr) (nest : Nest),
    n ≤ m → Follows s t → done'.map Prod.fst = done.map Prod.fst →
    branches n flags (some sp) first done s = .ok (r, nest, s₁) →
    ∃ nest' t₁, branches m flags (some sp') first' done' t = .ok (r, nest', t₁) ∧ Follows s₁ t₁

theorem branches_follows_succ {n : Nat} (hP : PiecesFollow n) (hB : BranchesFollow n) :
    BranchesFollow (n + 1) := by
  intro m flags sp sp' first first' done done' s t s₁ r nest hm h hd hf
  obtain ⟨m, rfl⟩ : ∃ m', m = m' + 1 := ⟨m - 1, by omega⟩
  unfold branches at hf ⊢
  dsimp only at hf ⊢
  split at hf
  · cases hf
  rename_i ps flags' s' hp
  obtain ⟨qs, t', hp', hsame, h'⟩ := hP m flags [] [] s t s' ps flags' (by omega) h rfl hp
  rw [hp']
  dsimp only
  -- the branch just read is the same pattern on both sides
  have hbranch := hsame.seqAll_reverse
  rcases hs' : s'.rest with _ | ⟨c, cs⟩
  · rw [hs'] at hf; cases hf
  rw [hs'] at hf
  rw [h'.rest_cons hs']
  have hne : s'.rest ≠ [] := by simp [hs']
  by_cases hbar : c = '|'
  · subst hbar
    simp only at hf ⊢
    rw [hbranch]
    exact hB m flags' sp sp' first first' _ _ s'.bump t'.bump s₁ r nest (by omega) (h'.bump hne)
      (by simp [hd]) hf
  by_cases hclose : c = ')'
  · subst hclose
    simp only [Except.ok.injEq, Prod.mk.injEq] at hf ⊢
    obtain ⟨rfl, rfl, rfl⟩ := hf
    exact ⟨_, _, ⟨altAll_branches_congr hbranch hd, rfl, rfl⟩, h'.bump hne⟩
  · simp [hbar, hclose] at hf

theorem pieces_follows_succ {n : Nat} (hB : BranchesFollow n) (hP : PiecesFollow n)
    (hC : ClassFollows n) : PiecesFollow (n + 1) := by
  intro m flags ps qs s0 t0 s₁ ps₁ flags₁ hm h hpq hf
  obtain ⟨m, rfl⟩ : ∃ m', m = m' + 1 := ⟨m - 1, by omega⟩
  have hm' : n ≤ m := by omega
  unfold pieces at hf ⊢
  dsimp only at hf ⊢
  have h1 := h.blanks flags.verbose
  generalize s0.blanks flags.verbose = s at h1 hf
  generalize t0.blanks flags.verbose = t at h1 ⊢
  rcases hs : s.rest with _ | ⟨c, cs⟩
  · -- the end of the text: the enclosed text stops at its `)`
    rw [hs] at hf
    simp only [Except.ok.injEq, Prod.mk.injEq] at hf
    obtain ⟨rfl, rfl, rfl⟩ := hf
    rcases h1.rest_nil hs with ht | ht <;> exact ⟨qs, t, by simp [ht], hpq, h1⟩
  rw [hs] at hf
  rw [h1.rest_cons hs]
  have hne : s.rest ≠ [] := by simp [hs]
  dsimp only at hf ⊢
  by_cases hstop : c = '|' ∨ c = ')'
  · rw [if_pos hstop] at hf ⊢
    simp only [Except.ok.injEq, Prod.mk.injEq] at hf
    obtain ⟨rfl, rfl, rfl⟩ := hf
    exact ⟨qs, t, rfl, hpq, h1⟩
  rw [if_neg hstop] at hf ⊢
  by_cases hgrp : c = '('
  · -- a group, or a flag group setting the flags for the rest of the branch
    rw [if_pos hgrp] at hf ⊢
    split at hf
    · cases hf
    · rename_i flags' s' hopen
      obtain ⟨o', hopen', ho⟩ := groupOpening_follows hopen hne h1
      rw [hopen']
      cases o' with
      | group => exact absurd ho id
      | setFlags f t' =>
        obtain ⟨rfl, h'⟩ := ho
        exact hP m _ _ _ s' t' s₁ ps₁ flags₁ hm' h' (hpq.cons _ _ _ _ _) hf
    · rename_i capturing inner s' hopen
      obtain ⟨o', hopen', ho⟩ := groupOpening_follows hopen hne h1
      rw [hopen']
      cases o' with
      | setFlags => exact absurd ho id
      | group c' f' t' =>
        obtain ⟨rfl, rfl, h'⟩ := ho
        dsimp only at hf ⊢
        split at hf
        · cases hf
        rename_i r nest s'' hbr
        obtain ⟨nest', t'', hbr', h''⟩ :=
          hB m _ ⟨s.pos, s.pos + 1⟩ ⟨t.pos, t.pos + 1⟩ s'.pos t'.pos [] [] s' t' s'' r nest hm' h'
            rfl hbr
        rw [hbr']
        exact hP m flags _ _ s'' t'' s₁ ps₁ flags₁ hm' h'' (hpq.cons _ _ _ _ _) hf
  rw [if_neg hgrp] at hf ⊢
  by_cases hcls : c = '['
  · rw [if_pos hcls] at hf ⊢
    split at hf
    · cases hf
    rename_i k nest s' hbc
    obtain ⟨nest', t', hbc', h'⟩ := hC m flags s t s' k nest hm' h1 hne hbc
    rw [hbc']
    exact hP m flags _ _ s' t' s₁ ps₁ flags₁ hm' h' (hpq.cons _ _ _ _ _) hf
  rw [if_neg hcls] at hf ⊢
  by_cases hrep : c = '?' ∨ c = '*' ∨ c = '+'
  · rw [if_pos hrep] at hf ⊢
    split at hf
    · cases hf
    rename_i ps' s' hsr
    obtain ⟨qs', t', hsr', hsame, h'⟩ := simpleRepetition_follows hsr hne h1 hpq
    rw [hsr']
    exact hP m flags _ _ s' t' s₁ ps₁ flags₁ hm' h' hsame hf
  rw [if_neg hrep] at hf ⊢
  by_cases hcnt : c = '\x7b'
  · rw [if_pos hcnt] at hf ⊢
    split at hf
    · cases hf
    rename_i ps' s' hcr
    obtain ⟨qs', t', hcr', hsame, h'⟩ := countedRepetition_follows hcr hne h1 hpq
    rw [hcr']
    exact hP m flags _ _ s' t' s₁ ps₁ flags₁ hm' h' hsame hf
  rw [if_neg hcnt] at hf ⊢
  by_cases hesc : c = '\\'
  · rw [if_pos hesc] at hf ⊢
    split at hf
    · cases hf
    rename_i p s' hesc'
    obtain ⟨p', t', hesc'', hp, h'⟩ := escape_follows hesc' hne h1
    rw [hesc'']
    dsimp only
    rw [Prim.toExpr_of_erase hp]
    exact hP m flags _ _ _ _ s₁ ps₁ flags₁ hm' (h'.deferIf _ _) (hpq.cons _ _ _ _ _) hf
  rw [if_neg hesc] at hf ⊢
  by_cases hdot : c = '.'
  · rw [if_pos hdot] at hf ⊢
    have h' : Follows
        (if flags.unicode = true then s.bump
          else s.bump.defer (Scan.fault .invalidUtf8 s.pos (s.pos + 1)))
        (if flags.unicode = true then t.bump
          else t.bump.defer (Scan.fault .invalidUtf8 t.pos (t.pos + 1))) := by
      cases flags.unicode
      · exact (h1.bump hne).defer _ _
      · exact h1.bump hne
    exact hP m flags _ _ _ _ s₁ ps₁ flags₁ hm' h' (hpq.cons _ _ _ _ _) hf
  rw [if_neg hdot] at hf ⊢
  -- an anchor or a character
  by_cases hcaret : c = '^'
  · rw [if_pos hcaret] at hf ⊢
    exact hP m flags _ _ _ _ s₁ ps₁ flags₁ hm' (h1.bump hne) (hpq.cons _ _ _ _ _) hf
  rw [if_neg hcaret] at hf ⊢
  by_cases hdollar : c = '$'
  · rw [if_pos hdollar] at hf ⊢
    exact hP m flags _ _ _ _ s₁ ps₁ flags₁ hm' (h1.bump hne) (hpq.cons _ _ _ _ _) hf
  rw [if_neg hdollar] at hf ⊢
  exact hP m flags _ _ _ _ s₁ ps₁ flags₁ hm' (h1.bump hne) (hpq.cons _ _ _ _ _) hf

/-- Every part of the parser reads a text the same way when `)$` follows it, by induction on
the fuel: each part's step only calls parts with one unit less. -/
theorem parts_follow : ∀ n, BranchesFollow n ∧ PiecesFollow n ∧ ClassFollows n ∧ BodyFollows n
  | 0 => by
    -- out of fuel, every part fails
    unfold BranchesFollow PiecesFollow ClassFollows BodyFollows
    refine ⟨?_, ?_, ?_, ?_⟩ <;> intros <;> simp_all [branches, pieces, bracketClass, classBody]
  | n + 1 =>
    have ⟨hB, hP, hC, hD⟩ := parts_follow n
    ⟨branches_follows_succ hP hB, pieces_follows_succ hB hP hC, bracketClass_follows_succ hD,
      classBody_follows_succ hC hD⟩

/-- A whole text, and the same text read as the body of a group that `)$` follows: when both
readings succeed they give the same pattern, and the group closes at the `)` after the text. -/
theorem branches_enclosed : ∀ (n m : Nat) (flags : Flags) (sp' : Span) (first first' : Nat)
    (done done' : List (Expr × Nest)) (s t s₁ t₁ : Scan) (r r' : Expr) (nest nest' : Nest),
    n ≤ m → Follows s t → done'.map Prod.fst = done.map Prod.fst →
    branches n flags none first done s = .ok (r, nest, s₁) →
    branches m flags (some sp') first' done' t = .ok (r', nest', t₁) →
    r' = r ∧ t₁.rest = ['$'] := by
  intro n
  induction n with
  | zero => intros; simp_all [branches]
  | succ n ih =>
    intro m flags sp' first first' done done' s t s₁ t₁ r r' nest nest' hm h hd hf ht
    obtain ⟨m, rfl⟩ : ∃ m', m = m' + 1 := ⟨m - 1, by omega⟩
    unfold branches at hf ht
    dsimp only at hf ht
    split at hf
    · cases hf
    rename_i ps flags' s' hp
    obtain ⟨qs, t', hp', hsame, h'⟩ :=
      (parts_follow n).2.1 m flags [] [] s t s' ps flags' (by omega) h rfl hp
    rw [hp'] at ht
    dsimp only at ht
    have hbranch := hsame.seqAll_reverse
    rcases hs' : s'.rest with _ | ⟨c, cs⟩
    · -- the text ends: the enclosed reading meets `)$`, or nothing if a comment ran over it
      rw [hs'] at hf
      simp only [Except.ok.injEq, Prod.mk.injEq] at hf
      obtain ⟨rfl, rfl, rfl⟩ := hf
      rcases h'.rest_nil hs' with ht' | ht' <;> rw [ht'] at ht
      · simp only [Except.ok.injEq, Prod.mk.injEq] at ht
        obtain ⟨rfl, rfl, rfl⟩ := ht
        exact ⟨altAll_branches_congr hbranch hd, by simp [ht']⟩
      · cases ht
    rw [hs'] at hf
    rw [h'.rest_cons hs'] at ht
    have hne : s'.rest ≠ [] := by simp [hs']
    by_cases hbar : c = '|'
    · subst hbar
      simp only at hf ht
      rw [hbranch] at ht
      exact ih m flags' sp' first first' _ _ s'.bump t'.bump s₁ t₁ r r' nest nest' (by omega)
        (h'.bump hne) (by simp [hd]) hf ht
    by_cases hclose : c = ')'
    · subst hclose
      simp at hf
    · simp [hbar, hclose] at ht

/-- A pattern read from a text is what the branches of the whole text read. -/
theorem Expr.branches_of_parse_eq_ok {text : String} {e : Expr} (h : Expr.parse text = .ok e) :
    ∃ nest s, branches (4 * text.toList.length + 8) {} none 0 [] ⟨text.toList, 0, [], none⟩ =
      .ok (e, nest, s) := by
  unfold Expr.parse at h
  dsimp only at h
  split at h
  · cases h
  rename_i r nest s hb
  refine ⟨nest, s, ?_⟩
  split at h
  · cases h
  split at h
  · cases h
  cases h
  exact hb

/-- A text that reads as a pattern on its own reads, inside `^(?:` and `)$`, as that pattern
between a start and an end assertion, whenever it reads there at all: the text cannot close
the group around it. -/
theorem Expr.eq_anchor_of_parse_wrapped {re : String} {e r : Expr} (he : Expr.parse re = .ok e)
    (hr : Expr.parse ("^(?:" ++ re ++ ")$") = .ok r) : r = e.anchor := by
  unfold Expr.anchor
  obtain ⟨nest, s₁, hb⟩ := Expr.branches_of_parse_eq_ok he
  obtain ⟨nest', t₁, hb'⟩ := Expr.branches_of_parse_eq_ok hr
  have htext : ("^(?:" ++ re ++ ")$").toList =
      '^' :: '(' :: '?' :: ':' :: (re.toList ++ [')', '$']) := by simp
  rw [htext] at hb'
  obtain ⟨k, hk, hfuel⟩ : ∃ k, 4 * re.toList.length + 8 ≤ k ∧
      4 * ('^' :: '(' :: '?' :: ':' :: (re.toList ++ [')', '$'])).length + 8 = k + 1 + 1 + 1 + 1 :=
    ⟨4 * re.toList.length + 28, by omega, by simp; omega⟩
  rw [hfuel] at hb'
  unfold branches at hb'
  dsimp only at hb'
  unfold pieces at hb'
  simp +decide only [Scan.blanks_false, if_true, if_false] at hb'
  unfold pieces at hb'
  simp +decide only [Scan.blanks_false, Scan.bump, List.tail_cons, if_true, if_false] at hb'
  rw [@groupOpening_noncapturing {} rfl _ _ rfl] at hb'
  dsimp only at hb'
  split at hb'
  · cases hb'
  rename_i ps flags' s' hpieces
  split at hpieces
  · cases hpieces
  rename_i r' nest'' t' hbr
  -- the group's body reads as the text on its own, and closes at the `)` after it
  obtain ⟨rfl, ht'⟩ := branches_enclosed _ (k + 1) {} _ 0 _ [] [] ⟨re.toList, 0, [], none⟩
    ⟨re.toList ++ [')', '$'], 0 + 1 + 1 + 1 + 1, [], none⟩ s₁ t' e r' nest nest'' (by omega)
    ⟨.inl rfl, rfl⟩ rfl hb hbr
  obtain ⟨k, rfl⟩ : ∃ k', k = k' + 1 := ⟨k - 1, by omega⟩
  unfold pieces at hpieces
  simp +decide only [Scan.blanks_false, ht', if_true, if_false] at hpieces
  unfold pieces at hpieces
  simp +decide only [Scan.blanks_false, Scan.bump_rest, ht', List.tail_cons] at hpieces
  simp only [Except.ok.injEq, Prod.mk.injEq] at hpieces
  obtain ⟨rfl, rfl, rfl⟩ := hpieces
  -- nothing is left after the `$`: the whole reads as one branch of three pieces
  simp [ht', Expr.seqAll, Expr.altAll] at hb'
  exact hb'.1.symm

end Switchyard.Regex

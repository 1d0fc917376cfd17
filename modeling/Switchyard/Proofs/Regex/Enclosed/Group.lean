import Switchyard.Proofs.Regex.Enclosed.Scan
/-!
# Pieces, repetitions and group openings, read with `)$` after the text

What a branch has read so far is compared by the patterns of its pieces (`SamePieces`), not by
where they stand. A repetition operator, a counted repetition, the letters of a flag group, a
capture name and the opening of a group read the same with `)$` after the text, each given the
reading of the text alone (`…_follows`). `groupOpening_noncapturing` says how the `(?:` of the
wrapper opens its group.
-/

namespace Switchyard.Regex

open Scan

/-- The pieces of two branches read so far hold the same patterns. -/
def SamePieces (ps qs : List Piece) : Prop := ps.map Piece.expr = qs.map Piece.expr


theorem SamePieces.cons {ps qs : List Piece} (hpq : SamePieces ps qs) (e : Option Expr)
    (n n' : Nest) (st st' : Nat) : SamePieces (⟨e, n, st⟩ :: ps) (⟨e, n', st'⟩ :: qs) := by
  simp only [SamePieces, List.map_cons] at hpq ⊢
  rw [hpq]


theorem SamePieces.filterMap_expr_eq {ps qs : List Piece} (hpq : SamePieces ps qs) :
    ps.filterMap Piece.expr = qs.filterMap Piece.expr := by
  have : (ps.map Piece.expr).filterMap id = (qs.map Piece.expr).filterMap id := by
    rw [show ps.map Piece.expr = qs.map Piece.expr from hpq]
  simpa [List.filterMap_map] using this


/-- The last piece read on one side has its pattern on the other. -/
theorem SamePieces.exists_cons {p : Piece} {ps qs : List Piece} (hpq : SamePieces (p :: ps) qs) :
    ∃ q qs', qs = q :: qs' ∧ q.expr = p.expr ∧ SamePieces ps qs' := by
  cases qs with
  | nil => cases hpq
  | cons q qs' =>
    simp only [SamePieces, List.map_cons, List.cons.injEq] at hpq
    exact ⟨q, qs', rfl, hpq.1.symm, hpq.2⟩

theorem SamePieces.reverse {ps qs : List Piece} (hpq : SamePieces ps qs) :
    SamePieces ps.reverse qs.reverse := by
  simp only [SamePieces, List.map_reverse] at hpq ⊢
  rw [hpq]

/-- A branch of pieces read alike is the same sequence. -/
theorem SamePieces.seqAll_reverse {ps qs : List Piece} (hpq : SamePieces ps qs) :
    Expr.seqAll (qs.reverse.filterMap Piece.expr) =
      Expr.seqAll (ps.reverse.filterMap Piece.expr) := by
  rw [hpq.reverse.filterMap_expr_eq]

theorem simpleRepetition_follows {ps qs : List Piece} {op : Char} {s t s₁ : Scan}
    {ps₁ : List Piece} (hf : simpleRepetition ps op s = .ok (ps₁, s₁)) (hs : s.rest ≠ [])
    (h : Follows s t) (hpq : SamePieces ps qs) :
    ∃ qs₁ t₁, simpleRepetition qs op t = .ok (qs₁, t₁) ∧ SamePieces ps₁ qs₁ ∧
      Follows s₁ t₁ := by
  unfold simpleRepetition at hf
  split at hf
  case h_1 r nest origin rest =>
    cases hf
    obtain ⟨⟨e, qn, qo⟩, qrest, rfl, hhead, hrest⟩ := hpq.exists_cons
    simp only at hhead
    subst hhead
    refine ⟨_, _, rfl, ?_, skipLazy_follows (h.bump hs)⟩
    simp [SamePieces] at hrest ⊢; exact hrest
  case h_2 => cases hf

theorem Except.eq_ok_of_toOption_eq {ε ε' α : Type} {x : Except ε α} {y : Except ε' α}
    {a : α} (hxy : y.toOption = x.toOption) (hx : x = .ok a) : y = .ok a := by
  subst hx
  cases y <;> simp_all [Except.toOption]


/-- The bounds of a counted repetition read the same in a text followed by `)$`. -/
theorem repetitionBounds_follows {v : Bool} {st : Nat} (st' : Nat)
    {lo lo' : Except ParseError Nat}
    {s t s₁ : Scan} {a : Nat} {b : Option Nat}
    (hb : repetitionBounds v st lo s = .ok (a, b, s₁)) (h : Follows s t)
    (hlo : lo'.toOption = lo.toOption) :
    ∃ t₁, repetitionBounds v st' lo' t = .ok (a, b, t₁) ∧ Follows s₁ t₁ := by
  unfold repetitionBounds at hb ⊢
  rcases hs : s.rest with _ | ⟨c, xs⟩
  · simp [hs] at hb
  rw [hs] at hb
  rw [h.rest_cons hs]
  by_cases hc : c = ','
  · subst hc
    simp only at hb ⊢
    have h3 := h.bumpBlanks (by simp [hs]) v
    rcases hs3 : (s.bumpBlanks v).rest with _ | ⟨d, ys⟩
    · simp [hs3] at hb
    rw [hs3] at hb
    rw [h3.rest_cons hs3]
    by_cases hd : d = '\x7d'
    · subst hd
      simp only at hb ⊢
      cases lo <;> simp [Except.map] at hb
      obtain ⟨rfl, rfl, rfl⟩ := hb
      rw [Except.eq_ok_of_toOption_eq hlo rfl]
      exact ⟨_, rfl, h3⟩
    · simp [hd] at hb ⊢
      cases lo with
      | error e => cases hb
      | ok lo₀ =>
        rw [Except.eq_ok_of_toOption_eq hlo rfl]
        obtain ⟨hhi, h4⟩ := countDecimal_follows h3 v
        simp only at hb ⊢
        cases hcd : (countDecimal v (s.bumpBlanks v)).1 with
        | error e => rw [hcd] at hb; cases hb
        | ok hi =>
          rw [hcd] at hb
          simp only [Except.map, Except.ok.injEq, Prod.mk.injEq] at hb
          obtain ⟨rfl, rfl, rfl⟩ := hb
          rw [Except.eq_ok_of_toOption_eq hhi hcd]
          exact ⟨_, rfl, h4⟩
  · simp [hc] at hb ⊢
    cases lo with
    | error e => cases hb
    | ok lo₀ =>
      simp only [Except.map, Except.ok.injEq, Prod.mk.injEq] at hb
      obtain ⟨rfl, rfl, rfl⟩ := hb
      rw [Except.eq_ok_of_toOption_eq hlo rfl]
      exact ⟨_, rfl, h⟩

/-- A counted repetition reads the same in a text followed by `)$`. -/
theorem countedRepetition_follows {v : Bool} {ps qs : List Piece} {s t s₁ : Scan}
    {ps₁ : List Piece} (hf : countedRepetition v ps s = .ok (ps₁, s₁)) (hs : s.rest ≠ [])
    (h : Follows s t) (hpq : SamePieces ps qs) :
    ∃ qs₁ t₁, countedRepetition v qs t = .ok (qs₁, t₁) ∧ SamePieces ps₁ qs₁ ∧
      Follows s₁ t₁ := by
  unfold countedRepetition at hf ⊢
  dsimp only at hf ⊢
  split at hf
  case h_2 => cases hf
  case h_1 r nest origin rest =>
    obtain ⟨⟨e, qn, qo⟩, qrest, rfl, hhead, hrest⟩ := hpq.exists_cons
    simp only at hhead
    subst hhead
    simp only
    have h1 := h.bumpBlanks hs v
    split at hf
    case isTrue => cases hf
    case isFalse hne =>
      rw [if_neg (h1.not_atEnd hne)]
      obtain ⟨hlo, h2⟩ := countDecimal_follows h1 v
      split at hf
      case h_1 => cases hf
      case h_2 lo hi s4 hb =>
        obtain ⟨t4, hbt, h4⟩ := repetitionBounds_follows t.pos hb h2 hlo
        rw [hbt]
        simp only
        -- the closing brace, then the repetition
        rcases hs4 : s4.rest with _ | ⟨c, xs⟩
        · simp [hs4] at hf
        rw [hs4] at hf
        rw [h4.rest_cons hs4]
        by_cases hc : c = '\x7d'
        · subst hc
          have h5 := skipLazy_follows (h4.bumpBlanks (by simp [hs4]) v)
          simp only at hf ⊢
          cases hi with
          | none =>
            cases hf
            exact ⟨_, _, rfl, by simpa [SamePieces] using hrest, h5⟩
          | some m =>
            simp only at hf ⊢
            split at hf
            · cases hf
            · rename_i hle
              rw [if_neg hle]
              cases hf
              exact ⟨_, _, rfl, by simpa [SamePieces] using hrest, h5⟩
        · simp [hc] at hf

/-- Two lists of pairs with the same first components. -/
theorem find?_fst_eq_none_congr {α β γ : Type} [BEq α] {l : List (α × β)}
    {l' : List (α × γ)} (hl : l'.map Prod.fst = l.map Prod.fst) (a : α)
    (h : l.find? (fun x => x.1 == a) = none) : l'.find? (fun x => x.1 == a) = none := by
  induction l generalizing l' with
  | nil => cases l' with
    | nil => rfl
    | cons _ _ => cases hl
  | cons x l ih =>
    cases l' with
    | nil => cases hl
    | cons y l' =>
      simp only [List.map_cons, List.cons.injEq] at hl
      simp only [List.find?_cons, hl.1] at h ⊢
      cases hxa : (x.1 == a)
      · simp only [hxa] at h ⊢
        exact ih hl.2 h
      · simp [hxa] at h

/-- A fold that reads only the first components gives the same over two lists with the same
first components. -/
theorem foldl_congr_fst {α β γ : Type} (f : β → α × γ → β)
    (hf : ∀ b x y, x.1 = y.1 → f b x = f b y) :
    ∀ (b : β) (l l' : List (α × γ)), l'.map Prod.fst = l.map Prod.fst →
      l'.foldl f b = l.foldl f b := by
  intro b l l' hl
  induction l generalizing b l' with
  | nil => cases l' with
    | nil => rfl
    | cons _ _ => cases hl
  | cons x l ih =>
    cases l' with
    | nil => cases hl
    | cons y l' =>
      simp only [List.map_cons, List.cons.injEq] at hl
      simp only [List.foldl_cons]
      rw [hf b y x hl.1]
      exact ih _ _ hl.2

theorem applyFlags_congr (flags : Flags) {items items' : FlagItems}
    (h : items'.map Prod.fst = items.map Prod.fst) :
    applyFlags flags items' = applyFlags flags items := by
  unfold applyFlags
  rw [foldl_congr_fst _ (fun _ x y hxy => by
    obtain ⟨x1, x2⟩ := x
    obtain ⟨y1, y2⟩ := y
    simp only at hxy
    subst hxy
    rfl) _ _ _ h]

/-- The letters of a flag group read the same in a text followed by `)$`. -/
theorem flagItems_follows :
    ∀ (n m : Nat) (items items' : FlagItems) (s t s₁ : Scan) (res : FlagItems),
      s.rest.length < n → n ≤ m → Follows s t → items'.map Prod.fst = items.map Prod.fst →
      flagItems n items s = .ok (res, s₁) →
      ∃ res' t₁, flagItems m items' t = .ok (res', t₁) ∧
        res'.map Prod.fst = res.map Prod.fst ∧ Follows s₁ t₁ ∧ s₁.rest ≠ [] := by
  intro n
  induction n with
  | zero => intro _ _ _ _ _ _ _ hn; omega
  | succ n ih =>
    intro m items items' s t s₁ res hn hm h hitems hf
    obtain ⟨m, rfl⟩ : ∃ m', m = m' + 1 := ⟨m - 1, by omega⟩
    unfold flagItems at hf ⊢
    rcases hs : s.rest with _ | ⟨c, xs⟩
    · simp [hs] at hf
    rw [hs] at hf
    rw [h.rest_cons hs]
    simp only at hf ⊢
    by_cases hcl : c = ':' ∨ c = ')'
    · rw [if_pos hcl] at hf ⊢
      split at hf
      · cases hf
      · rename_i hnot
        cases hf
        refine ⟨items'.reverse, t, ?_, by simp [hitems], h, by simp [hs]⟩
        -- the letters met so far do not end in a negation on either side
        have hhead : ∀ sp tl, items' ≠ (none, sp) :: tl := by
          intro sp tl heq
          subst heq
          cases items with
          | nil => cases hitems
          | cons x items =>
            simp only [List.map_cons, List.cons.injEq] at hitems
            exact hnot x.2 items (by rw [hitems.1])
        split
        · exact absurd rfl (hhead _ _)
        · rfl
    · rw [if_neg hcl] at hf ⊢
      -- the letter, then whether it was met before
      have hitem : ∀ {it}, (if c = '-' then Except.ok none
            else if "imsUuRx".toList.contains c then Except.ok (some c)
            else (Except.error
              (⟨.flagUnrecognized, ⟨s.pos, s.pos + 1⟩, none⟩ : ParseError) :
              Except ParseError (Option Char))) = .ok it →
          (if c = '-' then Except.ok none
            else if "imsUuRx".toList.contains c then Except.ok (some c)
            else (Except.error
              (⟨.flagUnrecognized, ⟨t.pos, t.pos + 1⟩, none⟩ : ParseError) :
              Except ParseError (Option Char))) = .ok it := by
        intro it hit
        split at hit
        · rwa [if_pos ‹_›]
        · rw [if_neg ‹_›]
          split at hit
          · rwa [if_pos ‹_›]
          · cases hit
      split at hf
      · cases hf
      · rename_i it hit
        rw [hitem hit]
        simp only
        split at hf
        · cases hf
        · rename_i hfind
          rw [find?_fst_eq_none_congr hitems it hfind]
          simp only
          have hb := h.bump (by simp [hs])
          split at hf
          · cases hf
          · rename_i hne
            rw [if_neg (hb.not_atEnd hne)]
            exact ih m _ _ _ _ _ _ (by simp [hs] at hn ⊢; omega) (by omega) hb
              (by simp [hitems]) hf

/-- The characters of a capture name read the same in a text followed by `)$`: the name ends
at a `>` of the text, and a character is first in both or in neither. -/
theorem captureName_go_follows {st : Nat} (st' : Nat) :
    ∀ (xs acc : List Char) (k : Nat) {cs : List Char} {q : Nat},
      captureName.go st acc xs (st + k) = .ok (cs, q) →
      ∃ j, q = st + j ∧ j < k + xs.length ∧
        captureName.go st' acc (xs ++ [')', '$']) (st' + k) = .ok (cs, st' + j) := by
  intro xs
  induction xs with
  | nil => intro acc k cs q h; simp [captureName.go] at h
  | cons c xs ih =>
    intro acc k cs q h
    have hfirst : (st' + k == st') = (st + k == st) := by
      rw [Bool.eq_iff_iff]
      simp only [beq_iff_eq, Nat.add_eq_left]
    simp only [captureName.go, List.cons_append] at h ⊢
    split at h
    · rename_i hc
      cases h
      exact ⟨k, rfl, by simp, by rw [if_pos hc]⟩
    · rename_i hc
      rw [if_neg hc, hfirst]
      split at h
      · cases h
      · rename_i hok
        rw [if_neg hok]
        obtain ⟨j, rfl, hj, hgo⟩ := ih (c :: acc) (k + 1) (by rwa [Nat.add_assoc] at h)
        exact ⟨j, rfl, by simp; omega, by rwa [← Nat.add_assoc] at hgo⟩

theorem lookup_eq_none_congr {β γ : Type} {l : List (String × β)} {l' : List (String × γ)}
    (hl : l'.map Prod.fst = l.map Prod.fst) (a : String) (h : l.lookup a = none) :
    l'.lookup a = none := by
  induction l generalizing l' with
  | nil => cases l' with
    | nil => rfl
    | cons _ _ => cases hl
  | cons x l ih =>
    cases l' with
    | nil => cases hl
    | cons y l' =>
      obtain ⟨x1, x2⟩ := x
      obtain ⟨y1, y2⟩ := y
      simp only [List.map_cons, List.cons.injEq] at hl
      obtain ⟨h1, hl⟩ := hl
      simp only [List.lookup_cons, h1] at h ⊢
      cases hxa : (a == x1)
      · simp only [hxa] at h ⊢
        exact ih hl h
      · simp [hxa] at h

/-- A capture name reads the same in a text followed by `)$`. -/
theorem captureName_follows {s t s₁ : Scan} {name : String}
    (hf : captureName s = .ok (name, s₁)) (h : Follows s t) :
    ∃ t₁, captureName t = .ok (name, t₁) ∧ Follows s₁ t₁ := by
  unfold captureName at hf ⊢
  dsimp only at hf ⊢
  split at hf
  · cases hf
  · rename_i hne
    rw [if_neg (h.not_atEnd hne)]
    rcases hs : s.rest with _ | ⟨c, xs⟩
    · simp [Scan.atEnd, hs] at hne
    rw [hs] at hf
    rw [h.rest_cons hs, ← List.cons_append]
    split at hf
    · cases hf
    · rename_i cs stop hgo
      obtain ⟨j, rfl, hj, hgo'⟩ := captureName_go_follows t.pos (c :: xs) [] 0
        (by simpa using hgo)
      simp only [Nat.add_zero] at hgo'
      rw [hgo']
      simp only [Nat.add_sub_cancel_left] at hf ⊢
      have hskip := h.skip (n := j + 1) (by simp [hs] at hj ⊢; omega)
      split at hf
      · cases hf
      · rename_i hcs
        rw [if_neg hcs]
        split at hf
        · cases hf
        · rename_i hlook
          rw [lookup_eq_none_congr hskip.names _ hlook]
          cases hf
          exact ⟨_, rfl, ⟨hskip.rest, by simp [h.names]⟩⟩

/-- Two openings of a group read alike: of the same kind with the same flags, and scans that
follow each other. -/
def Opening.Follows : Opening → Opening → Prop
  | .group c f s, .group c' f' t => c' = c ∧ f' = f ∧ Scan.Follows s t
  | .setFlags f s, .setFlags f' t => f' = f ∧ Scan.Follows s t
  | _, _ => False

/-- The opening of a group reads the same in a text followed by `)$`. -/
theorem groupOpening_follows {flags : Flags} {s t : Scan} {o : Opening}
    (hf : groupOpening flags s = .ok o) (hs : s.rest ≠ []) (h : Follows s t) :
    ∃ o', groupOpening flags t = .ok o' ∧ Opening.Follows o o' := by
  unfold groupOpening at hf ⊢
  dsimp only at hf ⊢
  have h1 := (h.bump hs).blanks flags.verbose
  simp only [h1.startsWith_eq (p := "?=") (by decide), h1.startsWith_eq (p := "?!") (by decide),
    h1.startsWith_eq (p := "?<=") (by decide), h1.startsWith_eq (p := "?<!") (by decide),
    h1.startsWith_eq (p := "?P<") (by decide), h1.startsWith_eq (p := "?<") (by decide),
    h1.startsWith_eq (p := "?") (by decide)]
  split at hf
  · cases hf
  · split at hf
    · -- a named group `(?P<name>`
      rename_i hP
      rw [if_pos hP]
      have hlen := Scan.length_le_of_startsWith hP
      rcases hc : captureName ((s.bump.blanks flags.verbose).skip 3) with _ | ⟨name, s2⟩
      · rw [hc] at hf; cases hf
      · rw [hc] at hf
        cases hf
        obtain ⟨t2, hct, h2⟩ := captureName_follows hc (h1.skip (by simpa using hlen))
        exact ⟨.group true flags t2, by rw [hct]; rfl, rfl, rfl, h2⟩
    · rename_i hP
      rw [if_neg hP]
      split at hf
      · -- a named group `(?<name>`
        rename_i hA
        rw [if_pos hA]
        have hlen := Scan.length_le_of_startsWith hA
        rcases hc : captureName ((s.bump.blanks flags.verbose).skip 2) with _ | ⟨name, s2⟩
        · rw [hc] at hf; cases hf
        · rw [hc] at hf
          cases hf
          obtain ⟨t2, hct, h2⟩ := captureName_follows hc (h1.skip (by simpa using hlen))
          exact ⟨.group true flags t2, by rw [hct]; rfl, rfl, rfl, h2⟩
      · rename_i hA
        rw [if_neg hA]
        split at hf
        · -- flags, and a group or the rest of the enclosing one
          rename_i hQ
          rw [if_pos hQ]
          have hne1 : (s.bump.blanks flags.verbose).rest ≠ [] := by
            intro hnil
            simp [Scan.startsWith, hnil] at hQ
          have h2 := h1.bump hne1
          split at hf
          · cases hf
          · rename_i hne2
            rw [if_neg (h2.not_atEnd hne2)]
            split at hf
            · cases hf
            · rename_i items s3 hfi
              have hne3 : ((s.bump.blanks flags.verbose).bump).rest ≠ [] := by
                simpa [Scan.atEnd] using hne2
              obtain ⟨items', t3, hfi', hitems, h3, hs3⟩ := flagItems_follows _ _ [] [] _ _ _ _
                (by omega) (Nat.add_le_add_right h2.length_le 1) h2 rfl hfi
              rw [hfi']
              simp only
              rw [h3.peek?_eq hs3]
              have hempty : items'.isEmpty = items.isEmpty := by
                rw [← List.isEmpty_map (f := Prod.fst), hitems, List.isEmpty_map]
              split at hf
              · rename_i hclose
                rw [if_pos hclose, hempty]
                split at hf
                · cases hf
                · rename_i hne
                  rw [if_neg hne]
                  cases hf
                  exact ⟨_, rfl, applyFlags_congr _ hitems, h3.bump hs3⟩
              · rename_i hclose
                rw [if_neg hclose]
                cases hf
                exact ⟨_, rfl, rfl, applyFlags_congr _ hitems, h3.bump hs3⟩
        · rename_i hQ
          rw [if_neg hQ]
          cases hf
          exact ⟨_, rfl, rfl, rfl, h1⟩

/-- A non-capturing group `(?:` opens with the flags in force, and its body starts after
the `:`. -/
theorem groupOpening_noncapturing {flags : Flags} (hv : flags.verbose = false) {s : Scan}
    {body : List Char} (hs : s.rest = '(' :: '?' :: ':' :: body) :
    groupOpening flags s =
      .ok (.group false flags { s with rest := body, pos := s.pos + 1 + 1 + 1 }) := by
  unfold groupOpening
  simp +decide [hv, hs, Scan.startsWith, Scan.bump, Scan.atEnd, flagItems, Scan.peek?, applyFlags]

end Switchyard.Regex

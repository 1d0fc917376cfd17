import Switchyard.Proofs.Route.Select
/-!
# What a pattern captures from a path

`matchSegments` walks a pattern and a split path side by side, gives up at the first path
segment the pattern refuses, and inserts each placeholder's path segment into the captures as
it goes, a later placeholder of a name replacing the value of an earlier one.

Read as a map, the result has a definition by positions alone (`matchSegments_captures_last`):
matching succeeds exactly when pattern and path have the same length and each pattern segment
accepts the path segment at its position, and then the captures hold each name once
(`Params.NamesUnique`), with the path segment at the last position that holds a placeholder of
that name, and nothing else (`CapturesLast`).
-/

namespace Switchyard

/-! ## Captures as a map -/

namespace Params

/-- Each name is captured at most once. -/
def NamesUnique (p : Params) : Prop := (p.entries.map Prod.fst).Nodup

/-- An insert sets the name's value and keeps every other capture. -/
theorem mem_insert_iff (p : Params) (name value k w : String) :
    (k, w) ∈ (p.insert name value).entries ↔
      (k = name ∧ w = value) ∨ (k ≠ name ∧ (k, w) ∈ p.entries) := by
  unfold insert
  split
  · -- the name is there: its entries take the new value, all others stay
    rename_i hany
    obtain ⟨⟨k₀, w₀⟩, hmem₀, hk₀⟩ := List.any_eq_true.mp hany
    simp only [beq_iff_eq] at hk₀
    subst hk₀
    simp only [List.mem_map, Prod.exists]
    constructor
    · rintro ⟨k', w', hmem, hkw⟩
      by_cases hk' : k' = k₀ <;> simp_all
    · rintro (⟨rfl, rfl⟩ | ⟨hne, hmem⟩)
      · exact ⟨k, w₀, hmem₀, by simp⟩
      · exact ⟨k, w, hmem, by simp [hne]⟩
  · -- the name is new: it is appended
    rename_i hany
    have hfresh : ∀ w', (name, w') ∉ p.entries := fun w' hmem =>
      hany (List.any_eq_true.mpr ⟨(name, w'), hmem, by simp⟩)
    simp only [List.mem_append, List.mem_singleton, Prod.mk.injEq]
    by_cases hk : k = name
    · subst hk
      simp [hfresh]
    · simp [hk]

theorem NamesUnique.insert {p : Params} (hp : p.NamesUnique) (name value : String) :
    (p.insert name value).NamesUnique := by
  unfold NamesUnique at hp
  unfold Params.insert NamesUnique
  split
  · -- replacing values leaves the names as they were
    rw [List.map_map]
    convert hp using 1
    apply List.map_congr_left
    rintro ⟨k, v⟩ -
    by_cases hk : k = name <;> simp [hk]
  · rename_i hany
    have hfresh : name ∉ p.entries.map Prod.fst := by
      simp only [List.mem_map, Prod.exists, exists_and_right, exists_eq_right, not_exists]
      intro w hmem
      exact hany (List.any_eq_true.mpr ⟨(name, w), hmem, by simp⟩)
    rw [List.map_append, List.map_singleton, List.nodup_append]
    refine ⟨hp, List.nodup_singleton name, fun a ha b hb hab => ?_⟩
    rw [List.mem_singleton] at hb
    rw [hab, hb] at ha
    exact hfresh ha

/-- With each name captured once, a name's value is the one entry of that name. -/
theorem NamesUnique.get?_eq_some_iff {p : Params} (hp : p.NamesUnique) {name value : String} :
    p.get? name = some value ↔ (name, value) ∈ p.entries := by
  obtain ⟨entries⟩ := p
  unfold get? NamesUnique at *
  induction entries with
  | nil => simp
  | cons e rest ih =>
    obtain ⟨k, v⟩ := e
    simp only [List.map_cons, List.nodup_cons] at hp
    by_cases hk : name = k
    · -- the head has the name, and no later entry does
      subst hk
      have hrest : (name, value) ∉ rest := fun hmem =>
        hp.1 (List.mem_map.mpr ⟨(name, value), hmem, rfl⟩)
      simp [hrest, eq_comm]
    · have hb : (name == k) = false := beq_eq_false_iff_ne.mpr hk
      simp only [List.lookup_cons, hb]
      rw [ih hp.2]
      simp [hk]

end Params

/-! ## Positions of placeholders -/

/-- Position `i` of the pattern holds a placeholder named `name`. -/
def ParamAt (s : List Segment) (name : String) (i : Nat) : Prop :=
  ∃ c, s[i]? = some (.param name c)

/-- Position `i` holds the last placeholder named `name` in the pattern. -/
def LastParamAt (s : List Segment) (name : String) (i : Nat) : Prop :=
  ParamAt s name i ∧ ∀ j, i < j → ¬ ParamAt s name j

@[simp] theorem paramAt_nil (name : String) (i : Nat) : ¬ ParamAt [] name i := by
  simp [ParamAt]

@[simp] theorem paramAt_cons_zero (seg : Segment) (s : List Segment) (name : String) :
    ParamAt (seg :: s) name 0 ↔ ∃ c, seg = .param name c := by
  simp [ParamAt]

@[simp] theorem paramAt_cons_succ (seg : Segment) (s : List Segment) (name : String) (i : Nat) :
    ParamAt (seg :: s) name (i + 1) ↔ ParamAt s name i := by
  simp [ParamAt]

/-- A name appears as a placeholder nowhere in `seg :: s` when it is not `seg`'s and appears
nowhere in `s`. -/
theorem forall_not_paramAt_cons (seg : Segment) (s : List Segment) (name : String) :
    (∀ j, ¬ ParamAt (seg :: s) name j) ↔
      (∀ c, seg ≠ .param name c) ∧ ∀ j, ¬ ParamAt s name j := by
  constructor
  · intro h
    exact ⟨fun c hc => h 0 ((paramAt_cons_zero ..).mpr ⟨c, hc⟩),
      fun j hj => h (j + 1) ((paramAt_cons_succ ..).mpr hj)⟩
  · rintro ⟨hseg, hs⟩ (_ | j)
    · rintro ⟨c, hc⟩
      exact hseg c (by simpa using hc)
    · exact fun hj => hs j ((paramAt_cons_succ ..).mp hj)

/-- The positions of `seg :: s` after `i` are those of `s` from `i` on. -/
theorem forall_gt_not_paramAt_cons (seg : Segment) (s : List Segment) (name : String) (i : Nat) :
    (∀ j, i < j → ¬ ParamAt (seg :: s) name j) ↔ ∀ j, i ≤ j → ¬ ParamAt s name j := by
  constructor
  · intro h j hij hj
    exact h (j + 1) (by omega) ((paramAt_cons_succ ..).mpr hj)
  · intro h j hij hj
    obtain ⟨j, rfl⟩ : ∃ j', j = j' + 1 := ⟨j - 1, by omega⟩
    exact h j (by omega) ((paramAt_cons_succ ..).mp hj)

theorem lastParamAt_cons_succ (seg : Segment) (s : List Segment) (name : String) (i : Nat) :
    LastParamAt (seg :: s) name (i + 1) ↔ LastParamAt s name i := by
  simp only [LastParamAt, paramAt_cons_succ, forall_gt_not_paramAt_cons, Nat.add_one_le_iff]

theorem lastParamAt_cons_zero (seg : Segment) (s : List Segment) (name : String) :
    LastParamAt (seg :: s) name 0 ↔ (∃ c, seg = .param name c) ∧ ∀ j, ¬ ParamAt s name j := by
  simp only [LastParamAt, paramAt_cons_zero, forall_gt_not_paramAt_cons, Nat.zero_le,
    forall_const]

/-- The value the reference reading captures for `name`: the path segment at the last
placeholder of that name. -/
def CapturedLast (s : List Segment) (q : List String) (name value : String) : Prop :=
  ∃ i, LastParamAt s name i ∧ q[i]? = some value

/-- A capture of `seg :: s` against `v :: q` is a capture of `s` against `q`, or `v` itself
when `seg` is the last placeholder of its name. -/
theorem capturedLast_cons (seg : Segment) (s : List Segment) (v : String) (q : List String)
    (name value : String) :
    CapturedLast (seg :: s) (v :: q) name value ↔
      CapturedLast s q name value ∨
        ((∃ c, seg = .param name c) ∧ (∀ j, ¬ ParamAt s name j) ∧ value = v) := by
  constructor
  · rintro ⟨(_ | i), hlast, hval⟩
    · obtain ⟨hseg, hnone⟩ := (lastParamAt_cons_zero ..).mp hlast
      exact .inr ⟨hseg, hnone, by simpa [eq_comm] using hval⟩
    · exact .inl ⟨i, (lastParamAt_cons_succ ..).mp hlast, by simpa using hval⟩
  · rintro (⟨i, hlast, hval⟩ | ⟨hseg, hnone, rfl⟩)
    · exact ⟨i + 1, (lastParamAt_cons_succ ..).mpr hlast, by simpa using hval⟩
    · exact ⟨0, (lastParamAt_cons_zero ..).mpr ⟨hseg, hnone⟩, rfl⟩

/-- The captures of a pattern against a path by the reference reading: each name once, each
with the path segment at its last placeholder, and nothing else. -/
structure CapturesLast (s : List Segment) (q : List String) (m : Params) : Prop where
  namesUnique : m.NamesUnique
  mem_iff : ∀ name value, (name, value) ∈ m.entries ↔ CapturedLast s q name value

/-! ## The matching loop -/

namespace matchSegments

theorem go_nil_eq_some {q : List String} {acc m : Params} (h : go [] q acc = some m) :
    q = [] ∧ m = acc := by
  cases q with
  | nil => simpa [go, eq_comm] using h
  | cons v q => simp [go] at h

theorem go_cons_nil (seg : Segment) (s : List Segment) (acc : Params) :
    go (seg :: s) [] acc = none := rfl

/-- One step of the loop: the head segment accepts the head of the path, and the rest matches
with the head's capture inserted when the head is a placeholder. -/
theorem go_cons_eq_some {seg : Segment} {s : List Segment} {v : String} {q : List String}
    {acc m : Params} (h : go (seg :: s) (v :: q) acc = some m) :
    seg.accepts v ∧ ((∃ n c, seg = .param n c ∧ go s q (acc.insert n v) = some m) ∨
      (∃ t, seg = .literal t ∧ go s q acc = some m)) := by
  by_cases hacc : seg.accepts v
  · cases seg with
    | param n c =>
      simp only [go, hacc, if_true] at h
      exact ⟨hacc, .inl ⟨n, c, rfl, h⟩⟩
    | literal t =>
      simp only [go, hacc, if_true] at h
      exact ⟨hacc, .inr ⟨t, rfl, h⟩⟩
  · simp [go, hacc] at h

/-- The loop keeps each name captured once. -/
theorem go_namesUnique {s : List Segment} {q : List String} {acc m : Params}
    (h : go s q acc = some m) (hacc : acc.NamesUnique) : m.NamesUnique := by
  induction s generalizing q acc with
  | nil => exact (go_nil_eq_some h).2 ▸ hacc
  | cons seg s ih =>
    cases q with
    | nil => simp [go_cons_nil] at h
    | cons v q =>
      obtain ⟨-, ⟨n, c, -, hrest⟩ | ⟨t, -, hrest⟩⟩ := go_cons_eq_some h
      · exact ih hrest (hacc.insert n v)
      · exact ih hrest hacc

/-- The invariant of the loop: a capture of the result was captured from the rest of the
pattern, or was already captured under a name the rest never uses. -/
theorem go_mem_iff {s : List Segment} {q : List String} {acc m : Params}
    (h : go s q acc = some m) (name value : String) :
    (name, value) ∈ m.entries ↔
      CapturedLast s q name value ∨ ((name, value) ∈ acc.entries ∧ ∀ j, ¬ ParamAt s name j) := by
  induction s generalizing q acc with
  | nil =>
    obtain ⟨rfl, rfl⟩ := go_nil_eq_some h
    simp [CapturedLast, LastParamAt]
  | cons seg s ih =>
    cases q with
    | nil => simp [go_cons_nil] at h
    | cons v q =>
      rw [capturedLast_cons, forall_not_paramAt_cons]
      obtain ⟨-, ⟨n, c, rfl, hrest⟩ | ⟨t, rfl, hrest⟩⟩ := go_cons_eq_some h
      · rw [ih hrest, Params.mem_insert_iff]
        -- the inserted value survives exactly when `s` never uses the name again
        by_cases hn : name = n
        · subst hn
          simp only [Segment.param.injEq, true_and, exists_eq', ne_eq]
          grind
        · have hn' : n ≠ name := Ne.symm hn
          simp [hn, hn']
      · simp [ih hrest]

end matchSegments

/-- `matchSegments` by positions alone: it succeeds exactly when pattern and path have the same
length and each pattern segment accepts the path segment at its position; the captures then
hold each name once, mapped to the path segment at the last placeholder of that name, and
nothing else. -/
theorem matchSegments_captures_last (s : List Segment) (q : List String) :
    ((∃ m, matchSegments s q = some m) ↔
      s.length = q.length ∧ ∀ i (hs : i < s.length) (hq : i < q.length), s[i].accepts q[i]) ∧
    ∀ m, matchSegments s q = some m → CapturesLast s q m := by
  constructor
  · rw [← Option.isSome_iff_exists, matchSegments_isSome_iff, List.forall₂_iff_get]
    simp
  · intro m hm
    refine ⟨matchSegments.go_namesUnique hm List.nodup_nil, fun name value => ?_⟩
    rw [matchSegments.go_mem_iff hm]
    simp

/-- After a match, a name's value is the path segment at its last placeholder. -/
theorem CapturesLast.get?_eq_some_iff {s : List Segment} {q : List String} {m : Params}
    (h : CapturesLast s q m) {name value : String} :
    m.get? name = some value ↔ CapturedLast s q name value := by
  rw [h.namesUnique.get?_eq_some_iff, h.mem_iff]

/-- `/:id/x/:id` against `/1/x/2` keeps the later `id`. -/
theorem matchSegments_captures_last_repeated :
    matchSegments [.param "id" none, .literal "x", .param "id" none] ["1", "x", "2"] =
        some ⟨[("id", "2")]⟩ ∧
      CapturesLast [.param "id" none, .literal "x", .param "id" none] ["1", "x", "2"]
        ⟨[("id", "2")]⟩ :=
  have hm : matchSegments [.param "id" none, .literal "x", .param "id" none] ["1", "x", "2"] =
      some ⟨[("id", "2")]⟩ := by decide
  ⟨hm, (matchSegments_captures_last _ _).2 _ hm⟩

end Switchyard

import Mathlib
import Switchyard.Proofs.Route.Table
/-!
# Which route a request selects

`RouteTable.select` never compares the route it returns with its rivals: it takes the first
hit of two passes over a table kept sorted by `compareSegments`. The sort order does the
comparing. Two patterns that match the same path agree on every literal they share, so where
they first compare unequal they differ in kind, and a literal sorts first. On a tie they agree
in kind everywhere, and the stable sort keeps the earlier registration first.

`RouteTable.select_most_specific` states the outcome over every sequence of registrations and
every request:

- an exact winner is eligible, matches, and beats every other eligible exact match by the first
  kind difference, or by registration order when there is none (`ExactWinner`);
- a prefix route wins only when no exact route matches, as the first eligible prefix route in
  table order whose prefix starts the path, with the captures of a full match or none
  (`PrefixFallback`);
- no route is selected only when no eligible route fits the path at all.
-/

namespace Switchyard

/-! ## Patterns that fit a path -/

namespace matchSegments

/-- Matching succeeds exactly when each pattern segment accepts the path segment at its
position; the captures gathered so far play no part. -/
theorem go_isSome_iff (s : List Segment) (q : List String) (acc : Params) :
    (go s q acc).isSome ↔ List.Forall₂ (fun seg v => seg.accepts v = true) s q := by
  induction s generalizing q acc with
  | nil => cases q <;> simp [go]
  | cons a s ih =>
    cases q with
    | nil => simp [go]
    | cons v q =>
      by_cases hav : a.accepts v
      · cases a <;> simp [go, hav, ih]
      · simp [go, hav]

end matchSegments

theorem matchSegments_isSome_iff {s : List Segment} {q : List String} :
    (matchSegments s q).isSome ↔ List.Forall₂ (fun seg v => seg.accepts v = true) s q :=
  matchSegments.go_isSome_iff s q {}

/-! ## Kinds of segments -/

/-- At the first position where the two patterns differ in kind, the first has a literal and
the second a placeholder. -/
def LiteralFirst (s s' : List Segment) : Prop :=
  ∃ pre rest rest', s.map Segment.isParam = pre ++ false :: rest ∧
    s'.map Segment.isParam = pre ++ true :: rest'

theorem LiteralFirst.cons {s s' : List Segment} (h : LiteralFirst s s') (a a' : Segment)
    (hkind : a.isParam = a'.isParam) : LiteralFirst (a :: s) (a' :: s') := by
  obtain ⟨pre, rest, rest', hs, hs'⟩ := h
  exact ⟨a.isParam :: pre, rest, rest', by simp [hs], by simp [hs', hkind]⟩

/-- Two patterns fitting one path: where the first sorts strictly before the second, it has a
literal at their first difference in kind and the second a placeholder; where they tie, they
agree in kind at every position. A literal shared by both equals the path segment, so two
literals never decide the order. -/
theorem kinds_of_fit_same_path {s s' : List Segment} {q : List String}
    (h : List.Forall₂ (fun seg v => seg.accepts v = true) s q)
    (h' : List.Forall₂ (fun seg v => seg.accepts v = true) s' q) :
    (compareSegments s s' = .lt → LiteralFirst s s') ∧
      (compareSegments s s' = .eq → s.map Segment.isParam = s'.map Segment.isParam) := by
  induction h generalizing s' with
  | nil =>
    cases h'
    simp [compareSegments]
  | @cons a v s q hav _ ih =>
    cases h' with
    | @cons a' _ s' _ hav' hrest' =>
      obtain ⟨ihlt, iheq⟩ := ih hrest'
      cases a with
      | literal t =>
        cases a' with
        | literal t' =>
          have ht : t = v := by simpa [Segment.accepts] using hav
          have ht' : t' = v := by simpa [Segment.accepts] using hav'
          have htt : t = t' := ht.trans ht'.symm
          subst htt
          have hstep : compareSegments (.literal t :: s) (.literal t :: s') = compareSegments s s' := by
            simp [compareSegments, Segment.compareAt]
          rw [hstep]
          exact ⟨fun hlt => (ihlt hlt).cons _ _ rfl, fun heq => by simp [iheq heq]⟩
        | param n c =>
          refine ⟨fun _ => ⟨[], _, _, rfl, rfl⟩, fun heq => ?_⟩
          simp [compareSegments, Segment.compareAt] at heq
      | param n c =>
        cases a' with
        | literal t' => simp [compareSegments, Segment.compareAt]
        | param n' c' =>
          have hstep : compareSegments (.param n c :: s) (.param n' c' :: s') = compareSegments s s' := by
            simp [compareSegments]
          rw [hstep]
          exact ⟨fun hlt => (ihlt hlt).cons _ _ rfl, fun heq => by simp [iheq heq, Segment.isParam]⟩

/-! ## Eligibility -/

/-- What a request must satisfy for a route besides its path: the route's host when it names
one, its method when it names one, and for each required header, the first value of that name
read as text equal to the required value. -/
def Route.Eligible (r : Route) (method host : String) (headers : HeaderMap) : Prop :=
  (∀ d, r.domain = some d → d = host) ∧ (∀ m, r.method = some m → m = method) ∧
    ∀ n v, (n, v) ∈ r.headers → headers.lookup n = some v

theorem Route.admits_iff {r : Route} {method host : String} {headers : HeaderMap} :
    r.admits method host headers = true ↔ r.Eligible method host headers := by
  simp [Route.admits, Route.headersFit, Route.Eligible, Option.all_eq_true, and_assoc]

/-! ## The two passes -/

namespace RouteTable

/-- What the first pass takes from a route: the route with its captures, when it has no prefix,
is eligible and matches the path segments one for one. -/
def exactHit (method host : String) (headers : HeaderMap) (segs : List String) (r : Route) :
    Option (Route × Params) :=
  if r.isPrefix || !r.admits method host headers then none
  else (matchSegments r.segments segs).map fun ps => (r, ps)

/-- What the second pass takes from a route: the route with the captures of a full match or
none, when its prefix starts the path and it is eligible. -/
def prefixHit (method host path : String) (headers : HeaderMap) (segs : List String) (r : Route) :
    Option (Route × Params) :=
  match r.pathPrefix with
  | some p =>
    if path.startsWith p && r.admits method host headers then
      some (r, (matchSegments r.segments segs).getD {})
    else none
  | none => none

theorem select_eq (t : RouteTable) (method host path : String) (headers : HeaderMap) :
    t.select method host path headers =
      (t.routes.findSome? (exactHit method host headers (splitPath path))).or
        (t.routes.findSome? (prefixHit method host path headers (splitPath path))) := by
  unfold select
  dsimp only
  split
  case h_1 hit hexact =>
    have h : t.routes.findSome? (exactHit method host headers (splitPath path)) = some hit := hexact
    rw [h, Option.some_or]
  case h_2 hexact =>
    -- the second pass is `prefixHit` written out
    have h : t.routes.findSome? (exactHit method host headers (splitPath path)) = none := hexact
    rw [h, Option.none_or]
    rfl

variable {method host path : String} {headers : HeaderMap} {segs : List String}

theorem exactHit_eq_some_iff {r r' : Route} {p : Params} :
    exactHit method host headers segs r = some (r', p) ↔
      r' = r ∧ r.pathPrefix = none ∧ r.Eligible method host headers ∧
        matchSegments r.segments segs = some p := by
  simp only [exactHit, Route.isPrefix, ← Route.admits_iff]
  rcases Option.eq_none_or_eq_some r.pathPrefix with hpre | ⟨pre, hpre⟩
  · by_cases hadm : r.admits method host headers = true
    · simp only [hpre, hadm, Option.isSome_none, Bool.not_true, Bool.or_false, Bool.false_eq_true,
        if_false, Option.map_eq_some_iff, Prod.mk.injEq, true_and]
      constructor
      · rintro ⟨ps, hps, rfl, rfl⟩
        exact ⟨rfl, hps⟩
      · rintro ⟨rfl, hps⟩
        exact ⟨p, hps, rfl, rfl⟩
    · simp [hpre, hadm]
  · simp [hpre]

theorem exactHit_eq_none_iff {r : Route} :
    exactHit method host headers segs r = none ↔
      (r.pathPrefix = none → r.Eligible method host headers → matchSegments r.segments segs = none) := by
  simp only [exactHit, Route.isPrefix, ← Route.admits_iff]
  rcases Option.eq_none_or_eq_some r.pathPrefix with hpre | ⟨pre, hpre⟩
  · by_cases hadm : r.admits method host headers = true <;> simp [hpre, hadm]
  · simp [hpre]

theorem prefixHit_eq_some_iff {r r' : Route} {p : Params} :
    prefixHit method host path headers segs r = some (r', p) ↔
      r' = r ∧ (∃ pre, r.pathPrefix = some pre ∧ List.IsPrefix pre.toList path.toList) ∧
        r.Eligible method host headers ∧ p = (matchSegments r.segments segs).getD {} := by
  simp only [prefixHit, ← Route.admits_iff]
  rcases Option.eq_none_or_eq_some r.pathPrefix with hpre | ⟨pre, hpre⟩
  · simp [hpre]
  · by_cases hstart : List.IsPrefix pre.toList path.toList <;>
      by_cases hadm : r.admits method host headers = true
    · simp only [hpre, hadm, String.startsWith_string_iff.mpr hstart, Bool.and_self, if_true,
        Option.some.injEq, Prod.mk.injEq]
      constructor
      · rintro ⟨rfl, rfl⟩
        exact ⟨rfl, ⟨pre, rfl, hstart⟩, trivial, rfl⟩
      · rintro ⟨rfl, -, -, rfl⟩
        exact ⟨rfl, rfl⟩
    · simp [hpre, hadm]
    · simp [hpre, hstart]
    · simp [hpre, hstart]

theorem prefixHit_eq_none_iff {r : Route} :
    prefixHit method host path headers segs r = none ↔
      ∀ pre, r.pathPrefix = some pre → List.IsPrefix pre.toList path.toList →
        ¬ r.Eligible method host headers := by
  simp only [prefixHit, ← Route.admits_iff]
  rcases Option.eq_none_or_eq_some r.pathPrefix with hpre | ⟨pre, hpre⟩
  · simp [hpre]
  · by_cases hstart : List.IsPrefix pre.toList path.toList <;>
      by_cases hadm : r.admits method host headers = true <;> simp [hpre, hadm, hstart]

end RouteTable


/-! ## The selected route -/

/-- `r` with captures `p` is the most specific exact match for a request among the
registrations `regs`: it is eligible and its pattern matches the path with captures `p`, and
some registration `i` of it beats every other registration `j` of an eligible exact route that
matches the path too, by a literal at their first difference in kind, or, with no such
difference, by coming first. -/
def ExactWinner (regs : List Route) (method host path : String) (headers : HeaderMap) (r : Route)
    (p : Params) : Prop :=
  r.Eligible method host headers ∧ matchSegments r.segments (splitPath path) = some p ∧
    ∃ i : Nat, regs[i]? = some r ∧ ∀ (j : Nat) (r' : Route), regs[j]? = some r' → j ≠ i →
      r'.pathPrefix = none →
      r'.Eligible method host headers → (matchSegments r'.segments (splitPath path)).isSome →
        LiteralFirst r.segments r'.segments ∨
          (r.segments.map Segment.isParam = r'.segments.map Segment.isParam ∧ i < j)

/-- `r`, a prefix route with prefix `pre`, answers a request as the fallback: no eligible exact
route among `regs` matches the path, `r` is eligible and `pre` starts the path, no eligible
prefix route whose prefix starts the path comes before `r` in the table, and `p` holds the
captures of a full match of `r`'s pattern, or none when its segments do not match. -/
def PrefixFallback (regs : List Route) (method host path : String) (headers : HeaderMap)
    (r : Route) (p : Params) (pre : String) : Prop :=
  (∀ r' ∈ regs, r'.pathPrefix = none → r'.Eligible method host headers →
    matchSegments r'.segments (splitPath path) = none) ∧
  r.Eligible method host headers ∧ List.IsPrefix pre.toList path.toList ∧
  (∃ before after, (regs.foldl RouteTable.insert {}).routes = before ++ r :: after ∧
    ∀ r' ∈ before, ∀ pre', r'.pathPrefix = some pre' → List.IsPrefix pre'.toList path.toList →
      ¬ r'.Eligible method host headers) ∧
  p = (matchSegments r.segments (splitPath path)).getD {}

namespace RouteTable

variable {regs : List Route} {method host path : String} {headers : HeaderMap}

theorem mem_foldl_insert_routes {r : Route} : r ∈ (regs.foldl insert {}).routes ↔ r ∈ regs := by
  rw [routes_foldl_insert_eq_mergeSort, List.mem_mergeSort]

/-- An exact winner found by the first pass beats every other eligible exact match: the other
comes later in the table, so it sorts after the winner, and the two patterns fit one path. -/
theorem exactWinner_of_findSome? {r : Route} {p : Params}
    (hex : (indexedRoutes regs).findSome? (exactHit method host headers (splitPath path) ∘ Prod.fst) =
      some (r, p)) :
    ExactWinner regs method host path headers r p := by
  obtain ⟨before, ⟨r0, i⟩, after, hL, hhit, hbefore⟩ := List.findSome?_eq_some_iff.mp hex
  simp only [Function.comp_apply] at hhit
  obtain ⟨rfl, -, helig, hmatch⟩ := exactHit_eq_some_iff.mp hhit
  have hreg : regs[i]? = some r := by
    apply mem_indexedRoutes_iff.mp
    simp [hL]
  refine ⟨helig, hmatch, i, hreg, fun j r' hj hji hpre' helig' hmatch' => ?_⟩
  obtain ⟨p', hp'⟩ := Option.isSome_iff_exists.mp hmatch'
  have hafter : (r', j) ∈ after := by
    have hmem : (r', j) ∈ indexedRoutes regs := mem_indexedRoutes_iff.mpr hj
    rw [hL] at hmem
    rcases List.mem_append.mp hmem with hb | hc
    · have hnone := exactHit_eq_none_iff.mp (hbefore _ hb) hpre' helig'
      simp [hp'] at hnone
    · rcases List.mem_cons.mp hc with heq | ha
      · exact absurd (Prod.mk.inj heq).2 hji
      · exact ha
  have hsorted := indexedRoutes_pairwise regs
  rw [hL, List.pairwise_append] at hsorted
  have hle := List.rel_of_pairwise_cons hsorted.2.1 hafter
  simp only [List.zipIdxLE] at hle
  have hfit := matchSegments_isSome_iff.mp
    (show (matchSegments r.segments (splitPath path)).isSome by simp [hmatch])
  have hfit' := matchSegments_isSome_iff.mp hmatch'
  obtain ⟨hlt, heq⟩ := kinds_of_fit_same_path hfit hfit'
  cases hcmp : compareSegments r.segments r'.segments with
  | lt => exact Or.inl (hlt hcmp)
  | eq =>
    have hboth := Route.sortsBefore_antisymm_iff.mpr hcmp
    simp only [hboth.1, hboth.2, if_true, decide_eq_true_eq] at hle
    exact Or.inr ⟨heq hcmp, by omega⟩
  | gt => simp [Route.SortsBefore, hcmp] at hle

/-- A prefix route is selected only as the fallback of a first pass that found nothing. -/
theorem prefixFallback_of_select {r : Route} {p : Params} {pre : String}
    (hnone : (regs.foldl insert {}).routes.findSome? (exactHit method host headers (splitPath path)) = none)
    (hpref : (regs.foldl insert {}).routes.findSome? (prefixHit method host path headers (splitPath path)) =
      some (r, p))
    (hpre : r.pathPrefix = some pre) :
    PrefixFallback regs method host path headers r p pre := by
  obtain ⟨before, r0, after, hL, hhit, hbefore⟩ := List.findSome?_eq_some_iff.mp hpref
  obtain ⟨rfl, ⟨pre0, hpre0, hstart⟩, helig, hp⟩ := prefixHit_eq_some_iff.mp hhit
  rw [hpre0, Option.some_inj] at hpre
  subst hpre
  refine ⟨fun r' hr' => ?_, helig, hstart, ⟨before, after, hL, fun r' hr' => ?_⟩, hp⟩
  · exact exactHit_eq_none_iff.mp (List.findSome?_eq_none_iff.mp hnone r' (mem_foldl_insert_routes.mpr hr'))
  · exact prefixHit_eq_none_iff.mp (hbefore r' hr')

end RouteTable

/-- Route selection picks the most specific route, for every sequence of registrations and every
request. A route without a prefix is selected with its captures as the most specific eligible
exact match (`ExactWinner`); a prefix route only as the fallback when no eligible exact route
matches (`PrefixFallback`); and no route only when no eligible route fits: neither an exact
route matching the path nor a prefix route whose prefix starts it. -/
theorem RouteTable.select_most_specific (regs : List Route) (method host path : String)
    (headers : HeaderMap) :
    (∀ r p, (regs.foldl insert {}).select method host path headers = some (r, p) →
      (r.pathPrefix = none → ExactWinner regs method host path headers r p) ∧
      ∀ pre, r.pathPrefix = some pre → PrefixFallback regs method host path headers r p pre) ∧
    ((regs.foldl insert {}).select method host path headers = none →
      ∀ r ∈ regs, r.Eligible method host headers →
        (r.pathPrefix = none → matchSegments r.segments (splitPath path) = none) ∧
        ∀ pre, r.pathPrefix = some pre → ¬ List.IsPrefix pre.toList path.toList) := by
  have htable := routes_foldl_insert_eq_map_indexedRoutes regs
  refine ⟨fun r p hsel => ?_, fun hsel r hr helig => ?_⟩
  · rw [select_eq, Option.or_eq_some_iff] at hsel
    rcases hsel with hex | ⟨hnone, hpref⟩
    · have hex' := hex
      rw [htable, List.findSome?_map] at hex'
      have hwin := exactWinner_of_findSome? hex'
      obtain ⟨_, a, _, _, hrc, _⟩ := List.findSome?_eq_some_iff.mp hex
      refine ⟨fun _ => hwin, fun pre hpre => ?_⟩
      obtain ⟨rfl, hnil, -⟩ := exactHit_eq_some_iff.mp hrc
      simp [hnil] at hpre
    · refine ⟨fun hnil => ?_, fun pre hpre => prefixFallback_of_select hnone hpref hpre⟩
      obtain ⟨_, a, _, _, hhit, _⟩ := List.findSome?_eq_some_iff.mp hpref
      obtain ⟨rfl, ⟨pre, hpre, -⟩, -⟩ := prefixHit_eq_some_iff.mp hhit
      simp [hnil] at hpre
  · rw [select_eq, Option.or_eq_none_iff, List.findSome?_eq_none_iff, List.findSome?_eq_none_iff] at hsel
    have hmem := mem_foldl_insert_routes.mpr hr
    exact ⟨fun hnil => exactHit_eq_none_iff.mp (hsel.1 r hmem) hnil helig,
      fun pre hpre hstart => prefixHit_eq_none_iff.mp (hsel.2 r hmem) pre hpre hstart helig⟩

end Switchyard

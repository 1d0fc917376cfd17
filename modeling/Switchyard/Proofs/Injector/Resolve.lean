import Switchyard.Injector
/-!
# Resolution by the nearest scope

A type is resolved from a scope by the nearest scope, from it upward, that holds a value or a
provider of the type (`owner`). A value there is the answer. Otherwise the provider there runs
with that scope; a value it makes is stored in that scope and is the answer, and an error is the
answer with nothing stored (`resolveByOwner`). No scope holding the type is an `Unresolved`
error naming it.

A lookup runs on fuel. The walk up to the owner costs one unit a scope, and a provider asking for
its scope's 64-bit number starts a second walk from there. Only when the number's own provider
asks for the number too does the lookup never end (`loops`), and every other resolution is
`resolveByOwner` (`resolve_eq_resolveByOwner`).

A lookup stores values only where there were none, and only of the type it resolves and of the
number (`Stores`). So a value stays in its scope through every later call that does not map its
type there, and every later resolution through that scope answers it without running a provider.
-/
namespace Switchyard

/-- Whether a provider asks for its scope's 64-bit number. -/
def Provision.asksNumber : Provision → Bool
  | .fromNumber => true
  | _ => false

namespace Injectors

variable {s s' : Injectors} {id j o q : Nat} {t u : DepType} {v : Json}

/-! ## Entries, scopes and their updates -/

section Entries

variable {α : Type} (xs : List (DepType × α)) (t : DepType) (a : α)

theorem lookup_map_replace_self :
    (xs.map fun (k, w) => if k == t then (k, a) else (k, w)).lookup t =
      (xs.lookup t).map fun _ => a := by
  induction xs with
  | nil => rfl
  | cons x xs ih =>
    obtain ⟨k, w⟩ := x
    by_cases hk : k = t
    · subst hk
      simp [List.lookup_cons_self]
    · have hkt : (k == t) = false := by simp [hk]
      have htk : (t == k) = false := by simp [Ne.symm hk]
      simp only [List.map_cons, hkt, Bool.false_eq_true, ↓reduceIte, List.lookup_cons, htk]
      exact ih

theorem lookup_map_replace_of_ne {u : DepType} (h : u ≠ t) :
    (xs.map fun (k, w) => if k == t then (k, a) else (k, w)).lookup u = xs.lookup u := by
  induction xs with
  | nil => rfl
  | cons x xs ih =>
    obtain ⟨k, w⟩ := x
    by_cases hk : u = k
    · subst hk
      have hut : (u == t) = false := by simp [h]
      simp only [List.map_cons, hut, Bool.false_eq_true, ↓reduceIte, List.lookup_cons_self]
    · have huk : (u == k) = false := by simp [hk]
      -- the head keeps its key whether or not it is replaced
      by_cases hkt : k = t
      · subst hkt
        simp only [List.map_cons, beq_self_eq_true, ↓reduceIte, List.lookup_cons, huk]
        exact ih
      · have hkt' : (k == t) = false := by simp [hkt]
        simp only [List.map_cons, hkt', Bool.false_eq_true, ↓reduceIte, List.lookup_cons, huk]
        exact ih

theorem lookup_setEntry_self : (setEntry xs t a).lookup t = some a := by
  unfold setEntry
  split
  · rename_i hany
    have hsome : (xs.lookup t).isSome := by
      rw [List.lookup_isSome_iff]
      obtain ⟨p, hp, hpt⟩ := List.any_eq_true.mp hany
      exact ⟨p, hp, by rw [beq_iff_eq] at hpt ⊢; exact hpt.symm⟩
    rw [lookup_map_replace_self]
    obtain ⟨w, hw⟩ := Option.isSome_iff_exists.mp hsome
    simp [hw]
  · rename_i hany
    have hnone : xs.lookup t = none := by
      rw [← Option.not_isSome_iff_eq_none, List.lookup_isSome_iff]
      rintro ⟨p, hp, hpt⟩
      exact hany (List.any_eq_true.mpr ⟨p, hp, by rw [beq_iff_eq] at hpt ⊢; exact hpt.symm⟩)
    simp [List.lookup_append, hnone, List.lookup_cons_self]

theorem lookup_setEntry_of_ne {u : DepType} (h : u ≠ t) :
    (setEntry xs t a).lookup u = xs.lookup u := by
  unfold setEntry
  split
  · exact lookup_map_replace_of_ne xs t a h
  · have hut : (u == t) = false := by simp [h]
    simp [List.lookup_append, List.lookup_cons, hut]

end Entries

theorem scope_eq_default (h : s.scopes.size ≤ j) : s.scope j = {} := by
  simp [scope, Array.getD_eq_getD_getElem?, h]

/-- Whether a scope holds a value or a provider of the type. -/
def holds (s : Injectors) (id : Nat) (t : DepType) : Bool :=
  ((s.scope id).values.lookup t).isSome || ((s.scope id).providers.lookup t).isSome

theorem lookups_of_not_holds (h : s.holds id t = false) :
    (s.scope id).values.lookup t = none ∧ (s.scope id).providers.lookup t = none := by
  simpa [holds] using h

theorem lt_size_of_holds (h : s.holds j t) : j < s.scopes.size := by
  refine Nat.lt_of_not_le fun hj => ?_
  simp [holds, scope_eq_default hj] at h

theorem lt_size_of_parent (h : (s.scope j).parent = some q) : j < s.scopes.size := by
  refine Nat.lt_of_not_le fun hj => ?_
  simp [scope_eq_default hj] at h

theorem size_map : (s.map id t v).scopes.size = s.scopes.size := Array.size_modify

theorem values_map_self (h : id < s.scopes.size) :
    ((s.map id t v).scope id).values.lookup t = some v := by
  simp only [map, scope, Array.getD_eq_getD_getElem?, Array.getElem?_modify,
    Array.getElem?_eq_getElem h, Option.map_some]
  exact lookup_setEntry_self _ _ _

theorem values_map_of_ne (h : id ≠ j ∨ u ≠ t) :
    ((s.map id t v).scope j).values.lookup u = (s.scope j).values.lookup u := by
  simp only [map, scope, Array.getD_eq_getD_getElem?, Array.getElem?_modify]
  by_cases hj : id = j
  · subst hj
    have hu : u ≠ t := h.resolve_left fun hne => hne rfl
    rw [if_pos rfl]
    cases s.scopes[id]? with
    | none => rfl
    | some sc => exact lookup_setEntry_of_ne _ _ _ hu
  · rw [if_neg hj]

theorem values_provide {p : Provider} :
    ((s.provide id t p).scope j).values = (s.scope j).values := by
  simp only [provide, scope, Array.getD_eq_getD_getElem?, Array.getElem?_modify]
  split
  · cases s.scopes[j]? <;> rfl
  · rfl

theorem values_add {parent : Option Nat} :
    (((s.add parent).1.scope j).values.lookup u) = (s.scope j).values.lookup u := by
  simp only [add, scope, Array.getD_eq_getD_getElem?, Array.getElem?_push]
  split
  · rename_i hj
    simp [hj]
  · rfl

/-! ## The nearest scope holding a type -/

/-- The scope that answers for a type from a scope: the nearest one, from it upward, that holds
a value or a provider of the type. -/
def owner (s : Injectors) (id : Nat) (t : DepType) : Option Nat :=
  if s.holds id t then some id
  else
    match (s.scope id).parent with
    | some p => if p < id then owner s p t else none
    | none => none
termination_by id

theorem owner_of_holds (h : s.holds id t) : s.owner id t = some id := by
  rw [owner, if_pos h]

theorem owner_of_parent (h : s.holds id t = false) (hq : (s.scope id).parent = some q)
    (hlt : q < id) : s.owner id t = s.owner q t := by
  rw [owner]
  simp [h, hq, hlt]

theorem holds_of_owner (h : s.owner id t = some o) : s.holds o t := by
  fun_induction owner s id t with
  | case1 => cases h; assumption
  | case2 _ _ _ _ _ ih => exact ih h
  | case3 => cases h
  | case4 => cases h

theorem owner_le (h : s.owner id t = some o) : o ≤ id := by
  fun_induction owner s id t with
  | case1 => cases h; exact Nat.le_refl _
  | case2 _ _ _ _ hlt ih => exact Nat.le_of_lt (Nat.lt_of_le_of_lt (ih h) hlt)
  | case3 => cases h
  | case4 => cases h

theorem lt_size_of_owner (h : s.owner id t = some o) : id < s.scopes.size := by
  fun_induction owner s id t with
  | case1 _ hholds => exact lt_size_of_holds hholds
  | case2 _ _ _ hq _ _ => exact lt_size_of_parent hq
  | case3 => cases h
  | case4 => cases h

/-! ## One step of a lookup -/

theorem lookup_succ_of_value (h : (s.scope id).values.lookup t = some v) (f : Nat) :
    s.lookup id t (f + 1) = (.ok (some v), s, []) := by
  simp [lookup, h]

theorem lookup_succ_of_provider {p : Provider} (hv : (s.scope id).values.lookup t = none)
    (hp : (s.scope id).providers.lookup t = some p) (f : Nat) :
    s.lookup id t (f + 1) =
      keep id t p.note (s.provision (fun s => found .u64 (s.lookup id .u64 f)) p.yields) := by
  simp [lookup, hv, hp]

theorem lookup_succ_of_parent (h : s.holds id t = false) (hq : (s.scope id).parent = some q)
    (hlt : q < id) (f : Nat) : s.lookup id t (f + 1) = s.lookup q t f := by
  obtain ⟨hv, hp⟩ := lookups_of_not_holds h
  simp [lookup, hv, hp, hq, hlt]

theorem lookup_of_owner_none (h : s.owner id t = none) (f : Nat) :
    s.lookup id t f = (.ok none, s, []) := by
  fun_induction owner s id t generalizing f with
  | case1 => cases h
  | case2 _ hn q hq hlt ih =>
    cases f with
    | zero => rfl
    | succ f => rw [lookup_succ_of_parent (by simpa using hn) hq hlt, ih h]
  | case3 _ hn q hq hlt =>
    obtain ⟨hv, hp⟩ := lookups_of_not_holds (by simpa using hn)
    cases f <;> simp [lookup, hv, hp, hq, hlt]
  | case4 _ hn hq =>
    obtain ⟨hv, hp⟩ := lookups_of_not_holds (by simpa using hn)
    cases f <;> simp [lookup, hv, hp, hq]

/-- The walk up to the owner: `k` units of fuel reach it, at most one a scope. -/
theorem lookup_walk (h : s.owner id t = some o) :
    ∃ k ≤ id - o, ∀ f, s.lookup id t (f + k) = s.lookup o t f := by
  fun_induction owner s id t with
  | case1 =>
    cases h
    exact ⟨0, Nat.zero_le _, fun _ => rfl⟩
  | case2 p hn q hq hlt ih =>
    obtain ⟨k, hk, hwalk⟩ := ih h
    have hle := owner_le h
    refine ⟨k + 1, by omega, fun f => ?_⟩
    rw [← Nat.add_assoc, lookup_succ_of_parent (by simpa using hn) hq hlt, hwalk]
  | case3 => cases h
  | case4 => cases h

/-! ## The provider a resolution runs, and when it ends -/

/-- The provider that a resolution of the type from the scope runs, with its scope: the
owner's provider, when the owner holds no value of the type. -/
def pending (s : Injectors) (id : Nat) (t : DepType) : Option (Nat × Provider) :=
  match s.owner id t with
  | none => none
  | some o =>
    match (s.scope o).values.lookup t with
    | some _ => none
    | none => ((s.scope o).providers.lookup t).map fun p => (o, p)

theorem pending_eq_some_iff {p : Provider} :
    s.pending id t = some (o, p) ↔ s.owner id t = some o ∧
      (s.scope o).values.lookup t = none ∧ (s.scope o).providers.lookup t = some p := by
  unfold pending
  cases ho : s.owner id t with
  | none => simp
  | some o' =>
    cases hv : (s.scope o').values.lookup t with
    | some w =>
      -- the owner holds a value, so no provider runs
      simp only [hv, Option.some.injEq]
      constructor
      · intro h
        cases h
      · rintro ⟨rfl, hnone, -⟩
        rw [hv] at hnone
        cases hnone
    | none =>
      simp only [hv, Option.map_eq_some_iff, Prod.mk.injEq, Option.some.injEq]
      constructor
      · rintro ⟨p', hp', rfl, rfl⟩
        exact ⟨rfl, hv, hp'⟩
      · rintro ⟨rfl, -, hp⟩
        exact ⟨p, hp, rfl, rfl⟩

/-- Whether resolving the type from the scope never ends: the provider it runs asks for its
scope's number, and the provider the number would come from asks for the number too. -/
def loops (s : Injectors) (id : Nat) (t : DepType) : Bool :=
  match s.pending id t with
  | some (o, p) => p.yields.asksNumber && (s.pending o .u64).any fun q => q.2.yields.asksNumber
  | none => false

theorem number_settles_of_not_loops {p : Provider} (hl : s.loops id t = false)
    (hpend : s.pending id t = some (o, p)) (hask : p.yields.asksNumber = true) :
    ∀ o' q, s.pending o .u64 = some (o', q) → q.yields.asksNumber = false := by
  intro o' q hq
  simpa [loops, hpend, hask, hq] using hl

/-- A resolution that ends runs no provider of the number that asks for the number. -/
theorem ne_u64_of_not_loops {p : Provider} (hl : s.loops id t = false)
    (hpend : s.pending id t = some (o, p)) (hask : p.yields.asksNumber = true) : t ≠ .u64 := by
  rintro rfl
  obtain ⟨-, hv, hp⟩ := pending_eq_some_iff.mp hpend
  -- the number's provider would be this very provider
  have hself : s.pending o .u64 = some (o, p) :=
    pending_eq_some_iff.mpr ⟨owner_of_holds (by simp [holds, hp]), hv, hp⟩
  have := number_settles_of_not_loops hl hpend hask o p hself
  rw [hask] at this
  cases this

theorem provider_of_owner (ho : s.owner id t = some o)
    (hv : (s.scope o).values.lookup t = none) : ∃ p, (s.scope o).providers.lookup t = some p := by
  have hholds := holds_of_owner ho
  simp only [holds, hv, Option.isSome_none, Bool.false_or] at hholds
  exact Option.isSome_iff_exists.mp hholds

theorem provision_congr {n₁ n₂ : Injectors → Except Error Json × Injectors × List String}
    {y : Provision} (h : y.asksNumber = true → n₁ s = n₂ s) :
    s.provision n₁ y = s.provision n₂ y := by
  cases y with
  | value w => rfl
  | fail e => rfl
  | fromNumber => exact congrArg fromNumber (h rfl)

theorem lookup_owner_settled (ho : s.owner id t = some o)
    (hq : ∀ o' q, s.pending id t = some (o', q) → q.yields.asksNumber = false) (f g : Nat) :
    s.lookup o t (f + 1) = s.lookup o t (g + 1) := by
  cases hv : (s.scope o).values.lookup t with
  | some w => rw [lookup_succ_of_value hv, lookup_succ_of_value hv]
  | none =>
    obtain ⟨p, hp⟩ := provider_of_owner ho hv
    have hnot := hq o p (pending_eq_some_iff.mpr ⟨ho, hv, hp⟩)
    rw [lookup_succ_of_provider hv hp, lookup_succ_of_provider hv hp]
    exact congrArg (keep o t p.note) (provision_congr fun hask => absurd hask (by simp [hnot]))

/-- Fuel past the scope's handle settles a lookup whose provider does not ask for the number. -/
theorem lookup_settled (hq : ∀ o q, s.pending id t = some (o, q) → q.yields.asksNumber = false)
    {f : Nat} (hf : id < f) : s.lookup id t f = s.lookup id t (id + 1) := by
  cases ho : s.owner id t with
  | none => rw [lookup_of_owner_none ho, lookup_of_owner_none ho]
  | some o =>
    obtain ⟨k, hk, hwalk⟩ := lookup_walk ho
    -- both fuels walk up to the owner and have some left there
    obtain ⟨g, rfl⟩ : ∃ g, f = g + 1 + k := ⟨f - k - 1, by omega⟩
    rw [show id + 1 = id - k + 1 + k by omega, hwalk, hwalk]
    exact lookup_owner_settled ho hq g (id - k)

/-! ## What a lookup stores -/

/-- The scopes `s'` come from `s` by storing values where there were none: no scope is added,
no value is replaced, and only values of the types `allowed` appear. -/
structure Stores (allowed : DepType → Prop) (s s' : Injectors) : Prop where
  size_eq : s'.scopes.size = s.scopes.size
  keeps : ∀ j u v, (s.scope j).values.lookup u = some v → (s'.scope j).values.lookup u = some v
  frame : ∀ j u, ¬ allowed u → (s'.scope j).values.lookup u = (s.scope j).values.lookup u

section Stores

variable {allowed : DepType → Prop} {s₁ s₂ s₃ : Injectors}

theorem Stores.refl (s : Injectors) : Stores allowed s s :=
  ⟨rfl, fun _ _ _ h => h, fun _ _ _ => rfl⟩

theorem Stores.trans (h₁ : Stores allowed s₁ s₂) (h₂ : Stores allowed s₂ s₃) :
    Stores allowed s₁ s₃ :=
  ⟨h₂.size_eq.trans h₁.size_eq, fun j u v h => h₂.keeps j u v (h₁.keeps j u v h),
    fun j u hu => (h₂.frame j u hu).trans (h₁.frame j u hu)⟩

theorem Stores.mono {wider : DepType → Prop} (h : Stores allowed s₁ s₂)
    (hsub : ∀ u, allowed u → wider u) : Stores wider s₁ s₂ :=
  ⟨h.size_eq, h.keeps, fun j u hu => h.frame j u fun ha => hu (hsub u ha)⟩

theorem Stores.map (habsent : (s.scope id).values.lookup t = none) (ht : allowed t) :
    Stores allowed s (s.map id t v) := by
  refine ⟨size_map, fun j u w h => ?_,
    fun j u hu => values_map_of_ne (.inr fun hut => hu (hut ▸ ht))⟩
  rw [values_map_of_ne]
  · exact h
  · -- the one entry `map` writes was empty
    by_cases hj : id = j
    · subst hj
      exact .inr fun hut => by rw [hut, habsent] at h; cases h
    · exact .inl hj

theorem found_state (t : DepType) (r : Except Error (Option Json) × Injectors × List String) :
    (found t r).2.1 = r.2.1 := by
  obtain ⟨r, s, ns⟩ := r
  rcases r with e | _ | w <;> rfl

theorem fromNumber_state (r : Except Error Json × Injectors × List String) :
    (fromNumber r).2.1 = r.2.1 := by
  unfold fromNumber
  split <;> rfl

theorem stores_keep {note : String} {r : Except Error Json × Injectors × List String}
    (h : Stores allowed s r.2.1) (ht : allowed t) : Stores allowed s (keep id t note r).2.1 := by
  obtain ⟨r, s₁, ns⟩ := r
  cases r with
  | error e => exact h
  | ok w =>
    simp only [keep]
    split
    · exact h
    · rename_i hnone
      exact h.trans (Stores.map hnone ht)

theorem stores_provision {number : Injectors → Except Error Json × Injectors × List String}
    {y : Provision} (h : Stores allowed s (number s).2.1) :
    Stores allowed s (s.provision number y).2.1 := by
  cases y with
  | value w => exact Stores.refl s
  | fail e => exact Stores.refl s
  | fromNumber =>
    show Stores allowed s (fromNumber (number s)).2.1
    rw [fromNumber_state]
    exact h

end Stores

/-- A lookup stores values of the type it resolves and of the number only, and only where there
were none. -/
theorem lookup_stores (s : Injectors) (id : Nat) (t : DepType) (f : Nat) :
    Stores (fun u => u = t ∨ u = .u64) s (s.lookup id t f).2.1 := by
  fun_induction lookup s id t f with
  | case1 => exact Stores.refl _
  | case2 => exact Stores.refl _
  | case3 s id t f _ _ _ _ ih =>
    -- the provider's run resolves the number, then its own value is kept
    refine stores_keep (stores_provision ?_) (.inl rfl)
    rw [found_state]
    exact (ih s).mono fun u hu => .inr (or_self_iff.mp hu)
  | case4 _ _ _ _ _ _ _ _ _ _ ih => exact ih
  | case5 => exact Stores.refl _
  | case6 => exact Stores.refl _

theorem resolve_stores (s : Injectors) (id : Nat) (t : DepType) :
    Stores (fun u => u = t ∨ u = .u64) s (s.resolve id t).2.1 := by
  rw [resolve, found_state]
  exact lookup_stores _ _ _ _

/-- A provider's run leaves the values of its own type as they were, when the type is not the
number that the run may resolve. -/
theorem values_provision {y : Provision} (hne : y.asksNumber = true → t ≠ .u64) (j : Nat) :
    ((s.provision (fun s => s.resolve o .u64) y).2.1.scope j).values.lookup t =
      (s.scope j).values.lookup t := by
  cases y with
  | value w => rfl
  | fail e => rfl
  | fromNumber =>
    show ((fromNumber (s.resolve o .u64)).2.1.scope j).values.lookup t = _
    rw [fromNumber_state]
    exact (resolve_stores s o .u64).frame j t (by simpa using hne rfl)

/-! ## Resolution by the owner -/

/-- Resolution as the nearest scope holding the type gives it: no such scope is an `Unresolved`
error; a value there is the answer; otherwise the provider there runs with that scope, and the
value it makes is stored there and is the answer, while its error is the answer with nothing
stored. -/
def resolveByOwner (s : Injectors) (id : Nat) (t : DepType) :
    Except Error Json × Injectors × List String :=
  match s.owner id t with
  | none => (.error (.unresolved t.typeName), s, [])
  | some o =>
    match (s.scope o).values.lookup t, (s.scope o).providers.lookup t with
    | some v, _ => (.ok v, s, [])
    | none, some p =>
      match s.provision (fun s => s.resolve o .u64) p.yields with
      | (.ok v, s', ns) => (.ok v, s'.map o t v, p.note :: ns)
      | (.error e, s', ns) => (.error e, s', p.note :: ns)
    -- not met: the nearest scope holding the type holds a value or a provider of it
    | none, none => (.error (.unresolved t.typeName), s, [])

theorem resolveByOwner_of_none (ho : s.owner id t = none) :
    s.resolveByOwner id t = (.error (.unresolved t.typeName), s, []) := by
  simp [resolveByOwner, ho]

theorem resolveByOwner_of_value (ho : s.owner id t = some o)
    (hv : (s.scope o).values.lookup t = some v) : s.resolveByOwner id t = (.ok v, s, []) := by
  simp [resolveByOwner, ho, hv]

theorem resolveByOwner_of_provider {p : Provider} (ho : s.owner id t = some o)
    (hv : (s.scope o).values.lookup t = none) (hp : (s.scope o).providers.lookup t = some p) :
    s.resolveByOwner id t =
      match s.provision (fun s => s.resolve o .u64) p.yields with
      | (.ok v, s', ns) => (.ok v, s'.map o t v, p.note :: ns)
      | (.error e, s', ns) => (.error e, s', p.note :: ns) := by
  simp only [resolveByOwner, ho, hv, hp]

/-- The fuel of a resolution walks up to the owner and leaves more there than the number's own
walk needs. -/
theorem lookup_reaches_owner (ho : s.owner id t = some o) :
    ∃ g, o < g ∧ s.lookup id t (2 * s.scopes.size + 4) = s.lookup o t (g + 1) := by
  obtain ⟨k, hk, hwalk⟩ := lookup_walk ho
  have hsize := lt_size_of_owner ho
  have hle := owner_le ho
  refine ⟨2 * s.scopes.size + 3 - k, by omega, ?_⟩
  rw [← hwalk]
  congr 1
  omega

/-- With the fuel left at the owner, a provider runs as with a resolution of the number of its
own. -/
theorem provision_settled {p : Provider} {g : Nat} (hl : s.loops id t = false)
    (hpend : s.pending id t = some (o, p)) (hg : o < g) :
    s.provision (fun s => found .u64 (s.lookup o .u64 g)) p.yields =
      s.provision (fun s => s.resolve o .u64) p.yields := by
  have ho := (pending_eq_some_iff.mp hpend).1
  have hsize := lt_size_of_owner ho
  have hle := owner_le ho
  refine provision_congr fun hask => ?_
  have hq := number_settles_of_not_loops hl hpend hask
  have hleft := lookup_settled hq hg
  have hright := lookup_settled hq (show o < 2 * s.scopes.size + 4 by omega)
  show found .u64 (s.lookup o .u64 g) = found .u64 (s.lookup o .u64 (2 * s.scopes.size + 4))
  rw [hleft, hright]

/-- Every resolution that ends is resolution by the owner. -/
theorem resolve_eq_resolveByOwner (hl : s.loops id t = false) :
    s.resolve id t = s.resolveByOwner id t := by
  cases ho : s.owner id t with
  | none => rw [resolveByOwner_of_none ho, resolve, lookup_of_owner_none ho]; rfl
  | some o =>
    obtain ⟨g, hg, hlook⟩ := lookup_reaches_owner ho
    cases hv : (s.scope o).values.lookup t with
    | some w => rw [resolveByOwner_of_value ho hv, resolve, hlook, lookup_succ_of_value hv]; rfl
    | none =>
      obtain ⟨p, hp⟩ := provider_of_owner ho hv
      have hpend := pending_eq_some_iff.mpr ⟨ho, hv, hp⟩
      rw [resolveByOwner_of_provider ho hv hp, resolve, hlook, lookup_succ_of_provider hv hp,
        provision_settled hl hpend hg]
      rcases hr : s.provision (fun s => s.resolve o .u64) p.yields with ⟨e | w, s₁, ns⟩
      · rfl
      · -- nothing of the type got into the owner while its provider ran
        have hsame :
            ((s.provision (fun s => s.resolve o .u64) p.yields).2.1.scope o).values.lookup t =
              (s.scope o).values.lookup t :=
          values_provision (fun hask => ne_u64_of_not_loops hl hpend hask) o
        rw [hr, hv] at hsame
        simp [keep, found, hsame]

theorem found_eq_ok {r : Except Error (Option Json) × Injectors × List String} {ns : List String}
    (h : found t r = (.ok v, s', ns)) : r = (.ok (some v), s', ns) := by
  obtain ⟨r, s₁, ms⟩ := r
  rcases r with e | _ | w
  · cases h
  · cases h
  · simp only [found, Prod.mk.injEq, Except.ok.injEq] at h
    obtain ⟨rfl, rfl, rfl⟩ := h
    rfl

theorem values_keep_of_ok {note : String} {r : Except Error Json × Injectors × List String}
    {ns : List String} (h : keep id t note r = (.ok (some v), s', ns))
    (hid : id < r.2.1.scopes.size) : (s'.scope id).values.lookup t = some v := by
  obtain ⟨r, s₁, ms⟩ := r
  cases r with
  | error e => cases h
  | ok w =>
    simp only [keep] at h
    split at h
    · rename_i kept hkept
      simp only [Prod.mk.injEq, Except.ok.injEq, Option.some.injEq] at h
      obtain ⟨rfl, rfl, -⟩ := h
      exact hkept
    · simp only [Prod.mk.injEq, Except.ok.injEq, Option.some.injEq] at h
      obtain ⟨rfl, rfl, -⟩ := h
      exact values_map_self hid

/-- A lookup that finds a value leaves it in the nearest scope holding the type: it was there,
or the provider there made it and it was kept. -/
theorem lookup_keeps_found {f : Nat} {o : Nat} {ns : List String}
    (h : s.lookup id t f = (.ok (some v), s', ns)) (ho : s.owner id t = some o) :
    (s'.scope o).values.lookup t = some v := by
  fun_induction lookup s id t f with
  | case1 => cases h
  | case2 s id t f _ kept hkept =>
    have hkept : (s.scope id).values.lookup t = some kept := hkept
    rw [owner_of_holds (by simp [holds, hkept])] at ho
    cases ho
    simp only [Prod.mk.injEq, Except.ok.injEq, Option.some.injEq] at h
    obtain ⟨rfl, rfl, -⟩ := h
    exact hkept
  | case3 s id t f _ _ p hp _ =>
    have hp : (s.scope id).providers.lookup t = some p := hp
    have hholds : s.holds id t := by simp [holds, hp]
    rw [owner_of_holds hholds] at ho
    cases ho
    refine values_keep_of_ok h ?_
    rw [(stores_provision (by rw [found_state]; exact lookup_stores s _ .u64 f)).size_eq]
    exact lt_size_of_holds hholds
  | case4 s id t f _ hv hp q hq hlt ih =>
    have hv : (s.scope id).values.lookup t = none := hv
    have hp : (s.scope id).providers.lookup t = none := hp
    have hnot : s.holds id t = false := by simp [holds, hv, hp]
    rw [owner_of_parent hnot hq hlt] at ho
    exact ih h ho
  | case5 => cases h
  | case6 => cases h

theorem resolve_keeps_found {o : Nat} {ns : List String} (h : s.resolve id t = (.ok v, s', ns))
    (ho : s.owner id t = some o) : (s'.scope o).values.lookup t = some v :=
  lookup_keeps_found (found_eq_ok h) ho

/-- A failed resolution that ends stores no value of the type anywhere. -/
theorem resolve_error_keeps_values {e : Error} {ns : List String} (hl : s.loops id t = false)
    (h : s.resolve id t = (.error e, s', ns)) (j : Nat) :
    (s'.scope j).values.lookup t = (s.scope j).values.lookup t := by
  rw [resolve_eq_resolveByOwner hl] at h
  cases ho : s.owner id t with
  | none =>
    rw [resolveByOwner_of_none ho] at h
    cases h
    rfl
  | some o =>
    cases hv : (s.scope o).values.lookup t with
    | some w =>
      rw [resolveByOwner_of_value ho hv] at h
      cases h
    | none =>
      obtain ⟨p, hp⟩ := provider_of_owner ho hv
      have hpend := pending_eq_some_iff.mpr ⟨ho, hv, hp⟩
      have hsame :
          ((s.provision (fun s => s.resolve o .u64) p.yields).2.1.scope j).values.lookup t =
            (s.scope j).values.lookup t :=
        values_provision (fun hask => ne_u64_of_not_loops hl hpend hask) j
      rw [resolveByOwner_of_provider ho hv hp] at h
      rcases hr : s.provision (fun s => s.resolve o .u64) p.yields with ⟨e' | w, s₁, ms⟩
      · -- the provider failed, in the scopes its run left
        rw [hr] at h hsame
        cases h
        exact hsame
      · rw [hr] at h
        cases h

/-! ## Later calls -/

/-- A call on the scopes: a child scope, a value, a provider or a resolution. -/
inductive Call where
  /-- A child of a scope. -/
  | child (parent : Nat)
  /-- A value of a type in a scope, replacing the one there. -/
  | map (id : Nat) (t : DepType) (v : Json)
  /-- A provider of a type in a scope, replacing the one there. -/
  | provide (id : Nat) (t : DepType) (p : Provider)
  /-- A resolution of a type from a scope. -/
  | resolve (id : Nat) (t : DepType)

/-- The scopes after a call. -/
def Call.apply (s : Injectors) : Call → Injectors
  | .child parent => (s.add (some parent)).1
  | .map id t v => s.map id t v
  | .provide id t p => s.provide id t p
  | .resolve id t => (s.resolve id t).2.1

/-- Whether a call maps the type in the scope. -/
def Call.maps (o : Nat) (t : DepType) : Call → Bool
  | .map id u _ => id == o && u == t
  | _ => false

/-- The scopes after calls, in order. -/
def run (s : Injectors) (calls : List Call) : Injectors := calls.foldl Call.apply s

/-- A value stays in its scope through a call that does not map its type there. -/
theorem values_apply (h : (s.scope o).values.lookup t = some v) (c : Call)
    (hc : c.maps o t = false) : ((Call.apply s c).scope o).values.lookup t = some v := by
  cases c with
  | child parent => rw [Call.apply, values_add]; exact h
  | map id u w =>
    have hne : id ≠ o ∨ t ≠ u := by
      by_cases hid : id = o
      · exact .inr fun htu => by simp [Call.maps, hid, htu] at hc
      · exact .inl hid
    rw [Call.apply, values_map_of_ne hne]
    exact h
  | provide id u p => rw [Call.apply, values_provide]; exact h
  | resolve id u => exact (resolve_stores s id u).keeps o t v h

theorem values_run (h : (s.scope o).values.lookup t = some v) (calls : List Call)
    (hc : ∀ c ∈ calls, c.maps o t = false) :
    ((s.run calls).scope o).values.lookup t = some v := by
  induction calls generalizing s with
  | nil => exact h
  | cons c calls ih =>
    exact ih (values_apply h c (hc c List.mem_cons_self))
      fun c' hc' => hc c' (List.mem_cons_of_mem _ hc')

/-- A value in the nearest scope holding the type is the answer, and no provider runs. -/
theorem resolve_of_owner_value (ho : s.owner id t = some o)
    (hv : (s.scope o).values.lookup t = some v) : s.resolve id t = (.ok v, s, []) := by
  obtain ⟨g, -, hlook⟩ := lookup_reaches_owner ho
  rw [resolve, hlook, lookup_succ_of_value hv]
  rfl

/-- Injector lookup order and memoisation. A resolution that ends (`loops` is false: no
provider it runs asks for the number where the number's provider asks for it too) is resolution
by the nearest scope holding the type: its value, or its provider's run with that scope, kept
there on success; an error is returned as is and stores no value of the type. A value found is
left in that scope, and it stays there through every later call that does not map the type
there again, so every later resolution through that scope answers it, unchanged, with no
provider run. -/
theorem resolve_nearest_scope_memoised :
    (∀ (s : Injectors) id t, s.loops id t = false → s.resolve id t = s.resolveByOwner id t) ∧
    (∀ (s s' : Injectors) id t o v ns, s.owner id t = some o →
      s.resolve id t = (.ok v, s', ns) → (s'.scope o).values.lookup t = some v) ∧
    (∀ (s s' : Injectors) id t e ns, s.loops id t = false →
      s.resolve id t = (.error e, s', ns) →
      ∀ j, (s'.scope j).values.lookup t = (s.scope j).values.lookup t) ∧
    (∀ (s : Injectors) o t v calls, (s.scope o).values.lookup t = some v →
      (∀ c ∈ calls, Call.maps o t c = false) →
      ((s.run calls).scope o).values.lookup t = some v ∧
      ∀ id, (s.run calls).owner id t = some o →
        (s.run calls).resolve id t = (.ok v, s.run calls, [])) :=
  ⟨fun _ _ _ hl => resolve_eq_resolveByOwner hl,
    fun _ _ _ _ _ _ _ ho h => resolve_keeps_found h ho,
    fun _ _ _ _ _ _ hl h => resolve_error_keeps_values hl h,
    fun _ _ _ _ calls hv hc =>
      ⟨values_run hv calls hc,
        fun _ ho => resolve_of_owner_value ho (values_run hv calls hc)⟩⟩

/-- Two request scopes under a root whose text provider asks for the number, itself provided:
the first resolution of the text ends and is resolution by the root, and once it has run, a
request scope made afterwards gets the kept text from the root with no provider run. -/
theorem resolve_nearest_scope_memoised_requests :
    let s := (({} : Injectors).add none).1.run
      [.child 0, .provide 0 .string ⟨.fromNumber, "root:string"⟩,
        .provide 0 .u64 ⟨.value (.num (.pos 7)), "root:u64"⟩]
    let s₁ := (s.resolve 1 .string).2.1.run [.child 0]
    s.loops 1 .string = false ∧ s.resolve 1 .string = s.resolveByOwner 1 .string ∧
      s₁.resolve 2 .string = (.ok (.str "from=7"), s₁, []) := by
  intro s s₁
  have hloops : s.loops 1 .string = false := by decide +kernel
  refine ⟨hloops, resolve_nearest_scope_memoised.1 s 1 .string hloops, ?_⟩
  have hkept : ((s.resolve 1 .string).2.1.scope 0).values.lookup .string =
      some (.str "from=7") := rfl
  exact (resolve_nearest_scope_memoised.2.2.2 _ 0 .string _ [.child 0] hkept (by decide)).2 2
    (by decide +kernel)

end Injectors

end Switchyard

import Switchyard.Proofs.Dispatch.Exec
import Switchyard.Proofs.Http.Recording
import Switchyard.App.Serve
/-!
# Choosing the not-found hook

A request no route selects goes to a not-found hook. Builders register hooks for their scope
paths, a later one for a scope replacing the earlier, and the application has a hook of its own.
`runNotFound` runs the hook registered last for the longest registered scope that holds the
request's path, else the application's hook, else answers `404 page not found`.

A scope holds a path when the path is the scope, lies below it past a slash, or starts with a
scope that ends in a slash (`ScopeHolds`, decided by `inScope`). Every scope that holds a path
starts it, so two holding scopes of one length are the same scope; and the scoped list keeps
one entry per scope (`Records`), so the longest holding scope names one hook, and the scan's
tie-break among equal lengths never comes into play.
-/
namespace Switchyard

/-! ## Scopes holding a path -/

/-- A not-found scope holds a path when the path is the scope itself, lies below it past a
slash, or starts with a scope that ends in a slash. -/
def ScopeHolds (path scope : String) : Prop :=
  path = scope ∨ (scope ++ "/").toList <+: path.toList ∨
    (['/'] <:+ scope.toList ∧ scope.toList <+: path.toList)

/-- Whether a scope holds a path is decided by what follows the scope in the path. -/
theorem scopeHolds_of_append {path scope : String} {rest : List Char}
    (hpath : scope.toList ++ rest = path.toList) :
    ScopeHolds path scope ↔ rest = [] ∨ ['/'] <+: rest ∨ ['/'] <:+ scope.toList := by
  unfold ScopeHolds
  rw [← String.toList_inj, ← hpath, String.toList_append, List.prefix_append_right_inj]
  simp

theorem inScope_iff (path scope : String) :
    inScope path scope = true ↔ ScopeHolds path scope := by
  unfold inScope
  simp only [Bool.and_eq_true, Bool.or_eq_true, String.startsWith_string_iff,
    ← String.endsWith_toSlice, String.Slice.endsWith_string_iff]
  constructor
  · rintro ⟨⟨rest, hpath⟩, hrest⟩
    have hdrop : path.toList.drop scope.length = rest := by
      rw [← hpath, ← String.length_toList, List.drop_left]
    rw [hdrop] at hrest
    rw [scopeHolds_of_append hpath]
    simpa [String.isEmpty_iff, or_assoc] using hrest
  · intro hholds
    -- each way of holding the path starts it with the scope
    have hpre : scope.toList <+: path.toList := by
      rcases hholds with rfl | hslash | ⟨-, hpre⟩
      · exact List.prefix_refl _
      · exact List.IsPrefix.trans (by simp) hslash
      · exact hpre
    obtain ⟨rest, hpath⟩ := hpre
    have hdrop : path.toList.drop scope.length = rest := by
      rw [← hpath, ← String.length_toList, List.drop_left]
    rw [scopeHolds_of_append hpath] at hholds
    refine ⟨⟨rest, hpath⟩, ?_⟩
    rw [hdrop]
    simpa [String.isEmpty_iff, or_assoc] using hholds

instance (path scope : String) : Decidable (ScopeHolds path scope) :=
  inferInstanceAs (Decidable (_ ∨ _ ∨ (_ ∧ _)))

/-- Scopes holding one path are all prefixes of it, so one of a given length is unique. -/
theorem eq_of_inScope_of_length_eq {path s s' : String} (hs : inScope path s = true)
    (hs' : inScope path s' = true) (hlen : s.length = s'.length) : s = s' := by
  simp only [inScope, Bool.and_eq_true, String.startsWith_string_iff] at hs hs'
  obtain ⟨⟨rest, hrest⟩, -⟩ := hs
  have hpre : s.toList <+: s'.toList :=
    List.prefix_of_prefix_length_le ⟨rest, hrest⟩ hs'.1
      (by rw [String.length_toList, String.length_toList, hlen])
  exact String.toList_inj.mp
    (hpre.eq_of_length (by rw [String.length_toList, String.length_toList, hlen]))

/-! ## The scan for the longest holding scope -/

/-- One step of the scan: an entry whose scope holds the path replaces the best so far unless
that one is longer. -/
def keepLonger (path : String) :
    Option (String × List Action) → String × List Action → Option (String × List Action) :=
  fun best (scope, hook) =>
    if inScope path scope then
      match best with
      | some (s, _) => if scope.length ≥ s.length then some (scope, hook) else best
      | none => some (scope, hook)
    else best

theorem longestScope_eq (path : String) (hooks : List (String × List Action)) :
    longestScope path hooks = (hooks.foldl (keepLonger path) none).map (·.2) := rfl

section Scan

variable {path : String}

/-- What one step of the scan keeps: the entry, when its scope holds the path and is no shorter
than the best so far, and the best so far otherwise. -/
theorem keepLonger_cases (acc : Option (String × List Action)) (x : String × List Action) :
    (inScope path x.1 = true ∧ (∀ a, acc = some a → a.1.length ≤ x.1.length) ∧
      keepLonger path acc x = some x) ∨
    ((inScope path x.1 = false ∨ ∃ a, acc = some a ∧ x.1.length < a.1.length) ∧
      keepLonger path acc x = acc) := by
  obtain ⟨scope, hook⟩ := x
  by_cases hin : inScope path scope = true
  · cases acc with
    | none => exact .inl ⟨hin, (fun _ h => by cases h), by simp [keepLonger, hin]⟩
    | some a =>
      obtain ⟨s, h⟩ := a
      by_cases hlonger : scope.length ≥ s.length
      · refine .inl ⟨hin, fun b hb => ?_, by simp [keepLonger, hin, hlonger]⟩
        cases hb
        exact hlonger
      · exact .inr ⟨.inr ⟨(s, h), rfl, by simpa using hlonger⟩,
          by simp [keepLonger, hin, hlonger]⟩
  · exact .inr ⟨.inl (by simpa using hin), by simp [keepLonger, hin]⟩

/-- The scan keeps its seed or takes a holding entry of the list. -/
theorem keepLonger_mem :
    ∀ (l : List (String × List Action)) (acc : Option (String × List Action))
    (e : String × List Action), l.foldl (keepLonger path) acc = some e →
    (e ∈ l ∧ inScope path e.1 = true) ∨ acc = some e := by
  intro l
  induction l with
  | nil => intro acc e h; exact Or.inr h
  | cons x rest ih =>
    intro acc e h
    rcases ih (keepLonger path acc x) e h with ⟨hmem, hin⟩ | hseed
    · exact Or.inl ⟨List.mem_cons_of_mem _ hmem, hin⟩
    · -- the step either took the entry, which holds the path, or kept the seed
      rcases keepLonger_cases acc x with ⟨hin, -, hkeep⟩ | ⟨-, hkeep⟩
      · rw [hkeep] at hseed
        cases hseed
        exact Or.inl ⟨List.mem_cons_self, hin⟩
      · rw [hkeep] at hseed
        exact Or.inr hseed

/-- The scan's result is at least as long as its seed and every holding entry. -/
theorem keepLonger_max :
    ∀ (l : List (String × List Action)) (acc : Option (String × List Action))
    (e : String × List Action), l.foldl (keepLonger path) acc = some e →
    (∀ a, acc = some a → a.1.length ≤ e.1.length) ∧
    (∀ c ∈ l, inScope path c.1 = true → c.1.length ≤ e.1.length) := by
  intro l
  induction l with
  | nil =>
    intro acc e h
    refine ⟨fun a ha => ?_, fun c hc => absurd hc List.not_mem_nil⟩
    rw [List.foldl_nil, ha, Option.some.injEq] at h
    rw [h]
  | cons x rest ih =>
    intro acc e h
    obtain ⟨hstep, hrest⟩ := ih (keepLonger path acc x) e h
    -- the step kept the entry or the seed, and the result bounds what it kept
    rcases keepLonger_cases acc x with ⟨hin, hle, hkeep⟩ | ⟨hout, hkeep⟩
    · have hx := hstep x hkeep
      refine ⟨fun a ha => Nat.le_trans (hle a ha) hx, fun c hc hc' => ?_⟩
      rcases List.mem_cons.mp hc with rfl | hc
      · exact hx
      · exact hrest c hc hc'
    · rw [hkeep] at hstep
      refine ⟨hstep, fun c hc hin => ?_⟩
      rcases List.mem_cons.mp hc with rfl | hc
      · -- a holding entry the step passed over is shorter than the seed
        rcases hout with hout | ⟨a, ha, hlt⟩
        · rw [hin] at hout
          cases hout
        · exact Nat.le_of_lt (Nat.lt_of_lt_of_le hlt (hstep a ha))
      · exact hrest c hc hin

/-- The scan ends empty only from an empty seed over entries none of which holds the path. -/
theorem keepLonger_none :
    ∀ (l : List (String × List Action)) (acc : Option (String × List Action)),
      l.foldl (keepLonger path) acc = none → acc = none ∧ ∀ c ∈ l, inScope path c.1 = false := by
  intro l
  induction l with
  | nil => intro acc h; exact ⟨h, fun c hc => absurd hc List.not_mem_nil⟩
  | cons x rest ih =>
    intro acc h
    obtain ⟨hstep, hrest⟩ := ih (keepLonger path acc x) h
    rcases keepLonger_cases acc x with ⟨-, -, hkeep⟩ | ⟨hout, hkeep⟩
    · rw [hkeep] at hstep
      cases hstep
    · rw [hkeep] at hstep
      -- with an empty seed, the step passed over the entry because it does not hold the path
      have hx : inScope path x.1 = false := by
        rcases hout with hout | ⟨a, ha, -⟩
        · exact hout
        · rw [hstep] at ha
          cases ha
      refine ⟨hstep, fun c hc => ?_⟩
      rcases List.mem_cons.mp hc with rfl | hc
      · exact hx
      · exact hrest c hc

end Scan

/-- When each scope of the list has one hook, the scan picks the hook of the longest scope
holding the path. -/
theorem longestScope_eq_some {path s : String} {h : List Action}
    {hooks : List (String × List Action)}
    (hunique : ∀ s h h', (s, h) ∈ hooks → (s, h') ∈ hooks → h = h')
    (hmem : (s, h) ∈ hooks) (hs : inScope path s = true)
    (hmax : ∀ c ∈ hooks, inScope path c.1 = true → c.1.length ≤ s.length) :
    longestScope path hooks = some h := by
  rw [longestScope_eq]
  cases hscan : hooks.foldl (keepLonger path) none with
  | none =>
    have := (keepLonger_none hooks none hscan).2 (s, h) hmem
    simp [hs] at this
  | some e =>
    have hpicked := keepLonger_mem hooks none e hscan
    simp only [reduceCtorEq, or_false] at hpicked
    obtain ⟨hemem, hein⟩ := hpicked
    -- the pick is as long as the longest holding scope, hence that scope itself
    have hlen : s.length = e.1.length :=
      Nat.le_antisymm ((keepLonger_max hooks none e hscan).2 (s, h) hmem hs) (hmax e hemem hein)
    have hscope : s = e.1 := eq_of_inScope_of_length_eq hs hein hlen
    obtain ⟨s', h'⟩ := e
    simp only at hscope
    subst hscope
    simp [hunique s h h' hmem hemem]

theorem longestScope_eq_none {path : String} {hooks : List (String × List Action)}
    (hnone : ∀ c ∈ hooks, inScope path c.1 = false) : longestScope path hooks = none := by
  rw [longestScope_eq]
  cases hscan : hooks.foldl (keepLonger path) none with
  | none => rfl
  | some e =>
    have hpicked := keepLonger_mem hooks none e hscan
    simp only [reduceCtorEq, or_false] at hpicked
    simp [hnone e hpicked.1] at hpicked

/-! ## Registrations -/

/-- A registration of a not-found hook: the application's own, or one for a builder's scope
path. -/
inductive NotFoundRegistration where
  | app (hook : List Action)
  | builder (b : RouteBuilder) (hook : List Action)

namespace NotFoundRegistration

/-- Makes a registration with the application. -/
def apply (app : App) : NotFoundRegistration → App
  | .app hook => app.notFound hook
  | .builder b hook => (RouteBuilder.notFound app b hook).1

/-- The scope and the hook of a scoped registration. -/
def scopedHook : NotFoundRegistration → Option (String × List Action)
  | .app _ => none
  | .builder b hook => some (b.scopePath, hook)

/-- The hook of an application-wide registration. -/
def appHook : NotFoundRegistration → Option (List Action)
  | .app hook => some hook
  | .builder .. => none

end NotFoundRegistration

/-- The scoped not-found list records a history of scoped registrations: one entry per scope,
holding the hook registered last for it. -/
structure Records (entries history : List (String × List Action)) : Prop where
  nodup : (entries.map (·.1)).Nodup
  mem_iff : ∀ s h, (s, h) ∈ entries ↔ history.reverse.lookup s = some h

theorem Records.unique {entries history : List (String × List Action)}
    (hrec : Records entries history) {s : String} {h h' : List Action}
    (hmem : (s, h) ∈ entries) (hmem' : (s, h') ∈ entries) : h = h' := by
  rw [hrec.mem_iff] at hmem hmem'
  rw [hmem] at hmem'
  exact Option.some.inj hmem'

/-- A scoped registration drops the scope's entry and appends the new one. -/
theorem Records.registerNotFound {app : App} {history : List (String × List Action)}
    (hrec : Records app.scopedNotFound history) (scope : String) (hook : List Action) :
    Records (app.registerNotFound scope hook).scopedNotFound (history ++ [(scope, hook)]) := by
  obtain ⟨hnodup, hmem⟩ := hrec
  simp only [App.registerNotFound]
  constructor
  · rw [List.map_append, List.nodup_append]
    refine ⟨(List.filter_sublist.map _).nodup hnodup, by simp, ?_⟩
    intro a ha b hb
    simp only [List.mem_map, List.mem_filter, bne_iff_ne, ne_eq] at ha
    obtain ⟨⟨s, h⟩, ⟨-, hne⟩, rfl⟩ := ha
    simp only [List.map_cons, List.map_nil, List.mem_singleton] at hb
    subst hb
    exact hne
  · intro s h
    simp only [List.mem_append, List.mem_filter, bne_iff_ne, ne_eq, List.mem_singleton,
      Prod.mk.injEq, List.reverse_append, List.reverse_cons, List.reverse_nil, List.nil_append,
      List.cons_append, List.lookup_cons]
    by_cases hs : s = scope
    · subst hs
      simp [eq_comm]
    · have hne : (s == scope) = false := by simp [hs]
      simp [hne, hs, hmem]

/-- Registrations keep the scoped list a record of the scoped ones, and the application's own
hook is the one registered last, if any. -/
theorem records_foldl_apply :
    ∀ (regs : List NotFoundRegistration) (base : App) (history : List (String × List Action)),
      Records base.scopedNotFound history →
      Records (regs.foldl NotFoundRegistration.apply base).scopedNotFound
          (history ++ regs.filterMap NotFoundRegistration.scopedHook) ∧
        (regs.foldl NotFoundRegistration.apply base).hooks.notFound =
          (regs.filterMap NotFoundRegistration.appHook).getLast?.or base.hooks.notFound := by
  intro regs
  induction regs with
  | nil => intro base history hrec; simpa using hrec
  | cons r rs ih =>
    intro base history hrec
    cases r with
    | app hook =>
      -- the application's own hook leaves the scoped list alone
      obtain ⟨hrec', hhook⟩ := ih (base.notFound hook) history hrec
      simp only [List.foldl_cons, List.filterMap_cons, NotFoundRegistration.apply,
        NotFoundRegistration.scopedHook, NotFoundRegistration.appHook]
      refine ⟨hrec', ?_⟩
      rw [hhook, show hook :: rs.filterMap NotFoundRegistration.appHook =
          [hook] ++ rs.filterMap NotFoundRegistration.appHook from rfl, List.getLast?_append]
      simp [App.notFound]
    | builder b hook =>
      -- a builder's hook goes to the scoped list and leaves the application's alone
      obtain ⟨hrec', hhook⟩ := ih _ _ (hrec.registerNotFound b.scopePath hook)
      simp only [List.foldl_cons, List.filterMap_cons, NotFoundRegistration.apply,
        NotFoundRegistration.scopedHook, NotFoundRegistration.appHook]
      simp only [List.append_assoc, List.singleton_append] at hrec'
      exact ⟨hrec', hhook⟩

/-! ## Running the chosen hook -/

theorem exec_runNotFound (app : App) (w : World) :
    (runNotFound app).exec w =
      match (longestScope (w.requests.getD w.ctx.request default).path app.scopedNotFound).or
          app.hooks.notFound with
      | some hook => (guarded (runHook (pipelineFuel []) (hookFrame none) hook)).exec w
      | none =>
        (.ok (), { w with sinks := w.sinks.error w.ctx.writer 404 "404 page not found" }) := by
  unfold runNotFound
  simp only [Run.exec_bind, Run.exec_context, Run.exec_request]
  generalize (longestScope _ _).or _ = chosen
  cases chosen <;> rfl

/-- Choosing the not-found hook. After any registrations of not-found hooks, from an
application with no scoped hook: the scoped list holds one entry per scope; a request whose path
is held by some registered scope runs the hook registered last for the longest such scope;
otherwise it runs the application's hook registered last, or, with none, answers `404` with
`404 page not found` and a newline. -/
theorem runNotFound_longest_scope (base : App) (hbase : base.scopedNotFound = [])
    (regs : List NotFoundRegistration) (w : World) :
    let app := regs.foldl NotFoundRegistration.apply base
    let registered := regs.filterMap NotFoundRegistration.scopedHook
    let path := (w.requests.getD w.ctx.request default).path
    (app.scopedNotFound.map (·.1)).Nodup ∧
    (∀ s h, registered.reverse.lookup s = some h → ScopeHolds path s →
      (∀ s' ∈ registered.map (·.1), ScopeHolds path s' → s'.length ≤ s.length) →
      (runNotFound app).exec w = (guarded (runHook (pipelineFuel []) (hookFrame none) h)).exec w) ∧
    ((∀ s ∈ registered.map (·.1), ¬ ScopeHolds path s) →
      (runNotFound app).exec w =
        match (regs.filterMap NotFoundRegistration.appHook).getLast?.or base.hooks.notFound with
        | some h => (guarded (runHook (pipelineFuel []) (hookFrame none) h)).exec w
        | none => (.ok (), { w with sinks := w.sinks.error w.ctx.writer 404 "404 page not found" })) ∧
    (∀ b, w.sinks.get? w.ctx.writer = some (.buffer b) → b.status = none →
      ∃ b', (w.sinks.error w.ctx.writer 404 "404 page not found").get? w.ctx.writer =
          some (.buffer b') ∧
        b'.status = some 404 ∧ b'.body = b.body ++ Utf8.encode "404 page not found\n") := by
  intro app registered path
  have hstart : Records base.scopedNotFound [] :=
    ⟨by simp [hbase], fun s h => by simp [hbase]⟩
  obtain ⟨hrec, hhook⟩ := records_foldl_apply regs base [] hstart
  have hrec : Records app.scopedNotFound registered := hrec
  -- the scoped list's scopes are exactly the registered ones
  have hscopes :
      ∀ s', s' ∈ registered.map (·.1) ↔ ∃ h', (s', h') ∈ app.scopedNotFound := by
    intro s'
    constructor
    · intro hs'
      have hsome : (registered.reverse.lookup s').isSome := by
        simp only [List.lookup_isSome_iff, List.mem_reverse]
        obtain ⟨p, hp, rfl⟩ := List.mem_map.mp hs'
        exact ⟨p, hp, by simp⟩
      obtain ⟨h', hh'⟩ := Option.isSome_iff_exists.mp hsome
      exact ⟨h', (hrec.mem_iff s' h').mpr hh'⟩
    · rintro ⟨h', hh'⟩
      obtain ⟨l₁, l₂, hsplit, -⟩ := List.lookup_eq_some_iff.mp ((hrec.mem_iff s' h').mp hh')
      have : (s', h') ∈ registered.reverse := by simp [hsplit]
      exact List.mem_map.mpr ⟨(s', h'), List.mem_reverse.mp this, rfl⟩
  refine ⟨hrec.nodup, fun s h hlast hholds hlongest => ?_, fun hnone => ?_, fun b hb hs => ?_⟩
  · have hchosen : longestScope path app.scopedNotFound = some h := by
      refine longestScope_eq_some (fun _ _ _ => hrec.unique) ((hrec.mem_iff s h).mpr hlast)
        ((inScope_iff path s).mpr hholds) fun c hc hin => ?_
      exact hlongest c.1 ((hscopes c.1).mpr ⟨c.2, hc⟩) ((inScope_iff path c.1).mp hin)
    rw [exec_runNotFound]
    simp only [path] at hchosen
    rw [hchosen, Option.some_or]
  · have hchosen : longestScope path app.scopedNotFound = none := by
      refine longestScope_eq_none fun c hc => ?_
      have hnot := hnone c.1 ((hscopes c.1).mpr ⟨c.2, hc⟩)
      simpa [← inScope_iff] using hnot
    rw [exec_runNotFound]
    simp only [path] at hchosen
    rw [hchosen, Option.none_or, hhook]
  · exact ⟨_, Sinks.error_get?_of_buffer hb hs 404 _, rfl, rfl⟩

/-- Three builders register for `/api`, `/api/v2` and `/api` again; a request for `/api/v2/x`
runs the hook of `/api/v2`. -/
theorem runNotFound_longest_scope_api :
    let regs := [.builder { path := "/api" } [.mark "api"],
      .builder { path := "/api/v2" } [.mark "v2"], .app [.mark "app"],
      .builder { path := "/api" } [.mark "api again"]]
    let w : World := { requests := #[{ method := "GET", path := "/api/v2/x" }] }
    let registered := regs.filterMap NotFoundRegistration.scopedHook
    ({} : App).scopedNotFound = [] ∧
    registered.reverse.lookup "/api/v2" = some [.mark "v2"] ∧
    ScopeHolds "/api/v2/x" "/api/v2" ∧
    (∀ s' ∈ registered.map (·.1), ScopeHolds "/api/v2/x" s' → s'.length ≤ "/api/v2".length) ∧
    (runNotFound (regs.foldl NotFoundRegistration.apply {})).exec w =
      (guarded (runHook (pipelineFuel []) (hookFrame none) [.mark "v2"])).exec w :=
  ⟨rfl, rfl, by decide, by decide,
    (runNotFound_longest_scope {} rfl _ _).2.1 "/api/v2" [.mark "v2"] rfl (by decide) (by decide)⟩

end Switchyard

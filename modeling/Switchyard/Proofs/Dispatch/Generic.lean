import Switchyard.Proofs.Dispatch.Exec
/-!
# Generic handlers

A generic handler resolves its parameters from the context, left to right, before its script
runs. `resolveAll` writes that resolution out: each parameter in the world the ones before it
left, stopping at the first that fails. Dispatching a generic handler is `resolveAll` followed
by one call of its script with the values in declaration order when every parameter resolves,
and the failure of the first parameter that does not, with no call, otherwise
(`exec_dispatch_generic`, `resolveAll_eq_error_iff`).

An optional parameter resolves as the one it wraps, except that an `Unresolved` failure of the
wrapped one becomes an absent value (`optionally`). A body parameter never fails that way, so
its optional form fails exactly when it does.
-/
namespace Switchyard

/-- Resolves parameters left to right, each in the world the ones before it left, and stops at
the first that fails. -/
def resolveAll : List Param → World → Except Halt (List Resolved) × World
  | [], w => (.ok [], w)
  | p :: ps, w =>
    match (resolveParam p).exec w with
    | (.ok v, w') =>
      match resolveAll ps w' with
      | (.ok vs, w'') => (.ok (v :: vs), w'')
      | (.error h, w'') => (.error h, w'')
    | (.error h, w') => (.error h, w')

theorem exec_mapM_resolveParam (ps : List Param) (w : World) :
    (ps.mapM resolveParam).exec w = resolveAll ps w := by
  induction ps generalizing w with
  | nil => rfl
  | cons p ps ih =>
    rw [List.mapM_cons, Run.exec_bind, resolveAll]
    rcases (resolveParam p).exec w with ⟨h | v, w'⟩
    · rfl
    · simp only [Run.exec_bind, ih, Run.exec_pure]
      rcases resolveAll ps w' with ⟨h | vs, w''⟩ <;> rfl

theorem resolveAll_cons_of_error {p : Param} {ps : List Param} {w w' : World} {h : Halt}
    (hp : (resolveParam p).exec w = (.error h, w')) : resolveAll (p :: ps) w = (.error h, w') := by
  simp [resolveAll, hp]

theorem resolveAll_cons_of_ok {p : Param} {ps : List Param} {w w₁ : World} {v : Resolved}
    (hp : (resolveParam p).exec w = (.ok v, w₁)) :
    resolveAll (p :: ps) w =
      match resolveAll ps w₁ with
      | (.ok vs, w'') => (.ok (v :: vs), w'')
      | (.error h, w'') => (.error h, w'') := by
  simp [resolveAll, hp]

theorem resolveAll_cons_eq_ok {p : Param} {ps : List Param} {w w'' : World}
    {vs : List Resolved} (h : resolveAll (p :: ps) w = (.ok vs, w'')) :
    ∃ v us w₁, (resolveParam p).exec w = (.ok v, w₁) ∧
      resolveAll ps w₁ = (.ok us, w'') ∧ vs = v :: us := by
  rcases hp : (resolveParam p).exec w with ⟨e | v, w₁⟩
  · rw [resolveAll_cons_of_error hp] at h
    cases h
  · rw [resolveAll_cons_of_ok hp] at h
    rcases hrest : resolveAll ps w₁ with ⟨e | us, w₂⟩ <;> simp only [hrest] at h
    · cases h
    · obtain ⟨rfl, rfl⟩ : v :: us = vs ∧ w₂ = w'' := by simpa using h
      exact ⟨v, us, w₁, rfl, hrest, rfl⟩

/-- Resolution gives one value per parameter. -/
theorem resolveAll_length {ps : List Param} {w w' : World} {vs : List Resolved}
    (h : resolveAll ps w = (.ok vs, w')) : vs.length = ps.length := by
  induction ps generalizing w vs with
  | nil =>
    obtain ⟨rfl, -⟩ : [] = vs ∧ w = w' := by simpa [resolveAll] using h
    rfl
  | cons p ps ih =>
    obtain ⟨v, us, w₁, -, hrest, rfl⟩ := resolveAll_cons_eq_ok h
    rw [List.length_cons, ih hrest, List.length_cons]

/-- Once the first parameters resolve, the rest resolve from the world they left. -/
theorem resolveAll_append_of_ok {pre rest : List Param} {w w₁ : World} {vs : List Resolved}
    (hpre : resolveAll pre w = (.ok vs, w₁)) :
    resolveAll (pre ++ rest) w =
      match resolveAll rest w₁ with
      | (.ok us, w₂) => (.ok (vs ++ us), w₂)
      | (.error h, w₂) => (.error h, w₂) := by
  induction pre generalizing w vs with
  | nil =>
    obtain ⟨rfl, rfl⟩ : [] = vs ∧ w = w₁ := by simpa [resolveAll] using hpre
    rw [List.nil_append]
    rcases resolveAll rest w with ⟨h | us, w₂⟩ <;> rfl
  | cons q pre ih =>
    obtain ⟨v, us, w', hq, hmid, rfl⟩ := resolveAll_cons_eq_ok hpre
    rw [List.cons_append, resolveAll_cons_of_ok hq, ih hmid]
    rcases resolveAll rest w₁ with ⟨h | us', w₂⟩ <;> rfl

theorem exists_split_of_resolveAll_error {ps : List Param} {w w' : World} {h : Halt}
    (hfail : resolveAll ps w = (.error h, w')) :
    ∃ pre p post vs w₁, ps = pre ++ p :: post ∧ resolveAll pre w = (.ok vs, w₁) ∧
      (resolveParam p).exec w₁ = (.error h, w') := by
  induction ps generalizing w with
  | nil => simp [resolveAll] at hfail
  | cons q ps ih =>
    rcases hq : (resolveParam q).exec w with ⟨e | v, w₁⟩
    · -- the first parameter fails
      rw [resolveAll_cons_of_error hq] at hfail
      obtain ⟨rfl, rfl⟩ : e = h ∧ w₁ = w' := by simpa using hfail
      exact ⟨[], q, ps, [], w, rfl, rfl, hq⟩
    · -- the first resolves, and a later one fails
      rw [resolveAll_cons_of_ok hq] at hfail
      rcases hrest : resolveAll ps w₁ with ⟨e | us, w₂⟩ <;> simp only [hrest] at hfail
      · obtain ⟨rfl, rfl⟩ : e = h ∧ w₂ = w' := by simpa using hfail
        obtain ⟨pre, p, post, vs, w₃, rfl, hpre, hp⟩ := ih hrest
        refine ⟨q :: pre, p, post, v :: vs, w₃, rfl, ?_, hp⟩
        rw [resolveAll_cons_of_ok hq, hpre]
      · cases hfail

/-- Resolution fails with the failure of the first parameter that fails, in the world the
parameters before it left, all of which resolved. -/
theorem resolveAll_eq_error_iff {ps : List Param} {w w' : World} {h : Halt} :
    resolveAll ps w = (.error h, w') ↔
      ∃ pre p post vs w₁, ps = pre ++ p :: post ∧ resolveAll pre w = (.ok vs, w₁) ∧
        (resolveParam p).exec w₁ = (.error h, w') :=
  ⟨exists_split_of_resolveAll_error, fun ⟨_, _, _, _, _, hsplit, hpre, hp⟩ => by
    rw [hsplit, resolveAll_append_of_ok hpre, resolveAll_cons_of_error hp]⟩

/-- A generic handler runs its script exactly once, with its parameters' values in declaration
order, when every parameter resolves; otherwise it fails as the first failing parameter does and
its script does not run. -/
theorem exec_dispatch_generic (params : List Param) (takesContext together : Bool)
    (actions : List Action) (next : Run Unit) (w : World) :
    (dispatch (.script (.generic params takesContext together) actions) next).exec w =
      match resolveAll params w with
      | (.ok values, w') =>
        (callResolved (fun f acts => runScript f next acts) takesContext together actions
          values).exec w'
      | (.error h, w') => (.error h, w') := by
  unfold dispatch dispatchWith
  simp only [Run.exec_bind, Run.exec_context, exec_mapM_resolveParam]
  rcases resolveAll params w with ⟨h | values, w'⟩ <;> rfl

/-! ## Optional parameters -/

/-- What an optional parameter makes of the resolution of the one it wraps: an `Unresolved`
failure becomes an absent value, and anything else stays as it is. -/
def optionally : Except Halt Resolved × World → Except Halt Resolved × World
  | (.error (.fail (.unresolved _)), w) => (.ok { shown := some .null }, w)
  | r => r

theorem exec_resolveParam_dep (t : DepType) (w : World) :
    (resolveParam (.dep t)).exec w =
      match (Run.resolveIn w.ctx.scope t).exec w with
      | (.ok v, w') => (.ok { shown := some v }, w')
      | (.error h, w') => (.error h, w') := by
  simp only [resolveParam, Run.exec_bind, Run.exec_context]
  rcases (Run.resolveIn w.ctx.scope t).exec w with ⟨h | v, w'⟩ <;> rfl

theorem exec_resolveParam_optDep (t : DepType) (w : World) :
    (resolveParam (.optDep t)).exec w = optionally ((resolveParam (.dep t)).exec w) := by
  rw [exec_resolveParam_dep]
  simp only [resolveParam, Run.exec_bind, Run.exec_context, Run.exec_attempt]
  rcases (Run.resolveIn w.ctx.scope t).exec w with ⟨h | v, w'⟩
  · -- a failure: `Unresolved` becomes an absent value, any other passes through
    cases h with
    | fail e => cases e <;> rfl
    | panic p => rfl
    | stop => rfl
  · rfl

/-- A body is decoded or fails with a decoding error, never an `Unresolved` one. -/
theorem BodyTarget.decode_ne_unresolved (t : BodyTarget) (body : List UInt8) (name : String) :
    t.decode body ≠ .error (.unresolved name) := by
  unfold BodyTarget.decode
  split
  · simp
  · split <;> simp

theorem exec_resolveParam_json_ne_unresolved (w w' : World) (name : String) :
    (resolveParam .json).exec w ≠ (.error (.fail (.unresolved name)), w') := by
  have hdecode := BodyTarget.value.decode_ne_unresolved
    (w.requests.getD w.ctx.request default).body name
  simp only [resolveParam, Run.exec_bind, Run.exec_context, Run.exec_request, Run.exec_ofExcept]
  cases hd : BodyTarget.value.decode (w.requests.getD w.ctx.request default).body with
  | ok j =>
    intro h
    cases h
  | error e =>
    intro h
    cases h
    exact hdecode hd

theorem exec_resolveParam_optJson (w : World) :
    (resolveParam .optJson).exec w = optionally ((resolveParam .json).exec w) := by
  have hjson := exec_resolveParam_json_ne_unresolved w
  -- both forms read the body alike
  have hsame : (resolveParam .optJson).exec w = (resolveParam .json).exec w := rfl
  rw [hsame]
  rcases hres : (resolveParam .json).exec w with ⟨h | v, w'⟩
  · cases h with
    | fail e =>
      cases e
      case unresolved name => exact absurd hres (hjson _ _)
      all_goals rfl
    | panic p => rfl
    | stop => rfl
  · rfl

/-- Generic handlers run only when every parameter resolves. Dispatching a generic handler
resolves its parameters left to right and calls its script once with their values, in
declaration order and one per parameter, when all resolve, and otherwise fails as the first
failing parameter does, in the world the parameters before it left, without calling the script;
an optional parameter turns its wrapped parameter's `Unresolved` failure into an absent value and
passes every other failure through. -/
theorem generic_runs_iff_all_resolve :
    (∀ params takesContext together actions next w,
      (dispatch (.script (.generic params takesContext together) actions) next).exec w =
        match resolveAll params w with
        | (.ok values, w') =>
          (callResolved (fun f acts => runScript f next acts) takesContext together actions
            values).exec w'
        | (.error h, w') => (.error h, w')) ∧
    (∀ params w values w', resolveAll params w = (.ok values, w') →
      values.length = params.length) ∧
    (∀ params w h w', resolveAll params w = (.error h, w') ↔
      ∃ pre p post values w₁, params = pre ++ p :: post ∧
        resolveAll pre w = (.ok values, w₁) ∧ (resolveParam p).exec w₁ = (.error h, w')) ∧
    (∀ t w, (resolveParam (.optDep t)).exec w = optionally ((resolveParam (.dep t)).exec w)) ∧
    (∀ w, (resolveParam .optJson).exec w = optionally ((resolveParam .json).exec w)) :=
  ⟨exec_dispatch_generic, fun _ _ _ _ => resolveAll_length,
    fun _ _ _ _ => resolveAll_eq_error_iff, exec_resolveParam_optDep, exec_resolveParam_optJson⟩

/-- With no scope to resolve from, an optional number resolves to nothing and the text after it
fails: the failure is the text's own, with the number resolved before it. -/
theorem generic_runs_iff_all_resolve_missing_text :
    resolveAll [.optDep .u64, .dep .string] {} =
      (.error (.fail (.unresolved "alloc::string::String")), {}) ∧
    ∃ pre p post values w₁, [Param.optDep .u64, .dep .string] = pre ++ p :: post ∧
      resolveAll pre {} = (.ok values, w₁) ∧
      (resolveParam p).exec w₁ = (.error (.fail (.unresolved "alloc::string::String")), {}) :=
  have hfail : resolveAll [.optDep .u64, .dep .string] {} =
      (.error (.fail (.unresolved "alloc::string::String")), {}) := rfl
  ⟨hfail, (generic_runs_iff_all_resolve.2.2.1 _ _ _ _).mp hfail⟩

end Switchyard

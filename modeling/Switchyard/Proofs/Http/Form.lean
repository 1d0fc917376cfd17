import Mathlib
import Switchyard.Http.Request
/-!
# Kept form values

A request reads its form values off its headers, body and query (`Request.freshForm`) and keeps
them once read (`Request.readForm`); `Request.form` answers from what is kept. The building steps
`withHeader` and `withBody` drop what is kept, `withHost` and `withRemoteAddr` change nothing the
form reads, and `setHeader` changes the headers in place but keeps the form.

* `Request.lookup_freshForm`: the fresh form gives each key the values that the body's pairs and
  then the query's pairs give it, in arrival order, and no entry to a key that no pair has.
* `Request.lookup_queryMap`: the query map gives each key the last value the query gives it.
* `Request.Step.formCurrent_apply_iff`: a step keeps the form current unless it sets a header in
  place over a kept form and so changes what a fresh read would give.
* `Request.form_reflects_request`: along every sequence of steps from a new request in which no
  header set in place does that, the form and the query map are those of the request as it
  stands.
* `Request.setHeader_leaves_form_stale`: reading the form of a body sent without
  `Content-Type`, then setting `Content-Type` to `application/x-www-form-urlencoded` in place,
  keeps the empty form although the body now reads as `a = 1`.
-/
namespace Switchyard

/-- The values of a key among pairs, in arrival order. -/
def valuesOf (pairs : List (String × String)) (k : String) : List String :=
  (pairs.filter (·.1 == k)).map (·.2)

@[simp] theorem valuesOf_nil (k : String) : valuesOf [] k = [] := rfl

@[simp] theorem valuesOf_cons (k' v k : String) (pairs : List (String × String)) :
    valuesOf ((k', v) :: pairs) k = if k' = k then v :: valuesOf pairs k else valuesOf pairs k := by
  by_cases h : k' = k <;> simp [valuesOf, h]

/-- The form that pairs give: each key with its values in arrival order, and no entry for a key
that no pair has. -/
def formOf (pairs : List (String × String)) (k : String) : Option (List String) :=
  if valuesOf pairs k = [] then none else some (valuesOf pairs k)

/-! ## Keyed entries -/

/-- Changes the entry of a key by `g`, or adds an entry holding `new` after the others when the
key has none. -/
def upsertKey {β : Type} (entries : List (String × β)) (k : String) (g : β → β) (new : β) :
    List (String × β) :=
  if entries.any (·.1 == k) then entries.map fun (k', x) => if k' == k then (k', g x) else (k', x)
  else entries ++ [(k, new)]

section Entries

variable {β : Type} (entries : List (String × β))

theorem lookup_map_change (k₀ k : String) (g : β → β) :
    (entries.map fun (k', x) => if k' == k₀ then (k', g x) else (k', x)).lookup k =
      (entries.lookup k).map fun x => if k = k₀ then g x else x := by
  induction entries with
  | nil => rfl
  | cons e rest ih =>
    obtain ⟨a, x⟩ := e
    -- the changed entry keeps its key
    have hhead : (if a == k₀ then (a, g x) else (a, x)) = (a, if a == k₀ then g x else x) := by
      split <;> rfl
    simp only [List.map_cons, hhead, List.lookup_cons]
    cases hb : k == a with
    | true =>
      obtain rfl : k = a := beq_iff_eq.1 hb
      by_cases ha : k = k₀ <;> simp [ha]
    | false => exact ih

theorem any_fst_beq_eq_isSome_lookup (k : String) :
    entries.any (·.1 == k) = (entries.lookup k).isSome := by
  rw [Bool.eq_iff_iff, List.any_eq_true, List.lookup_isSome_iff]
  constructor
  · rintro ⟨p, hp, h⟩
    exact ⟨p, hp, beq_iff_eq.2 (beq_iff_eq.1 h).symm⟩
  · rintro ⟨p, hp, h⟩
    exact ⟨p, hp, beq_iff_eq.2 (beq_iff_eq.1 h).symm⟩

/-- Looking up a key after `upsertKey`: the changed key holds its old value changed by `g`, or
`new` when it had none; every other key is as it was. -/
theorem lookup_upsertKey (k₀ k : String) (g : β → β) (new : β) :
    (upsertKey entries k₀ g new).lookup k =
      if k = k₀ then some (((entries.lookup k).map g).getD new) else entries.lookup k := by
  unfold upsertKey
  split
  case isTrue hany =>
    rw [lookup_map_change]
    by_cases hk : k = k₀
    · subst hk
      obtain ⟨x, hx⟩ := Option.isSome_iff_exists.1
        ((any_fst_beq_eq_isSome_lookup entries k).symm.trans hany)
      simp [hx]
    · simp [hk]
  case isFalse hnone =>
    rw [List.lookup_append]
    by_cases hk : k = k₀
    · subst hk
      have hmiss : entries.lookup k = none := by
        rw [any_fst_beq_eq_isSome_lookup] at hnone
        exact Option.not_isSome_iff_eq_none.1 hnone
      simp [hmiss]
    · have hb : (k == k₀) = false := by simpa using hk
      simp [hk, hb, List.lookup_cons]

end Entries

namespace FormValues

theorem push_eq_upsertKey (f : FormValues) (k v : String) :
    f.push k v = upsertKey f k (· ++ [v]) [v] := rfl

@[simp] theorem lookup_push (f : FormValues) (k₀ v k : String) :
    (f.push k₀ v).lookup k = if k = k₀ then some ((f.lookup k).getD [] ++ [v]) else f.lookup k := by
  rw [push_eq_upsertKey, lookup_upsertKey]
  cases f.lookup k <;> simp

/-- Pushing pairs in order adds to each key's values those the pairs give it, in arrival order. -/
theorem lookup_foldl_push (pairs : List (String × String)) (f : FormValues) (k : String) :
    (pairs.foldl (fun f p => f.push p.1 p.2) f).lookup k =
      if valuesOf pairs k = [] then f.lookup k
      else some ((f.lookup k).getD [] ++ valuesOf pairs k) := by
  induction pairs generalizing f with
  | nil => simp
  | cons p rest ih =>
    obtain ⟨k', v⟩ := p
    rw [List.foldl_cons, ih, lookup_push, valuesOf_cons]
    by_cases hk : k' = k
    · subst hk
      split <;> simp_all
    · simp [hk, Ne.symm hk]

end FormValues

/-- Setting the last value of each key in order leaves each key its last value, or its old one
when the pairs give it none. -/
theorem lookup_foldl_upsertLast (pairs m : List (String × String)) (k : String) :
    (pairs.foldl (fun m p => upsertKey m p.1 (fun _ => p.2) p.2) m).lookup k =
      (valuesOf pairs k).getLast?.or (m.lookup k) := by
  induction pairs generalizing m with
  | nil => simp
  | cons p rest ih =>
    obtain ⟨k', v⟩ := p
    rw [List.foldl_cons, ih, lookup_upsertKey, valuesOf_cons]
    by_cases hk : k' = k
    · subst hk
      -- a later value of the key wins over this one, and this one over the old
      have hv : ((m.lookup k').map fun _ => v).getD v = v := by cases m.lookup k' <;> rfl
      cases h : (valuesOf rest k').getLast? <;> simp [List.getLast?_cons, h, hv]
    · simp [hk, Ne.symm hk]

namespace Request

/-- The pairs a request's body adds to its form: those of a UTF-8 body when the first
`Content-Type` value starts with `application/x-www-form-urlencoded`, none otherwise. -/
def bodyFormPairs (r : Request) : List (String × String) :=
  if (r.header "content-type").any (·.startsWith "application/x-www-form-urlencoded") then
    (r.bodyText?.map parseQuery).getD []
  else []

theorem freshForm_eq (r : Request) :
    r.freshForm = (r.bodyFormPairs ++ r.queryPairs).foldl (fun (f : FormValues) p => f.push p.1 p.2) [] := by
  unfold freshForm bodyFormPairs
  cases r.header "content-type" <;> cases r.bodyText? <;> rfl

/-- The fresh form gives each key the values of the body's pairs and then the query's pairs, in
arrival order. -/
theorem lookup_freshForm (r : Request) (k : String) :
    r.freshForm.lookup k = formOf (r.bodyFormPairs ++ r.queryPairs) k := by
  rw [freshForm_eq, FormValues.lookup_foldl_push, formOf]
  simp

theorem queryMap_eq (r : Request) :
    r.queryMap = r.queryPairs.foldl (fun m p => upsertKey m p.1 (fun _ => p.2) p.2) [] := rfl

/-- The query map gives each key the last value the query gives it. -/
theorem lookup_queryMap (r : Request) (k : String) :
    r.queryMap.lookup k = (valuesOf r.queryPairs k).getLast? := by
  rw [queryMap_eq, lookup_foldl_upsertLast]
  simp

/-! ## Keeping the form -/

@[simp] theorem formCache_make (method target : String) : (make method target).formCache = none := by
  unfold make
  split <;> rfl

@[simp] theorem formCache_withHeader (r : Request) (name value : String) :
    (r.withHeader name value).formCache = none := by
  unfold withHeader
  split <;> rfl

@[simp] theorem formCache_withBody (r : Request) (body : List UInt8) :
    (r.withBody body).formCache = none := rfl

@[simp] theorem formCache_setHeader (r : Request) (name value : String) :
    (r.setHeader name value).formCache = r.formCache := by
  unfold setHeader
  split <;> rfl

@[simp] theorem formCache_withHost (r : Request) (host : String) :
    (r.withHost host).formCache = r.formCache := rfl

@[simp] theorem formCache_withRemoteAddr (r : Request) (addr : String) :
    (r.withRemoteAddr addr).formCache = r.formCache := rfl

@[simp] theorem formCache_readForm (r : Request) : r.readForm.formCache = some r.form := rfl

@[simp] theorem freshForm_withHost (r : Request) (host : String) :
    (r.withHost host).freshForm = r.freshForm := rfl

@[simp] theorem freshForm_withRemoteAddr (r : Request) (addr : String) :
    (r.withRemoteAddr addr).freshForm = r.freshForm := rfl

@[simp] theorem freshForm_readForm (r : Request) : r.readForm.freshForm = r.freshForm := rfl

@[simp] theorem form_readForm (r : Request) : r.readForm.form = r.form := rfl

theorem form_of_formCache_eq_some {r : Request} {f : FormValues} (h : r.formCache = some f) :
    r.form = f := by
  simp [form, h]

/-- Setting a header in place keeps a kept form as it was. -/
theorem form_setHeader_of_isSome {r : Request} (h : r.formCache.isSome) (name value : String) :
    (r.setHeader name value).form = r.form := by
  obtain ⟨f, hf⟩ := Option.isSome_iff_exists.1 h
  rw [form_of_formCache_eq_some (by rw [formCache_setHeader, hf]), form_of_formCache_eq_some hf]

/-- The form is the one a fresh read of the request as it stands gives. -/
def FormCurrent (r : Request) : Prop := r.form = r.freshForm

theorem formCurrent_of_formCache_eq_none {r : Request} (h : r.formCache = none) : r.FormCurrent := by
  simp [FormCurrent, form, h]

/-- A request that keeps what a current one keeps and reads what it reads is current. -/
theorem FormCurrent.of_same {r r' : Request} (hr : r.FormCurrent)
    (hcache : r'.formCache = r.formCache) (hfresh : r'.freshForm = r.freshForm) :
    r'.FormCurrent := by
  unfold FormCurrent form at *
  rw [hcache, hfresh]
  exact hr

/-- A call that changes a request after it is made, or reads its form. -/
inductive Step where
  | withHeader (name value : String)
  | withBody (body : List UInt8)
  | setHeader (name value : String)
  | withHost (host : String)
  | withRemoteAddr (addr : String)
  | readForm

namespace Step

/-- The request after a step. -/
def apply : Step → Request → Request
  | withHeader n v, r => r.withHeader n v
  | withBody b, r => r.withBody b
  | setHeader n v, r => r.setHeader n v
  | withHost h, r => r.withHost h
  | withRemoteAddr a, r => r.withRemoteAddr a
  | readForm, r => r.readForm

/-- Whether a step sets a header in place. -/
def setsHeader : Step → Bool
  | setHeader .. => true
  | _ => false

/-- A step that sets a header in place meets a request that keeps no form, or leaves what a
fresh read gives as it was. -/
def KeepsFormCurrent (s : Step) (r : Request) : Prop :=
  s.setsHeader → r.formCache = none ∨ (s.apply r).freshForm = r.freshForm

theorem keepsFormCurrent_of_setsHeader_eq_false {s : Step} (hs : s.setsHeader = false)
    (r : Request) : s.KeepsFormCurrent r := by
  intro h
  rw [hs] at h
  cases h

/-- A step keeps a current form current exactly when it is not a header set in place over a
kept form that changes what a fresh read gives. -/
theorem formCurrent_apply_iff {r : Request} (hr : r.FormCurrent) (s : Step) :
    (s.apply r).FormCurrent ↔ s.KeepsFormCurrent r := by
  cases s with
  | withHeader n v =>
    exact iff_of_true (formCurrent_of_formCache_eq_none (formCache_withHeader r n v))
      (keepsFormCurrent_of_setsHeader_eq_false rfl r)
  | withBody b =>
    exact iff_of_true (formCurrent_of_formCache_eq_none (formCache_withBody r b))
      (keepsFormCurrent_of_setsHeader_eq_false rfl r)
  | setHeader n v =>
    have hkeeps : (setHeader n v).KeepsFormCurrent r ↔
        r.formCache = none ∨ (r.setHeader n v).freshForm = r.freshForm :=
      ⟨fun h => h rfl, fun h _ => h⟩
    rw [hkeeps]
    cases hc : r.formCache with
    | none =>
      exact iff_of_true (formCurrent_of_formCache_eq_none ((formCache_setHeader r n v).trans hc))
        (.inl rfl)
    | some f =>
      -- the form kept before the header was set is the fresh form of the request before it
      have hkept : (r.setHeader n v).form = r.freshForm :=
        (form_setHeader_of_isSome (by simp [hc]) n v).trans hr
      show (r.setHeader n v).form = (r.setHeader n v).freshForm ↔ _
      rw [hkept]
      exact ⟨fun h => .inr h.symm, fun h => h.elim (fun h => nomatch h) Eq.symm⟩
  | withHost h =>
    exact iff_of_true (hr.of_same (formCache_withHost r h) (freshForm_withHost r h))
      (keepsFormCurrent_of_setsHeader_eq_false rfl r)
  | withRemoteAddr a =>
    exact iff_of_true (hr.of_same (formCache_withRemoteAddr r a) (freshForm_withRemoteAddr r a))
      (keepsFormCurrent_of_setsHeader_eq_false rfl r)
  | readForm =>
    -- the form read is the current one, so keeping it keeps the form current
    have hcur : r.readForm.FormCurrent := by
      unfold FormCurrent
      rw [form_readForm, freshForm_readForm]
      exact hr
    exact iff_of_true hcur (keepsFormCurrent_of_setsHeader_eq_false rfl r)

end Step

/-- The request after steps, in order. -/
def runSteps (r : Request) (steps : List Step) : Request := steps.foldl (fun r s => s.apply r) r

@[simp] theorem runSteps_nil (r : Request) : r.runSteps [] = r := rfl

@[simp] theorem runSteps_cons (r : Request) (s : Step) (steps : List Step) :
    r.runSteps (s :: steps) = (s.apply r).runSteps steps := rfl

/-- Every step of a sequence keeps the form current, each from the request before it. -/
def StepsKeepFormCurrent : Request → List Step → Prop
  | _, [] => True
  | r, s :: rest => s.KeepsFormCurrent r ∧ StepsKeepFormCurrent (s.apply r) rest

theorem runSteps_formCurrent {r : Request} (hr : r.FormCurrent) {steps : List Step}
    (h : StepsKeepFormCurrent r steps) : (r.runSteps steps).FormCurrent := by
  -- induction on the steps, the form being current before each
  induction steps generalizing r with
  | nil => exact hr
  | cons s rest ih =>
    obtain ⟨hs, hrest⟩ := h
    exact ih ((Step.formCurrent_apply_iff hr s).2 hs) hrest

/-- Along every sequence of steps from a new request in which no header set in place over a
kept form changes what a fresh read gives, the form gives each key the values of the body's
pairs and then the query's pairs in arrival order, and the query map gives each key its last
value. -/
theorem form_reflects_request (method target : String) (steps : List Step)
    (h : StepsKeepFormCurrent (make method target) steps) (k : String) :
    let r := (make method target).runSteps steps
    r.form.lookup k = formOf (r.bodyFormPairs ++ r.queryPairs) k ∧
      r.queryMap.lookup k = (valuesOf r.queryPairs k).getLast? := by
  intro r
  have hcur : r.FormCurrent :=
    runSteps_formCurrent (formCurrent_of_formCache_eq_none (formCache_make method target)) h
  exact ⟨hcur ▸ lookup_freshForm r k, lookup_queryMap r k⟩

theorem form_reflects_request_after_read :
    StepsKeepFormCurrent (make "POST" "/s?a=2")
        [.setHeader "Content-Type" "application/x-www-form-urlencoded",
          .withBody (Utf8.encode "a=1"), .readForm, .withHost "example.org"] ∧
      let r := (make "POST" "/s?a=2").runSteps
        [.setHeader "Content-Type" "application/x-www-form-urlencoded",
          .withBody (Utf8.encode "a=1"), .readForm, .withHost "example.org"]
      r.form.lookup "a" = formOf (r.bodyFormPairs ++ r.queryPairs) "a" ∧
        r.queryMap.lookup "a" = (valuesOf r.queryPairs "a").getLast? :=
  have h : StepsKeepFormCurrent (make "POST" "/s?a=2")
      [.setHeader "Content-Type" "application/x-www-form-urlencoded",
        .withBody (Utf8.encode "a=1"), .readForm, .withHost "example.org"] := by
    simp [StepsKeepFormCurrent, Step.KeepsFormCurrent, Step.setsHeader]
  ⟨h, form_reflects_request _ _ _ h "a"⟩

/-- A header set in place after a read leaves the kept form behind: the form of a body read
before its `Content-Type` was set stays empty, while the request as it stands reads `a = 1`. -/
theorem setHeader_leaves_form_stale :
    let r := ((make "POST" "/s").withBody (Utf8.encode "a=1")).readForm.setHeader "Content-Type"
      "application/x-www-form-urlencoded"
    r.form = [] ∧ r.freshForm = [("a", ["1"])] := by
  dsimp only
  constructor
  · -- the form was kept when read, before the header was set
    rw [form_setHeader_of_isSome (by simp), form_readForm]
    cbv
  · cbv

end Request

end Switchyard

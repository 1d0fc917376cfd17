import Switchyard.Dispatch.Step
/-!
# The rate limiter's budget

A rate limiter keeps a token bucket per client. `limiterAnswers` runs one over requests
`(client, instant)` in order, from its buckets, and `limiterAfter` gives the buckets it is left
with. For every run from a fresh limiter:

* no bucket ever holds more tokens than the capacity (`limiterAfter_withinCapacity`);
* the answers to one client's requests are the answers its requests get alone, since a request
  touches no other client's bucket (`answersTo_limiterAnswers`);
* over requests at non-decreasing instants, a client is admitted at most the capacity plus the
  whole tokens earned between its first and its last request (`count_admitted_le_budget`).

The budget is a potential argument, carried by `Account`: the requests admitted so far and the
tokens left never exceed the capacity plus the tokens earned up to the bucket's last refill,
counted from the first request. A refill moves whole tokens from what was earned into the
bucket, where the cap may drop some, and an admission moves one token out of the bucket into
the admitted count. Because the refill instant moves only with a refill, the floor of the
tokens earned is taken over one span per refill, and whole tokens over adjacent spans add up to
at most the whole tokens over their union.
-/
namespace Switchyard

/-! ## Runs of a limiter -/

/-- The answers a rate limiter gives to requests `(client, instant)` in order, from its
buckets. -/
def limiterAnswers (capacity refill : Nat) :
    List (String × Bucket) → List (String × Nat) → List Bool
  | _, [] => []
  | buckets, (key, now) :: calls =>
    (allowClient capacity refill key now buckets).1 ::
      limiterAnswers capacity refill (allowClient capacity refill key now buckets).2 calls

/-- The buckets a rate limiter holds after requests in order. -/
def limiterAfter (capacity refill : Nat) (buckets : List (String × Bucket))
    (calls : List (String × Nat)) : List (String × Bucket) :=
  calls.foldl (fun bs call => (allowClient capacity refill call.1 call.2 bs).2) buckets

/-- The answers a run gives to one client's requests, in order. -/
def answersTo (key : String) (calls : List (String × Nat)) (answers : List Bool) : List Bool :=
  ((calls.zip answers).filter (·.1.1 == key)).map (·.2)

/-- Every bucket holds at most the capacity. -/
def WithinCapacity (capacity : Nat) (buckets : List (String × Bucket)) : Prop :=
  ∀ p ∈ buckets, p.2.tokens ≤ capacity

section Buckets

variable {capacity refill now : Nat} {key k : String} {buckets : List (String × Bucket)}

theorem lookup_filter_ne (hk : k ≠ key) :
    (buckets.filter (·.1 != key)).lookup k = buckets.lookup k := by
  induction buckets with
  | nil => rfl
  | cons p ps ih =>
    obtain ⟨k', b⟩ := p
    by_cases hkey : k' = key
    · subst hkey
      have hne : (k == k') = false := by simp [hk]
      simp [List.lookup_cons, hne, ih]
    · simp only [List.filter_cons, bne_iff_ne, ne_eq, hkey, not_false_eq_true, if_true,
        List.lookup_cons, ih]

/-- A request touches no other client's bucket. -/
theorem lookup_allowClient_of_ne (hk : k ≠ key) :
    (allowClient capacity refill key now buckets).2.lookup k = buckets.lookup k := by
  have hne : (k == key) = false := by simp [hk]
  simp [allowClient, List.lookup_cons, hne, lookup_filter_ne hk]

/-- After a request, its client's bucket is the one it had, or a full one, after one draw. -/
theorem lookup_allowClient_self :
    (allowClient capacity refill key now buckets).2.lookup key =
      some (((buckets.lookup key).getD ⟨capacity, now⟩).draw capacity refill now).2 := by
  simp [allowClient]

theorem allowClient_fst :
    (allowClient capacity refill key now buckets).1 =
      (((buckets.lookup key).getD ⟨capacity, now⟩).draw capacity refill now).1 := rfl

end Buckets

/-! ## What one draw does -/

section Draw

variable (capacity refill now : Nat) (b : Bucket)

/-- A draw moves the refill instant to its own only when it earns a token. -/
theorem draw_lastRefill :
    (b.draw capacity refill now).2.lastRefill =
      if 0 < (now - b.lastRefill) * refill / 1000 then now else b.lastRefill := by
  unfold Bucket.draw
  by_cases hgain : 0 < (now - b.lastRefill) * refill / 1000 <;>
    simp only [gt_iff_lt, hgain, if_true, if_false] <;> split <;> rfl

/-- The token a draw admits and the tokens it leaves are the tokens after its refill. -/
theorem draw_toNat_add_tokens :
    (b.draw capacity refill now).1.toNat + (b.draw capacity refill now).2.tokens =
      if 0 < (now - b.lastRefill) * refill / 1000 then
        min (b.tokens + (now - b.lastRefill) * refill / 1000) capacity
      else b.tokens := by
  unfold Bucket.draw
  by_cases hgain : 0 < (now - b.lastRefill) * refill / 1000 <;>
    simp only [gt_iff_lt, hgain, if_true, if_false] <;> split <;> simp <;> omega

end Draw

/-! ## No bucket holds more than the capacity -/

theorem draw_tokens_le {capacity refill now : Nat} {b : Bucket} (hb : b.tokens ≤ capacity) :
    (b.draw capacity refill now).2.tokens ≤ capacity := by
  have hsum := draw_toNat_add_tokens capacity refill now b
  -- the refill caps the bucket, and the admission only takes from it
  split at hsum
  · have := Nat.min_le_right (b.tokens + (now - b.lastRefill) * refill / 1000) capacity
    omega
  · omega

theorem WithinCapacity.allowClient {capacity refill now : Nat} {key : String}
    {buckets : List (String × Bucket)} (h : WithinCapacity capacity buckets) :
    WithinCapacity capacity (allowClient capacity refill key now buckets).2 := by
  have hstart : ((buckets.lookup key).getD ⟨capacity, now⟩).tokens ≤ capacity := by
    cases hb : buckets.lookup key with
    | none => exact Nat.le_refl _
    | some b =>
      obtain ⟨l₁, l₂, hsplit, -⟩ := List.lookup_eq_some_iff.mp hb
      exact h (key, b) (by simp [hsplit])
  rintro ⟨k, b⟩ hmem
  simp only [Switchyard.allowClient, List.mem_cons, Prod.mk.injEq, List.mem_filter] at hmem
  rcases hmem with ⟨-, rfl⟩ | ⟨hmem, -⟩
  · exact draw_tokens_le hstart
  · exact h _ hmem

/-- No run takes a bucket past the capacity. -/
theorem limiterAfter_withinCapacity {capacity refill : Nat} {buckets : List (String × Bucket)}
    (h : WithinCapacity capacity buckets) (calls : List (String × Nat)) :
    WithinCapacity capacity (limiterAfter capacity refill buckets calls) := by
  induction calls generalizing buckets with
  | nil => exact h
  | cons call calls ih => exact ih h.allowClient

/-! ## Other clients never change a client's answers -/

/-- The answers to a client's requests depend on its own bucket and requests only: the run from
any buckets that agree on its bucket, over its requests alone, gives the same answers. -/
theorem answersTo_limiterAnswers (capacity refill : Nat) (key : String)
    (calls : List (String × Nat)) {buckets buckets' : List (String × Bucket)}
    (hb : buckets.lookup key = buckets'.lookup key) :
    answersTo key calls (limiterAnswers capacity refill buckets calls) =
      limiterAnswers capacity refill buckets' (calls.filter (·.1 == key)) := by
  induction calls generalizing buckets buckets' with
  | nil => rfl
  | cons call calls ih =>
    obtain ⟨k, now⟩ := call
    by_cases hk : k = key
    · -- the client's own request: both runs draw from the same bucket
      subst hk
      have hnext : (allowClient capacity refill k now buckets).2.lookup k =
          (allowClient capacity refill k now buckets').2.lookup k := by
        rw [lookup_allowClient_self, lookup_allowClient_self, hb]
      have hrest := ih hnext
      simp only [answersTo, limiterAnswers, List.zip_cons_cons, List.filter_cons, beq_self_eq_true,
        if_true, List.map_cons] at hrest ⊢
      rw [allowClient_fst, allowClient_fst, hb, hrest]
    · -- another client's request leaves the client's bucket alone and is dropped from both
      have hnext :
          (allowClient capacity refill k now buckets).2.lookup key = buckets'.lookup key := by
        rw [lookup_allowClient_of_ne (Ne.symm hk), hb]
      have hrest := ih hnext
      have hne : (k == key) = false := by simp [hk]
      simp only [answersTo, limiterAnswers, List.zip_cons_cons, List.filter_cons, hne,
        Bool.false_eq_true, if_false] at hrest ⊢
      exact hrest

/-! ## The budget -/

/-- A client's account after `admitted` admissions, at `now`, since its first request at
`first`: the bucket was last refilled between the two, and what was admitted and what is left
are covered by the capacity and the whole tokens earned up to the last refill. -/
structure Account (capacity refill first now admitted : Nat) (b : Bucket) : Prop where
  first_le : first ≤ b.lastRefill
  le_now : b.lastRefill ≤ now
  covered : admitted + b.tokens ≤ capacity + refill * (b.lastRefill - first) / 1000

namespace Account

variable {capacity refill first now admitted : Nat} {b : Bucket}

/-- A first request finds a full bucket and leaves an account. -/
theorem start (capacity refill now : Nat) :
    Account capacity refill now now (Bucket.draw capacity refill now ⟨capacity, now⟩).1.toNat
      (Bucket.draw capacity refill now ⟨capacity, now⟩).2 := by
  have hlast := draw_lastRefill capacity refill now ⟨capacity, now⟩
  have hsum := draw_toNat_add_tokens capacity refill now ⟨capacity, now⟩
  -- nothing is earned at the first request
  simp only [Nat.sub_self, Nat.zero_mul, Nat.zero_div, Nat.lt_irrefl, if_false] at hlast hsum
  exact ⟨by omega, by omega, by rw [hlast]; omega⟩

/-- One more request, no earlier than the last, keeps the account. -/
theorem draw (hacc : Account capacity refill first now admitted b) {now' : Nat}
    (hnow : now ≤ now') :
    Account capacity refill first now' (admitted + (b.draw capacity refill now').1.toNat)
      (b.draw capacity refill now').2 := by
  obtain ⟨hfirst, hlast, hcovered⟩ := hacc
  have hmoved := draw_lastRefill capacity refill now' b
  have hsum := draw_toNat_add_tokens capacity refill now' b
  split at hmoved
  · -- a refill turns the whole tokens earned since the last refill into tokens of the bucket;
    -- moving the refill instant up to `now'` adds at least as many to the account
    have hsplit : refill * (b.lastRefill - first) / 1000 + (now' - b.lastRefill) * refill / 1000 ≤
        refill * (now' - first) / 1000 := by
      have hspan : refill * (b.lastRefill - first) + (now' - b.lastRefill) * refill =
          refill * (now' - first) := by
        rw [Nat.mul_comm (now' - b.lastRefill), ← Nat.mul_add]
        congr 1
        omega
      rw [← hspan]
      exact Nat.div_add_div_le_add_div
    have hmin := Nat.min_le_left (b.tokens + (now' - b.lastRefill) * refill / 1000) capacity
    rw [if_pos ‹_›] at hsum
    refine ⟨by omega, by omega, ?_⟩
    rw [hmoved]
    omega
  · -- nothing earned yet: the refill instant stays, and the tokens only move to the admitted
    rw [if_neg ‹_›] at hsum
    refine ⟨by omega, by omega, ?_⟩
    rw [hmoved]
    omega

/-- An account bounds the admissions by the budget at its instant. -/
theorem admitted_le (hacc : Account capacity refill first now admitted b) :
    admitted ≤ capacity + refill * (now - first) / 1000 := by
  have hearned : refill * (b.lastRefill - first) / 1000 ≤ refill * (now - first) / 1000 :=
    Nat.div_le_div_right (Nat.mul_le_mul_left _ (Nat.sub_le_sub_right hacc.le_now _))
  have := hacc.covered
  omega

end Account

theorem count_true_cons (a : Bool) (l : List Bool) :
    (a :: l).count true = l.count true + a.toNat := by
  cases a <;> simp

/-- A run over one client's requests at non-decreasing instants keeps its account, so the
admissions stay within the budget at the last request. -/
theorem account_run {capacity refill first : Nat} {key : String} (ts : List Nat) :
    ∀ {now admitted : Nat} {b : Bucket} {buckets : List (String × Bucket)},
      (now :: ts).Pairwise (· ≤ ·) → buckets.lookup key = some b →
      Account capacity refill first now admitted b →
      admitted + (limiterAnswers capacity refill buckets (ts.map (key, ·))).count true ≤
        capacity + refill * (ts.getLastD now - first) / 1000 := by
  induction ts with
  | nil =>
    intro now admitted b buckets _ _ hacc
    simpa [limiterAnswers] using hacc.admitted_le
  | cons t ts ih =>
    intro now admitted b buckets hsorted hb hacc
    have hle : now ≤ t := List.rel_of_pairwise_cons hsorted List.mem_cons_self
    -- the request draws from the client's bucket, and the run goes on from the bucket it leaves
    have hanswer :
        (allowClient capacity refill key t buckets).1 = (b.draw capacity refill t).1 := by
      rw [allowClient_fst, hb]
      rfl
    have hnext := ih (List.Pairwise.of_cons hsorted)
      (by rw [lookup_allowClient_self, hb]; rfl) (hacc.draw hle)
    rw [List.map_cons, limiterAnswers, count_true_cons, hanswer, List.getLastD_cons]
    omega

/-- Over requests at non-decreasing instants, a fresh limiter admits a client at most the
capacity plus the whole tokens earned between the first and the last request. -/
theorem count_admitted_le_budget (capacity refill : Nat) (key : String) (ts : List Nat)
    (hsorted : ts.Pairwise (· ≤ ·)) :
    (limiterAnswers capacity refill [] (ts.map (key, ·))).count true ≤
      capacity + refill * (ts.getLastD 0 - ts.headD 0) / 1000 := by
  cases ts with
  | nil => simp [limiterAnswers]
  | cons t ts =>
    -- the first request finds a full bucket refilled at its own instant
    have hfirst : (allowClient capacity refill key t []).2.lookup key =
        some (Bucket.draw capacity refill t ⟨capacity, t⟩).2 := by
      rw [lookup_allowClient_self]
      rfl
    have hrun := account_run ts hsorted hfirst (Account.start capacity refill t)
    rw [List.map_cons, limiterAnswers, count_true_cons, allowClient_fst, List.getLastD_cons,
      List.headD_cons]
    exact Nat.le_trans (Nat.le_of_eq (Nat.add_comm _ _)) hrun

/-- A rate limiter never admits more than its budget. From a fresh limiter, over any requests
of any clients: no bucket ever holds more than the capacity; the answers to one client's
requests are those its requests get alone; and when that client's requests come at
non-decreasing instants, it is admitted at most the capacity plus the whole tokens earned at
`refill` a second between its first and its last request. -/
theorem rateLimit_within_budget (capacity refill : Nat) (key : String)
    (calls : List (String × Nat))
    (hsorted : ((calls.filter (·.1 == key)).map (·.2)).Pairwise (· ≤ ·)) :
    WithinCapacity capacity (limiterAfter capacity refill [] calls) ∧
    answersTo key calls (limiterAnswers capacity refill [] calls) =
      limiterAnswers capacity refill [] (calls.filter (·.1 == key)) ∧
    (answersTo key calls (limiterAnswers capacity refill [] calls)).count true ≤
      capacity + refill * (((calls.filter (·.1 == key)).map (·.2)).getLastD 0 -
        ((calls.filter (·.1 == key)).map (·.2)).headD 0) / 1000 := by
  have hown : answersTo key calls (limiterAnswers capacity refill [] calls) =
      limiterAnswers capacity refill [] (calls.filter (·.1 == key)) :=
    answersTo_limiterAnswers capacity refill key calls rfl
  -- the client's requests are its instants, each under its own key
  have hkeys :
      ((calls.filter (·.1 == key)).map (·.2)).map (key, ·) = calls.filter (·.1 == key) := by
    rw [List.map_map]
    refine Eq.trans (List.map_congr_left fun p hp => ?_) (List.map_id _)
    have hkey : p.1 = key := by simpa using (List.mem_filter.mp hp).2
    exact Prod.ext hkey.symm rfl
  have hbudget := count_admitted_le_budget capacity refill key _ hsorted
  rw [hkeys] at hbudget
  refine ⟨limiterAfter_withinCapacity (by simp [WithinCapacity]) calls, hown, ?_⟩
  rw [hown]
  exact hbudget

/-- Two clients sharing a limiter of one token refilled every second: `a` asks at 0 and 1500 ms,
and `b` in between. -/
theorem rateLimit_within_budget_two_clients :
    ((([("a", 0), ("b", 5), ("a", 1500)] : List (String × Nat)).filter (·.1 == "a")).map
      (·.2)).Pairwise (· ≤ ·) ∧
    WithinCapacity 1 (limiterAfter 1 1 [] [("a", 0), ("b", 5), ("a", 1500)]) ∧
    answersTo "a" [("a", 0), ("b", 5), ("a", 1500)]
        (limiterAnswers 1 1 [] [("a", 0), ("b", 5), ("a", 1500)]) =
      limiterAnswers 1 1 [] ([("a", 0), ("b", 5), ("a", 1500)].filter (·.1 == "a")) ∧
    (answersTo "a" [("a", 0), ("b", 5), ("a", 1500)]
        (limiterAnswers 1 1 [] [("a", 0), ("b", 5), ("a", 1500)])).count true ≤
      1 + 1 * (((([("a", 0), ("b", 5), ("a", 1500)] : List (String × Nat)).filter
        (·.1 == "a")).map (·.2)).getLastD 0 - ((([("a", 0), ("b", 5), ("a", 1500)] :
        List (String × Nat)).filter (·.1 == "a")).map (·.2)).headD 0) / 1000 :=
  ⟨by decide, rateLimit_within_budget 1 1 "a" _ (by decide)⟩

end Switchyard

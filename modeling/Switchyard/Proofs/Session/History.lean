import Switchyard.Proofs.Http.Form
import Switchyard.Session
/-!
# A memory session read off its history

Callers drive a session by seven operations (`SessionOp`), and `Session.perform` gives the reply
to one and the session after it; a failed operation leaves the session as it was
(`Session.perform_of_failed`).

What a session in memory shows (`Session.view`: whether it started, the value under each key,
the flash messages waiting, the refresh count) is read off the operations performed on it since
it was made (`SessionOp.reading`):

* before the first `start` nothing takes effect: every change, `flashes` included, fails with
  `session not started`, while `get` answers;
* from the first `start` on every operation takes effect (`SessionOp.effective`): a key holds the
  value of its last `set`, unless a `delete` of it came later (`SessionOp.stored`), `flashes`
  takes the messages flashed since the last `flashes`, in flash order (`SessionOp.pending`), and
  the refresh count is the number of refreshes (`SessionOp.refreshes`).

Both the session and this reading run one reference model, `SessionView.step`: a map, a queue
and a counter that change only once started (`Session.perform_of_memory`,
`SessionOp.reading_append`). The main statement is `memorySession_follows_history`.
-/
namespace Switchyard

/-- An operation a caller performs on a session. -/
inductive SessionOp where
  | start
  | get (key : String)
  | set (key : String) (value : Json)
  | delete (key : String)
  | flash (message : String)
  | flashes
  | refresh

/-- What a session answers to an operation. -/
inductive SessionReply where
  /-- The operation succeeded. -/
  | done
  /-- The value under a key, if any. -/
  | value (v : Option Json)
  /-- The flash messages taken. -/
  | messages (ms : List String)
  /-- The operation failed. -/
  | failed (e : Error)

namespace Session

/-- The reply to a change that may fail, and the session after it: a failure leaves the session
as it was. -/
def settle (s : Session) : Except Error Session → SessionReply × Session
  | .ok s' => (.done, s')
  | .error e => (.failed e, s)

/-- Performs an operation on a session. -/
def perform (s : Session) : SessionOp → SessionReply × Session
  | .start => s.settle s.start
  | .get k => (.value (s.get k), s)
  | .set k v => s.settle (s.set k v)
  | .delete k => s.settle (s.delete k)
  | .flash m => s.settle (s.flash m)
  | .flashes =>
    match s.takeFlashes with
    | .ok (ms, s') => (.messages ms, s')
    | .error e => (.failed e, s)
  | .refresh => s.settle s.refresh

/-- The session after operations in order. -/
def replay (s : Session) (h : List SessionOp) : Session :=
  h.foldl (fun s op => (s.perform op).2) s

/-! ## One spec lemma per operation -/

/-- The error of a change made before the session was started. -/
def notStarted : Error := .session "session not started"

variable (s : Session)

theorem ensureStarted_bind {α : Type} (x : Unit → Except Error α) :
    s.ensureStarted >>= x = if s.started then x () else .error notStarted := by
  unfold ensureStarted
  split <;> rfl

theorem set_eq (k : String) (v : Json) :
    s.set k v = if s.started then .ok { s with values := upsertKey s.values k (fun _ => v) v }
      else .error notStarted := by
  rw [set, ensureStarted_bind]
  rfl

theorem delete_eq (k : String) :
    s.delete k = if s.started then .ok { s with values := s.values.filter (·.1 != k) }
      else .error notStarted := by
  rw [delete, ensureStarted_bind]
  rfl

theorem flash_eq (m : String) :
    s.flash m = if s.started then .ok { s with flashes := s.flashes ++ [m] }
      else .error notStarted := by
  rw [flash, ensureStarted_bind]
  rfl

theorem takeFlashes_eq :
    s.takeFlashes = if s.started then .ok (s.flashes, { s with flashes := [] })
      else .error notStarted := by
  rw [takeFlashes, ensureStarted_bind]
  rfl

theorem refresh_eq_of_memory (hs : s.store = .memory) :
    s.refresh = if s.started then .ok { s with refreshed := s.refreshed + 1 }
      else .error notStarted := by
  rw [refresh, hs]
  exact ensureStarted_bind s _

theorem start_eq_of_memory (hs : s.store = .memory) : s.start = .ok { s with started := true } := by
  rw [start, hs]

end Session

/-- Removing the entries of a key leaves it none and every other key its entry. -/
theorem lookup_filter_key {β : Type} (entries : List (String × β)) (k₀ k : String) :
    (entries.filter (·.1 != k₀)).lookup k = if k = k₀ then none else entries.lookup k := by
  induction entries with
  | nil => simp
  | cons e rest ih =>
    obtain ⟨a, x⟩ := e
    by_cases hk : k = a
    · subst hk
      by_cases ha : k = k₀
      · subst ha
        simpa using ih
      · simp [ha]
    · have hne : (k == a) = false := by simpa using hk
      by_cases ha : a = k₀
      · subst ha
        simp [ih, hne, hk, List.lookup_cons]
      · simp [ha, ih, hne, List.lookup_cons]

theorem getD_map_const {α β : Type} (o : Option α) (v : β) : (o.map fun _ => v).getD v = v := by
  cases o <;> rfl

/-! ## The reading of a history -/

namespace SessionOp

/-- Whether an operation starts the session. -/
def isStart : SessionOp → Bool
  | start => true
  | _ => false

/-- Whether an operation takes the flash messages. -/
def isFlashes : SessionOp → Bool
  | flashes => true
  | _ => false

/-- Whether an operation refreshes the session. -/
def isRefresh : SessionOp → Bool
  | refresh => true
  | _ => false

/-- The message an operation flashes. -/
def flashed? : SessionOp → Option String
  | flash m => some m
  | _ => none

/-- What an operation writes under a key: `some (some v)` for a `set` of it, `some none` for a
`delete` of it, and `none` for any other operation. -/
def written? (k : String) : SessionOp → Option (Option Json)
  | set k' v => if k = k' then some (some v) else none
  | delete k' => if k = k' then some none else none
  | _ => none

theorem getD_written?_set (k k' : String) (x : Json) (d : Option Json) :
    ((set k x).written? k').getD d = if k' = k then some x else d := by
  by_cases hk : k' = k <;> simp [written?, hk]

theorem getD_written?_delete (k k' : String) (d : Option Json) :
    ((delete k).written? k').getD d = if k' = k then none else d := by
  by_cases hk : k' = k <;> simp [written?, hk]

/-- Whether a history started the session. -/
def started (h : List SessionOp) : Bool := h.any isStart

/-- The operations of a history that take effect: those from its first `start` on. -/
def effective (h : List SessionOp) : List SessionOp := h.dropWhile (!·.isStart)

/-- The value a history leaves under a key: that of the last effective `set` of the key, unless
an effective `delete` of it came later. -/
def stored (h : List SessionOp) (k : String) : Option Json :=
  ((effective h).reverse.findSome? (written? k)).join

/-- The messages flashed since the last effective `flashes`, in flash order. -/
def pending (h : List SessionOp) : List String :=
  ((effective h).reverse.takeWhile (!·.isFlashes)).reverse.filterMap flashed?

/-- The number of effective refreshes. -/
def refreshes (h : List SessionOp) : Nat := (effective h).countP isRefresh

theorem started_append (h : List SessionOp) (op : SessionOp) :
    started (h ++ [op]) = (started h || op.isStart) := by
  simp [started]

section Reading

variable {h : List SessionOp}

/-! ### Before the first start nothing takes effect -/

theorem effective_of_not_started (hs : started h = false) : effective h = [] := by
  simp only [started, List.any_eq_false] at hs
  simp only [effective, List.dropWhile_eq_nil_iff]
  intro op hop
  simpa using hs op hop

theorem stored_of_not_started (hs : started h = false) (k : String) : stored h k = none := by
  simp [stored, effective_of_not_started hs]

/-- Before the first start only a `start` takes effect. -/
theorem effective_append_of_not_started (hs : started h = false) (op : SessionOp) :
    effective (h ++ [op]) = if op.isStart then [op] else [] := by
  have hnil : (effective h).isEmpty = true := by simp [effective_of_not_started hs]
  rw [effective, List.dropWhile_append, ← effective, hnil, if_pos rfl]
  cases op <;> rfl

/-- A first `start` stores nothing: no operation before it took effect. -/
theorem stored_append_of_not_started (hs : started h = false) (op : SessionOp) :
    stored (h ++ [op]) = stored h := by
  funext k
  rw [stored_of_not_started hs, stored, effective_append_of_not_started hs]
  cases op <;> rfl

/-! ### After it every operation takes effect -/

theorem effective_append_of_started (hs : started h = true) (op : SessionOp) :
    effective (h ++ [op]) = effective h ++ [op] := by
  have hne : (effective h).isEmpty = false := by
    rw [List.isEmpty_eq_false_iff, ne_eq, effective, List.dropWhile_eq_nil_iff]
    intro hall
    obtain ⟨x, hx, hstart⟩ := List.any_eq_true.1 hs
    simpa [hstart] using hall x hx
  rw [effective, List.dropWhile_append, ← effective, hne]
  rfl

theorem stored_append_of_started (hs : started h = true) (op : SessionOp) :
    stored (h ++ [op]) = fun k => (op.written? k).getD (stored h k) := by
  funext k
  simp only [stored, effective_append_of_started hs, List.reverse_append, List.reverse_cons,
    List.reverse_nil, List.nil_append, List.singleton_append, List.findSome?_cons]
  cases op.written? k <;> rfl

theorem pending_append_of_started (hs : started h = true) (op : SessionOp) :
    pending (h ++ [op]) = if op.isFlashes then [] else pending h ++ op.flashed?.toList := by
  simp only [pending, effective_append_of_started hs, List.reverse_append, List.reverse_cons,
    List.reverse_nil, List.nil_append, List.singleton_append, List.takeWhile_cons]
  cases op <;> simp [isFlashes, flashed?]

theorem refreshes_append_of_started (hs : started h = true) (op : SessionOp) :
    refreshes (h ++ [op]) = refreshes h + if op.isRefresh then 1 else 0 := by
  simp only [refreshes, effective_append_of_started hs, List.countP_append]
  cases op <;> rfl

end Reading

end SessionOp

/-! ## What a session shows, and its reference model -/

/-- What a session shows its callers: whether it started, the value under each key, the flash
messages waiting and the refresh count. -/
structure SessionView where
  started : Bool
  stored : String → Option Json
  pending : List String
  refreshes : Nat

namespace SessionView

/-- The reference model of a session in memory: a map from keys to values, a queue of messages
and a counter, none of which changes before a `start`. -/
def step (v : SessionView) : SessionOp → SessionView
  | .start => { v with started := true }
  | .get _ => v
  | .set k x =>
    if v.started then { v with stored := fun k' => if k' = k then some x else v.stored k' } else v
  | .delete k =>
    if v.started then { v with stored := fun k' => if k' = k then none else v.stored k' } else v
  | .flash m => if v.started then { v with pending := v.pending ++ [m] } else v
  | .flashes => if v.started then { v with pending := [] } else v
  | .refresh => if v.started then { v with refreshes := v.refreshes + 1 } else v

/-- What the reference model answers: a change fails before a `start`, `get` reads the map and
`flashes` takes the queue. -/
def reply (v : SessionView) : SessionOp → SessionReply
  | .start => .done
  | .get k => .value (v.stored k)
  | .flashes => if v.started then .messages v.pending else .failed Session.notStarted
  | _ => if v.started then .done else .failed Session.notStarted

end SessionView

/-- What a session shows. -/
def Session.view (s : Session) : SessionView :=
  ⟨s.started, fun k => s.values.lookup k, s.flashes, s.refreshed⟩

/-- What a history leaves a session in memory showing. -/
def SessionOp.reading (h : List SessionOp) : SessionView :=
  ⟨SessionOp.started h, SessionOp.stored h, SessionOp.pending h, SessionOp.refreshes h⟩

namespace SessionOp

/-- Reading a history one more operation on is a step of the reference model. -/
theorem reading_append (h : List SessionOp) (op : SessionOp) :
    reading (h ++ [op]) = (reading h).step op := by
  cases hs : started h with
  | false =>
    -- before the first start only a `start` takes effect, and it leaves nothing behind
    have heff := effective_append_of_not_started hs op
    cases op <;>
      simp [reading, SessionView.step, hs, started_append, stored_append_of_not_started hs,
        pending, refreshes, heff, effective_of_not_started hs, isStart, isFlashes, flashed?,
        isRefresh]
  | true =>
    -- every operation takes effect: each part of the reading moves by one step
    simp only [reading, started_append, stored_append_of_started hs, pending_append_of_started hs,
      refreshes_append_of_started hs]
    cases op with
    | set k x => simp [SessionView.step, hs, isStart, isFlashes, flashed?, isRefresh,
        getD_written?_set]
    | delete k => simp [SessionView.step, hs, isStart, isFlashes, flashed?, isRefresh,
        getD_written?_delete]
    | _ => simp [SessionView.step, hs, isStart, isFlashes, flashed?, isRefresh, written?]

end SessionOp

/-! ## A memory session runs the reference model -/

namespace Session

variable (s : Session)

/-- One operation on a session in memory: it answers as the reference model does, and what the
session shows after it is one step of the model. -/
theorem perform_of_memory (hs : s.store = .memory) (op : SessionOp) :
    (s.perform op).1 = s.view.reply op ∧ (s.perform op).2.view = s.view.step op ∧
      (s.perform op).2.store = .memory := by
  cases hst : s.started with
  | false =>
    -- nothing but a `start` changes an unstarted session
    cases op <;>
      simp [perform, settle, start_eq_of_memory s hs, set_eq, delete_eq, flash_eq,
        takeFlashes_eq, refresh_eq_of_memory s hs, view, SessionView.reply, SessionView.step,
        hst, hs, get]
  | true =>
    cases op <;>
      simp [perform, settle, start_eq_of_memory s hs, set_eq, delete_eq, flash_eq,
        takeFlashes_eq, refresh_eq_of_memory s hs, view, SessionView.reply, SessionView.step,
        hst, hs, get, lookup_upsertKey, getD_map_const, lookup_filter_key]

theorem settle_of_failed {r : Except Error Session} {e : Error} (h : (s.settle r).1 = .failed e) :
    (s.settle r).2 = s := by
  cases r with
  | ok s' => simp [settle] at h
  | error e' => rfl

/-- A failed operation leaves the session as it was. -/
theorem perform_of_failed {op : SessionOp} {e : Error} (h : (s.perform op).1 = .failed e) :
    (s.perform op).2 = s := by
  cases op with
  | get k => simp [perform] at h
  | flashes =>
    cases hr : s.takeFlashes with
    | ok r => simp [perform, hr] at h
    | error e' => simp [perform, hr]
  | start => exact s.settle_of_failed h
  | set k v => exact s.settle_of_failed h
  | delete k => exact s.settle_of_failed h
  | flash m => exact s.settle_of_failed h
  | refresh => exact s.settle_of_failed h

/-- What a session in memory shows after operations is the reference model run over them. -/
theorem view_replay (hs : s.store = .memory) (h : List SessionOp) :
    (s.replay h).view = h.foldl SessionView.step s.view ∧ (s.replay h).store = .memory := by
  induction h generalizing s with
  | nil => exact ⟨rfl, hs⟩
  | cons op h ih =>
    obtain ⟨-, hview, hmem⟩ := s.perform_of_memory hs op
    obtain ⟨hrest, hmem'⟩ := ih (s.perform op).2 hmem
    refine ⟨?_, hmem'⟩
    rw [replay, List.foldl_cons, ← replay, hrest, hview, List.foldl_cons]

end Session

/-- The reading of a history is the reference model run over it from a fresh session. -/
theorem SessionOp.reading_eq_foldl (h : List SessionOp) :
    SessionOp.reading h = h.foldl SessionView.step (Session.fresh .memory).view := by
  induction h using List.reverseRecOn with
  | nil => rfl
  | append_singleton h op ih => rw [reading_append, ih, List.foldl_append, List.foldl_cons]; rfl

/-- A session in memory answers every operation, after any history, as the reading of that
history says: a change fails before the first start, `get` reads the last effective `set` or
`delete` of its key, `flashes` takes what was flashed since the last `flashes`. A failed
operation leaves the session as it was, and the refresh count is the number of effective
refreshes. -/
theorem memorySession_follows_history (h : List SessionOp) (op : SessionOp) :
    let s := (Session.fresh .memory).replay h
    (s.perform op).1 = (SessionOp.reading h).reply op ∧
      (∀ e, (s.perform op).1 = .failed e → (s.perform op).2 = s) ∧
      s.refreshed = SessionOp.refreshes h := by
  intro s
  obtain ⟨hview, hmem⟩ := (Session.fresh .memory).view_replay rfl h
  have hreading : s.view = SessionOp.reading h := hview.trans (SessionOp.reading_eq_foldl h).symm
  refine ⟨?_, fun e he => s.perform_of_failed he, ?_⟩
  · rw [(s.perform_of_memory hmem op).1, hreading]
  · exact congrArg SessionView.refreshes hreading

end Switchyard

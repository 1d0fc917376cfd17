import Switchyard.Proofs.Http.Recording
/-!
# What a buffered response holds

A writer over a fresh buffer answers, when its response is taken, with what a plain reading of
its operations gives:

* the status of the first `writeHeader`, or `200` when a `write` comes first or nothing commits
  (`WriterOp.statusOf`);
* every octet written, in order (`WriterOp.writtenOf`);
* the fields read as a multimap (`FieldMap`), each name with its values in order, built from the
  empty one (`WriterOp.fieldsOf`): setting replaces every value of a name, adding appends,
  removing drops the name, and a merge replaces every name it carries and keeps the others; an
  invalid name or value changes nothing.

An error is read as the operations it stands for (`WriterOp.expand`): the plain-text and
no-sniffing fields, its status, then its message and a newline.

`HeaderMap.getAll` is the multimap a header map stands for; `getAll_append`, `getAll_remove`,
`getAll_insert` and `getAll_merge` say what each change of the map does to it. The main
statement is `Sinks.take_fresh_eq_reading`.
-/
namespace Switchyard

/-- Header fields read as a multimap: the values of each name, in order. -/
abbrev FieldMap := HeaderName → List HeaderValue

namespace FieldMap

/-- No fields. -/
def empty : FieldMap := fun _ => []

/-- Every value of a name replaced by one. -/
def set (m : FieldMap) (n : HeaderName) (v : HeaderValue) : FieldMap :=
  fun k => if k = n then [v] else m k

/-- A value added after the others of its name. -/
def add (m : FieldMap) (n : HeaderName) (v : HeaderValue) : FieldMap :=
  fun k => if k = n then m k ++ [v] else m k

/-- A name dropped. -/
def drop (m : FieldMap) (n : HeaderName) : FieldMap :=
  fun k => if k = n then [] else m k

/-- The names `f` carries take its values; the others keep theirs. -/
def merge (m f : FieldMap) : FieldMap :=
  fun k => if f k = [] then m k else f k

end FieldMap

/-! ## Header maps as multimaps -/

namespace HeaderMap

variable (m : HeaderMap) (n : HeaderName) (v : HeaderValue)

theorem getAll_append : (m.append n v).getAll = FieldMap.add m.getAll n v := by
  funext k
  by_cases hk : k = n
  · subst hk
    simp [append, getAll, FieldMap.add]
  · simp [append, getAll, FieldMap.add, hk, Ne.symm hk]

/-- Keeping the fields whose names pass a test keeps every value of a passing name and none of
any other. -/
theorem getAll_filter (fs : List (HeaderName × HeaderValue)) (q : HeaderName → Bool)
    (k : HeaderName) :
    getAll ⟨fs.filter fun f => q f.1⟩ k = if q k then getAll ⟨fs⟩ k else [] := by
  simp only [getAll, List.filterMap_filter]
  cases hq : q k with
  | true =>
    -- a field of the name passes, and any other field is no value of it anyway
    refine List.filterMap_congr fun f _ => ?_
    by_cases hf : f.1 = k <;> simp [hf, hq]
  | false =>
    refine List.filterMap_eq_nil_iff.2 fun f _ => ?_
    by_cases hf : f.1 = k <;> simp [hf, hq]

theorem getAll_mk_append (fs gs : List (HeaderName × HeaderValue)) (k : HeaderName) :
    getAll ⟨fs ++ gs⟩ k = getAll ⟨fs⟩ k ++ getAll ⟨gs⟩ k := by
  simp [getAll]

theorem getAll_remove : (m.remove n).getAll = FieldMap.drop m.getAll n := by
  funext k
  refine (getAll_filter m.fields (· != n) k).trans ?_
  by_cases hk : k = n <;> simp [FieldMap.drop, hk]

theorem getAll_insert : (m.insert n v).getAll = FieldMap.set m.getAll n v := by
  funext k
  by_cases hk : k = n <;>
    simp [insert, getAll_append, getAll_remove, FieldMap.add, FieldMap.drop, FieldMap.set, hk]

/-- A name is among a map's names exactly when it has a value there. -/
theorem mem_names_iff (k : HeaderName) : k ∈ m.names ↔ m.getAll k ≠ [] := by
  simp [names, getAll, List.filterMap_eq_nil_iff]

theorem getAll_merge (f : HeaderMap) : (m.merge f).getAll = FieldMap.merge m.getAll f.getAll := by
  funext k
  show getAll ⟨(m.fields.filter fun g => !f.names.contains g.1) ++ f.fields⟩ k = _
  rw [getAll_mk_append, getAll_filter m.fields (fun a => !f.names.contains a) k]
  by_cases hk : f.getAll k = []
  · -- a name the merge does not carry keeps its values
    have hnot : k ∉ f.names := by simpa [mem_names_iff] using hk
    simp [hnot, hk, FieldMap.merge]
  · -- a name the merge carries takes the merge's values
    have hmem : k ∈ f.names := (mem_names_iff f k).2 hk
    simp [hmem, hk, FieldMap.merge]

end HeaderMap

/-! ## The plain reading of writer operations -/

namespace WriterOp

/-- What an operation does to fields read as a multimap; an invalid name or value changes
nothing, and an operation that changes no field leaves them. -/
def onFields : WriterOp → FieldMap → FieldMap
  | setHeader n v, m =>
    match HeaderName.parse? n, HeaderValue.ofText? v with
    | some n, some v => m.set n v
    | _, _ => m
  | addHeader n v, m =>
    match HeaderName.parse? n, HeaderValue.ofText? v with
    | some n, some v => m.add n v
    | _, _ => m
  | removeHeader n, m =>
    match HeaderName.parse? n with
    | some n => m.drop n
    | none => m
  | mergeHeaders f, m => m.merge f.getAll
  | _, m => m

/-- An operation as the plain operations it stands for: an error is the plain-text and
no-sniffing fields, its status, then its message and a newline. -/
def expand : WriterOp → List WriterOp
  | error code message =>
    [setHeader "content-type" Response.plainText, setHeader "x-content-type-options" "nosniff",
      writeHeader code, write (Utf8.encode (message ++ "\n"))]
  | op => [op]

/-- The status plain operations commit: that of the first `writeHeader`, or `200` when a
`write` comes before any or none commits. -/
def statusOf : List WriterOp → Nat
  | [] => 200
  | writeHeader code :: _ => code
  | write _ :: _ => 200
  | _ :: ops => statusOf ops

/-- The octets plain operations write, in order. -/
def writtenOf (ops : List WriterOp) : List UInt8 :=
  ops.flatMap fun
    | write bytes => bytes
    | _ => []

/-- The fields plain operations leave, from no fields. -/
def fieldsOf (ops : List WriterOp) : FieldMap := ops.foldl (fun m op => op.onFields m) .empty

/-- Plain operations in front of others commit the status of the first that commits. -/
theorem statusOf_expand_append (op : WriterOp) (rest : List WriterOp) :
    statusOf (op.expand ++ rest) = op.status?.getD (statusOf rest) := by
  cases op <;> rfl

theorem statusOf_flatMap_expand (ops : List WriterOp) :
    statusOf (ops.flatMap expand) = (firstStatus? ops).getD 200 := by
  induction ops with
  | nil => rfl
  | cons op ops ih =>
    rw [List.flatMap_cons, statusOf_expand_append, ih, firstStatus?_cons]
    cases op.status? <;> rfl

theorem writtenOf_append (ops ops' : List WriterOp) :
    writtenOf (ops ++ ops') = writtenOf ops ++ writtenOf ops' :=
  List.flatMap_append

theorem writtenOf_flatMap_expand (ops : List WriterOp) :
    writtenOf (ops.flatMap expand) = bodyOf ops := by
  induction ops with
  | nil => rfl
  | cons op ops ih =>
    rw [List.flatMap_cons, writtenOf_append, ih, bodyOf_cons]
    cases op <;> simp [expand, writtenOf, body]

/-- The change an operation makes to a header map is, on the multimap it stands for, the
changes of the plain operations it stands for. -/
theorem getAll_edit (op : WriterOp) (m : HeaderMap) :
    (op.edit m).getAll = (op.expand).foldl (fun f op => op.onFields f) m.getAll := by
  cases op with
  | setHeader n v =>
    cases hn : HeaderName.parse? n <;> cases hv : HeaderValue.ofText? v <;>
      simp [edit, expand, onFields, hn, hv, HeaderMap.getAll_insert]
  | addHeader n v =>
    cases hn : HeaderName.parse? n <;> cases hv : HeaderValue.ofText? v <;>
      simp [edit, expand, onFields, hn, hv, HeaderMap.getAll_append]
  | removeHeader n =>
    cases hn : HeaderName.parse? n <;> simp [edit, expand, onFields, hn, HeaderMap.getAll_remove]
  | mergeHeaders f => simp [edit, expand, onFields, HeaderMap.getAll_merge]
  | writeHeader code => rfl
  | write bytes => rfl
  | error code message =>
    -- the two fields an error sets are valid as written
    have hct : HeaderName.parse? "content-type" = some ⟨"content-type"⟩ := by decide +kernel
    have hxcto : HeaderName.parse? "x-content-type-options" =
        some ⟨"x-content-type-options"⟩ := by decide +kernel
    have hplain : HeaderValue.ofText? Response.plainText =
        some ⟨Utf8.encode Response.plainText⟩ := by decide +kernel
    have hnosniff : HeaderValue.ofText? "nosniff" = some ⟨Utf8.encode "nosniff"⟩ := by
      decide +kernel
    simp [edit, expand, onFields, HeaderMap.getAll_insert, hct, hxcto, hplain, hnosniff]

theorem getAll_editAll (ops : List WriterOp) (m : HeaderMap) :
    (editAll ops m).getAll = (ops.flatMap expand).foldl (fun f op => op.onFields f) m.getAll := by
  induction ops generalizing m with
  | nil => rfl
  | cons op ops ih => rw [editAll_cons, ih, List.flatMap_cons, List.foldl_append, getAll_edit]

end WriterOp

/-! ## A fresh buffer -/

namespace Sinks

theorem get?_fresh (s : Sinks) : s.fresh.1.get? s.fresh.2 = some (.buffer {}) := by
  simp [fresh, add, get?]

/-- A writer over a fresh buffer: after any operations, its response holds the status, the octets
and the fields that the plain reading of the operations gives. -/
theorem take_fresh_eq_reading (s : Sinks) (ops : List WriterOp) :
    ∃ r, ((ops.foldl (fun t op => op.apply t s.fresh.2) s.fresh.1).take s.fresh.2).1 = some r ∧
      r.status = WriterOp.statusOf (ops.flatMap WriterOp.expand) ∧
      r.body = WriterOp.writtenOf (ops.flatMap WriterOp.expand) ∧
      r.headers.getAll = WriterOp.fieldsOf (ops.flatMap WriterOp.expand) := by
  have hbuffer := foldl_apply_get?_of_buffer (get?_fresh s) ops
  rw [Buffer.foldl_apply] at hbuffer
  refine ⟨_, take_of_buffer hbuffer, ?_, ?_, ?_⟩
  · simp [WriterOp.statusOf_flatMap_expand]
  · simp [WriterOp.writtenOf_flatMap_expand]
  · rw [WriterOp.getAll_editAll]
    rfl

end Sinks

end Switchyard

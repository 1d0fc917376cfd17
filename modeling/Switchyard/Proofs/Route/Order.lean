import Switchyard.Route.Table
/-!
# The table order of route patterns

`Segment.compareAt` ranks a literal before a placeholder, literals by their text and all
placeholders alike; `compareSegments` is its lexicographic extension, the shorter pattern first
on a tie. Both are total preorders (`Std.TransCmp`; for patterns, spelled out as the comparator
laws in `compareSegments_total_preorder`), so the relation the route table sorts by,
`compareSegments a.segments b.segments != .gt`, is transitive and total: exactly what a stable
merge sort needs to sort.
-/

namespace Switchyard

namespace Segment

theorem compareAt_swap (a b : Segment) : a.compareAt b = (b.compareAt a).swap := by
  cases a <;> cases b <;> simp only [compareAt, Ordering.swap]
  exact Std.OrientedOrd.eq_swap

instance : Std.OrientedCmp Segment.compareAt where
  eq_swap := compareAt_swap _ _

instance : Std.TransCmp Segment.compareAt where
  isLE_trans {a b c} hab hbc := by
    -- every case but three literals is settled by the kinds alone
    cases a <;> cases b <;> cases c <;> simp only [compareAt, Ordering.isLE, Bool.false_eq_true] at *
    exact Std.TransOrd.isLE_trans hab hbc

/-- Two placeholders tie whatever their names and constraints. -/
@[simp] theorem compareAt_param_param (n n' : String) (c c' : Option Constraint) :
    (Segment.param n c).compareAt (.param n' c') = .eq := rfl

end Segment

/-- `compareSegments` is the library's lexicographic order over `Segment.compareAt`. -/
theorem compareSegments_eq_compareLex : compareSegments = List.compareLex Segment.compareAt := by
  funext a b
  induction a generalizing b with
  | nil => cases b <;> rfl
  | cons x xs ih =>
    cases b with
    | nil => rfl
    | cons y ys =>
      simp only [compareSegments, List.compareLex_cons_cons]
      cases hxy : x.compareAt y <;> simp [ih]

instance : Std.TransCmp compareSegments :=
  compareSegments_eq_compareLex ▸ inferInstance

@[simp] theorem compareSegments_self (a : List Segment) : compareSegments a a = .eq :=
  Std.ReflCmp.compare_self

theorem compareSegments_swap (a b : List Segment) :
    compareSegments a b = (compareSegments b a).swap :=
  Std.OrientedCmp.eq_swap

/-- Two steps that do not go down tie their ends only when both steps tie. -/
theorem compareSegments_tie_of_isLE_of_isLE {a b c : List Segment}
    (hab : (compareSegments a b).isLE) (hbc : (compareSegments b c).isLE)
    (hac : compareSegments a c = .eq) :
    compareSegments a b = .eq ∧ compareSegments b c = .eq := by
  -- a strict step on either side would make the whole chain strict
  constructor
  · rcases Ordering.isLE_iff_eq_lt_or_eq_eq.mp hab with hlt | heq
    · have hstrict := Std.TransCmp.lt_of_lt_of_isLE hlt hbc
      rw [hac] at hstrict
      cases hstrict
    · exact heq
  · rcases Ordering.isLE_iff_eq_lt_or_eq_eq.mp hbc with hlt | heq
    · have hstrict := Std.TransCmp.lt_of_isLE_of_lt hab hlt
      rw [hac] at hstrict
      cases hstrict
    · exact heq

/-- `compareSegments` is a total preorder on patterns, the laws a sort's comparator must keep:
every pattern ties with itself, swapping two patterns reverses the answer, and two steps that
do not go down make one that does not, a tie only when both steps tie. -/
theorem compareSegments_total_preorder (a b c : List Segment) :
    compareSegments a a = .eq ∧ compareSegments b a = (compareSegments a b).swap ∧
      ((compareSegments a b).isLE → (compareSegments b c).isLE →
        (compareSegments a c).isLE ∧
          (compareSegments a c = .eq → compareSegments a b = .eq ∧ compareSegments b c = .eq)) :=
  ⟨compareSegments_self a, compareSegments_swap b a, fun hab hbc =>
    ⟨Std.TransCmp.isLE_trans hab hbc, compareSegments_tie_of_isLE_of_isLE hab hbc⟩⟩

/-- `/users/new` sorts before `/users/:id`, a literal before a placeholder, which sorts before
its extension `/users/:id/edit`; so `/users/new` sorts before `/users/:id/edit`. -/
theorem compareSegments_total_preorder_users :
    (compareSegments [.literal "users", .literal "new"] [.literal "users", .param "id" none]).isLE ∧
      (compareSegments [.literal "users", .param "id" none]
        [.literal "users", .param "id" none, .literal "edit"]).isLE ∧
      (compareSegments [.literal "users", .literal "new"]
        [.literal "users", .param "id" none, .literal "edit"]).isLE :=
  have hab : (compareSegments [.literal "users", .literal "new"]
      [.literal "users", .param "id" none]).isLE := by decide
  have hbc : (compareSegments [.literal "users", .param "id" none]
      [.literal "users", .param "id" none, .literal "edit"]).isLE := by decide
  ⟨hab, hbc, ((compareSegments_total_preorder _ _ _).2.2 hab hbc).1⟩

/-- Not greater is less or equal. -/
theorem bne_gt_eq_isLE (o : Ordering) : (o != .gt) = o.isLE := by
  cases o <;> rfl

/-- The order the route table keeps its routes in: by pattern segments. -/
def Route.SortsBefore (a b : Route) : Bool := compareSegments a.segments b.segments != .gt

theorem RouteTable.insert_eq_mergeSort (t : RouteTable) (r : Route) :
    t.insert r = ⟨(t.routes ++ [r]).mergeSort Route.SortsBefore⟩ := rfl

namespace Route

theorem sortsBefore_iff {a b : Route} :
    a.SortsBefore b ↔ (compareSegments a.segments b.segments).isLE := by
  rw [SortsBefore, bne_gt_eq_isLE]

theorem sortsBefore_trans (a b c : Route) (hab : a.SortsBefore b) (hbc : b.SortsBefore c) :
    a.SortsBefore c := by
  rw [sortsBefore_iff] at *
  exact Std.TransCmp.isLE_trans hab hbc

theorem sortsBefore_total (a b : Route) : (a.SortsBefore b || b.SortsBefore a) = true := by
  have hswap := compareSegments_swap a.segments b.segments
  cases hab : compareSegments a.segments b.segments <;>
    cases hba : compareSegments b.segments a.segments <;>
    simp_all [SortsBefore, Ordering.swap]

/-- Two routes sort both ways exactly when their patterns compare equal. -/
theorem sortsBefore_antisymm_iff {a b : Route} :
    (a.SortsBefore b ∧ b.SortsBefore a) ↔ compareSegments a.segments b.segments = .eq := by
  have hswap := compareSegments_swap a.segments b.segments
  cases hab : compareSegments a.segments b.segments <;>
    cases hba : compareSegments b.segments a.segments <;>
    simp_all [SortsBefore, Ordering.swap]

end Route

end Switchyard

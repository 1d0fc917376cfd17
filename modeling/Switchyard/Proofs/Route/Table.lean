import Switchyard.Proofs.Route.Order
/-!
# The route table is the stable sort of its registrations

`RouteTable.insert` appends a route and sorts the whole list again by `Route.SortsBefore` with a
stable merge sort. After any sequence of registrations the table is therefore the stable sort
of the registered routes: a permutation of them, sorted, and within each class of routes whose
patterns compare equal, in registration order (`StableSortOf`). Among sorted lists, the classes
determine the list (`eq_of_sorted_of_filter_tiesWith_eq`), so the table is the one list with
these properties (`RouteTable.routes_eq_iff_stableSortOf`).

`indexedRoutes` reads the table with each route's registration index: the registrations sorted
by pattern and, on a tie, by index.
-/

namespace Switchyard

namespace Route

/-- Whether a route's pattern compares equal to `k`: the route's class in the table order. -/
def TiesWith (k : List Segment) (r : Route) : Bool := compareSegments r.segments k == .eq

theorem tiesWith_self (r : Route) : r.TiesWith r.segments := by
  simp [TiesWith]

theorem sortsBefore_refl (r : Route) : r.SortsBefore r := by
  simp [SortsBefore]

theorem sortsBefore_of_tiesWith {k : List Segment} {a b : Route} (ha : a.TiesWith k)
    (hb : b.TiesWith k) : a.SortsBefore b := by
  simp only [TiesWith, beq_iff_eq] at ha hb
  have hab : compareSegments a.segments b.segments = .eq :=
    Std.TransCmp.eq_trans ha (Std.OrientedCmp.eq_symm hb)
  exact (sortsBefore_antisymm_iff.mpr hab).1

/-- The head of a sorted list sorts before each of its members. -/
theorem sortsBefore_of_mem_cons {a b : Route} {t : List Route}
    (ht : (b :: t).Pairwise fun x y => x.SortsBefore y) (ha : a ∈ b :: t) : b.SortsBefore a := by
  rcases List.mem_cons.mp ha with rfl | hmem
  · exact sortsBefore_refl a
  · exact List.rel_of_pairwise_cons ht hmem

end Route

/-- A stable merge sort keeps each class of tied routes in the order of its input. -/
theorem filter_tiesWith_mergeSort (l : List Route) (k : List Segment) :
    (l.mergeSort Route.SortsBefore).filter (Route.TiesWith k) = l.filter (Route.TiesWith k) := by
  have hsorted : (l.filter (Route.TiesWith k)).Pairwise fun a b => a.SortsBefore b := by
    rw [List.pairwise_filter]
    exact List.pairwise_of_forall fun a b ha hb => Route.sortsBefore_of_tiesWith ha hb
  have hsub : List.Sublist (l.filter (Route.TiesWith k)) (l.mergeSort Route.SortsBefore) :=
    List.sublist_mergeSort Route.sortsBefore_trans Route.sortsBefore_total hsorted
      (List.filter_sublist)
  have hsub' : List.Sublist (l.filter (Route.TiesWith k))
      ((l.mergeSort Route.SortsBefore).filter (Route.TiesWith k)) := by
    have h := hsub.filter (Route.TiesWith k)
    rwa [List.filter_filter, List.filter_congr fun _ _ => Bool.and_self _] at h
  have hlen : ((l.mergeSort Route.SortsBefore).filter (Route.TiesWith k)).length =
      (l.filter (Route.TiesWith k)).length :=
    ((List.mergeSort_perm l _).filter _).length_eq
  exact (hsub'.eq_of_length hlen.symm).symm

/-- Two sorted lists with the same classes of tied routes, each in the same order, are equal. -/
theorem eq_of_sorted_of_filter_tiesWith_eq {s t : List Route}
    (hs : s.Pairwise fun a b => a.SortsBefore b) (ht : t.Pairwise fun a b => a.SortsBefore b)
    (hties : ∀ k, s.filter (Route.TiesWith k) = t.filter (Route.TiesWith k)) : s = t := by
  induction s generalizing t with
  | nil =>
    cases t with
    | nil => rfl
    | cons b t =>
      have h := hties b.segments
      simp [Route.tiesWith_self] at h
  | cons a s ih =>
    cases t with
    | nil =>
      have h := hties a.segments
      simp [Route.tiesWith_self] at h
    | cons b t =>
      -- each head is a member of the other list, so each sorts before the other
      have hmem : ∀ {x : Route} {u v : List Route},
          (∀ k, u.filter (Route.TiesWith k) = v.filter (Route.TiesWith k)) → x ∈ u → x ∈ v := by
        intro x u v huv hx
        have hx' : x ∈ u.filter (Route.TiesWith x.segments) :=
          List.mem_filter.mpr ⟨hx, Route.tiesWith_self x⟩
        rw [huv] at hx'
        exact (List.mem_filter.mp hx').1
      have hba : b.SortsBefore a := Route.sortsBefore_of_mem_cons ht (hmem hties List.mem_cons_self)
      have hab : a.SortsBefore b :=
        Route.sortsBefore_of_mem_cons hs (hmem (fun k => (hties k).symm) List.mem_cons_self)
      have htie : b.TiesWith a.segments := by
        have h := Std.OrientedCmp.eq_symm (Route.sortsBefore_antisymm_iff.mp ⟨hab, hba⟩)
        simpa [Route.TiesWith] using h
      have hhead : a = b := by
        have h := hties a.segments
        rw [List.filter_cons_of_pos (Route.tiesWith_self a), List.filter_cons_of_pos htie] at h
        exact (List.cons.inj h).1
      subst hhead
      have htail : ∀ k, s.filter (Route.TiesWith k) = t.filter (Route.TiesWith k) := by
        intro k
        have h := hties k
        by_cases hk : a.TiesWith k
        · simpa [List.filter_cons, hk] using h
        · simpa [List.filter_cons, hk] using h
      rw [ih hs.of_cons ht.of_cons htail]

/-- `s` is the stable sort of the registrations `regs` by pattern: a permutation of them, sorted
by `compareSegments`, and each class of routes whose patterns compare equal in registration
order. -/
structure StableSortOf (regs s : List Route) : Prop where
  perm : s.Perm regs
  sorted : s.Pairwise fun a b => compareSegments a.segments b.segments ≠ .gt
  stable : ∀ k, s.filter (Route.TiesWith k) = regs.filter (Route.TiesWith k)

theorem pairwise_sortsBefore_iff {s : List Route} :
    (s.Pairwise fun a b => a.SortsBefore b) ↔
      s.Pairwise fun a b => compareSegments a.segments b.segments ≠ .gt := by
  simp [Route.SortsBefore]

namespace StableSortOf

theorem mergeSort (regs : List Route) : StableSortOf regs (regs.mergeSort Route.SortsBefore) where
  perm := List.mergeSort_perm regs _
  sorted := pairwise_sortsBefore_iff.mp
    (List.pairwise_mergeSort Route.sortsBefore_trans Route.sortsBefore_total regs)
  stable := filter_tiesWith_mergeSort regs

/-- A registration keeps the table a stable sort of everything registered. -/
theorem insert {regs : List Route} {t : RouteTable} (ht : StableSortOf regs t.routes) (r : Route) :
    StableSortOf (regs ++ [r]) (t.insert r).routes := by
  have hsort := StableSortOf.mergeSort (t.routes ++ [r])
  rw [RouteTable.insert_eq_mergeSort]
  refine ⟨hsort.perm.trans (ht.perm.append_right [r]), hsort.sorted, fun k => ?_⟩
  rw [hsort.stable k, List.filter_append, List.filter_append, ht.stable k]

theorem unique {regs s t : List Route} (hs : StableSortOf regs s) (ht : StableSortOf regs t) :
    s = t :=
  eq_of_sorted_of_filter_tiesWith_eq (pairwise_sortsBefore_iff.mpr hs.sorted)
    (pairwise_sortsBefore_iff.mpr ht.sorted) fun k => (hs.stable k).trans (ht.stable k).symm

end StableSortOf

namespace RouteTable

theorem stableSortOf_foldl_insert (pre regs : List Route) (t : RouteTable)
    (ht : StableSortOf pre t.routes) : StableSortOf (pre ++ regs) (regs.foldl insert t).routes := by
  induction regs generalizing pre t with
  | nil => simpa using ht
  | cons r regs ih =>
    rw [List.foldl_cons, List.append_cons]
    exact ih (pre ++ [r]) (t.insert r) (ht.insert r)

/-- After registering `regs` one by one into an empty table, its routes are exactly the stable
sort of `regs` by pattern: they are the one permutation of `regs` that is sorted and keeps the
registration order among routes whose patterns compare equal. -/
theorem routes_eq_iff_stableSortOf (regs s : List Route) :
    (regs.foldl insert {}).routes = s ↔ StableSortOf regs s := by
  have htable : StableSortOf regs (regs.foldl insert {}).routes := by
    simpa using stableSortOf_foldl_insert [] regs {} ⟨List.Perm.refl _, List.Pairwise.nil, fun _ => rfl⟩
  constructor
  · rintro rfl
    exact htable
  · intro hs
    exact htable.unique hs

theorem routes_foldl_insert_eq_mergeSort (regs : List Route) :
    (regs.foldl insert {}).routes = regs.mergeSort Route.SortsBefore :=
  (routes_eq_iff_stableSortOf regs _).mpr (StableSortOf.mergeSort regs)

end RouteTable

/-- The table of the registrations `regs`, each route with the index of its registration. -/
def indexedRoutes (regs : List Route) : List (Route × Nat) :=
  regs.zipIdx.mergeSort (List.zipIdxLE Route.SortsBefore)

namespace RouteTable

theorem routes_foldl_insert_eq_map_indexedRoutes (regs : List Route) :
    (regs.foldl insert {}).routes = (indexedRoutes regs).map Prod.fst := by
  rw [routes_foldl_insert_eq_mergeSort, indexedRoutes, List.mergeSort_zipIdx]

end RouteTable

theorem mem_indexedRoutes_iff {regs : List Route} {r : Route} {i : Nat} :
    (r, i) ∈ indexedRoutes regs ↔ regs[i]? = some r := by
  simp [indexedRoutes, List.mem_zipIdx_iff_getElem?]

/-- Earlier in the table means sorting before, and on a tie an earlier registration. -/
theorem indexedRoutes_pairwise (regs : List Route) :
    (indexedRoutes regs).Pairwise fun a b => List.zipIdxLE Route.SortsBefore a b :=
  List.pairwise_mergeSort (List.zipIdxLE_trans Route.sortsBefore_trans)
    (List.zipIdxLE_total Route.sortsBefore_total) _

end Switchyard

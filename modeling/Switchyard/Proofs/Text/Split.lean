import Switchyard.Route.Segment
/-!
# Cutting text at a separator

Route patterns are cut at `/` by `splitOnChar`, static file paths by the library's
`List.splitOn`. The two agree (`splitOnChar_eq_splitOn`), so the library's lemmas serve both
readers. What the library lacks is added here: no part of a cut holds the separator
(`not_mem_of_mem_splitOn`).
-/
namespace Switchyard

theorem splitOnChar_eq_splitOn (sep : Char) (cs : List Char) :
    splitOnChar sep cs = cs.splitOn sep := by
  induction cs with
  | nil => rfl
  | cons c cs ih =>
    rw [List.splitOn_cons_eq_if_modifyHead, ← ih]
    by_cases hc : c = sep
    · simp [splitOnChar, hc]
    · obtain ⟨w, ws, hw⟩ := List.exists_cons_of_ne_nil (ih ▸ List.splitOn_ne_nil sep cs)
      simp [splitOnChar, hc, hw]

/-- No part of a text cut at a separator holds the separator. -/
theorem not_mem_of_mem_splitOn {sep : Char} {cs w : List Char} (hw : w ∈ cs.splitOn sep) :
    sep ∉ w := by
  induction cs generalizing w with
  | nil =>
    rw [List.splitOn_nil, List.mem_singleton] at hw
    simp [hw]
  | cons c cs ih =>
    rw [List.splitOn_cons_eq_if_modifyHead] at hw
    split at hw
    · -- the separator itself: it opens a new part and belongs to none
      rcases List.mem_cons.1 hw with rfl | hw
      · simp
      · exact ih hw
    · rename_i hc
      obtain ⟨v, vs, hv⟩ := List.exists_cons_of_ne_nil (List.splitOn_ne_nil sep cs)
      rw [hv, List.modifyHead_cons] at hw
      rcases List.mem_cons.1 hw with rfl | hw
      · intro hmem
        rcases List.mem_cons.1 hmem with h | h
        · exact hc (by simp [h])
        · exact ih (hv ▸ List.mem_cons_self) h
      · exact ih (hv ▸ List.mem_cons_of_mem _ hw)

end Switchyard

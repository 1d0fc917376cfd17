import Switchyard.Http.Files
import Switchyard.Proofs.Text.Split
/-!
# Static paths stay under their root

A directory is served under a strip text: a request path is mapped to a path of the tree by
dropping the strip text, then leading slashes, and reading what is left part by part between
its `/`s (`FileTree.servedPath`). This module reads the same text the way the platform's path
reader does, as components (`pathComponents`): on Unix a leading `/` is the root, a leading `.`
the current directory, repeated `/`s and other `.` parts vanish, and `..` is the parent.

Main statement, `servedPath_stays_under_root`: a request path is served exactly when it starts
with the strip text and what follows has no parent component; what is served is then the root,
the names of the normal components, and `index.html` when they name a directory. Every name
after the root is one a path descends by (`IsNormalName`): no part holds a `/`
(`not_mem_of_mem_splitOn`), empty and `.` parts are dropped, and `..` refuses the request. So a
served path never lies outside the root, whatever slashes, dots and strip text the request has.
-/
namespace Switchyard

/-- A component of a path, as the platform's path reader reports it on Unix. -/
inductive PathComponent where
  /-- The root, from a leading `/`. -/
  | rootDir
  /-- The current directory, from a leading `.` part. -/
  | curDir
  /-- The parent directory, from a `..` part. -/
  | parentDir
  /-- A name to descend by. -/
  | normal (name : String)
  deriving DecidableEq

namespace PathComponent

/-- How a part between `/`s reads after the lead: empty and `.` parts are nothing, `..` is the
parent, anything else a name. -/
def ofPart (p : String) : Option PathComponent :=
  if p.isEmpty || p == "." then none else if p == ".." then some .parentDir else some (.normal p)

/-- The name a normal component descends by. -/
def name? : PathComponent → Option String
  | .normal n => some n
  | _ => none

end PathComponent

/-- The components of a path text: a leading `/` is the root and a leading `.` part the current
directory; after those, repeated `/`s and `.` parts are dropped and `..` is the parent. -/
def pathComponents (s : String) : List PathComponent :=
  let parts := (s.toList.splitOn '/').map String.ofList
  let lead : List PathComponent :=
    if s.startsWith "/" then [.rootDir] else if parts.head? = some "." then [.curDir] else []
  lead ++ parts.filterMap PathComponent.ofPart

/-- The names of the normal components, in order. -/
def normalNames (cs : List PathComponent) : List String := cs.filterMap PathComponent.name?

/-- A name a path can descend by: not empty, neither `.` nor `..`, and without `/`. -/
def IsNormalName (c : String) : Prop := c ≠ "" ∧ c ≠ "." ∧ c ≠ ".." ∧ '/' ∉ c.toList

namespace FileTree

/-- What a served path ends with after its names: `index.html` when they name a directory. -/
def indexFor (t : FileTree) (full : List String) : List String :=
  if (t.find? full).any isDir then ["index.html"] else []

end FileTree

/-! ## Parts and components -/

namespace PathComponent

/-- Whether a part reads as a name: it is not empty, `.` or `..`. -/
def keepsName (p : String) : Bool := !p.isEmpty && p != "." && p != ".."

theorem normalNames_filterMap_ofPart (ps : List String) :
    normalNames (ps.filterMap ofPart) = ps.filter keepsName := by
  induction ps with
  | nil => rfl
  | cons p ps ih =>
    by_cases hskip : p = "" ∨ p = "."
    · have hnone : ofPart p = none := by rcases hskip with rfl | rfl <;> rfl
      have hdrop : keepsName p = false := by rcases hskip with rfl | rfl <;> rfl
      rw [List.filterMap_cons, hnone, List.filter_cons, hdrop]
      exact ih
    · by_cases hdots : p = ".."
      · subst hdots
        rw [List.filterMap_cons, show ofPart ".." = some .parentDir from rfl, List.filter_cons,
          show keepsName ".." = false from rfl]
        exact ih
      · have hsome : ofPart p = some (.normal p) := by
          simp_all [ofPart, String.isEmpty_iff]
        have hkeep : keepsName p = true := by
          simp_all [keepsName]
        rw [List.filterMap_cons, hsome, List.filter_cons, if_pos hkeep]
        exact congrArg (p :: ·) ih

theorem ofPart_eq_parentDir_iff (p : String) : ofPart p = some .parentDir ↔ p = ".." := by
  by_cases hskip : p = "" ∨ p = "."
  · rcases hskip with rfl | rfl <;> decide
  · by_cases hdots : p = ".."
    · subst hdots
      decide
    · simp_all [ofPart, String.isEmpty_iff]

theorem parentDir_mem_filterMap_ofPart (ps : List String) :
    parentDir ∈ ps.filterMap ofPart ↔ ".." ∈ ps := by
  simp [List.mem_filterMap, ofPart_eq_parentDir_iff]

end PathComponent

/-- The lead of a path's components names nothing and climbs nowhere. -/
theorem pathComponents_eq (s : String) :
    ∃ lead, pathComponents s = lead ++ ((s.toList.splitOn '/').map String.ofList).filterMap
      PathComponent.ofPart ∧ normalNames lead = [] ∧ .parentDir ∉ lead := by
  unfold pathComponents
  dsimp only
  split
  · exact ⟨_, rfl, rfl, by decide⟩
  · split
    · exact ⟨_, rfl, rfl, by decide⟩
    · exact ⟨_, rfl, rfl, by decide⟩

namespace FileTree

theorem mem_pathParts {s c : String} :
    c ∈ pathParts s ↔ c ∈ (s.toList.splitOn '/').map String.ofList ∧ c ≠ "" ∧ c ≠ "." := by
  simp [pathParts]

/-- A part a path keeps, other than `..`, is a name it can descend by. -/
theorem isNormalName_of_mem_pathParts {s c : String} (hc : c ∈ pathParts s) (hdots : c ≠ "..") :
    IsNormalName c := by
  obtain ⟨hpart, hne, hdot⟩ := mem_pathParts.1 hc
  obtain ⟨w, hw, rfl⟩ := List.mem_map.1 hpart
  refine ⟨hne, hdot, hdots, ?_⟩
  rw [String.toList_ofList]
  exact not_mem_of_mem_splitOn hw

theorem pathParts_slash_cons (cs : List Char) :
    pathParts (String.ofList ('/' :: cs)) = pathParts (String.ofList cs) := by
  simp [pathParts, List.splitOn_cons_eq_if_modifyHead]

/-- Leading slashes add only empty parts, which are dropped. -/
theorem pathParts_dropWhile_slash (cs : List Char) :
    pathParts (String.ofList (cs.dropWhile (· == '/'))) = pathParts (String.ofList cs) := by
  induction cs with
  | nil => rfl
  | cons c cs ih =>
    by_cases hc : c = '/'
    · subst hc
      rw [List.dropWhile_cons_of_pos (by simp), ih, pathParts_slash_cons]
    · rw [List.dropWhile_cons_of_neg (by simpa using hc)]

/-- A path climbs exactly when one of its parts is `..`. -/
theorem parentDir_mem_pathComponents_iff (s : String) :
    .parentDir ∈ pathComponents s ↔ ".." ∈ pathParts s := by
  obtain ⟨lead, hs, -, hlead⟩ := pathComponents_eq s
  rw [hs, List.mem_append, PathComponent.parentDir_mem_filterMap_ofPart, mem_pathParts]
  simp [hlead]

/-- Without `..`, the names a path descends by are the parts it keeps. -/
theorem normalNames_pathComponents {s : String} (hdots : ".." ∉ pathParts s) :
    normalNames (pathComponents s) = pathParts s := by
  obtain ⟨lead, hs, hnames, -⟩ := pathComponents_eq s
  rw [hs, normalNames, List.filterMap_append, ← normalNames, hnames, List.nil_append,
    ← normalNames, PathComponent.normalNames_filterMap_ofPart, pathParts]
  apply List.filter_congr
  intro p hp
  by_cases hkeep : (!p.isEmpty && p != ".") = true
  · have hp' : p ≠ ".." := fun h => hdots (by
      rw [pathParts, List.mem_filter]
      exact ⟨h ▸ hp, h ▸ hkeep⟩)
    simp_all [PathComponent.keepsName]
  · simp_all [PathComponent.keepsName]

/-! ## The served path -/

theorem servedPath_of_not_startsWith {t : FileTree} {root : List String} {strip path : String}
    (h : ¬ strip.toList <+: path.toList) : t.servedPath root strip path = none := by
  have hstart : path.startsWith strip = false := String.startsWith_string_eq_false_iff.2 h
  simp [servedPath, hstart]

/-- Past the strip text, a path is served from the parts it keeps under the root, and refused
when one is `..`. -/
theorem servedPath_strip_append (t : FileTree) (root : List String) (strip rel : String) :
    t.servedPath root strip (strip ++ rel) =
      if ".." ∈ pathParts rel then none
      else some (root ++ pathParts rel ++ t.indexFor (root ++ pathParts rel)) := by
  have hstart : (strip ++ rel).startsWith strip = true :=
    String.startsWith_string_iff.2 ⟨rel.toList, by rw [String.toList_append]⟩
  have hdrop : (strip ++ rel).toList.drop strip.length = rel.toList := by
    rw [String.toList_append, ← String.length_toList, List.drop_left]
  simp only [servedPath, hstart, Bool.not_true, Bool.false_eq_true, if_false, hdrop,
    pathParts_dropWhile_slash, String.ofList_toList, List.contains_iff_mem]
  by_cases hdots : ".." ∈ pathParts rel
  · simp only [hdots, if_true]
  · simp only [hdots, if_false, indexFor]
    split
    · rename_i node hfind
      cases hdir : node.isDir <;> simp [hfind, hdir]
    · rename_i hfind
      simp [hfind]

theorem exists_eq_append_of_startsWith {strip path : String} (h : strip.toList <+: path.toList) :
    ∃ rel, path = strip ++ rel := by
  obtain ⟨rest, hrest⟩ := h
  exact ⟨String.ofList rest, String.toList_inj.1 (by simp [hrest])⟩

/-- Only a path that starts with the strip text is served. -/
theorem exists_eq_append_of_servedPath_isSome {t : FileTree} {root : List String}
    {strip path : String} (h : (t.servedPath root strip path).isSome) :
    ∃ rel, path = strip ++ rel := by
  by_cases hpre : strip.toList <+: path.toList
  · exact exists_eq_append_of_startsWith hpre
  · rw [servedPath_of_not_startsWith hpre] at h
    cases h

/-- Past the root, a path served from a text without `..` holds only names a path descends by:
the parts the text keeps, and `index.html`. -/
theorem isNormalName_of_mem_drop_served {t : FileTree} {root : List String} {rel c : String}
    (hdots : ".." ∉ pathParts rel)
    (hc : c ∈ (root ++ pathParts rel ++ t.indexFor (root ++ pathParts rel)).drop root.length) :
    IsNormalName c := by
  rw [List.append_assoc, List.drop_left] at hc
  rcases List.mem_append.1 hc with hc | hc
  · exact isNormalName_of_mem_pathParts hc fun h => hdots (h ▸ hc)
  · rw [indexFor] at hc
    split at hc
    · rw [List.mem_singleton.1 hc]
      exact ⟨by decide, by decide, by decide, by decide⟩
    · cases hc

end FileTree

/-- Static file paths never climb out of the root. A request path is served exactly when it
starts with the strip text and the rest has no `..` component; the path served is the root
followed by the names of the rest's normal components, and `index.html` when those name a
directory, so every name after the root is one a path descends by. -/
theorem servedPath_stays_under_root (t : FileTree) (root : List String) (strip path : String) :
    ((t.servedPath root strip path).isSome ↔
      ∃ rel, path = strip ++ rel ∧ PathComponent.parentDir ∉ pathComponents rel) ∧
    ∀ p, t.servedPath root strip path = some p →
      ∃ rel, path = strip ++ rel ∧
        (p = root ++ normalNames (pathComponents rel) ∨
          p = root ++ normalNames (pathComponents rel) ++ ["index.html"]) ∧
        ∀ c ∈ p.drop root.length, IsNormalName c := by
  refine ⟨⟨fun hsome => ?_, ?_⟩, fun p hp => ?_⟩
  · obtain ⟨rel, rfl⟩ := FileTree.exists_eq_append_of_servedPath_isSome hsome
    refine ⟨rel, rfl, fun hpar => ?_⟩
    rw [FileTree.servedPath_strip_append,
      if_pos ((FileTree.parentDir_mem_pathComponents_iff rel).1 hpar)] at hsome
    cases hsome
  · rintro ⟨rel, rfl, hpar⟩
    rw [FileTree.servedPath_strip_append,
      if_neg (mt (FileTree.parentDir_mem_pathComponents_iff rel).2 hpar)]
    rfl
  · obtain ⟨rel, rfl⟩ := FileTree.exists_eq_append_of_servedPath_isSome
      (Option.isSome_iff_exists.2 ⟨p, hp⟩)
    rw [FileTree.servedPath_strip_append] at hp
    split at hp
    · cases hp
    rename_i hdots
    cases hp
    refine ⟨rel, rfl, ?_, fun c hc => FileTree.isNormalName_of_mem_drop_served hdots hc⟩
    -- the served names are the kept parts, and `index.html` follows a directory's
    rw [FileTree.normalNames_pathComponents hdots, FileTree.indexFor]
    split
    · exact .inr rfl
    · exact .inl (List.append_nil _)

/-- A request past a doubled `/` and a `.` part reaches a directory of the tree and is served its
`index.html`, all of whose names after the root are ones a path descends by. -/
theorem servedPath_stays_under_root_docs :
    let t : FileTree := .dir [("assets", .dir [("docs", .dir [("index.html", .file [])])])]
    let p := ["assets", "docs", "index.html"]
    t.servedPath ["assets"] "/static" "/static//docs/./" = some p ∧
      ∃ rel, "/static//docs/./" = "/static" ++ rel ∧
        (p = ["assets"] ++ normalNames (pathComponents rel) ∨
          p = ["assets"] ++ normalNames (pathComponents rel) ++ ["index.html"]) ∧
        ∀ c ∈ p.drop 1, IsNormalName c := by
  intro t p
  have hserve : t.servedPath ["assets"] "/static" "/static//docs/./" = some p := by
    decide +kernel
  exact ⟨hserve, (servedPath_stays_under_root t ["assets"] "/static" _).2 p hserve⟩

example : (FileTree.dir []).servedPath ["srv", "assets"] "/static/" "/static/a/../../etc/passwd" =
    none := by
  decide +kernel

end Switchyard

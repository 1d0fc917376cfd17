import Mathlib.Data.List.TakeWhile
import Switchyard.Proofs.Text.Split
/-!
# Printing a pattern and reading it back

A pattern prints as `/` followed by its segments' texts joined by `/` (`renderPattern`); a
placeholder prints as `:` and its name, whichever of its four forms it was written in. Reading
the printed text again gives the same segments with their constraints dropped
(`parsePattern_renderPattern`).

Three facts carry the proof. The parts `splitPath` cuts a pattern into hold no `/`, and a pattern
that is one part is not the empty part, so cutting the joined texts gives them back
(`splitPath_renderPattern`). A placeholder's name is a piece of the part it was read from, so
it holds no `/` either. And the name `splitInline` cuts from a placeholder's body cuts nothing
more (`splitInline_name_idem`): it either stops before the body's first `(`, or the body had no
inline constraint to cut, so `:name` reads back as the bare placeholder.
-/
namespace Switchyard

/-- A traversal that succeeds returns one value per item, each from an item it succeeded on. -/
theorem Except.mapM_eq_ok_spec {ε α β : Type} {f : α → Except ε β} :
    ∀ {as : List α} {bs : List β}, as.mapM f = .ok bs →
      bs.length = as.length ∧ ∀ b ∈ bs, ∃ a ∈ as, f a = .ok b
  | [], bs, h => by
    cases h
    exact ⟨rfl, nofun⟩
  | a :: as, bs, h => by
    rw [List.mapM_cons] at h
    rcases hf : f a with e | b
    · rw [hf] at h
      cases h
    · rcases hrest : as.mapM f with e | bs'
      · rw [hf, hrest] at h
        cases h
      · rw [hf, hrest] at h
        cases h
        obtain ⟨hlen, hmem⟩ := Except.mapM_eq_ok_spec hrest
        refine ⟨by simp [hlen], fun b' hb' => ?_⟩
        rcases List.mem_cons.1 hb' with rfl | hb'
        · exact ⟨a, List.mem_cons_self, hf⟩
        · obtain ⟨a', ha', hfa'⟩ := hmem b' hb'
          exact ⟨a', List.mem_cons_of_mem _ ha', hfa'⟩

theorem Except.mapM_map_eq_ok {ε α β γ : Type} {f : β → Except ε γ} {h : α → β} {g : α → γ} :
    ∀ {as : List α}, (∀ a ∈ as, f (h a) = .ok (g a)) → (as.map h).mapM f = .ok (as.map g)
  | [], _ => rfl
  | a :: as, hf => by
    rw [List.map_cons, List.mapM_cons, hf a List.mem_cons_self,
      Except.mapM_map_eq_ok fun b hb => hf b (List.mem_cons_of_mem _ hb)]
    rfl

/-- A pattern written from its segments: `/`, then the segments' texts joined by `/`. -/
def renderPattern (segs : List Segment) : String :=
  "/" ++ "/".intercalate (segs.map Segment.display)

namespace Segment

/-- A segment with its constraint dropped: what its printed text keeps of it. -/
def skeleton : Segment → Segment
  | .literal t => .literal t
  | .param name _ => .param name none

/-! ## Placeholder bodies -/

theorem splitInline_cases (body : List Char) :
    splitInline body = (body, none) ∨
      ∃ inner, splitInline body = (body.takeWhile (· != '('), some inner) := by
  simp only [splitInline]
  split
  · exact .inr ⟨_, rfl⟩
  · exact .inl rfl

theorem splitInline_of_not_mem {cs : List Char} (h : '(' ∉ cs) : splitInline cs = (cs, none) := by
  have hrest : cs.dropWhile (· != '(') = [] :=
    List.dropWhile_eq_nil_iff.2 fun c hc => by simpa using ne_of_mem_of_not_mem hc h
  simp only [splitInline, hrest]

/-- The name `splitInline` cuts from a body cuts nothing more. -/
theorem splitInline_name_idem (body : List Char) :
    splitInline (splitInline body).1 = ((splitInline body).1, none) := by
  rcases splitInline_cases body with h | ⟨inner, h⟩
  · simp only [h]
  · rw [h]
    apply splitInline_of_not_mem
    intro hmem
    simpa using List.mem_takeWhile_imp hmem

theorem splitInline_name_starts_body (body : List Char) : (splitInline body).1 <+: body := by
  rcases splitInline_cases body with h | ⟨inner, h⟩
  · exact h ▸ List.prefix_refl body
  · exact h ▸ List.takeWhile_prefix _

theorem placeholderBody_inside {raw : String} {body : List Char}
    (h : placeholderBody raw = some body) : body <:+: raw.toList := by
  unfold placeholderBody at h
  split at h
  · rename_i rest hraw
    cases h
    rw [hraw]
    exact (List.suffix_cons ':' body).isInfix
  · rename_i cs rest hraw
    split at h
    · cases h
      rw [hraw]
      exact (List.dropLast_prefix rest).isInfix.trans (List.suffix_cons '{' rest).isInfix
    · cases h
  · cases h

theorem placeholderBody_colon (name : String) :
    placeholderBody (":" ++ name) = some name.toList := by
  unfold placeholderBody
  rw [String.toList_append]
  rfl

/-! ## One segment -/

theorem parse_of_placeholderBody_none {raw pattern : String} {vars : List (String × String)}
    (h : placeholderBody raw = none) : parse raw pattern vars = .ok (.literal raw) := by
  simp only [parse, h]

/-- A part reads as the literal of its text, or as a placeholder named by the non-empty name cut
from its body. -/
theorem parse_eq_ok {raw pattern : String} {vars : List (String × String)} {s : Segment}
    (h : parse raw pattern vars = .ok s) :
    (placeholderBody raw = none ∧ s = .literal raw) ∨
      ∃ body c, placeholderBody raw = some body ∧ (splitInline body).1 ≠ [] ∧
        s = .param (String.ofList (splitInline body).1) c := by
  rcases hbody : placeholderBody raw with _ | body
  · simp only [parse, hbody] at h
    cases h
    exact .inl ⟨rfl, rfl⟩
  · right
    rcases hsplit : splitInline body with ⟨nameChars, inline⟩
    simp only [parse, hbody, hsplit] at h
    split at h
    · cases h
    · rename_i hname
      have hne : nameChars ≠ [] := fun hnil => hname (by simp [hnil])
      -- with or without a constraint, the placeholder keeps the name
      split at h
      · cases h
        exact ⟨body, none, rfl, by rw [hsplit]; exact hne, by rw [hsplit]⟩
      · split at h
        · cases h
          exact ⟨body, _, rfl, by rw [hsplit]; exact hne, by rw [hsplit]⟩
        · cases h

theorem parse_colon {n : List Char} (hn : n ≠ []) (hsplit : splitInline n = (n, none))
    (pattern : String) :
    parse (":" ++ String.ofList n) pattern [] = .ok (.param (String.ofList n) none) := by
  have hname : (String.ofList n).isEmpty = false := by
    simpa [String.isEmpty_iff] using hn
  simp only [parse, placeholderBody_colon, String.toList_ofList, hsplit, hname]
  rfl

/-- What a segment's printed text keeps of the part it was read from: no `/` the part lacks, an
empty text only from an empty part, and a reading as the segment without its constraint. -/
theorem display_of_parse {raw pattern : String} {vars : List (String × String)} {s : Segment}
    (h : parse raw pattern vars = .ok s) :
    ('/' ∉ raw.toList → '/' ∉ s.display.toList) ∧ (s.display = "" → raw = "") ∧
      ∀ pattern', parse s.display pattern' [] = .ok s.skeleton := by
  rcases parse_eq_ok h with ⟨hbody, rfl⟩ | ⟨body, c, hbody, hne, rfl⟩
  · exact ⟨id, id, fun _ => parse_of_placeholderBody_none hbody⟩
  · have hsub : (splitInline body).1 <:+: raw.toList :=
      (splitInline_name_starts_body body).isInfix.trans (placeholderBody_inside hbody)
    refine ⟨fun hraw hmem => ?_, fun hnil => ?_, fun pattern' => ?_⟩
    · simp only [display, String.toList_append, String.toList_ofList] at hmem
      rcases List.mem_cons.1 hmem with h | h
      · exact absurd h (by decide)
      · exact hraw (hsub.subset h)
    · simp [display] at hnil
    · exact parse_colon hne (splitInline_name_idem body) pattern'

end Segment

/-! ## Whole patterns -/

/-- The parts of a path: none, or a non-empty text cut at `/`. -/
theorem splitPath_cases (p : String) :
    splitPath p = [] ∨
      ∃ cs : List Char, cs ≠ [] ∧ splitPath p = (cs.splitOn '/').map String.ofList := by
  -- whether or not a leading `/` was dropped, what is left is cut unless it is empty
  have hcut : ∀ cs : List Char,
      (if cs.isEmpty then [] else (splitOnChar '/' cs).map String.ofList) = [] ∨
        ∃ cs' : List Char, cs' ≠ [] ∧
          (if cs.isEmpty then [] else (splitOnChar '/' cs).map String.ofList) =
            (cs'.splitOn '/').map String.ofList := by
    intro cs
    by_cases h : cs = []
    · simp [h]
    · exact .inr ⟨cs, h, by simp [h, splitOnChar_eq_splitOn]⟩
  unfold splitPath
  split <;> exact hcut _

theorem not_mem_of_mem_splitPath {p raw : String} (h : raw ∈ splitPath p) : '/' ∉ raw.toList := by
  rcases splitPath_cases p with hp | ⟨cs, -, hp⟩
  · rw [hp] at h
    cases h
  · rw [hp] at h
    obtain ⟨w, hw, rfl⟩ := List.mem_map.1 h
    rw [String.toList_ofList]
    exact not_mem_of_mem_splitOn hw

/-- A path is never read as the one empty part. -/
theorem splitPath_ne_empty_part (p : String) : splitPath p ≠ [""] := by
  rcases splitPath_cases p with hp | ⟨cs, hcs, hp⟩
  · simp [hp]
  · rw [hp]
    intro h
    obtain ⟨w, hw, hw'⟩ := List.map_eq_singleton_iff.1 h
    have hnil : w = [] := by simpa using congrArg String.toList hw'
    have hback : ['/'].intercalate (cs.splitOn '/') = cs := List.intercalate_splitOn '/'
    rw [hw, hnil] at hback
    exact hcs (by simpa using hback.symm)

theorem renderPattern_toList (segs : List Segment) :
    (renderPattern segs).toList = '/' :: ['/'].intercalate (segs.map fun s => s.display.toList) := by
  simp [renderPattern, String.toList_intercalate, List.map_map]
  rfl

/-- Texts without `/`, other than one empty text, are cut back out of the pattern they print. -/
theorem splitPath_renderPattern {segs : List Segment}
    (hslash : ∀ s ∈ segs, '/' ∉ s.display.toList) (hlone : segs.map Segment.display ≠ [""]) :
    splitPath (renderPattern segs) = segs.map Segment.display := by
  by_cases hnil : segs = []
  · subst hnil
    rfl
  have hparts : (['/'].intercalate (segs.map fun s => s.display.toList)).splitOn '/' =
      segs.map fun s => s.display.toList :=
    List.splitOn_intercalate '/' (by simpa using hslash) (by simpa using hnil)
  -- the joined texts are empty only for one empty text, which `hlone` excludes
  have hjoined : ['/'].intercalate (segs.map fun s => s.display.toList) ≠ [] := by
    intro hempty
    rw [hempty, List.splitOn_nil] at hparts
    apply hlone
    have := congrArg (List.map String.ofList) hparts
    simpa [List.map_map] using this.symm
  simp only [splitPath, renderPattern_toList, List.isEmpty_iff, hjoined, if_false,
    splitOnChar_eq_splitOn, hparts, List.map_map]
  simp

/-- Printing a pattern and reading it back gives its segments without their constraints: as
many segments, the same literal texts and placeholder names at the same positions. -/
theorem parsePattern_renderPattern {p : String} {segs : List Segment}
    (h : parsePattern p [] = .ok segs) :
    parsePattern (renderPattern segs) [] = .ok (segs.map Segment.skeleton) := by
  obtain ⟨hlen, hfrom⟩ := Except.mapM_eq_ok_spec h
  have hslash : ∀ s ∈ segs, '/' ∉ s.display.toList := by
    intro s hs
    obtain ⟨raw, hraw, hparse⟩ := hfrom s hs
    exact (Segment.display_of_parse hparse).1 (not_mem_of_mem_splitPath hraw)
  have hlone : segs.map Segment.display ≠ [""] := by
    intro hone
    obtain ⟨s, rfl, hs⟩ := List.map_eq_singleton_iff.1 hone
    obtain ⟨raw, hraw, hparse⟩ := hfrom s List.mem_cons_self
    have hsingle : splitPath p = [raw] := by
      obtain ⟨a, ha⟩ := List.length_eq_one_iff.1 (by simpa using hlen.symm)
      rw [ha] at hraw ⊢
      rw [List.mem_singleton.1 hraw]
    rw [(Segment.display_of_parse hparse).2.1 hs] at hsingle
    exact splitPath_ne_empty_part p hsingle
  rw [parsePattern, splitPath_renderPattern hslash hlone]
  refine Except.mapM_map_eq_ok fun s hs => ?_
  obtain ⟨raw, -, hparse⟩ := hfrom s hs
  exact (Segment.display_of_parse hparse).2.2 _

/-- The braces form, an empty part from a doubled `/` and a trailing empty part all survive
printing: `/files/{id}//:n/` prints as `/files/:id//:n/` and reads back the same. -/
theorem parsePattern_renderPattern_braces :
    parsePattern "/files/{id}//:n/" [] =
        .ok [.literal "files", .param "id" none, .literal "", .param "n" none, .literal ""] ∧
      renderPattern [.literal "files", .param "id" none, .literal "", .param "n" none,
        .literal ""] = "/files/:id//:n/" ∧
      parsePattern (renderPattern [.literal "files", .param "id" none, .literal "",
        .param "n" none, .literal ""]) [] =
        .ok ([Segment.literal "files", .param "id" none, .literal "", .param "n" none,
          .literal ""].map Segment.skeleton) := by
  have hparse : parsePattern "/files/{id}//:n/" [] =
      .ok [.literal "files", .param "id" none, .literal "", .param "n" none, .literal ""] := by
    rfl
  exact ⟨hparse, by decide, parsePattern_renderPattern hparse⟩

end Switchyard

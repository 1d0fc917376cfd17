import Mathlib
import Switchyard.Route.Segment
import Switchyard.Proofs.Regex.Enclosed
/-!
# Anchored constraints

A placeholder's constraint is compiled from the text `^(?:re)$`, where `re` is the inline text
cut from the first `(` to the final `)` of the placeholder, or the pattern registered for its
name. When `re` reads as a pattern `e` on its own, that text reads as `e` between a start and an
end assertion (`Expr.eq_anchor_of_parse_wrapped`), and a search for it in a path segment
succeeds exactly when `e` matches the whole segment (`Expr.isMatch_anchor`): the start
assertion holds only before the first character, so only the search from the start can succeed,
and the end assertion only after the last character. So a placeholder whose constraint reads on
its own accepts exactly the segments its pattern matches whole
(`param_accepts_eq_source_matchesWhole`).

The wrapping is done on the text, so a `re` that closes the group early changes what the
wrapper means: `a)|(?:b` is no pattern on its own, but `^(?:a)|(?:b)$` is a choice between `^a`
and `b$`, and the placeholder `:n(a)|(?:b)` accepts `ax` (`parse_keeps_unanchored_constraint`).
-/
namespace Switchyard

namespace Regex

/-- Whether an expression matches the whole of a text. -/
def Expr.matchesWhole (e : Expr) (s : String) : Bool :=
  e.accepts (s.toList.length + 1) none s.toList fun _ rest => rest.isEmpty

namespace Expr

variable (fuel : Nat) (p : Option Char) (cs : List Char) (k : Option Char → List Char → Bool)

theorem accepts_look (l : Look) : (Expr.look l).accepts fuel p cs k = (l.holds p cs && k p cs) := by
  simp only [accepts]

theorem accepts_seq (a b : Expr) :
    (Expr.seq a b).accepts fuel p cs k = a.accepts fuel p cs fun p' cs' => b.accepts fuel p' cs' k := by
  simp only [accepts]

/-- After a character, the anchored expression takes nothing: its start assertion fails. -/
theorem accepts_anchor_some (e : Expr) (c : Char) : e.anchor.accepts fuel (some c) cs k = false := by
  simp [anchor, accepts_seq, accepts_look, Look.holds]

/-- At the start, the anchored expression takes what the expression takes up to the end. -/
theorem accepts_anchor_none (e : Expr) :
    e.anchor.accepts fuel none cs k = e.accepts fuel none cs fun p' cs' => cs'.isEmpty && k p' cs' := by
  simp [anchor, accepts_seq, accepts_look, Look.holds]

/-- A search for the anchored expression from any position after the first finds nothing. -/
theorem isMatch_go_anchor_some (e : Expr) (c : Char) (cs : List Char) :
    isMatch.go e.anchor (some c) cs = false := by
  induction cs generalizing c with
  | nil => exact accepts_anchor_some _ _ _ e c
  | cons c' cs ih =>
    simp only [isMatch.go, matchesAt, accepts_anchor_some, ih, Bool.or_false]

/-- An expression anchored at both ends matches somewhere in a text exactly when the
expression matches the whole text. -/
theorem isMatch_anchor (e : Expr) (s : String) : e.anchor.isMatch s = e.matchesWhole s := by
  unfold isMatch matchesWhole
  -- only the search from the start can succeed
  cases s.toList with
  | nil => simp [isMatch.go, matchesAt, accepts_anchor_none]
  | cons c cs => simp [isMatch.go, matchesAt, accepts_anchor_none, isMatch_go_anchor_some]

end Expr

end Regex

namespace Segment

/-- A compiled constraint holds its text and the compiled text `^(?:re)$`, which fits the size
limit. -/
theorem compileConstraint_eq_ok {name re : String} {c : Constraint}
    (h : compileConstraint name re = .ok c) :
    c.source = re ∧ Regex.Expr.parse (anchored re) = .ok c.regex ∧ c.regex.fitsSizeLimit = true := by
  unfold compileConstraint at h
  dsimp only at h
  split at h
  case h_1 r hr =>
    split at h
    case isTrue hfits =>
      cases h
      exact ⟨rfl, hr, hfits⟩
    case isFalse => cases h
  case h_2 => cases h

/-- An inline constraint runs from the first `(` of the placeholder body to its final `)`, so it
may hold further parentheses. -/
theorem splitInline_append {name inner : List Char} (hname : '(' ∉ name) :
    splitInline (name ++ '(' :: (inner ++ [')'])) = (name, some inner) := by
  have hall : ∀ c ∈ name, (c != '(') = true := fun c hc => by
    simpa using fun h : c = '(' => hname (h ▸ hc)
  have hlast : (name ++ '(' :: (inner ++ [')'])).getLast? = some ')' := by
    rw [← List.cons_append, ← List.append_assoc, List.getLast?_concat]
  unfold splitInline
  rw [List.takeWhile_append_of_pos hall, List.dropWhile_append_of_pos hall, hlast]
  simp

/-- A placeholder `:name(re)` is constrained by the compiled text of `re`, whatever `re` holds. -/
theorem parse_inline {name re : String} (hname : '(' ∉ name.toList) (hne : name ≠ "")
    (pattern : String) (vars : List (String × String)) :
    parse (":" ++ name ++ "(" ++ re ++ ")") pattern vars =
      match compileConstraint name re with
      | .ok c => .ok (.param name (some c))
      | .error reason => .error (.invalidPattern pattern reason) := by
  have hbody : placeholderBody (":" ++ name ++ "(" ++ re ++ ")") =
      some (name.toList ++ '(' :: (re.toList ++ [')'])) := by
    simp [placeholderBody, String.toList_append]
  unfold parse
  rw [hbody]
  dsimp only
  rw [splitInline_append hname]
  have hne' : name.isEmpty = false := by simpa [String.isEmpty_iff] using hne
  cases hc : compileConstraint name re <;> simp [hne', hc]

/-- A constrained placeholder that `parse` builds holds the compiled text `^(?:re)$` of its
constraint's text. -/
theorem parse_eq_param_some {raw pattern name : String} {vars : List (String × String)}
    {c : Constraint} (h : parse raw pattern vars = .ok (.param name (some c))) :
    Regex.Expr.parse (anchored c.source) = .ok c.regex := by
  unfold parse at h
  split at h
  case h_1 => cases h
  case h_2 body _ =>
    split at h
    dsimp only at h
    split at h
    case isTrue => cases h
    case isFalse =>
      split at h
      case h_1 => cases h
      case h_2 re _ =>
        split at h
        case h_1 c' hc =>
          cases h
          obtain ⟨hsource, hparse, -⟩ := compileConstraint_eq_ok hc
          rw [hsource]
          exact hparse
        case h_2 => cases h

/-- A constrained placeholder that `parse` builds, whose constraint text reads as a pattern `e`
on its own, accepts a path segment exactly when `e` matches the whole segment. -/
theorem param_accepts_eq_source_matchesWhole {raw pattern name : String}
    {vars : List (String × String)} {c : Constraint} {e : Regex.Expr}
    (h : parse raw pattern vars = .ok (.param name (some c)))
    (he : Regex.Expr.parse c.source = .ok e) (v : String) :
    (Segment.param name (some c)).accepts v = e.matchesWhole v := by
  -- the compiled text is the constraint's own pattern, anchored at both ends
  have hanchor : c.regex = e.anchor :=
    Regex.Expr.eq_anchor_of_parse_wrapped he (parse_eq_param_some h)
  rw [accepts, hanchor, Regex.Expr.isMatch_anchor]

/-- The placeholder `:n(a|b)` holds the choice `a|b` anchored; `a|b` reads as that choice on its
own, and the placeholder accepts exactly the segments the choice matches whole. -/
theorem param_accepts_eq_source_matchesWhole_choice :
    let e : Regex.Expr := .alt (.char (.range 'a' 'a')) (.char (.range 'b' 'b'))
    parse ":n(a|b)" "/:n(a|b)" [] = .ok (.param "n" (some ⟨"a|b", e.anchor⟩)) ∧
      Regex.Expr.parse "a|b" = .ok e ∧
      ∀ v, (Segment.param "n" (some ⟨"a|b", e.anchor⟩)).accepts v = e.matchesWhole v := by
  intro e
  have hcompile : compileConstraint "n" "a|b" = .ok ⟨"a|b", e.anchor⟩ := by
    unfold compileConstraint
    dsimp only
    rw [show Regex.Expr.parse (anchored "a|b") = .ok e.anchor by cbv]
    exact if_pos (by decide +kernel)
  have hparse : parse ":n(a|b)" "/:n(a|b)" [] = .ok (.param "n" (some ⟨"a|b", e.anchor⟩)) := by
    rw [show ":n(a|b)" = ":" ++ "n" ++ "(" ++ "a|b" ++ ")" by decide +kernel,
      parse_inline (by decide) (by decide), hcompile]
  have hsource : Regex.Expr.parse "a|b" = .ok e := by cbv
  exact ⟨hparse, hsource, param_accepts_eq_source_matchesWhole hparse hsource⟩

/-- A text that closes the wrapping group early is no pattern on its own, yet the placeholder
`:n(a)|(?:b)` is built with the constraint `^(?:a)|(?:b)$`, which reads as a choice between `^a`
and `b$`, is of no anchored form, and accepts `ax`. -/
theorem parse_keeps_unanchored_constraint :
    Regex.Expr.parse "a)|(?:b" = .error ⟨.groupUnopened, ⟨1, 2⟩, none⟩ ∧
      parse ":n(a)|(?:b)" "/:n(a)|(?:b)" [] = .ok (.param "n" (some ⟨"a)|(?:b",
        .alt (.seq (.look .textStart) (.char (.range 'a' 'a')))
          (.seq (.char (.range 'b' 'b')) (.look .textEnd))⟩)) ∧
      (∀ e : Regex.Expr, Regex.Expr.alt (.seq (.look .textStart) (.char (.range 'a' 'a')))
          (.seq (.char (.range 'b' 'b')) (.look .textEnd)) ≠ e.anchor) ∧
      (Segment.param "n" (some ⟨"a)|(?:b", .alt (.seq (.look .textStart) (.char (.range 'a' 'a')))
          (.seq (.char (.range 'b' 'b')) (.look .textEnd))⟩)).accepts "ax" = true := by
  have hcompile : compileConstraint "n" "a)|(?:b" = .ok ⟨"a)|(?:b",
      .alt (.seq (.look .textStart) (.char (.range 'a' 'a')))
        (.seq (.char (.range 'b' 'b')) (.look .textEnd))⟩ := by
    unfold compileConstraint
    dsimp only
    rw [show Regex.Expr.parse (anchored "a)|(?:b") =
      .ok (.alt (.seq (.look .textStart) (.char (.range 'a' 'a')))
        (.seq (.char (.range 'b' 'b')) (.look .textEnd))) by cbv]
    exact if_pos (by decide +kernel)
  refine ⟨rfl, ?_, (fun e h => by cases h), by cbv⟩
  rw [show ":n(a)|(?:b)" = ":" ++ "n" ++ "(" ++ "a)|(?:b" ++ ")" by decide +kernel,
    parse_inline (by decide) (by decide), hcompile]

end Segment

end Switchyard

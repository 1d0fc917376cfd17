import Switchyard.Regex.Syntax
/-!
# Matching patterns

`Expr.accepts` is a backtracking matcher in continuation-passing style: it tries every way
the pattern can take a prefix of the text and hands what is left to a continuation. A
repetition without an upper bound iterates only while each round takes at least one
character, and a fuel counted in characters bounds its rounds, so the matcher is total; with
fuel above the length of the text the bound never cuts a match short.

`Expr.isMatch` asks whether the pattern matches anywhere in a text, as a search does.
-/
namespace Switchyard.Regex

/-- Whether `r` takes a prefix of `cs` (with `prev` the character before it) so that the
continuation accepts the position after that prefix. -/
def Expr.accepts : Nat → Expr → Option Char → List Char → (Option Char → List Char → Bool) →
    Bool
  | _, .empty, p, cs, k => k p cs
  | _, .char cls, _, c :: cs, k => cls.contains c && k (some c) cs
  | _, .char _, _, [], _ => false
  | _, .look l, p, cs, k => l.holds p cs && k p cs
  | fuel, .seq a b, p, cs, k => accepts fuel a p cs fun p' cs' => accepts fuel b p' cs' k
  | fuel, .alt a b, p, cs, k => accepts fuel a p cs k || accepts fuel b p cs k
  | fuel, .capture r, p, cs, k => accepts fuel r p cs k
  | fuel, .rep r (n + 1) none, p, cs, k =>
    accepts fuel r p cs fun p' cs' => accepts fuel (.rep r n none) p' cs' k
  | fuel, .rep r (n + 1) (some (m + 1)), p, cs, k =>
    accepts fuel r p cs fun p' cs' => accepts fuel (.rep r n (some m)) p' cs' k
  | _, .rep _ (_ + 1) (some 0), _, _, _ => false
  | _, .rep _ 0 (some 0), p, cs, k => k p cs
  | fuel, .rep r 0 (some (m + 1)), p, cs, k =>
    (accepts fuel r p cs fun p' cs' => accepts fuel (.rep r 0 (some m)) p' cs' k) || k p cs
  | 0, .rep _ 0 none, p, cs, k => k p cs
  | fuel + 1, .rep r 0 none, p, cs, k =>
    (accepts (fuel + 1) r p cs fun p' cs' =>
      decide (cs'.length < cs.length) && accepts fuel (.rep r 0 none) p' cs' k) || k p cs
termination_by fuel r => (fuel, sizeOf r)

/-- Whether the pattern matches starting at the head of `cs`. -/
def Expr.matchesAt (r : Expr) (prev : Option Char) (cs : List Char) : Bool :=
  r.accepts (cs.length + 1) prev cs fun _ _ => true

/-- Whether the pattern matches somewhere in a text. -/
def Expr.isMatch (r : Expr) (s : String) : Bool :=
  go none s.toList
where
  /-- Tries every start position from the head of `cs` on. -/
  go (prev : Option Char) : List Char → Bool
    | [] => r.matchesAt prev []
    | c :: cs => r.matchesAt prev (c :: cs) || go (some c) cs

end Switchyard.Regex

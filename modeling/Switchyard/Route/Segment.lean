import Switchyard.Error
import Switchyard.Regex.Parse
import Switchyard.Regex.Match
import Switchyard.Regex.Automaton
/-!
# Route patterns

A route pattern such as `/users/:id(\d+)/{slug}` is a list of segments, one per `/`-separated
part of the path after its leading slash. A segment is a literal, which a path segment must
equal, or a placeholder, which captures the path segment under its name, optionally under a
constraint: a pattern the whole segment must match.

Placeholders are written `:name`, `{name}`, `:name(re)` or `{name(re)}`; a placeholder
without an inline constraint takes the one registered for its name, if any.

`compareSegments` orders patterns for the route table: at the first position where they
differ, a literal comes before a placeholder and literals go by text; placeholders tie; then
the shorter pattern comes first. `matchSegments` matches a pattern against a split path and
collects the captured values, a later placeholder of a name overriding an earlier one.
-/
namespace Switchyard

/-- The parts of a list between the separators, in order; one part for a list without one. -/
def splitOnChar (sep : Char) : List Char → List (List Char)
  | [] => [[]]
  | c :: cs =>
    if c = sep then [] :: splitOnChar sep cs
    else
      match splitOnChar sep cs with
      | w :: ws => (c :: w) :: ws
      | [] => [[c]]

/-- The segments of a path: one leading `/` dropped, then the parts between `/`. The empty path
and `/` have none; a trailing `/` gives a trailing empty segment. -/
def splitPath (path : String) : List String :=
  let cs := match path.toList with
    | '/' :: rest => rest
    | cs => cs
  if cs.isEmpty then [] else (splitOnChar '/' cs).map String.ofList

/-- A placeholder's constraint: its pattern text and the pattern anchored at both ends. -/
structure Constraint where
  /-- The pattern text as written. -/
  source : String
  /-- The compiled pattern, anchored. -/
  regex : Regex.Expr

/-- One segment of a route pattern. -/
inductive Segment where
  /-- A path segment equal to the text. -/
  | literal (text : String)
  /-- Any path segment its constraint accepts, captured under the name. -/
  | param (name : String) (constraint : Option Constraint)

namespace Segment

/-- Whether the segment is a placeholder. -/
def isParam : Segment → Bool
  | .literal _ => false
  | .param .. => true

/-- The text a segment prints as: a literal's text, or `:` and the placeholder's name. -/
def display : Segment → String
  | .literal t => t
  | .param name _ => ":" ++ name

/-- Whether a path segment fits this pattern segment. -/
def accepts : Segment → String → Bool
  | .literal t, v => t == v
  | .param _ none, _ => true
  | .param _ (some c), v => c.regex.isMatch v

/-- The anchored form of a constraint's text. -/
def anchored (re : String) : String := "^(?:" ++ re ++ ")$"

/-- The constraint compiled from its text, or the reason it does not compile. -/
def compileConstraint (name re : String) : Except String Constraint :=
  let text := anchored re
  let lead := "bad constraint for `" ++ name ++ "`: "
  match Regex.Expr.parse text with
  | .ok r =>
    if r.fitsSizeLimit then .ok ⟨re, r⟩
    else .error (lead ++ "Compiled regex exceeds size limit of " ++ toString Regex.sizeLimit ++
      " bytes.")
  | .error e => .error (lead ++ e.render text)

/-- The name and inline constraint of a placeholder body: the body up to its first `(`, and
what lies between that `(` and a final `)`. -/
def splitInline (body : List Char) : List Char × Option (List Char) :=
  let name := body.takeWhile (· != '(')
  let rest := body.dropWhile (· != '(')
  match rest, body.getLast? with
  | '(' :: inner, some ')' => (name, some inner.dropLast)
  | _, _ => (body, none)

/-- The body of a placeholder: after a leading `:`, or inside `{` and `}`; `none` for a
literal. -/
def placeholderBody (raw : String) : Option (List Char) :=
  match raw.toList with
  | ':' :: rest => some rest
  | cs@('{' :: rest) =>
    if raw.utf8ByteSize > 1 ∧ cs.getLast? = some '\x7d' then some rest.dropLast else none
  | _ => none

/-- One raw segment of `pattern`, with the constraints registered by name. -/
def parse (raw pattern : String) (vars : List (String × String)) : Except Error Segment :=
  match placeholderBody raw with
  | none => .ok (.literal raw)
  | some body =>
    let (nameChars, inline) := splitInline body
    let name := String.ofList nameChars
    if name.isEmpty then
      .error (.invalidPattern pattern ("placeholder `" ++ raw ++ "` has no name"))
    else
      let source := (inline.map String.ofList).orElse fun _ => vars.lookup name
      match source with
      | none => .ok (.param name none)
      | some re =>
        match compileConstraint name re with
        | .ok c => .ok (.param name (some c))
        | .error reason => .error (.invalidPattern pattern reason)

end Segment

/-- A whole pattern as segments, or the first segment's error. -/
def parsePattern (pattern : String) (vars : List (String × String)) : Except Error (List Segment) :=
  (splitPath pattern).mapM fun raw => Segment.parse raw pattern vars

/-- The order of one segment against another at the same position. -/
def Segment.compareAt : Segment → Segment → Ordering
  | .literal a, .literal b => compare a b
  | .literal _, .param .. => .lt
  | .param .., .literal _ => .gt
  | .param .., .param .. => .eq

/-- The table order of two patterns: the first position where they differ decides, then the
shorter comes first. -/
def compareSegments : List Segment → List Segment → Ordering
  | a :: as, b :: bs =>
    match a.compareAt b with
    | .eq => compareSegments as bs
    | o => o
  | [], [] => .eq
  | [], _ :: _ => .lt
  | _ :: _, [] => .gt

/-- Captured path parameters: names with values, each name once. -/
structure Params where
  /-- The captures, in the order their names first appeared. -/
  entries : List (String × String) := []
  deriving DecidableEq, Repr, Inhabited

namespace Params

/-- Sets a name's value, replacing an earlier one. -/
def insert (p : Params) (name value : String) : Params :=
  if p.entries.any (·.1 == name) then
    ⟨p.entries.map fun (k, v) => if k == name then (k, value) else (k, v)⟩
  else ⟨p.entries ++ [(name, value)]⟩

/-- The value of a name. -/
def get? (p : Params) (name : String) : Option String := p.entries.lookup name

/-- The number of captures. -/
def size (p : Params) : Nat := p.entries.length

/-- Whether nothing was captured. -/
def isEmpty (p : Params) : Bool := p.entries.isEmpty

end Params

/-- Matches pattern segments against path segments one to one, capturing placeholders. -/
def matchSegments (pattern : List Segment) (path : List String) : Option Params :=
  go pattern path {}
where
  /-- Matches the rest, with the captures so far. -/
  go : List Segment → List String → Params → Option Params
    | [], [], acc => some acc
    | s :: ss, v :: vs, acc =>
      if s.accepts v then
        match s with
        | .param name _ => go ss vs (acc.insert name v)
        | .literal _ => go ss vs acc
      else none
    | _, _, _ => none

end Switchyard

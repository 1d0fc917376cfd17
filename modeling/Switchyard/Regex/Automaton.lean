import Std.Data.HashMap
import Switchyard.Regex.Syntax
/-!
# The size of a compiled pattern

A pattern runs as a Thompson automaton over UTF-8 bytes, built twice: forwards, and backwards
to find where a match starts. Either automaton may take at most `sizeLimit` bytes, counted the
way its builder counts them: `stateBytes` for each state, `transitionBytes` for each byte
range of a state that tests several, and `alternativeBytes` for each branch of a choice state.
`Expr.fitsSizeLimit` checks a pattern against the limit.

The builder works on the pattern after a few simplifications (`Expr.simplify`). A repetition
exactly once is its body and one of zero times is empty. Empty parts of a sequence vanish. A
choice among single characters, or among sets, becomes one set. How a set compiles depends on
its characters (`setCost`):
* a set of one character is a literal, one state per UTF-8 byte;
* a set of ASCII characters is one state that tests its ranges;
* any other set becomes an automaton over the UTF-8 encodings of its ranges.

That automaton shares common suffixes when built forwards (`forwardSetBytes`) and common
leading bytes when built backwards (`backwardSetBytes`).
-/
namespace Switchyard.Regex

/-- The memory either compiled automaton may take, in bytes. -/
def sizeLimit : Nat := 10485760

/-- The memory of one state. -/
def stateBytes : Nat := 32

/-- The memory of one byte range of a state that tests several. -/
def transitionBytes : Nat := 8

/-- The memory of one branch of a choice state. -/
def alternativeBytes : Nat := 4

/-! ## Sets of code points as boundaries -/

/-- One past the last code point. -/
def codeSpaceEnd : Nat := 0x110000

/-- The boundaries of the set that `f` makes of two sets, each given by its boundaries: the
ascending points where membership changes, so that a set holds `n` when an odd number of its
boundaries are at most `n`. `f` must map two non-members to a non-member. -/
def combineBounds (f : Bool → Bool → Bool) (a b : List Nat) : List Nat :=
  go (a.length + b.length + 1) a b false false false []
where
  /-- `ia` and `ib` say whether the point before the rest of `xs` and `ys` lies in either
  set, `out` whether it lies in the result, and `acc` holds the result's boundaries so far,
  last first. -/
  go : Nat → List Nat → List Nat → Bool → Bool → Bool → List Nat → List Nat
    | 0, _, _, _, _, _, acc => acc.reverse
    | fuel + 1, xs, ys, ia, ib, out, acc =>
      let next : Option (Nat × List Nat × List Nat × Bool × Bool) :=
        match xs, ys with
        | [], [] => none
        | x :: xs', [] => some (x, xs', [], !ia, ib)
        | [], y :: ys' => some (y, [], ys', ia, !ib)
        | x :: xs', y :: ys' =>
          if x < y then some (x, xs', ys, !ia, ib)
          else if y < x then some (y, xs, ys', ia, !ib)
          else some (x, xs', ys', !ia, !ib)
      match next with
      | none => acc.reverse
      | some (p, xs, ys, ia, ib) =>
        let out' := f ia ib
        go fuel xs ys ia ib out' (if out' != out then p :: acc else acc)

/-- The boundaries of a set of code points given one by one, in any order. -/
def pointBounds (points : List Nat) : List Nat :=
  let sorted := (points.mergeSort (· ≤ ·)).eraseDups
  let (runs, open?) := sorted.foldl (fun (acc, cur) p =>
    match cur with
    | some (lo, hi) => if p = hi then (acc, some (lo, hi + 1)) else (hi :: lo :: acc, some (p, p + 1))
    | none => (acc, some (p, p + 1))) (([] : List Nat), (none : Option (Nat × Nat)))
  let runs := match open? with
    | some (lo, hi) => hi :: lo :: runs
    | none => runs
  runs.reverse

/-- The boundaries of the characters of some general categories. -/
def categoryBounds (cats : List Unicode.Category) : List Nat :=
  let (acc, inside) := Unicode.categoryRuns.foldl (fun (acc, inside) (start, cat) =>
    let now := cats.contains cat
    (if now != inside then start :: acc else acc, now)) (([] : List Nat), false)
  (if inside then codeSpaceEnd :: acc else acc).reverse

/-- The boundaries of `White_Space`. -/
def whiteSpaceBounds : List Nat :=
  [9, 14, 32, 33, 0x85, 0x86, 0xA0, 0xA1, 0x1680, 0x1681, 0x2000, 0x200B, 0x2028, 0x202A,
    0x202F, 0x2030, 0x205F, 0x2060, 0x3000, 0x3001]

/-- The sets of characters that are case variants of each other, with two members or more. -/
def caseOrbits : List (List Nat) :=
  let pairs := Unicode.foldRuns.flatMap fun (start, count, delta, stride) =>
    (List.range count).map fun i =>
      let cp := start + i * stride
      (((cp : Int) + delta).toNat, cp)
  let byTarget := pairs.foldl (fun (m : Std.HashMap Nat (List Nat)) (target, source) =>
    m.insert target (source :: m.getD target [])) {}
  byTarget.toList.map fun (target, sources) => target :: sources

/-- The pairs of ASCII letters, which are all the case variants outside Unicode mode. -/
def asciiOrbits : List (List Nat) := (List.range 26).map fun i => [65 + i, 97 + i]

/-- A set with every character added whose case variant, among `orbits`, it holds. -/
def closeUnder (orbits : List (List Nat)) (b : List Nat) : List Nat :=
  let arr := b.toArray
  let extra := orbits.flatMap fun o => if o.any (Unicode.inBoundaries arr) then o else []
  combineBounds (· || ·) b (pointBounds extra)

/-- The boundaries of the code points of a set of characters, surrogates left out. -/
def CharClass.bounds : CharClass → List Nat
  | .nothing => []
  | .anything => [0, codeSpaceEnd]
  | .range lo hi => if lo ≤ hi then [lo.toNat, hi.toNat + 1] else []
  | .perl .digit => categoryBounds [.Nd]
  | .perl .word => Unicode.wordBoundaries.toList
  | .perl .space => whiteSpaceBounds
  | .categories cats => categoryBounds cats
  | .table b => b.toList
  | .union a b => combineBounds (· || ·) a.bounds b.bounds
  | .inter a b => combineBounds (· && ·) a.bounds b.bounds
  | .diff a b => combineBounds (fun x y => x && !y) a.bounds b.bounds
  | .symDiff a b => combineBounds (· != ·) a.bounds b.bounds
  | .negate a => combineBounds (· != ·) [0, codeSpaceEnd] a.bounds
  | .caseless a => closeUnder caseOrbits a.bounds
  | .asciiCaseless a => closeUnder asciiOrbits a.bounds

/-- The ranges `[lo, hi]` of a set's characters, ascending, surrogates left out. -/
def CharClass.ranges (k : CharClass) : List (Nat × Nat) :=
  let b := combineBounds (fun x y => x && !y) k.bounds [0xD800, 0xE000]
  go b.length b
where
  /-- Pairs up the boundaries. -/
  go : Nat → List Nat → List (Nat × Nat)
    | fuel + 1, lo :: hi :: rest => (lo, hi - 1) :: go fuel rest
    | _, _ => []

/-! ## UTF-8 encodings of ranges -/

/-- The largest code point with a UTF-8 encoding of `n` bytes. -/
def maxOfLength : Nat → Nat
  | 1 => 0x7F
  | 2 => 0x7FF
  | 3 => 0xFFFF
  | _ => 0x10FFFF

/-- The UTF-8 bytes of a code point. -/
def utf8Encode (n : Nat) : List Nat :=
  if n < 0x80 then [n]
  else if n < 0x800 then [0xC0 + n / 64, 0x80 + n % 64]
  else if n < 0x10000 then [0xE0 + n / 4096, 0x80 + n / 64 % 64, 0x80 + n % 64]
  else [0xF0 + n / 262144, 0x80 + n / 4096 % 64, 0x80 + n / 64 % 64, 0x80 + n % 64]

/-- Byte strings of one length, given by a range of bytes at each position. -/
abbrev ByteRanges := List (Nat × Nat)

/-- Where a range of code points of one UTF-8 length must be cut so that its encodings form
one `ByteRanges`: a range crossing a block of `64 ^ i` code points that it does not start or
end on is cut at that block's edge, for `i` from 1 to 3. -/
def alignCut (lo hi : Nat) : Option ((Nat × Nat) × (Nat × Nat)) :=
  [1, 2, 3].findSome? fun i =>
    let block := Nat.pow 64 i
    if lo / block = hi / block then none
    else if lo % block ≠ 0 then
      let edge := lo - lo % block + block
      some ((lo, edge - 1), (edge, hi))
    else if hi % block ≠ block - 1 then
      let edge := hi - hi % block
      some ((lo, edge - 1), (edge, hi))
    else none

/-- The encodings of ranges of code points (the first on top of the stack), as `ByteRanges`
in ascending order: a range is cut around the surrogates, at the ends of the UTF-8 lengths,
and by `alignCut`, until its encodings are byte ranges position by position. -/
def utf8Split : Nat → List (Nat × Nat) → List ByteRanges → List ByteRanges
  | 0, _, acc => acc.reverse
  | _ + 1, [], acc => acc.reverse
  | fuel + 1, (lo, hi) :: stack, acc =>
    if lo < 0xE000 ∧ 0xD7FF < hi then utf8Split fuel ((lo, 0xD7FF) :: (0xE000, hi) :: stack) acc
    else if hi < lo then utf8Split fuel stack acc
    else
      match [1, 2, 3].find? (fun i => lo ≤ maxOfLength i ∧ maxOfLength i < hi) with
      | some i => utf8Split fuel ((lo, maxOfLength i) :: (maxOfLength i + 1, hi) :: stack) acc
      | none =>
        if hi ≤ 0x7F then utf8Split fuel stack ([(lo, hi)] :: acc)
        else
          match alignCut lo hi with
          | some (a, b) => utf8Split fuel (a :: b :: stack) acc
          | none => utf8Split fuel stack ((utf8Encode lo).zip (utf8Encode hi) :: acc)

/-- The encodings of a set's ranges, as `ByteRanges` in ascending order. -/
def utf8Sequences (ranges : List (Nat × Nat)) : List ByteRanges :=
  ranges.flatMap fun r => utf8Split 128 [r] []

/-! ## The automaton of a set -/

/-- A transition of the forward set automaton: a byte range and the state it leads to. -/
abbrev Edge := Nat × Nat × Nat

/-- The states of the forward set automaton built so far: a number for each distinct state,
counting from 1 (0 is the final state), and how many transitions they hold. -/
structure Registry where
  /-- The number of each state, by its transitions. -/
  ids : Std.HashMap (List Edge) Nat := {}
  /-- How many states there are. -/
  states : Nat := 0
  /-- How many transitions they hold. -/
  transitions : Nat := 0

/-- The number of the state with these transitions, registering it if it is new. -/
def Registry.compile (reg : Registry) (node : List Edge) : Registry × Nat :=
  match reg.ids[node]? with
  | some id => (reg, id)
  | none =>
    let id := reg.states + 1
    ({ ids := reg.ids.insert node id, states := id, transitions := reg.transitions + node.length },
      id)

/-- A state of the forward set automaton still under construction: its finished
transitions, last first, and the byte range of the transition whose target is not yet known. -/
structure OpenState where
  /-- The finished transitions, last first. -/
  edges : List Edge
  /-- The open transition's byte range. -/
  pending : Option (Nat × Nat)

/-- The open state with its pending transition led to `next`. -/
def OpenState.close (s : OpenState) (next : Nat) : OpenState :=
  match s.pending with
  | some (lo, hi) => { edges := (lo, hi, next) :: s.edges, pending := none }
  | none => s

/-- A list with its last element changed. -/
def changeLast {α : Type} : List α → (α → α) → List α
  | [], _ => []
  | [x], f => [f x]
  | x :: rest, f => x :: changeLast rest f

/-- Finishes the open states deeper than `keep`, deepest first (the last of the list), so that
equal states are registered once; the state at depth `keep` then leads to the last one. -/
def finishFrom (keep : Nat) (reg : Registry) (path : List OpenState) : Registry × List OpenState :=
  let deeper := path.drop (keep + 1)
  let (reg, next) := deeper.reverse.foldl (fun (reg, next) s =>
    reg.compile ((s.close next).edges.reverse)) (reg, 0)
  (reg, changeLast (path.take (keep + 1)) fun s => s.close next)

/-- The number of leading positions where a byte string's ranges equal the pending ranges of
the open states. -/
def sharedLead : List OpenState → ByteRanges → Nat
  | s :: path, r :: rs => if s.pending == some r then sharedLead path rs + 1 else 0
  | _, _ => 0

/-- Adds one byte string to the forward set automaton: the open states past the part it
shares are finished, and new open states follow the shared part. -/
def addSequence (acc : Registry × List OpenState) (seq : ByteRanges) : Registry × List OpenState :=
  let (reg, path) := acc
  let keep := sharedLead path seq
  let (reg, path) := finishFrom keep reg path
  match seq.drop keep with
  | [] => (reg, path)
  | first :: rest =>
    let path := changeLast path fun s => { s with pending := some first }
    (reg, path ++ rest.map fun r => { edges := [], pending := some r })

/-- The memory of the forward automaton of a set that is not all ASCII, from the encodings of
its ranges in ascending order: states with equal transitions are one state, so the automaton
shares common suffixes. Its final state comes on top. -/
def forwardSetBytes (seqs : List ByteRanges) : Nat :=
  let (reg, path) := seqs.foldl addSequence ({}, [{ edges := [], pending := none }])
  let (reg, path) := finishFrom 0 reg path
  let reg := match path with
    | [root] => (reg.compile root.edges.reverse).1
    | _ => reg
  stateBytes * (1 + reg.states) + transitionBytes * reg.transitions

/-- The memory of the backward automaton of a set that is not all ASCII: a choice state with a
branch for each encoding, a final state, and one state for each byte range, the ranges of an
encoding read from its first byte, which lies next to the final state; encodings share the
states of a common leading part. -/
def backwardSetBytes (seqs : List ByteRanges) : Nat :=
  let step (acc : Std.HashMap (Nat × Nat × Nat) Nat × Nat) (seq : ByteRanges) :=
    let (cache, count, _) := seq.foldl (fun (cache, count, dest) (lo, hi) =>
      match cache[(dest, lo, hi)]? with
      | some id => (cache, count, id)
      | none => (cache.insert (dest, lo, hi) (count + 1), count + 1, count + 1))
      (acc.1, acc.2, 0)
    (cache, count)
  let (_, count) := seqs.foldl step ({}, 0)
  stateBytes * (2 + count) + alternativeBytes * seqs.length

/-! ## The automaton of a pattern -/

/-- The memory a part of a pattern adds to one automaton, and whether it ends in a choice
state, which takes a branch more when something follows it. -/
structure Fragment where
  /-- The memory it adds. -/
  bytes : Nat
  /-- Whether it ends in a choice state. -/
  endsInChoice : Bool
  deriving Repr

/-- The branch a choice state takes when something follows a fragment that ends in one. -/
def Fragment.join (f : Fragment) : Nat := if f.endsInChoice then alternativeBytes else 0

/-- The memory a set adds, forwards and backwards: a set of no character is a state that
fails, one of a single character a literal, one of ASCII characters a state testing its
ranges, and any other the automaton of its encodings. -/
def setCost (k : CharClass) : Fragment × Fragment :=
  let ranges := k.ranges
  let both (n : Nat) : Fragment × Fragment := (⟨n, false⟩, ⟨n, false⟩)
  match ranges with
  | [] => both (2 * stateBytes)
  | [(lo, hi)] =>
    if lo = hi then both (stateBytes * (utf8Encode lo).length)
    else if hi ≤ 0x7F then both (2 * stateBytes + transitionBytes)
    else
      let seqs := utf8Sequences ranges
      (⟨forwardSetBytes seqs, false⟩, ⟨backwardSetBytes seqs, false⟩)
  | _ =>
    if ranges.all (·.2 ≤ 0x7F) then both (2 * stateBytes + transitionBytes * ranges.length)
    else
      let seqs := utf8Sequences ranges
      (⟨forwardSetBytes seqs, false⟩, ⟨backwardSetBytes seqs, false⟩)

/-- Whether a pattern can match nothing but the empty text. -/
def Expr.takesNothing : Expr → Bool
  | .empty => true
  | .look _ => true
  | .char _ => false
  | .seq a b => a.takesNothing && b.takesNothing
  | .alt a b => a.takesNothing && b.takesNothing
  | .rep r _ max => max == some 0 || r.takesNothing
  | .capture r => r.takesNothing

/-- Whether every match of a pattern takes at least one character. -/
def Expr.consumes : Expr → Bool
  | .empty => false
  | .look _ => false
  | .char _ => true
  | .seq a b => a.consumes || b.consumes
  | .alt a b => a.consumes && b.consumes
  | .rep r min _ => min > 0 && r.consumes
  | .capture r => r.consumes

/-- The branches of a choice, nested choices flattened. -/
def Expr.choices : Expr → List Expr
  | .alt a b => a.choices ++ b.choices
  | e => [e]

/-- Whether a set holds exactly one character. -/
def CharClass.isSingle (k : CharClass) : Bool :=
  match k.ranges with
  | [(lo, hi)] => lo = hi
  | _ => false

/-- A choice between two simplified patterns: one set when every branch is a set and either
all are single characters or none is. -/
def choose (a b : Expr) : Expr :=
  let sets := (a.choices ++ b.choices).filterMap fun
    | .char k => some k
    | _ => none
  if sets.length = (a.choices ++ b.choices).length ∧
      (sets.all CharClass.isSingle ∨ sets.all fun k => !k.isSingle) then
    .char (CharClass.unionAll sets)
  else .alt a b

/-- The pattern the automaton is built from: repetitions of a body that takes nothing are cut
to at most one round, a repetition zero times is empty and one exactly once is its body, empty
parts of a sequence vanish, and choices merge sets. -/
def Expr.simplify : Expr → Expr
  | .seq a b =>
    match a.simplify, b.simplify with
    | .empty, b' => b'
    | a', .empty => a'
    | a', b' => .seq a' b'
  | .alt a b => choose a.simplify b.simplify
  | .rep r min max =>
    let r' := r.simplify
    let (min, max) :=
      if r'.takesNothing then (Nat.min min 1, some (Nat.min (max.getD 1) 1)) else (min, max)
    if min = 0 ∧ max = some 0 then .empty
    else if min = 1 ∧ max = some 1 then r'
    else .rep r' min max
  | .capture r => .capture r.simplify
  | e => e

/-- The fragment of `n` copies of a fragment one after another, for `n` at least one. -/
def Fragment.times (f : Fragment) (n : Nat) : Fragment :=
  ⟨n * f.bytes + (n - 1) * f.join, f.endsInChoice⟩

/-- The fragment of a repetition of a body with fragment `f`, as the compiler lays it out: an
optional body is a choice and an empty state around it; an unbounded repetition repeats its
last copy through a choice state (a body that can take nothing becomes an optional repetition
of at least one round); a bounded one follows its required copies with optional ones, each
behind a choice that can skip to a shared end. -/
def repCost (f : Fragment) (consumes : Bool) (min : Nat) : Option Nat → Fragment
  | some 1 =>
    if min = 0 then ⟨2 * stateBytes + f.bytes + 2 * alternativeBytes + f.join, false⟩
    else f
  | none =>
    if min = 0 then
      if consumes then ⟨stateBytes + f.bytes + alternativeBytes + f.join, true⟩
      else ⟨f.bytes + 3 * stateBytes + f.join + 4 * alternativeBytes, false⟩
    else ⟨min * f.bytes + min * f.join + stateBytes + alternativeBytes, true⟩
  | some max =>
    if min = max then f.times min
    else
      let pre : Fragment := if min = 0 then ⟨stateBytes, false⟩ else f.times min
      let k := max - min
      ⟨pre.bytes + stateBytes + k * (stateBytes + f.bytes + 2 * alternativeBytes) + pre.join +
        k * f.join, false⟩

/-- The memory a simplified pattern adds to the forward and the backward automaton, with the
memory it adds as the branches of a choice (each branch taking a branch of the choice state and
leading to its end). A sequence joins its parts in reading order forwards and in the reverse
order backwards; a capturing group takes two states forwards and none backwards. -/
def Expr.cost : Expr → (Fragment × Fragment) × (Nat × Nat)
  | .empty => leaf (⟨stateBytes, false⟩, ⟨stateBytes, false⟩)
  | .look _ => leaf (⟨stateBytes, false⟩, ⟨stateBytes, false⟩)
  | .char k => leaf (setCost k)
  | .seq a b =>
    let ((af, ab), _) := a.cost
    let ((bf, bb), _) := b.cost
    leaf (⟨af.bytes + bf.bytes + af.join, bf.endsInChoice⟩,
      ⟨ab.bytes + bb.bytes + bb.join, ab.endsInChoice⟩)
  | .alt a b =>
    let (_, (fa, ra)) := a.cost
    let (_, (fb, rb)) := b.cost
    ((⟨2 * stateBytes + fa + fb, false⟩, ⟨2 * stateBytes + ra + rb, false⟩), (fa + fb, ra + rb))
  | .rep r min max =>
    let ((f, b), _) := r.cost
    leaf (repCost f r.consumes min max, repCost b r.consumes min max)
  | .capture r =>
    let ((f, b), _) := r.cost
    leaf (⟨2 * stateBytes + f.bytes + f.join, false⟩, b)
where
  /-- A part that is not a choice: as a branch it takes a branch of the choice state and leads
  to the choice's end. -/
  leaf (c : Fragment × Fragment) : (Fragment × Fragment) × (Nat × Nat) :=
    (c, (c.1.bytes + alternativeBytes + c.1.join, c.2.bytes + alternativeBytes + c.2.join))

/-- The memory of the forward and the backward automaton of a pattern that is anchored at both
ends: forwards an empty start, the group that captures the whole match, the pattern and the
final state; backwards the same without the capturing group. -/
def Expr.automatonBytes (r : Expr) : Nat × Nat :=
  let ((f, b), _) := r.simplify.cost
  (stateBytes + 2 * stateBytes + f.bytes + f.join + stateBytes,
    stateBytes + b.bytes + b.join + stateBytes)

/-- Whether both automata of a pattern anchored at both ends fit in `sizeLimit`. -/
def Expr.fitsSizeLimit (r : Expr) : Bool :=
  let (f, b) := r.automatonBytes
  f ≤ sizeLimit && b ≤ sizeLimit

end Switchyard.Regex

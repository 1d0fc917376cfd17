import Switchyard.Text.Unicode
import Switchyard.Text.Unicode.Property
/-!
# Patterns over characters

The abstract syntax of the patterns that constrain route placeholders: sets of characters,
zero-width assertions about the neighbourhood of a position, sequence, choice and bounded or
unbounded repetition. `CharClass.contains` decides membership in a set; the matcher of
`Regex/Match` and the reading of pattern text in `Regex/Parse` are built on these types.

Character sets follow the Unicode conventions of the pattern language: `\d` is the decimal
digits of every script, `\w` the word characters, `\s` the blanks of `White_Space`, and a
case-insensitive set holds every character one of whose case variants it holds.
-/
namespace Switchyard.Regex

/-- The character classes with one-letter escapes. -/
inductive Perl where
  /-- `\d`: decimal digits. -/
  | digit
  /-- `\w`: word characters. -/
  | word
  /-- `\s`: blanks. -/
  | space
  deriving DecidableEq, Repr

/-- A set of characters. -/
inductive CharClass where
  /-- No character. -/
  | nothing
  /-- Every character. -/
  | anything
  /-- The characters from `lo` to `hi`, both included. -/
  | range (lo hi : Char)
  /-- A class with a one-letter escape. -/
  | perl (k : Perl)
  /-- The characters of any of the listed general categories. -/
  | categories (cats : List Unicode.Category)
  /-- The characters of an inversion list: a binary property or a script. -/
  | table (bounds : Array Nat)
  /-- Either set. -/
  | union (a b : CharClass)
  /-- Both sets. -/
  | inter (a b : CharClass)
  /-- The first set without the second. -/
  | diff (a b : CharClass)
  /-- Exactly one of the sets. -/
  | symDiff (a b : CharClass)
  /-- The complement. -/
  | negate (a : CharClass)
  /-- The characters with a case variant in the set. -/
  | caseless (a : CharClass)
  /-- The characters that are in the set or whose other ASCII case is: case folding outside
  Unicode mode, which pairs only the ASCII letters. -/
  | asciiCaseless (a : CharClass)
  deriving Repr, Inhabited

/-- The other case of an ASCII letter; every other character is itself. -/
def swapAsciiCase (c : Char) : Char :=
  if c.isUpper then Char.ofNat (c.toNat + 32)
  else if c.isLower then Char.ofNat (c.toNat - 32)
  else c

/-- Whether a character is a decimal digit, a word character or a blank. -/
def Perl.contains : Perl → Char → Bool
  | .digit, c => Unicode.isDigit c
  | .word, c => Unicode.isWord c
  | .space, c => Unicode.isWhiteSpace c

/-- Membership in a character set. -/
def CharClass.contains : CharClass → Char → Bool
  | .nothing, _ => false
  | .anything, _ => true
  | .range lo hi, c => lo ≤ c && c ≤ hi
  | .perl k, c => k.contains c
  | .categories cats, c => cats.contains (Unicode.category c)
  | .table bounds, c => Unicode.inBoundaries bounds c.toNat
  | .union a b, c => a.contains c || b.contains c
  | .inter a b, c => a.contains c && b.contains c
  | .diff a b, c => a.contains c && !b.contains c
  | .symDiff a b, c => a.contains c != b.contains c
  | .negate a, c => !a.contains c
  | .caseless a, c => (Unicode.caseVariants c).any a.contains
  | .asciiCaseless a, c => a.contains c || a.contains (swapAsciiCase c)

/-- A single character. -/
def CharClass.single (c : Char) : CharClass := .range c c

/-- The union of a list of sets. -/
def CharClass.unionAll : List CharClass → CharClass
  | [] => .nothing
  | [a] => a
  | a :: rest => .union a (unionAll rest)

/-- Zero-width assertions about a position, given the character before it and the text after.
The line assertions take whether a carriage return ends lines too (CRLF mode); the word
assertions take whether word characters are those of Unicode or only the ASCII letters, digits
and `_`. -/
inductive Look where
  /-- The start of the text. -/
  | textStart
  /-- The end of the text. -/
  | textEnd
  /-- The start of a line: the start of the text or after a line feed; in CRLF mode also after
  a carriage return that no line feed follows, so that no line starts inside `\r\n`. -/
  | lineStart (crlf : Bool)
  /-- The end of a line: the end of the text or before a line feed; in CRLF mode also before a
  carriage return, and before a line feed only when no carriage return precedes it. -/
  | lineEnd (crlf : Bool)
  /-- Between a word character and a character that is not one. -/
  | wordBoundary (unicode : Bool)
  /-- Not between a word character and a character that is not one. -/
  | notWordBoundary (unicode : Bool)
  /-- A non-word character (or the start) before and a word character after. -/
  | wordStart (unicode : Bool)
  /-- A word character before and a non-word character (or the end) after. -/
  | wordEnd (unicode : Bool)
  /-- No word character before. -/
  | wordStartHalf (unicode : Bool)
  /-- No word character after. -/
  | wordEndHalf (unicode : Bool)
  deriving DecidableEq, Repr

/-- Whether an optional character is a word character, of Unicode or of ASCII. -/
def isWordAt (unicode : Bool) : Option Char → Bool
  | some c => if unicode then Unicode.isWord c else c.toNat < 128 && (c.isAlphanum || c == '_')
  | none => false

/-- Whether an assertion holds between `prev` and the text `rest`. -/
def Look.holds (l : Look) (prev : Option Char) (rest : List Char) : Bool :=
  match l with
  | .textStart => prev.isNone
  | .textEnd => rest.isEmpty
  | .lineStart crlf =>
    prev.isNone || prev == some '\n' || (crlf && prev == some '\r' && rest.head? != some '\n')
  | .lineEnd crlf =>
    rest.isEmpty || (rest.head? == some '\n' && !(crlf && prev == some '\r')) ||
      (crlf && rest.head? == some '\r')
  | .wordBoundary u => isWordAt u prev != isWordAt u rest.head?
  | .notWordBoundary u => isWordAt u prev == isWordAt u rest.head?
  | .wordStart u => !isWordAt u prev && isWordAt u rest.head?
  | .wordEnd u => isWordAt u prev && !isWordAt u rest.head?
  | .wordStartHalf u => !isWordAt u prev
  | .wordEndHalf u => !isWordAt u rest.head?

/-- A pattern as an expression tree. -/
inductive Expr where
  /-- The empty text. -/
  | empty
  /-- One character of a set. -/
  | char (cls : CharClass)
  /-- An assertion, taking no character. -/
  | look (l : Look)
  /-- One pattern, then the other. -/
  | seq (a b : Expr)
  /-- Either pattern. -/
  | alt (a b : Expr)
  /-- The pattern at least `min` times, and at most `max` times when given. -/
  | rep (r : Expr) (min : Nat) (max : Option Nat)
  /-- A capturing group: it matches as its body does, and the compiled automaton marks where
  it starts and ends. -/
  | capture (r : Expr)
  deriving Repr, Inhabited

/-- A sequence of patterns, the empty text for none. -/
def Expr.seqAll : List Expr → Expr
  | [] => .empty
  | [r] => r
  | r :: rest => .seq r (seqAll rest)

/-- A choice between patterns, the empty text for none. -/
def Expr.altAll : List Expr → Expr
  | [] => .empty
  | [r] => r
  | r :: rest => .alt r (altAll rest)

end Switchyard.Regex

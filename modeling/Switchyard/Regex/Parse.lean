import Switchyard.Regex.Syntax
import Switchyard.Text.Unicode.Script
import Switchyard.Text.Unicode.Age
import Switchyard.Text.Unicode.Segmentation
/-!
# Reading pattern text

`Expr.parse` reads the text of a pattern into an `Expr`, or reports the first fault in it
with the stretch of text at fault. The syntax is the usual one of Unicode-aware patterns:
literals and `\` escapes, `.`, `^` and `$`, bracketed classes with ranges, nested classes,
ASCII classes such as `[:alpha:]` and the set operators `&&`, `--` and `~~`, groups
(capturing, named, non-capturing) with inline flags `i`, `m`, `s`, `U`, `u`, `R`, `x`,
alternation, and the repetitions `?`, `*`, `+` and `{n}`, `{n,}`, `{n,m}` (each optionally
lazy).

Faults in the structure of the text (an unclosed group or class, a repetition with nothing
to repeat, a bad escape, ...) are found from left to right. Only a well-formed text is checked
for nesting deeper than `nestLimit` levels, and only then are the faults of meaning reported:
a Unicode property that does not exist, and outside Unicode mode (flag `u` cleared) a Unicode
class, a non-ASCII class member, or a part that could match bytes that are not UTF-8.

`ParseError.render` writes a fault the usual way: a heading, the pattern indented by four
blanks, carets under the stretch at fault, and the cause.
-/
namespace Switchyard.Regex

/-- A stretch of the pattern, as character indices `[start, stop)`. -/
structure Span where
  /-- The first character. -/
  start : Nat
  /-- One past the last character. -/
  stop : Nat
  deriving DecidableEq, Repr

/-- How the parts of a pattern nest, as the nesting limit counts them. Groups, bracketed
classes, unions of several class members, class set operations, repetitions, and sequences or
choices of several parts each make a level covering a stretch; characters, escapes, assertions
and flag groups make none. -/
inductive Nest where
  /-- A part that makes no level. -/
  | leaf
  /-- A part that makes a level over a stretch, with the parts inside it. -/
  | node (span : Span) (parts : List Nest)
  deriving Repr, Inhabited

mutual
/-- The stretch of the first part, in reading order, that lies deeper than `limit` levels
when `depth` levels stand above it. -/
def Nest.tooDeep (limit depth : Nat) : Nest → Option Span
  | .leaf => none
  | .node sp parts =>
    if depth + 1 > limit then some sp else Nest.tooDeepAmong limit (depth + 1) parts

/-- The first stretch `Nest.tooDeep` finds among parts side by side. -/
def Nest.tooDeepAmong (limit depth : Nat) : List Nest → Option Span
  | [] => none
  | n :: rest =>
    match Nest.tooDeep limit depth n with
    | some sp => some sp
    | none => Nest.tooDeepAmong limit depth rest
end

/-- The nesting of parts side by side taken as one sequence, choice or union over `span`:
nothing for no part, the part's own for one, and a level over them for more. -/
def Nest.several (span : Span) : List Nest → Nest
  | [] => .leaf
  | [n] => n
  | ns => .node span ns

/-- Why a text is not a pattern. -/
inductive ErrorKind where
  | classEscapeInvalid | classRangeInvalid | classRangeLiteral | classUnclosed
  | decimalEmpty | decimalInvalid
  | escapeHexEmpty | escapeHexInvalid | escapeHexInvalidDigit | escapeUnexpectedEof
  | escapeUnrecognized
  | flagDanglingNegation | flagDuplicate | flagRepeatedNegation | flagUnexpectedEof
  | flagUnrecognized
  | groupNameDuplicate | groupNameEmpty | groupNameInvalid | groupNameUnexpectedEof
  | groupUnclosed | groupUnopened
  | repetitionCountInvalid | repetitionCountDecimalEmpty | repetitionCountUnclosed
  | repetitionMissing
  | specialWordBoundaryUnclosed | specialWordBoundaryUnrecognized
  | specialWordOrRepetitionUnexpectedEof
  | unicodeClassInvalid | unsupportedBackreference | unsupportedLookAround
  | unicodePropertyNotFound | unicodePropertyValueNotFound
  | nestLimitExceeded | unicodeNotAllowed | invalidUtf8
  deriving DecidableEq, Repr

/-- How many levels parts of a pattern may nest. -/
def nestLimit : Nat := 250

/-- The cause of a fault, in words. -/
def ErrorKind.message : ErrorKind → String
  | .classEscapeInvalid => "invalid escape sequence found in character class"
  | .classRangeInvalid => "invalid character class range, the start must be <= the end"
  | .classRangeLiteral => "invalid range boundary, must be a literal"
  | .classUnclosed => "unclosed character class"
  | .decimalEmpty => "decimal literal empty"
  | .decimalInvalid => "decimal literal invalid"
  | .escapeHexEmpty => "hexadecimal literal empty"
  | .escapeHexInvalid => "hexadecimal literal is not a Unicode scalar value"
  | .escapeHexInvalidDigit => "invalid hexadecimal digit"
  | .escapeUnexpectedEof => "incomplete escape sequence, reached end of pattern prematurely"
  | .escapeUnrecognized => "unrecognized escape sequence"
  | .flagDanglingNegation => "dangling flag negation operator"
  | .flagDuplicate => "duplicate flag"
  | .flagRepeatedNegation => "flag negation operator repeated"
  | .flagUnexpectedEof => "expected flag but got end of regex"
  | .flagUnrecognized => "unrecognized flag"
  | .groupNameDuplicate => "duplicate capture group name"
  | .groupNameEmpty => "empty capture group name"
  | .groupNameInvalid => "invalid capture group character"
  | .groupNameUnexpectedEof => "unclosed capture group name"
  | .groupUnclosed => "unclosed group"
  | .groupUnopened => "unopened group"
  | .repetitionCountInvalid => "invalid repetition count range, the start must be <= the end"
  | .repetitionCountDecimalEmpty => "repetition quantifier expects a valid decimal"
  | .repetitionCountUnclosed => "unclosed counted repetition"
  | .repetitionMissing => "repetition operator missing expression"
  | .specialWordBoundaryUnclosed =>
    "special word boundary assertion is either unclosed or contains an invalid character"
  | .specialWordBoundaryUnrecognized =>
    "unrecognized special word boundary assertion, valid choices are: start, end, start-half or end-half"
  | .specialWordOrRepetitionUnexpectedEof =>
    "found either the beginning of a special word boundary or a bounded repetition on a \\b with an opening brace, but no closing brace"
  | .unicodeClassInvalid => "invalid Unicode character class"
  | .unsupportedBackreference => "backreferences are not supported"
  | .unsupportedLookAround =>
    "look-around, including look-ahead and look-behind, is not supported"
  | .unicodePropertyNotFound => "Unicode property not found"
  | .unicodePropertyValueNotFound => "Unicode property value not found"
  | .nestLimitExceeded =>
    "exceed the maximum number of nested parentheses/brackets (" ++ toString nestLimit ++ ")"
  | .unicodeNotAllowed => "Unicode not allowed here"
  | .invalidUtf8 => "pattern can match invalid UTF-8"

/-- A fault: its cause, the stretch at fault, and for a repeated item the first one. -/
structure ParseError where
  /-- The cause. -/
  kind : ErrorKind
  /-- The stretch at fault. -/
  span : Span
  /-- The earlier stretch a repeated item repeats. -/
  aux : Option Span := none
  deriving DecidableEq, Repr

/-- Carets under stretches of a line, each at least one wide. -/
def caretLine (spans : List Span) : String :=
  let sorted := spans.mergeSort fun a b => a.start < b.start ∨ (a.start = b.start ∧ a.stop ≤ b.stop)
  let (_, text) := sorted.foldl (fun (col, acc) sp =>
    let pad := sp.start - col
    let width := max 1 (sp.stop - sp.start)
    (col + pad + width, acc ++ String.ofList (List.replicate pad ' ') ++
      String.ofList (List.replicate width '^'))) (0, "")
  text

/-- The line and the column, both counted from one, of a character index of a text. -/
def lineColumn (cs : List Char) (i : Nat) : Nat × Nat :=
  (cs.take i).foldl (fun (line, col) c => if c = '\n' then (line + 1, 1) else (line, col + 1)) (1, 1)

/-- The lines of a text: split at line feeds, without a carriage return at the end of a line
and without the empty line after a final line feed. -/
def textLines (text : String) : List String :=
  let parts := text.splitOn "\n"
  let parts := if parts.getLast? == some "" then parts.dropLast else parts
  parts.map fun line =>
    let cs := line.toList
    String.ofList (if cs.getLast? == some '\r' then cs.dropLast else cs)

/-- The report of a fault in a pattern. A pattern of one line is shown indented by four blanks
with carets under the stretches at fault. A pattern of several lines is shown between rules
of tildes with numbered lines, carets under the stretches that lie on one line, and a note
for each stretch that runs over several lines. -/
def ParseError.render (e : ParseError) (pattern : String) : String :=
  let spans := e.span :: e.aux.toList
  if !pattern.toList.contains '\n' then
    "regex parse error:\n    " ++ pattern ++ "\n    " ++ caretLine spans ++ "\nerror: " ++
      e.kind.message
  else
    let cs := pattern.toList
    let lines := textLines pattern
    let lineCount := lines.length + (if cs.getLast? == some '\n' then 1 else 0)
    let width := (toString lineCount).length
    let located := (spans.mergeSort fun a b =>
        a.start < b.start ∨ (a.start = b.start ∧ a.stop ≤ b.stop)).map fun sp =>
      (lineColumn cs sp.start, lineColumn cs sp.stop)
    let numbered := lines.zipIdx.map fun (line, i) =>
      let num := toString (i + 1)
      let head := String.ofList (List.replicate (width - num.length) ' ') ++ num ++ ": " ++
        line ++ "\n"
      let here := located.filterMap fun ((l1, c1), (l2, c2)) =>
        if l1 = i + 1 ∧ l2 = i + 1 then some (Span.mk (c1 - 1) (c2 - 1)) else none
      if here.isEmpty then head
      else head ++ String.ofList (List.replicate (2 + width) ' ') ++ caretLine here ++ "\n"
    let notes := located.filterMap fun ((l1, c1), (l2, c2)) =>
      if l1 = l2 then none
      else some ("on line " ++ toString l1 ++ " (column " ++ toString c1 ++ ") through line " ++
        toString l2 ++ " (column " ++ toString (c2 - 1) ++ ")")
    let divider := String.ofList (List.replicate 79 '~')
    "regex parse error:\n" ++ divider ++ "\n" ++ String.join numbered ++ divider ++ "\n" ++
      (if notes.isEmpty then "" else "\n".intercalate notes ++ "\n") ++
      "error: " ++ e.kind.message

/-- The flags in force at a point of the pattern. -/
structure Flags where
  /-- `i`: letters match their case variants. -/
  caseless : Bool := false
  /-- `m`: `^` and `$` match at line ends. -/
  multiLine : Bool := false
  /-- `s`: `.` matches a newline. -/
  dotAll : Bool := false
  /-- `U`: repetitions are lazy by default. -/
  swapGreed : Bool := false
  /-- `u`: Unicode classes. -/
  unicode : Bool := true
  /-- `R`: lines end at carriage returns too. -/
  crlf : Bool := false
  /-- `x`: blanks in the pattern are ignored. -/
  verbose : Bool := false

/-- Sets one flag, by its letter. -/
def Flags.set (f : Flags) (c : Char) (v : Bool) : Flags :=
  if c = 'i' then { f with caseless := v }
  else if c = 'm' then { f with multiLine := v }
  else if c = 's' then { f with dotAll := v }
  else if c = 'U' then { f with swapGreed := v }
  else if c = 'u' then { f with unicode := v }
  else if c = 'R' then { f with crlf := v }
  else if c = 'x' then { f with verbose := v }
  else f

/-- Where the reader stands: the text left, its index, the capture names met so far, and the
first fault of meaning met, which is reported only if the text is well formed. -/
structure Scan where
  /-- The characters not yet read. -/
  rest : List Char
  /-- Index of the first of them. -/
  pos : Nat
  /-- Capture names already used, with where. -/
  names : List (String × Span) := []
  /-- The first fault of meaning. -/
  deferred : Option ParseError := none

namespace Scan

/-- The scan after one character. -/
def bump (s : Scan) : Scan := { s with rest := s.rest.tail, pos := s.pos + 1 }

/-- The scan after `n` characters. -/
def skip (s : Scan) (n : Nat) : Scan :=
  { s with rest := s.rest.drop n, pos := s.pos + min n s.rest.length }

/-- The next character. -/
def peek? (s : Scan) : Option Char := s.rest.head?

/-- The character after the next. -/
def peek2? (s : Scan) : Option Char := s.rest.tail.head?

/-- Whether the text left starts with `p`. -/
def startsWith (s : Scan) (p : String) : Bool := p.toList.isPrefixOf s.rest

/-- Whether the text is used up. -/
def atEnd (s : Scan) : Bool := s.rest.isEmpty

/-- A fault at a stretch. -/
def fault (kind : ErrorKind) (start stop : Nat) : ParseError := ⟨kind, ⟨start, stop⟩, none⟩

/-- Records a fault of meaning, keeping the first. -/
def defer (s : Scan) (e : ParseError) : Scan :=
  match s.deferred with
  | some _ => s
  | none => { s with deferred := some e }

/-- Records a fault of meaning if there is one. -/
def deferIf (s : Scan) : Option ParseError → Scan
  | some e => s.defer e
  | none => s

/-- The number of characters a blank stretch of a verbose pattern takes from the front of a
text: white space, and comments from `#` to the end of their line. -/
def blankLength : Bool → List Char → Nat
  | _, [] => 0
  | false, c :: rest =>
    if Unicode.isWhiteSpace c then blankLength false rest + 1
    else if c = '#' then blankLength true rest + 1
    else 0
  | true, c :: rest => blankLength (c != '\n') rest + 1

/-- The scan past the blanks in front of it, when the pattern is verbose. -/
def blanks (s : Scan) (verbose : Bool) : Scan :=
  if verbose then s.skip (blankLength false s.rest) else s

/-- The scan after one character and, when the pattern is verbose, the blanks after it. -/
def bumpBlanks (s : Scan) (verbose : Bool) : Scan := s.bump.blanks verbose

/-- The character after the next one; when the pattern is verbose, the first after it that
is not white space, looking past the opening of one comment. When nothing but white space and
comment openings follows, it is the character right after the next one. -/
def peekPast (s : Scan) (verbose : Bool) : Option Char :=
  if !verbose then s.peek2?
  else
    match s.rest with
    | [] => none
    | _ :: after =>
      let rec go : Bool → List Char → Option Char
        | _, [] => after.head?
        | inComment, c :: rest =>
          if Unicode.isWhiteSpace c then go inComment rest
          else if !inComment && c == '#' then go true rest
          else some c
      go false after

/-- The characters at the front of a scan that satisfy `p`, each followed by the blanks of a
verbose pattern, and the scan after them. -/
def run (p : Char → Bool) (verbose : Bool) : Nat → Scan → List Char × Scan
  | 0, s => ([], s)
  | fuel + 1, s =>
    match s.rest with
    | c :: _ =>
      if p c then
        let (cs, s') := run p verbose fuel (s.bumpBlanks verbose)
        (c :: cs, s')
      else ([], s)
    | [] => ([], s)

end Scan

/-- The characters escaped by `\` to stand for themselves. -/
def isMetaChar (c : Char) : Bool := "\\.+*?()|[]^$#&-~".toList.contains c || c = '\x7b' || c = '\x7d'

/-- Characters `\` may escape without meaning anything new: punctuation, not letters or
digits or `<`, `>`. -/
def isEscapeable (c : Char) : Bool :=
  isMetaChar c ||
    (c.toNat < 128 && !c.isAlphanum && c != '<' && c != '>')

/-- Whether a character may stand in a capture name, first or later. -/
def isCaptureChar (c : Char) (first : Bool) : Bool :=
  if first then c = '_' || Unicode.isAlphabetic c
  else
    c = '_' || c = '.' || c = '[' || c = ']' || Unicode.isAlphabetic c ||
      (Unicode.category c).major == 'N'

/-- The value of a hex digit character. -/
def hexValue (c : Char) : Option Nat :=
  if '0' ≤ c ∧ c ≤ '9' then some (c.toNat - 48)
  else if 'a' ≤ c ∧ c ≤ 'f' then some (c.toNat - 87)
  else if 'A' ≤ c ∧ c ≤ 'F' then some (c.toNat - 55)
  else none

/-- The scalar value of hex digits, if they name one. -/
def scalarOfHex (ds : List Char) : Option Char :=
  let n := ds.foldl (fun acc c => acc * 16 + (hexValue c).getD 0) 0
  if n < 0xD800 ∨ (0xDFFF < n ∧ n ≤ 0x10FFFF) then some (Char.ofNat n) else none

/-- A property name in its loose form: ASCII only, lower case, without blanks, `_` and `-`,
and without a leading `is`. -/
def looseName (s : String) : String :=
  let cs := s.toList
  let (isPrefix, body) := match cs with
    | a :: b :: rest => if (a = 'i' ∨ a = 'I') ∧ (b = 's' ∨ b = 'S') then (true, rest) else (false, cs)
    | _ => (false, cs)
  let kept := body.filterMap fun c =>
    if c = ' ' ∨ c = '_' ∨ c = '-' ∨ c.toNat ≥ 128 then none
    else if 'A' ≤ c ∧ c ≤ 'Z' then some (Char.ofNat (c.toNat + 32))
    else some c
  if isPrefix ∧ kept = ['c'] then "isc" else String.ofList kept

open Unicode.Category in
/-- The general category values by their loose names. -/
def categoryValues : List (List String × List Unicode.Category) :=
  [ (["c", "other"], [Cc, Cf, Cn, Co, Cs]), (["cc", "control", "cntrl"], [Cc]),
    (["cf", "format"], [Cf]), (["cn", "unassigned"], [Cn]), (["co", "privateuse"], [Co]),
    (["cs", "surrogate"], [Cs]), (["l", "letter"], [Lu, Ll, Lt, Lm, Lo]),
    (["lc", "casedletter"], [Lu, Ll, Lt]), (["ll", "lowercaseletter"], [Ll]),
    (["lm", "modifierletter"], [Lm]), (["lo", "otherletter"], [Lo]),
    (["lt", "titlecaseletter"], [Lt]), (["lu", "uppercaseletter"], [Lu]),
    (["m", "mark", "combiningmark"], [Mn, Mc, Me]), (["mc", "spacingmark"], [Mc]),
    (["me", "enclosingmark"], [Me]), (["mn", "nonspacingmark"], [Mn]),
    (["n", "number"], [Nd, Nl, No]), (["nd", "decimalnumber", "digit"], [Nd]),
    (["nl", "letternumber"], [Nl]), (["no", "othernumber"], [No]),
    (["p", "punctuation", "punct"], [Pc, Pd, Ps, Pe, Pi, Pf, Po]),
    (["pc", "connectorpunctuation"], [Pc]), (["pd", "dashpunctuation"], [Pd]),
    (["pe", "closepunctuation"], [Pe]), (["pf", "finalpunctuation"], [Pf]),
    (["pi", "initialpunctuation"], [Pi]), (["po", "otherpunctuation"], [Po]),
    (["ps", "openpunctuation"], [Ps]), (["s", "symbol"], [Sm, Sc, Sk, So]),
    (["sc", "currencysymbol"], [Sc]), (["sk", "modifiersymbol"], [Sk]),
    (["sm", "mathsymbol"], [Sm]), (["so", "othersymbol"], [So]),
    (["z", "separator"], [Zs, Zl, Zp]), (["zl", "lineseparator"], [Zl]),
    (["zp", "paragraphseparator"], [Zp]), (["zs", "spaceseparator"], [Zs]) ]

/-- A general category value by its loose name, with `any`, `assigned` and `ascii`. -/
def categoryClass (name : String) : Option CharClass :=
  if name = "any" then some .anything
  else if name = "assigned" then some (.negate (.categories [.Cn]))
  else if name = "ascii" then some (.range (Char.ofNat 0) (Char.ofNat 127))
  else (categoryValues.find? fun (names, _) => names.contains name).map fun (_, cats) =>
    .categories cats

/-- Whether a loose name is one of the abbreviations `cf`, `sc` and `lc`, which name general
categories although properties have them as abbreviations too. -/
def isCategoryAbbreviation (n : String) : Bool := n == "cf" || n == "sc" || n == "lc"

/-- The class of a script's code points, or of those whose script extensions hold it; a name
that is no script is a value that is not found, and so is a script that pattern tables leave
out. -/
def scriptClass (extensions : Bool) (value : String) : Except ErrorKind CharClass :=
  match Unicode.script? value with
  | some i =>
    let bounds := if extensions then Unicode.extensionBoundaries? i else Unicode.scriptBoundaries? i
    match bounds with
    | some b => .ok (.table b)
    | none => .error .unicodePropertyValueNotFound
  | none => .error .unicodePropertyValueNotFound

/-- The class a loose name names on its own: the name of a property must name a binary
property (`cf`, `sc` and `lc` are taken for general categories instead); otherwise a general
category, then a script. -/
def namedClass (n : String) : Except ErrorKind CharClass :=
  match (if isCategoryAbbreviation n then none else Unicode.canonicalProperty? n) with
  | some canon =>
    match Unicode.binaryProperty? canon with
    | some b => .ok (.table b)
    | none => .error .unicodePropertyNotFound
  | none =>
    match categoryClass n with
    | some k => .ok k
    | none =>
      if (Unicode.script? n).isSome then scriptClass false n
      else .error .unicodePropertyNotFound

/-- The class of the code points whose value of a segmentation property a loose name names. -/
def segmentationClass (p : Unicode.Segmentation) (value : String) : Except ErrorKind CharClass :=
  match p.boundaries? value with
  | some b => .ok (.table b)
  | none => .error .unicodePropertyValueNotFound

/-- The class a `property=value` pair names: a general category, a script, script extensions,
an age (every code point assigned by that version), or a value of a segmentation property.
Another property's value is not found, and neither is a property of an unknown name. -/
def valueClass (name value : String) : Except ErrorKind CharClass :=
  let v := looseName value
  match Unicode.canonicalProperty? (looseName name) with
  | none => .error .unicodePropertyNotFound
  | some "generalcategory" =>
    match categoryClass v with
    | some k => .ok k
    | none => .error .unicodePropertyValueNotFound
  | some "script" => scriptClass false v
  | some "scriptextensions" => scriptClass true v
  | some "age" =>
    match Unicode.age? v with
    | some i => .ok (.table (Unicode.ageBoundaries i))
    | none => .error .unicodePropertyValueNotFound
  | some "graphemeclusterbreak" => segmentationClass .grapheme v
  | some "wordbreak" => segmentationClass .word v
  | some "sentencebreak" => segmentationClass .sentence v
  | some _ => .error .unicodePropertyValueNotFound

/-- The text before and after the first character of `text` that `sep` holds of, and the text
after the separator of the given length. -/
def splitAt (text : List Char) (sep : List Char → Option Nat) : Option (String × String) :=
  go [] text
where
  /-- `before` is the text passed so far, in reverse. -/
  go (before : List Char) : List Char → Option (String × String)
    | [] => none
    | c :: rest =>
      match sep (c :: rest) with
      | some n => some (String.ofList before.reverse, String.ofList ((c :: rest).drop n))
      | none => go (c :: before) rest

/-- The class a Unicode property names, and whether the text asks for its complement with
`!=`: a name and a value joined by `!=`, else by the first `:` or `=`, else a name on its own;
the error kind when there is none. -/
def propertyClass (text : String) : Except ErrorKind (CharClass × Bool) :=
  let cs := text.toList
  match splitAt cs fun rest => if ['!', '='].isPrefixOf rest then some 2 else none with
  | some (a, b) => (valueClass a b).map (·, true)
  | none =>
    match splitAt cs fun rest => match rest with
        | ':' :: _ => some 1
        | '=' :: _ => some 1
        | _ => none with
    | some (a, b) => (valueClass a b).map (·, false)
    | none => (namedClass (looseName text)).map (·, false)

/-- What an escape or a single character stands for. -/
inductive Prim where
  /-- A character, and whether it was written as a byte `\xNN`. -/
  | lit (c : Char) (span : Span) (byte : Bool)
  /-- A class of characters. -/
  | cls (k : CharClass) (span : Span)
  /-- An assertion. -/
  | look (l : Look) (span : Span)

/-- The stretch of a primitive. -/
def Prim.span : Prim → Span
  | .lit _ sp _ => sp
  | .cls _ sp => sp
  | .look _ sp => sp

/-- A set of characters with case variants added when the flags ask for it: all of Unicode's,
or outside Unicode mode only those of the ASCII letters. -/
def foldIf (flags : Flags) (k : CharClass) : CharClass :=
  if !flags.caseless then k else if flags.unicode then .caseless k else .asciiCaseless k

/-- A primitive as a pattern item. -/
def Prim.toExpr (flags : Flags) : Prim → Expr
  | .lit c _ _ => .char (foldIf flags (.single c))
  | .cls k _ => .char k
  | .look l _ => .look l

/-- Hex digits of a fixed count after `\x`, `\u` or `\U`; `s` stands on the first digit.
In a verbose pattern blanks may stand between the digits and after them. Two digits after
`\x` write a byte. -/
def hexFixed (verbose : Bool) (start count : Nat) (s : Scan) : Except ParseError (Prim × Scan) :=
  let digitsStart := s.pos
  let rec go : Nat → Bool → List Char → Scan → Except ParseError (List Char × Scan)
    | 0, _, acc, s => .ok (acc.reverse, s)
    | n + 1, first, acc, s =>
      let s := if first then s else s.bumpBlanks verbose
      match s.rest with
      | [] => .error (Scan.fault .escapeUnexpectedEof s.pos s.pos)
      | c :: _ =>
        if (hexValue c).isSome then go n false (c :: acc) s
        else .error (Scan.fault .escapeHexInvalidDigit s.pos (s.pos + 1))
  match go count true [] s with
  | .error e => .error e
  | .ok (ds, s) =>
    let s := s.bumpBlanks verbose
    match scalarOfHex ds with
    | some c => .ok (.lit c ⟨start, s.pos⟩ (count == 2), s)
    | none => .error (Scan.fault .escapeHexInvalid digitsStart s.pos)

/-- Hex digits in braces; `s` stands on the opening brace. In a verbose pattern blanks may
stand among the digits. -/
def hexBraced (verbose : Bool) (start : Nat) (s : Scan) : Except ParseError (Prim × Scan) :=
  let bracePos := s.pos
  let rec go : Nat → List Char → Scan → Except ParseError (List Char × Scan)
    | 0, _, s => .error (Scan.fault .escapeUnexpectedEof bracePos s.pos)
    | fuel + 1, acc, s =>
      let s := s.bumpBlanks verbose
      match s.rest with
      | [] => .error (Scan.fault .escapeUnexpectedEof bracePos s.pos)
      | c :: _ =>
        if c = '\x7d' then .ok (acc.reverse, s)
        else if (hexValue c).isSome then go fuel (c :: acc) s
        else .error (Scan.fault .escapeHexInvalidDigit s.pos (s.pos + 1))
  match go (s.rest.length + 1) [] s with
  | .error e => .error e
  | .ok (ds, close) =>
    let stop := close.pos
    let s := close.bumpBlanks verbose
    if ds.isEmpty then .error (Scan.fault .escapeHexEmpty bracePos s.pos)
    else
      match scalarOfHex ds with
      | some c => .ok (.lit c ⟨start, s.pos⟩ false, s)
      | none => .error (Scan.fault .escapeHexInvalid (bracePos + 1) stop)

/-- The characters of a braced property name, up to the closing brace, and the scan after
that brace; `s` stands on the opening brace. A verbose pattern drops blanks from the name. -/
def bracedName (verbose : Bool) : Nat → List Char → Scan → Except ParseError (List Char × Scan)
  | 0, _, s => .error (Scan.fault .escapeUnexpectedEof s.pos s.pos)
  | fuel + 1, acc, s =>
    let s := s.bumpBlanks verbose
    match s.rest with
    | [] => .error (Scan.fault .escapeUnexpectedEof s.pos s.pos)
    | c :: _ =>
      if c = '\x7d' then .ok (acc.reverse, s.bump) else bracedName verbose fuel (c :: acc) s

/-- The name of a Unicode class, braced or a single character, and the scan after it; `s`
stands after the `p` or `P`. -/
def propertyName (verbose : Bool) (s : Scan) : Except ParseError (String × Scan) :=
  match s.rest with
  | [] => .error (Scan.fault .escapeUnexpectedEof s.pos s.pos)
  | c :: _ =>
    if c = '\x7b' then
      (bracedName verbose (s.rest.length + 1) [] s).map fun (cs, s') => (String.ofList cs, s')
    else if c = '\\' then .error (Scan.fault .unicodeClassInvalid s.pos (s.pos + 1))
    else .ok (String.singleton c, s.bumpBlanks verbose)

/-- A Unicode class `\pX`, `\p{..}`, `\PX` or `\P{..}`; `s` stands on the `p` or `P`.
Outside Unicode mode it has no meaning, whatever it names. -/
def unicodeClass (flags : Flags) (start : Nat) (s : Scan) : Except ParseError (Prim × Scan) :=
  let negated := s.peek? == some 'P'
  match propertyName flags.verbose (s.bumpBlanks flags.verbose) with
  | .error e => .error e
  | .ok (name, s) =>
    let span : Span := ⟨start, s.pos⟩
    if !flags.unicode then .ok (.cls .nothing span, s.defer ⟨.unicodeNotAllowed, span, none⟩)
    else
      match propertyClass name with
      | .ok (k, complement) =>
        let k := foldIf flags k
        .ok (.cls (if negated != complement then .negate k else k) span, s)
      | .error kind => .ok (.cls .nothing span, s.defer ⟨kind, span, none⟩)

/-- Whether a character may stand in the name of a special word boundary `\b{start}`. -/
def isBoundaryChar (c : Char) : Bool := ('a' ≤ c && c ≤ 'z') || ('A' ≤ c && c ≤ 'Z') || c == '-'

/-- After `\b`: a special word boundary in braces, or the plain one, of Unicode word
characters or of ASCII ones. `s` stands after the `b`. -/
def wordBoundary (verbose unicode : Bool) (start : Nat) (s : Scan) :
    Except ParseError (Prim × Scan) :=
  match s.rest with
  | '\x7b' :: _ =>
    let brace := s.pos
    let s1 := s.bumpBlanks verbose
    match s1.rest with
    | [] => .error (Scan.fault .specialWordOrRepetitionUnexpectedEof start s1.pos)
    | c :: _ =>
      if !isBoundaryChar c then
        .ok (.look (.wordBoundary unicode) ⟨start, s.pos⟩, s)
      else
        let contents := s1.pos
        let (name, s2) := Scan.run isBoundaryChar verbose s1.rest.length s1
        match s2.rest with
        | '\x7d' :: _ =>
          let stop := s2.pos
          let s3 := s2.bump
          let kind :=
            if name = "start".toList then some (Look.wordStart unicode)
            else if name = "end".toList then some (Look.wordEnd unicode)
            else if name = "start-half".toList then some (Look.wordStartHalf unicode)
            else if name = "end-half".toList then some (Look.wordEndHalf unicode)
            else none
          match kind with
          | some l => .ok (.look l ⟨start, s3.pos⟩, s3)
          | none => .error (Scan.fault .specialWordBoundaryUnrecognized contents stop)
        | _ => .error (Scan.fault .specialWordBoundaryUnclosed brace s2.pos)
  | _ => .ok (.look (.wordBoundary unicode) ⟨start, s.pos⟩, s)

/-- The ASCII members of a one-letter class, which is all it holds outside Unicode mode. -/
def Perl.ascii : Perl → CharClass
  | .digit => .range '0' '9'
  | .space => .union (.range '\t' '\r') (.single ' ')
  | .word => CharClass.unionAll [.range '0' '9', .range 'A' 'Z', .single '_', .range 'a' 'z']

/-- An escape; `s` stands on the backslash. Outside Unicode mode a one-letter class holds
ASCII characters only, and its complement could match bytes that are not UTF-8. -/
def escape (flags : Flags) (s : Scan) : Except ParseError (Prim × Scan) :=
  let start := s.pos
  let s1 := s.bump
  match s1.rest with
  | [] => .error (Scan.fault .escapeUnexpectedEof start s1.pos)
  | c :: _ =>
    if '0' ≤ c ∧ c ≤ '9' then .error (Scan.fault .unsupportedBackreference start (s1.pos + 1))
    else if c = 'x' ∨ c = 'u' ∨ c = 'U' then
      let digits := if c = 'x' then 2 else if c = 'u' then 4 else 8
      let s2 := s1.bumpBlanks flags.verbose
      match s2.rest with
      | '\x7b' :: _ => hexBraced flags.verbose start s2
      | [] => .error (Scan.fault .escapeUnexpectedEof s2.pos s2.pos)
      | _ => hexFixed flags.verbose start digits s2
    else if c = 'p' ∨ c = 'P' then unicodeClass flags start s1
    else
      let s2 := s1.bump
      let span : Span := ⟨start, s2.pos⟩
      let perl (k : Perl) (neg : Bool) : Except ParseError (Prim × Scan) :=
        let k := if flags.unicode then CharClass.perl k else k.ascii
        let s2 := if neg && !flags.unicode then s2.defer ⟨.invalidUtf8, span, none⟩ else s2
        .ok (.cls (if neg then .negate k else k) span, s2)
      if c = 'd' then perl .digit false
      else if c = 'D' then perl .digit true
      else if c = 'w' then perl .word false
      else if c = 'W' then perl .word true
      else if c = 's' then perl .space false
      else if c = 'S' then perl .space true
      else if isEscapeable c then .ok (.lit c span false, s2)
      else if c = 'a' then .ok (.lit (Char.ofNat 7) span false, s2)
      else if c = 'f' then .ok (.lit (Char.ofNat 12) span false, s2)
      else if c = 't' then .ok (.lit '\t' span false, s2)
      else if c = 'n' then .ok (.lit '\n' span false, s2)
      else if c = 'r' then .ok (.lit '\r' span false, s2)
      else if c = 'v' then .ok (.lit (Char.ofNat 11) span false, s2)
      else if c = 'A' then .ok (.look .textStart span, s2)
      else if c = 'z' then .ok (.look .textEnd span, s2)
      else if c = 'b' then wordBoundary flags.verbose flags.unicode start s2
      else if c = 'B' then .ok (.look (.notWordBoundary flags.unicode) span, s2)
      else if c = '<' then .ok (.look (.wordStart flags.unicode) span, s2)
      else if c = '>' then .ok (.look (.wordEnd flags.unicode) span, s2)
      else .error (Scan.fault .escapeUnrecognized span.start span.stop)

/-- The ASCII classes by name. -/
def asciiClass (name : String) : Option CharClass :=
  let r (a b : Nat) : CharClass := .range (Char.ofNat a) (Char.ofNat b)
  if name = "alnum" then some (CharClass.unionAll [r 48 57, r 65 90, r 97 122])
  else if name = "alpha" then some (CharClass.unionAll [r 65 90, r 97 122])
  else if name = "ascii" then some (r 0 127)
  else if name = "blank" then some (CharClass.unionAll [r 9 9, r 32 32])
  else if name = "cntrl" then some (CharClass.unionAll [r 0 31, r 127 127])
  else if name = "digit" then some (r 48 57)
  else if name = "graph" then some (r 33 126)
  else if name = "lower" then some (r 97 122)
  else if name = "print" then some (r 32 126)
  else if name = "punct" then some (CharClass.unionAll [r 33 47, r 58 64, r 91 96, r 123 126])
  else if name = "space" then some (CharClass.unionAll [r 9 13, r 32 32])
  else if name = "upper" then some (r 65 90)
  else if name = "word" then some (CharClass.unionAll [r 48 57, r 65 90, r 95 95, r 97 122])
  else if name = "xdigit" then some (CharClass.unionAll [r 48 57, r 65 70, r 97 102])
  else none

/-- The name of an ASCII class whose text after `[:` and its negation mark is `body`: what
stands before the first `:`, when `:]` follows it. -/
def asciiName (body : List Char) : Option (List Char) :=
  match body.dropWhile (· != ':') with
  | ':' :: ']' :: _ => some (body.takeWhile (· != ':'))
  | _ => none

/-- An ASCII class `[:name:]` or `[:^name:]`, if one starts here: its characters, whether it
is negated, and the scan after it; `s` stands on `[`. -/
def asciiClassAt (s : Scan) : Option (CharClass × Bool × Scan) :=
  match s.rest with
  | '[' :: ':' :: rest =>
    let (negated, body) := match rest with
      | '^' :: more => (true, more)
      | _ => (false, rest)
    (asciiName body).bind fun name =>
      (asciiClass (String.ofList name)).map fun k =>
        let used := 2 + (if negated then 1 else 0) + name.length + 2
        (k, negated, s.skip used)
  | _ => none

/-- One item of a class: an escape or a character. -/
def classItem (flags : Flags) (s : Scan) : Except ParseError (Prim × Scan) :=
  match s.rest with
  | '\\' :: _ => escape flags s
  | c :: _ => .ok (.lit c ⟨s.pos, s.pos + 1⟩ false, s.bump)
  | [] => .error (Scan.fault .classUnclosed s.pos s.pos)

/-- The fault of a literal outside a class: outside Unicode mode a byte above `\x7F` could
match bytes that are not UTF-8. -/
def byteLiteralFault (flags : Flags) : Prim → Option ParseError
  | .lit c sp true => if !flags.unicode && c.toNat ≥ 128 then some ⟨.invalidUtf8, sp, none⟩ else none
  | _ => none

/-- The fault of a character in a class outside Unicode mode, where classes hold bytes: a
byte above `\x7F` could match bytes that are not UTF-8, and another character above ASCII is
Unicode. -/
def byteMemberFault (flags : Flags) : Prim → Option ParseError
  | .lit c sp byte =>
    if flags.unicode || c.toNat < 128 then none
    else some ⟨if byte then .invalidUtf8 else .unicodeNotAllowed, sp, none⟩
  | _ => none

/-- A member of a class being read: its characters, how it nests, and its stretch. -/
structure Member where
  /-- Its characters. -/
  cls : CharClass
  /-- How it nests. -/
  nest : Nest
  /-- Its stretch. -/
  span : Span

/-- The union of the members read (last first) since `start`, where the class opened or its
last set operator stands. -/
def unionOf (start : Nat) (items : List Member) : Member :=
  let ms := items.reverse
  let span : Span :=
    match ms.head?, ms.getLast? with
    | some a, some b => ⟨a.span.start, b.span.stop⟩
    | _, _ => ⟨start, start⟩
  ⟨CharClass.unionAll (ms.map Member.cls), Nest.several span (ms.map Member.nest), span⟩

/-- A primitive as a class member: assertions have no place in a class. -/
def Prim.toClass : Prim → Except ParseError CharClass
  | .lit c _ _ => .ok (.single c)
  | .cls k _ => .ok k
  | .look _ sp => .error ⟨.classEscapeInvalid, sp, none⟩

/-- A primitive as the end of a range: it must be a character. -/
def Prim.toRangeEnd : Prim → Except ParseError Char
  | .lit c _ _ => .ok c
  | p => .error ⟨.classRangeLiteral, p.span, none⟩

/-- A class member or a range `a-b`; `s` stands on its first character. -/
def classRange (flags : Flags) (openSpan : Span) (s : Scan) :
    Except ParseError (Member × Scan) :=
  match classItem flags s with
  | .error e => .error e
  | .ok (p1, s1) =>
    let s1 := s1.blanks flags.verbose
    match s1.rest with
    | [] => .error ⟨.classUnclosed, openSpan, none⟩
    | c :: _ =>
      let after := s1.peekPast flags.verbose
      if c != '-' || after == some ']' || after == some '-' then
        (p1.toClass).map fun k => (⟨k, .leaf, p1.span⟩, s1.deferIf (byteMemberFault flags p1))
      else
        let s2 := s1.bumpBlanks flags.verbose
        if s2.atEnd then .error ⟨.classUnclosed, openSpan, none⟩
        else
          match classItem flags s2 with
          | .error e => .error e
          | .ok (p2, s3) =>
            match p1.toRangeEnd, p2.toRangeEnd with
            | .error e, _ => .error e
            | _, .error e => .error e
            | .ok a, .ok b =>
              let span : Span := ⟨p1.span.start, p2.span.stop⟩
              if a ≤ b then
                .ok (⟨.range a b, .leaf, span⟩,
                  (s3.deferIf (byteMemberFault flags p1)).deferIf (byteMemberFault flags p2))
              else .error ⟨.classRangeInvalid, span, none⟩

/-- The set operators between class members. -/
inductive ClassOp where
  | inter | diff | symDiff

/-- Applies a set operator. -/
def ClassOp.apply : ClassOp → CharClass → CharClass → CharClass
  | .inter, a, b => .inter a b
  | .diff, a, b => .diff a b
  | .symDiff, a, b => .symDiff a b

/-- The members of a class read since `start`, combined with a pending operator's left side;
set operators nest to the left. -/
def classSoFar (flags : Flags) (lhs : Option (ClassOp × Member)) (start : Nat)
    (items : List Member) : Member :=
  let rhs := unionOf start items
  match lhs with
  | none => rhs
  | some (op, l) =>
    let span : Span := ⟨l.span.start, rhs.span.stop⟩
    ⟨op.apply (foldIf flags l.cls) (foldIf flags rhs.cls), .node span [l.nest, rhs.nest], span⟩

/-- The leading `-` characters of a class, each a member standing for itself (last first),
and the scan after them, if the text goes on after them. -/
def leadingDashes (verbose : Bool) : Nat → List Member → Scan → Option (List Member × Scan)
  | 0, acc, s => some (acc, s)
  | fuel + 1, acc, s =>
    if s.peek? == some '-' then
      let s' := s.bumpBlanks verbose
      if s'.atEnd then none
      else leadingDashes verbose fuel (⟨.single '-', .leaf, ⟨s.pos, s.pos + 1⟩⟩ :: acc) s'
    else some (acc, s)

/-- The opening of a class, up to its first ordinary member: `[`, an optional `^`, leading
`-` and a leading `]`, which stand for themselves. Returns whether it is negated, those
members (last first), the stretch of the opening, where its members begin, and the scan. -/
def classOpen (verbose : Bool) (s : Scan) :
    Except ParseError (Bool × List Member × Span × Nat × Scan) :=
  let start := s.pos
  let s1 := s.bumpBlanks verbose
  if s1.atEnd then .error (Scan.fault .classUnclosed start s1.pos)
  else
    let (negated, s2) := if s1.peek? == some '^' then (true, s1.bumpBlanks verbose) else (false, s1)
    if s2.atEnd then .error (Scan.fault .classUnclosed start s2.pos)
    else
      match leadingDashes verbose s2.rest.length [] s2 with
      | none => .error (Scan.fault .classUnclosed start start)
      | some (items, s3) =>
        if items.isEmpty ∧ s3.peek? == some ']' then
          let s4 := s3.bumpBlanks verbose
          if s4.atEnd then .error (Scan.fault .classUnclosed start s4.pos)
          else .ok (negated, [⟨.single ']', .leaf, ⟨s3.pos, s3.pos + 1⟩⟩], ⟨start, s4.pos⟩, s2.pos, s4)
        else .ok (negated, items, ⟨start, s3.pos⟩, s2.pos, s3)

/-- One piece of a concatenation: a pattern, or `none` for a flag group, which nothing may
repeat; how it nests; and where it starts. -/
structure Piece where
  /-- The pattern, if it is not a flag group. -/
  expr : Option Expr
  /-- How it nests. -/
  nest : Nest
  /-- Where it starts. -/
  start : Nat

/-- The letters of an inline flag group and where each stands; `none` marks the negation. -/
abbrev FlagItems := List (Option Char × Span)

/-- The flags of a group `(?flags)` or `(?flags:`, up to the `:` or `)`. -/
def flagItems : Nat → FlagItems → Scan → Except ParseError (FlagItems × Scan)
  | 0, items, s => .ok (items.reverse, s)
  | fuel + 1, items, s =>
    match s.rest with
    | [] => .error (Scan.fault .flagUnexpectedEof s.pos s.pos)
    | c :: _ =>
      if c = ':' ∨ c = ')' then
        match items with
        | (none, sp) :: _ => .error ⟨.flagDanglingNegation, sp, none⟩
        | _ => .ok (items.reverse, s)
      else
        let here : Span := ⟨s.pos, s.pos + 1⟩
        let item : Except ParseError (Option Char) :=
          if c = '-' then .ok none
          else if "imsUuRx".toList.contains c then .ok (some c)
          else .error ⟨.flagUnrecognized, here, none⟩
        match item with
        | .error e => .error e
        | .ok it =>
          match items.find? (fun (k, _) => k == it) with
          | some (_, orig) =>
            let kind := if it.isNone then ErrorKind.flagRepeatedNegation else .flagDuplicate
            .error ⟨kind, here, some orig⟩
          | none =>
            let s' := s.bump
            if s'.atEnd then .error (Scan.fault .flagUnexpectedEof s'.pos s'.pos)
            else flagItems fuel ((it, here) :: items) s'

/-- Flags after applying a flag group: letters before the `-` set, after it clear. -/
def applyFlags (flags : Flags) (items : FlagItems) : Flags :=
  let (f, _) := items.foldl (fun (f, neg) (it, _) =>
    match it with
    | none => (f, true)
    | some c => (f.set c (!neg), neg)) (flags, false)
  f

/-- A capture name up to `>`; `s` stands on its first character. -/
def captureName (s : Scan) : Except ParseError (String × Scan) :=
  let start := s.pos
  let rec go : List Char → List Char → Nat → Except ParseError (List Char × Nat)
    | _, [], pos => .error (Scan.fault .groupNameUnexpectedEof pos pos)
    | acc, c :: rest, pos =>
      if c = '>' then .ok (acc.reverse, pos)
      else if !isCaptureChar c (pos == start) then
        .error (Scan.fault .groupNameInvalid pos (pos + 1))
      else go (c :: acc) rest (pos + 1)
  if s.atEnd then .error (Scan.fault .groupNameUnexpectedEof s.pos s.pos)
  else
    match go [] s.rest s.pos with
    | .error e => .error e
    | .ok (cs, stop) =>
      let name := String.ofList cs
      let span : Span := ⟨start, stop⟩
      let s2 := s.skip (stop - start + 1)
      if cs.isEmpty then .error (Scan.fault .groupNameEmpty start start)
      else
        match s2.names.lookup name with
        | some orig => .error ⟨.groupNameDuplicate, span, some orig⟩
        | none => .ok (name, { s2 with names := s2.names ++ [(name, span)] })

/-- A decimal in a counted repetition, white space around it allowed, and the scan after it;
the scan moves past the white space in front also when no decimal follows. -/
def countDecimal (verbose : Bool) (s : Scan) : Except ParseError Nat × Scan :=
  let s := s.skip (s.rest.takeWhile Unicode.isWhiteSpace).length
  let start := s.pos
  let (ds, s) := Scan.run Char.isDigit verbose s.rest.length s
  let span : Span := ⟨start, s.pos⟩
  let (_, s) := Scan.run Unicode.isWhiteSpace verbose s.rest.length s
  if ds.isEmpty then (.error ⟨.repetitionCountDecimalEmpty, span, none⟩, s)
  else
    let n := ds.foldl (fun acc c => acc * 10 + (c.toNat - 48)) 0
    if n ≥ Nat.pow 2 32 then (.error ⟨.decimalInvalid, span, none⟩, s) else (.ok n, s)

/-- Skips a `?` that makes a repetition lazy. -/
def skipLazy (s : Scan) : Scan := if s.peek? == some '?' then s.bump else s

/-- The bounds of a counted repetition that starts at `start`, given its first count `lo` and
the scan `s2` after it: `{n}`, `{n,}` or `{n,m}`, with the scan on the closing brace. -/
def repetitionBounds (verbose : Bool) (start : Nat) (lo : Except ParseError Nat) (s2 : Scan) :
    Except ParseError (Nat × Option Nat × Scan) :=
  match s2.rest with
  | [] => .error (Scan.fault .repetitionCountUnclosed start s2.pos)
  | ',' :: _ =>
    let s3 := s2.bumpBlanks verbose
    match s3.rest with
    | [] => .error (Scan.fault .repetitionCountUnclosed start s3.pos)
    | '\x7d' :: _ => lo.map fun lo => (lo, none, s3)
    | _ =>
      match lo with
      | .error e => .error e
      | .ok lo =>
        let (hi, s4) := countDecimal verbose s3
        hi.map fun hi => (lo, some hi, s4)
  | _ => lo.map fun lo => (lo, some lo, s2)

/-- A counted repetition `{n}`, `{n,}` or `{n,m}` of the last piece; `s` stands on `{`. A
missing closing brace is reported before a missing first count. -/
def countedRepetition (verbose : Bool) (pieces : List Piece) (s : Scan) :
    Except ParseError (List Piece × Scan) :=
  let start := s.pos
  match pieces with
  | ⟨some r, nest, origin⟩ :: rest =>
    let s1 := s.bumpBlanks verbose
    if s1.atEnd then .error (Scan.fault .repetitionCountUnclosed start s1.pos)
    else
      let (lo, s2) := countDecimal verbose s1
      match repetitionBounds verbose start lo s2 with
      | .error e => .error e
      | .ok (lo, hi, s4) =>
        match s4.rest with
        | '\x7d' :: _ =>
          let s5 := skipLazy (s4.bumpBlanks verbose)
          let nest := Nest.node ⟨origin, s5.pos⟩ [nest]
          match hi with
          | some h =>
            if lo > h then .error (Scan.fault .repetitionCountInvalid start s5.pos)
            else .ok (⟨some (.rep r lo (some h)), nest, origin⟩ :: rest, s5)
          | none => .ok (⟨some (.rep r lo none), nest, origin⟩ :: rest, s5)
        | _ => .error (Scan.fault .repetitionCountUnclosed start s4.pos)
  | _ => .error (Scan.fault .repetitionMissing start start)

/-- `?`, `*` or `+` after the last piece; `s` stands on the operator. -/
def simpleRepetition (pieces : List Piece) (op : Char) (s : Scan) :
    Except ParseError (List Piece × Scan) :=
  match pieces with
  | ⟨some r, nest, origin⟩ :: rest =>
    let r' := if op = '?' then Expr.rep r 0 (some 1)
      else if op = '*' then .rep r 0 none
      else .rep r 1 none
    let s' := skipLazy s.bump
    .ok (⟨some r', .node ⟨origin, s'.pos⟩ [nest], origin⟩ :: rest, s')
  | _ => .error (Scan.fault .repetitionMissing s.pos s.pos)

/-- A dot: any character but a newline (and a carriage return in `R` mode), or any at all
in `s` mode. -/
def dotClass (flags : Flags) : CharClass :=
  if flags.dotAll then .anything
  else if flags.crlf then .negate (.union (.single '\n') (.single '\r'))
  else .negate (.single '\n')

/-- How a group opens. -/
inductive Opening where
  /-- A group whose body follows, read with the given flags, and whether it captures. -/
  | group (capturing : Bool) (flags : Flags) (s : Scan)
  /-- A flag group `(?flags)`, changing the flags for the rest of the enclosing group. -/
  | setFlags (flags : Flags) (s : Scan)

/-- The opening of a group; `s` stands on `(`. -/
def groupOpening (flags : Flags) (s : Scan) : Except ParseError Opening :=
  let openPos := s.pos
  let s1 := s.bump.blanks flags.verbose
  let look (p : String) : Option Nat := if s1.startsWith p then some p.length else none
  match look "?=" <|> look "?!" <|> look "?<=" <|> look "?<!" with
  | some n => .error (Scan.fault .unsupportedLookAround openPos (s1.pos + n))
  | none =>
    if s1.startsWith "?P<" then
      (captureName (s1.skip 3)).map fun (_, s2) => .group true flags s2
    else if s1.startsWith "?<" then
      (captureName (s1.skip 2)).map fun (_, s2) => .group true flags s2
    else if s1.startsWith "?" then
      let s2 := s1.bump
      if s2.atEnd then .error (Scan.fault .groupUnclosed openPos (openPos + 1))
      else
        match flagItems (s2.rest.length + 1) [] s2 with
        | .error e => .error e
        | .ok (items, s3) =>
          if s3.peek? == some ')' then
            if items.isEmpty then .error (Scan.fault .repetitionMissing s1.pos s1.pos)
            else .ok (.setFlags (applyFlags flags items) s3.bump)
          else .ok (.group false (applyFlags flags items) s3.bump)
    else .ok (.group true flags s1)

mutual
/-- The branches of a group (or of the whole pattern when `openSpan` is `none`) up to and
including its `)`, with how they nest; `first` is where the first branch starts and `done`
holds the branches read so far, last first. -/
def branches : Nat → Flags → Option Span → Nat → List (Expr × Nest) → Scan →
    Except ParseError (Expr × Nest × Scan)
  | 0, _, _, _, _, s => .error (Scan.fault .groupUnclosed s.pos s.pos)
  | fuel + 1, flags, openSpan, first, done, s =>
    match pieces fuel flags [] s with
    | .error e => .error e
    | .ok (ps, flags', s') =>
      let ps := ps.reverse
      let branch := (Expr.seqAll (ps.filterMap Piece.expr),
        Nest.several ⟨s.pos, s'.pos⟩ (ps.map Piece.nest))
      let all := (branch :: done).reverse
      let whole := Expr.altAll (all.map Prod.fst)
      let nest := Nest.several ⟨first, s'.pos⟩ (all.map Prod.snd)
      match s'.rest with
      | '|' :: _ => branches fuel flags' openSpan first (branch :: done) s'.bump
      | ')' :: _ =>
        match openSpan with
        | none => .error (Scan.fault .groupUnopened s'.pos (s'.pos + 1))
        | some _ => .ok (whole, nest, s'.bump)
      | _ =>
        match openSpan with
        | none => .ok (whole, nest, s')
        | some sp => .error ⟨.groupUnclosed, sp, none⟩

/-- The pieces of one branch, last first, up to `|`, `)` or the end; also the flags in force
after them. -/
def pieces : Nat → Flags → List Piece → Scan → Except ParseError (List Piece × Flags × Scan)
  -- running out of fuel is a fault here as in the other parts, never a branch cut short
  | 0, _, _, s => .error (Scan.fault .groupUnclosed s.pos s.pos)
  | fuel + 1, flags, ps, s0 =>
    let s := s0.blanks flags.verbose
    let leaf (r : Expr) : Piece := ⟨some r, .leaf, s.pos⟩
    match s.rest with
    | [] => .ok (ps, flags, s)
    | c :: _ =>
      if c = '|' ∨ c = ')' then .ok (ps, flags, s)
      else if c = '(' then
        match groupOpening flags s with
        | .error e => .error e
        | .ok (.setFlags flags' s') => pieces fuel flags' (⟨none, .leaf, s.pos⟩ :: ps) s'
        | .ok (.group capturing inner s') =>
          match branches fuel inner (some ⟨s.pos, s.pos + 1⟩) s'.pos [] s' with
          | .error e => .error e
          | .ok (r, nest, s'') =>
            let r := if capturing then Expr.capture r else r
            pieces fuel flags (⟨some r, .node ⟨s.pos, s''.pos⟩ [nest], s.pos⟩ :: ps) s''
      else if c = '[' then
        match bracketClass fuel flags s with
        | .error e => .error e
        | .ok (k, nest, s') => pieces fuel flags (⟨some (.char k), nest, s.pos⟩ :: ps) s'
      else if c = '?' ∨ c = '*' ∨ c = '+' then
        match simpleRepetition ps c s with
        | .error e => .error e
        | .ok (ps', s') => pieces fuel flags ps' s'
      else if c = '\x7b' then
        match countedRepetition flags.verbose ps s with
        | .error e => .error e
        | .ok (ps', s') => pieces fuel flags ps' s'
      else if c = '\\' then
        match escape flags s with
        | .error e => .error e
        | .ok (p, s') =>
          pieces fuel flags (leaf (p.toExpr flags) :: ps) (s'.deferIf (byteLiteralFault flags p))
      else if c = '.' then
        let s' := if flags.unicode then s.bump
          else s.bump.defer (Scan.fault .invalidUtf8 s.pos (s.pos + 1))
        pieces fuel flags (leaf (.char (dotClass flags)) :: ps) s'
      else if c = '^' then
        let l := if flags.multiLine then Look.lineStart flags.crlf else .textStart
        pieces fuel flags (leaf (.look l) :: ps) s.bump
      else if c = '$' then
        let l := if flags.multiLine then Look.lineEnd flags.crlf else .textEnd
        pieces fuel flags (leaf (.look l) :: ps) s.bump
      else pieces fuel flags (leaf (.char (foldIf flags (.single c))) :: ps) s.bump

/-- A bracketed class, with how it nests; `s` stands on its `[`. -/
def bracketClass : Nat → Flags → Scan → Except ParseError (CharClass × Nest × Scan)
  | 0, _, s => .error (Scan.fault .classUnclosed s.pos s.pos)
  | fuel + 1, flags, s =>
    match classOpen flags.verbose s with
    | .error e => .error e
    | .ok (negated, items, openSpan, start, s') =>
      classBody fuel flags negated openSpan none start items s'

/-- The members of a class after its opening, up to and including its `]`: `lhs` is the left
side of a pending set operator and `items` the members read since `start`, last first.
Outside Unicode mode a negated class holds bytes above ASCII, which could match bytes that are
not UTF-8. -/
def classBody : Nat → Flags → Bool → Span → Option (ClassOp × Member) → Nat → List Member →
    Scan → Except ParseError (CharClass × Nest × Scan)
  | 0, _, _, openSpan, _, _, _, _ => .error ⟨.classUnclosed, openSpan, none⟩
  | fuel + 1, flags, negated, openSpan, lhs, start, items, s0 =>
    let s := s0.blanks flags.verbose
    match s.rest with
    | [] => .error ⟨.classUnclosed, openSpan, none⟩
    | ']' :: _ =>
      let set := classSoFar flags lhs start items
      let k := foldIf flags set.cls
      let s' := s.bump
      let span : Span := ⟨openSpan.start, s'.pos⟩
      let s' := if negated && !flags.unicode then s'.defer ⟨.invalidUtf8, span, none⟩ else s'
      .ok (if negated then .negate k else k, .node span [set.nest], s')
    | '[' :: _ =>
      match asciiClassAt s with
      | some (k, neg, s') =>
        let span : Span := ⟨s.pos, s'.pos⟩
        let k := foldIf flags k
        let s' := if neg && !flags.unicode then s'.defer ⟨.invalidUtf8, span, none⟩ else s'
        let m : Member := ⟨if neg then .negate k else k, .leaf, span⟩
        classBody fuel flags negated openSpan lhs start (m :: items) s'
      | none =>
        match bracketClass fuel flags s with
        | .error e => .error e
        | .ok (k, nest, s') =>
          classBody fuel flags negated openSpan lhs start (⟨k, nest, ⟨s.pos, s'.pos⟩⟩ :: items) s'
    | '&' :: '&' :: _ =>
      let s' := s.skip 2
      classBody fuel flags negated openSpan (some (.inter, classSoFar flags lhs start items)) s'.pos
        [] s'
    | '-' :: '-' :: _ =>
      let s' := s.skip 2
      classBody fuel flags negated openSpan (some (.diff, classSoFar flags lhs start items)) s'.pos
        [] s'
    | '~' :: '~' :: _ =>
      let s' := s.skip 2
      classBody fuel flags negated openSpan (some (.symDiff, classSoFar flags lhs start items))
        s'.pos [] s'
    | _ :: _ =>
      match classRange flags openSpan s with
      | .error e => .error e
      | .ok (m, s') => classBody fuel flags negated openSpan lhs start (m :: items) s'
end

/-- The pattern a text spells, or its first fault: a fault of structure, else a part nested
deeper than `nestLimit`, else the first fault of meaning. -/
def Expr.parse (text : String) : Except ParseError Expr :=
  let cs := text.toList
  match branches (4 * cs.length + 8) {} none 0 [] ⟨cs, 0, [], none⟩ with
  | .error e => .error e
  | .ok (r, nest, s) =>
    match nest.tooDeep nestLimit 0 with
    | some sp => .error ⟨.nestLimitExceeded, sp, none⟩
    | none =>
      match s.deferred with
      | some e => .error e
      | none => .ok r

end Switchyard.Regex

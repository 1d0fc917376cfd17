import Switchyard.Text.Unicode
/-!
# Debugging views

The debugging views of the router's values share one layout: a record is written
`Name { field: value, other: value }`, with `, ..` (or `Name { .. }` when no field is shown)
when some fields are left out; an optional value is `Some(value)` or `None`; a list is
`[a, b]`; a pair is `(a, b)`; and a text is quoted in double quotes with `"`, `\`, tab, newline,
carriage return and NUL escaped, and as `\u{hex}` every character that would not show as itself:
the extending marks of grapheme clusters, the characters ignored when not supported, and the
separators, control, format, surrogate, private-use and unassigned characters other than the
space.
-/
namespace Switchyard.DebugView

/-- The opening brace. -/
def openBrace : String := "\x7b"

/-- The closing brace. -/
def closeBrace : String := "\x7d"

/-- A record view; `more` marks fields left out. -/
def record (name : String) (fields : List (String × String)) (more : Bool := false) : String :=
  let shown := fields.map fun (k, v) => k ++ ": " ++ v
  let items := if more then shown ++ [".."] else shown
  if items.isEmpty then name
  else name ++ " " ++ openBrace ++ " " ++ ", ".intercalate items ++ " " ++ closeBrace

/-- The characters that extend a grapheme cluster (`Grapheme_Extend`), read once. -/
def graphemeExtendBoundaries : Array Nat := (Unicode.binaryProperty? "graphemeextend").getD #[]

/-- The characters that are ignored when not supported (`Default_Ignorable_Code_Point`), such as
the Hangul fillers, read once. -/
def ignorableBoundaries : Array Nat :=
  (Unicode.binaryProperty? "defaultignorablecodepoint").getD #[]

/-- Whether a character shows as itself in a quoted text: not a mark that extends a grapheme
cluster, not a character that is ignored when not supported, and not a separator (but the
space), control, format, surrogate, private-use or unassigned character. -/
def printable (c : Char) : Bool :=
  let n := c.toNat
  if n < 0x7F then 0x20 ≤ n
  else
    !Unicode.inBoundaries graphemeExtendBoundaries n &&
      !Unicode.inBoundaries ignorableBoundaries n &&
      !([.Cc, .Cf, .Cs, .Co, .Cn, .Zl, .Zp, .Zs] : List Unicode.Category).contains
        (Unicode.category c)

/-- A text quoted as a debugging view shows it. -/
def quote (s : String) : String :=
  let hex (n : Nat) : String := String.ofList (Nat.toDigits 16 n)
  "\"" ++ String.join (s.toList.map fun c =>
    if c = '"' then "\\\"" else if c = '\\' then "\\\\" else if c = '\n' then "\\n"
    else if c = '\r' then "\\r" else if c = '\t' then "\\t" else if c = '\x00' then "\\0"
    else if printable c then String.singleton c
    else "\\u" ++ openBrace ++ hex c.toNat ++ closeBrace) ++ "\""

/-- An optional value's view. -/
def option (f : α → String) : Option α → String
  | some a => "Some(" ++ f a ++ ")"
  | none => "None"

/-- A list's view. -/
def list (items : List String) : String := "[" ++ ", ".intercalate items ++ "]"

/-- A pair's view. -/
def pair (a b : String) : String := "(" ++ a ++ ", " ++ b ++ ")"

/-- A boolean's view. -/
def bool (b : Bool) : String := if b then "true" else "false"

end Switchyard.DebugView

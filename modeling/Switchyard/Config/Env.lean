import Switchyard.Number.Read
import Switchyard.Text.Unicode
/-!
# Settings from the environment

The environment is a list of variables. `Env.text` reads a variable with a fallback for an
unset one; `Env.int` reads an integer with a fallback for an unset, empty or unreadable one.

`readSetting` is the integer grammar: after trimming blanks, one optional sign (`-`, or else
`+`), then either a decimal integer (which may itself carry a sign) or a `0x`, `0o` or `0b`
prefix in either case followed by digits of that radix (which may also carry a sign); the value
must fit 64 bits signed, and a leading `-` negates it, the negation wrapping around at the
ends of that range.
-/
namespace Switchyard

/-- Environment variables, by name. -/
abbrev Env := List (String × String)

/-- Negation in 64-bit two's complement: the negation of the smallest value is itself. -/
def wrapNeg64 (v : Int) : Int := if v = -((Nat.pow 2 63 : Nat) : Int) then v else -v

/-- Whether a setting starts with `-`, and the text after its sign: a `-`, else a `+`, is
stripped. -/
def settingSign (cs : List Char) : Bool × List Char :=
  match cs with
  | '-' :: rest => (true, rest)
  | '+' :: rest => (false, rest)
  | _ => (false, cs)

/-- The radix a lower-cased setting selects with a `0x`, `0o` or `0b` prefix, ten without one,
and the text after the prefix. -/
def settingRadix (lower : String) : Nat × String :=
  if lower.startsWith "0x" then (16, (lower.drop 2).copy)
  else if lower.startsWith "0o" then (8, (lower.drop 2).copy)
  else if lower.startsWith "0b" then (2, (lower.drop 2).copy)
  else (10, lower)

/-- The integer a setting spells, if it spells one. -/
def readSetting (raw : String) : Option Int :=
  let (negative, digits) := settingSign (Unicode.trim raw).toList
  let (radix, rest) := settingRadix (String.ofList (asciiLower digits))
  (readInt IntKind.i64 radix rest).toOption.map fun v => if negative then wrapNeg64 v else v

namespace Env

/-- The value of a variable, or a fallback when it is unset. -/
def text (env : Env) (key fallback : String) : String := (env.lookup key).getD fallback

/-- The integer value of a variable, or a fallback when it is unset, empty or unreadable. -/
def int (env : Env) (key : String) (fallback : Int) : Int :=
  ((env.lookup key).bind readSetting).getD fallback

end Env

end Switchyard

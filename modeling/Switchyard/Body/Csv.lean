import Switchyard.Error
import Switchyard.Text.Utf8
/-!
# CSV bodies

`csvBody` writes records one per line, each ended by a newline, fields separated by commas.
A field holding a comma, a double quote, a carriage return or a newline is quoted, with its
double quotes doubled. A record that would otherwise be an empty line (no field, or a single
empty field) is written as `""`.

Every record must have as many fields as the first; the first record that does not is an
`Encode` error naming both counts.
-/
namespace Switchyard

/-- Whether a field must be quoted. -/
def csvNeedsQuotes (field : String) : Bool :=
  field.toList.any fun c => c = ',' ∨ c = '"' ∨ c = '\r' ∨ c = '\n'

/-- A field as written. -/
def csvField (field : String) : String :=
  if csvNeedsQuotes field then
    "\"" ++ String.ofList (field.toList.flatMap fun c => if c = '"' then ['"', '"'] else [c]) ++ "\""
  else field

/-- A record as written, with its newline. -/
def csvRecord (fields : List String) : String :=
  let line := ",".intercalate (fields.map csvField)
  (if line.isEmpty then "\"\"" else line) ++ "\n"

/-- Records as a CSV body, or the first record whose length differs from the first's. -/
def csvBody (records : List (List String)) : Except Error (List UInt8) :=
  match records with
  | [] => .ok []
  | first :: _ =>
    let expected := first.length
    match records.find? (·.length != expected) with
    | some bad =>
      .error (.encode "CSV" ("CSV error: found record with " ++ toString bad.length ++
        " fields, but the previous record has " ++ toString expected ++ " fields"))
    | none => .ok (Utf8.encode (String.join (records.map csvRecord)))

end Switchyard

import Switchyard.Body.Xml
import Switchyard.Json.Value
/-!
# Record shapes for XML bodies

Scripts that answer with XML name one of a few record shapes, read from a JSON value the way a
typed decoder reads it, or pass the JSON value through as it is:

- `item`: a structure `Item` with a text `name` and a 32-bit unsigned `qty`;
- `order`: a structure `Order` with a 32-bit `id`, an optional text `note`, the `items` and the
  texts `tags`;
- `unit`: the field-less structure `Unit`, whatever the value;
- `flag`: a structure `Flag` with an attribute `on` (a boolean) and a text body;
- `holder`: a structure `Holder` with a `kind` (the variant `A`, the variant `B` holding a
  32-bit number, or the variant `C` with a field `x`) and a binary64 `value`;
- `items`: a sequence of items.

A value that does not fit its shape gives `none`.
-/
namespace Switchyard

namespace XmlValue

mutual

/-- A JSON value as the XML writer sees it: a map, a sequence, or a scalar named by its type. -/
def ofJson : Json → XmlValue
  | .null => .unit
  | .bool b => .scalar "bool" (if b then "true" else "false")
  | .num (.pos n) => .scalar "u64" (toString n)
  | .num (.neg n) => .scalar "i64" ("-" ++ toString n)
  | .num (.float x) => .scalar "f64" (x.render FloatStyle.plain)
  | .str s => .scalar "&str" s
  | .arr items => .seq (ofJsonItems items)
  | .obj fields => .map (ofJsonFields fields)

/-- Items of a JSON array as the XML writer sees them. -/
def ofJsonItems : List Json → List XmlValue
  | [] => []
  | j :: rest => ofJson j :: ofJsonItems rest

/-- Fields of a JSON object as the XML writer sees them. -/
def ofJsonFields : List (String × Json) → List (String × XmlValue)
  | [] => []
  | (k, j) :: rest => (k, ofJson j) :: ofJsonFields rest

end

end XmlValue

namespace Record

/-- A text field. -/
def text? : Option Json → Option String
  | some (.str s) => some s
  | _ => none

/-- A 32-bit unsigned field. -/
def u32? : Option Json → Option Nat
  | some (.num (.pos n)) => if n < Nat.pow 2 32 then some n else none
  | _ => none

/-- A binary64 field: any JSON number. -/
def f64? : Option Json → Option Binary64
  | some (.num (.pos n)) => some (Binary64.ofNat n)
  | some (.num (.neg n)) => some (Binary64.ofNat n).neg
  | some (.num (.float x)) => some x
  | _ => none

/-- An `Item`. -/
def item? (j : Json) : Option XmlValue := do
  let name ← text? (j.field? "name")
  let qty ← u32? (j.field? "qty")
  pure (.struct "Item" [("name", .scalar "&str" name), ("qty", .scalar "u32" (toString qty))])

/-- A list of values, every one of which must fit. -/
def items? (j : Json) (f : Json → Option XmlValue) : Option (List XmlValue) :=
  match j with
  | .arr xs => xs.mapM f
  | _ => none

/-- An `Order`. -/
def order? (j : Json) : Option XmlValue := do
  let id ← u32? (j.field? "id")
  let note ← match j.field? "note" with
    | none | some .null => some XmlValue.none
    | some (.str s) => some (XmlValue.some (.scalar "&str" s))
    | _ => none
  let items ← items? ((j.field? "items").getD .null) item?
  let tags ← items? ((j.field? "tags").getD .null) fun
    | .str s => some (.scalar "&str" s)
    | _ => none
  pure (.struct "Order" [("id", .scalar "u32" (toString id)), ("note", note),
    ("items", .seq items), ("tags", .seq tags)])

/-- A `Flag`. -/
def flag? (j : Json) : Option XmlValue := do
  let on ← match j.field? "@on" with
    | some (.bool b) => some b
    | _ => none
  let body ← text? (j.field? "$text")
  pure (.struct "Flag" [("@on", .scalar "bool" (if on then "true" else "false")),
    ("$text", .scalar "&str" body)])

/-- A `Kind`. -/
def kind? : Json → Option XmlValue
  | .str "A" => some (.unitVariant "Kind" "A")
  | .obj [("B", v)] => (u32? (some v)).map fun n => .newtypeVariant "Kind" "B" (.scalar "u32" (toString n))
  | .obj [("C", v)] =>
    match v.field? "x" with
    | some (.num (.pos n)) =>
      if n < Nat.pow 2 31 then some (.structVariant "Kind" "C" [("x", .scalar "i32" (toString n))]) else none
    | some (.num (.neg n)) =>
      if n ≤ Nat.pow 2 31 then some (.structVariant "Kind" "C" [("x", .scalar "i32" ("-" ++ toString n))])
      else none
    | _ => none
  | _ => none

/-- A `Holder`. -/
def holder? (j : Json) : Option XmlValue := do
  let kind ← (j.field? "kind").bind kind?
  let value ← f64? (j.field? "value")
  pure (.struct "Holder" [("kind", kind), ("value", .scalar "f64" (value.render FloatStyle.plain))])

end Record

/-- The XML value of a JSON value read as a named record shape; the JSON value itself when no
shape is named. -/
def Record.xml? (shape : Option String) (j : Json) : Option XmlValue :=
  match shape with
  | none => some (XmlValue.ofJson j)
  | some "item" => Record.item? j
  | some "order" => Record.order? j
  | some "unit" => some (.unitStruct "Unit")
  | some "flag" => Record.flag? j
  | some "holder" => Record.holder? j
  | some "items" => (Record.items? j Record.item?).map .seq
  | some _ => none

end Switchyard

import Switchyard.Error
import Switchyard.Text.Utf8
/-!
# XML bodies

A value bound for an XML body is described by its shape: scalars, options, structures,
sequences, maps and enumeration variants (`XmlValue`). `XmlValue.document` writes it as one
element:

- a structure is an element named for the structure; each field is a child element named for
  the field, except that a field named `@name` is an attribute and a field named `$text` is the
  element's text;
- an element with no children and no text closes itself (`<note/>`);
- a field holding a sequence repeats its element once per item; one holding a structure or a
  map nests its fields under the field's name; one holding a unit variant has the variant's
  name as text, and one holding a newtype variant takes the variant's name as element name;
- text escapes `&`, `<` and `>` only.

What cannot stand as the document's root (a map, a sequence, a scalar, a unit) and an
enumeration variant with fields are refused; the reason becomes an `Encode` error of `XML`.
-/
namespace Switchyard

/-- A value as the XML writer sees it. -/
inductive XmlValue where
  /-- A scalar written as text, with the name of its type. -/
  | scalar (typeName : String) (text : String)
  /-- An absent optional value. -/
  | none
  /-- A present optional value. -/
  | some (v : XmlValue)
  /-- The unit value. -/
  | unit
  /-- A structure without fields. -/
  | unitStruct (name : String)
  /-- A structure with named fields. -/
  | struct (name : String) (fields : List (String × XmlValue))
  /-- A sequence. -/
  | seq (items : List XmlValue)
  /-- A map with text keys. -/
  | map (entries : List (String × XmlValue))
  /-- An enumeration variant without data. -/
  | unitVariant (enum variant : String)
  /-- An enumeration variant holding one value. -/
  | newtypeVariant (enum variant : String) (value : XmlValue)
  /-- An enumeration variant with named fields. -/
  | structVariant (enum variant : String) (fields : List (String × XmlValue))
  deriving Repr, Inhabited

namespace XmlValue

/-- Text with `&`, `<` and `>` escaped. -/
def escape (s : String) : String :=
  String.join (s.toList.map fun c =>
    if c = '&' then "&amp;" else if c = '<' then "&lt;" else if c = '>' then "&gt;"
    else String.singleton c)

/-- Why a value cannot be written. -/
def unsupported (what : String) : Except String String := .error ("unsupported value: " ++ what)

/-- An element from its name, attributes and content, closing itself when empty. -/
def element (name attrs content : String) : String :=
  if content.isEmpty then "<" ++ name ++ attrs ++ "/>"
  else "<" ++ name ++ attrs ++ ">" ++ content ++ "</" ++ name ++ ">"

/-- The text of an attribute value, when it is a scalar. -/
def attributeText : XmlValue → Except String String
  | .scalar _ s => .ok (escape s)
  | .some v => attributeText v
  | .unitVariant _ v => .ok v
  | _ => .ok ""

mutual

/-- The XML of a field's value under the field's name. -/
def field (key : String) : XmlValue → Except String String
  | .scalar _ s => .ok (element key "" (escape s))
  | .none => .ok (element key "" "")
  | .some v => field key v
  | .unit => .ok (element key "" "")
  | .unitStruct _ => .ok (element key "" "")
  | .struct _ fs => body key fs
  | .seq items => fieldItems key items
  | .map entries => body key entries
  | .unitVariant _ v => .ok (element key "" v)
  | .newtypeVariant _ v x => field v x
  | .structVariant e v _ =>
    unsupported ("cannot serialize enum struct variant " ++ "\x60" ++ e ++ "::" ++ v ++ "\x60")

/-- The XML of each item of a sequence under one name. -/
def fieldItems (key : String) : List XmlValue → Except String String
  | [] => .ok ""
  | v :: rest => do
    let a ← field key v
    let b ← fieldItems key rest
    pure (a ++ b)

/-- The element of a name holding fields: attributes, text and children. -/
def body (name : String) (fs : List (String × XmlValue)) : Except String String := do
  let (attrs, content) ← parts fs
  pure (element name attrs content)

/-- The attributes and the content that fields make. -/
def parts : List (String × XmlValue) → Except String (String × String)
  | [] => .ok ("", "")
  | (k, v) :: rest => do
    let here ← if k.startsWith "@" then do
        let t ← attributeText v
        pure (" " ++ (k.drop 1).toString ++ "=\"" ++ t ++ "\"", "")
      else if k = "$text" then do
        let t ← attributeText v
        pure ("", t)
      else do
        let t ← field k v
        pure ("", t)
    let (a, c) ← parts rest
    pure (here.1 ++ a, here.2 ++ c)

end

/-- The document a value makes, refused when it has no name for its root. -/
def document : XmlValue → Except String String
  | .scalar t _ => unsupported ("cannot serialize " ++ "\x60" ++ t ++ "\x60" ++ " without defined root tag")
  | .none => .ok ""
  | .some v => document v
  | .unit => unsupported ("cannot serialize " ++ "\x60()\x60" ++ " without defined root tag")
  | .unitStruct n => .ok (element n "" "")
  | .struct n fs => body n fs
  | .seq _ => unsupported "cannot serialize sequence without defined root tag"
  | .map _ => unsupported "cannot serialize map without defined root tag"
  | .unitVariant _ v => .ok (element v "" "")
  | .newtypeVariant _ v x => field v x
  | .structVariant e v _ =>
    unsupported ("cannot serialize enum struct variant " ++ "\x60" ++ e ++ "::" ++ v ++ "\x60")

end XmlValue

/-- A value as an XML body: the document and a newline, or an `Encode` error. -/
def xmlBody (v : XmlValue) : Except Error (List UInt8) :=
  match v.document with
  | .ok s => .ok (Utf8.encode (s ++ "\n"))
  | .error reason => .error (.encode "XML" reason)

end Switchyard

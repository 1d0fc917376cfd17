/-!
# Static files

A file tree and the rules a directory is served under a URL prefix by.

`FileTree.servedPath` maps a request path to a path in the tree: the strip text must start the
request path; what follows, without leading slashes, is read component by component, empty and
`.` components dropped, and a `..` component refusing the request. A directory found at that
path stands for its `index.html`.

`contentType` picks the media type from the file name's extension, in any case: the part after
the last dot, unless that dot starts the name.
-/
namespace Switchyard

/-- A file tree: a file's octets, or a directory's named entries. -/
inductive FileTree where
  /-- A file with its octets. -/
  | file (octets : List UInt8)
  /-- A directory with its entries. -/
  | dir (entries : List (String × FileTree))
  deriving Inhabited

namespace FileTree

/-- The entry of a directory under a name. -/
def child? : FileTree → String → Option FileTree
  | .dir entries, name => entries.lookup name
  | .file _, _ => none

/-- The node at a path of names. -/
def find? (t : FileTree) : List String → Option FileTree
  | [] => some t
  | name :: rest => (t.child? name).bind fun c => find? c rest

/-- Whether a node is a directory. -/
def isDir : FileTree → Bool
  | .dir _ => true
  | .file _ => false

/-- The names a path text is read as: the parts between its `/`s, empty and `.` parts
dropped. -/
def pathParts (s : String) : List String :=
  ((s.toList.splitOn '/').map String.ofList).filter fun p => !p.isEmpty && p != "."

/-- The directory path a served root names under the tree's top: `.` and empty components
dropped; a `..` component or a leading slash leaves the tree. -/
def rootPath (dir : String) : Option (List String) :=
  if dir.startsWith "/" then none
  else
    let parts := pathParts dir
    if parts.contains ".." then none else some parts

/-- The path a request path is served from, or `none` when the strip text does not start it or
it climbs out. -/
def servedPath (t : FileTree) (root : List String) (strip path : String) : Option (List String) :=
  if !path.startsWith strip then none
  else
    let relative := String.ofList ((path.toList.drop strip.length).dropWhile (· == '/'))
    let parts := pathParts relative
    if parts.contains ".." then none
    else
      let full := root ++ parts
      match t.find? full with
      | some node => if node.isDir then some (full ++ ["index.html"]) else some full
      | none => some full

/-- The octets of the file at a path, if a file is there. -/
def fileAt? (t : FileTree) (path : List String) : Option (List UInt8) :=
  match t.find? path with
  | some (.file octets) => some octets
  | _ => none

end FileTree

/-- The extension of a file name: the part after its last dot, unless that dot starts it. -/
def extensionOf (name : String) : String :=
  let cs := name.toList
  if !cs.contains '.' || name == ".." then ""
  else
    let ext := (cs.reverse.takeWhile (· != '.')).reverse
    if ext.length + 1 = cs.length then "" else String.ofList ext

/-- The media type served for a file name. -/
def contentType (name : String) : String :=
  let ext := String.ofList ((extensionOf name).toList.map Char.toLower)
  match ext with
  | "html" | "htm" => "text/html; charset=utf-8"
  | "css" => "text/css; charset=utf-8"
  | "js" | "mjs" => "text/javascript; charset=utf-8"
  | "json" => "application/json"
  | "txt" => "text/plain; charset=utf-8"
  | "svg" => "image/svg+xml"
  | "png" => "image/png"
  | "jpg" | "jpeg" => "image/jpeg"
  | "gif" => "image/gif"
  | "ico" => "image/x-icon"
  | "wasm" => "application/wasm"
  | _ => "application/octet-stream"

end Switchyard

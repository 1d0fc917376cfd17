import Switchyard.Error
import Switchyard.Json.Value
import Switchyard.Text.DebugView
/-!
# Dependency injection

Values are looked up by type in a tree of scopes. A scope holds values and *providers*; a
lookup asks, in order, the scope's values, then its provider (run once: its result is kept
among the scope's values, and a failure is returned without keeping anything), then the
parent scope. Nothing found is an `Unresolved` error naming the type.

A provider yields a fixed value, fails with a fixed error, or (for texts) builds
`from=` followed by the 64-bit number its own scope resolves. Each run of a provider leaves its
note in the log of the lookup.

`Injectors` holds the scopes by handle; a child scope is always made after its parent.
-/
namespace Switchyard

/-- The types that can be injected. -/
inductive DepType where
  | u64 | u32 | u16 | i32 | bool | string
  deriving DecidableEq, Repr

/-- The full name of an injected type. -/
def DepType.typeName : DepType → String
  | .u64 => "u64"
  | .u32 => "u32"
  | .u16 => "u16"
  | .i32 => "i32"
  | .bool => "bool"
  | .string => "alloc::string::String"

/-- The type a short name stands for. -/
def DepType.ofName? : String → Option DepType
  | "u64" => some .u64
  | "u32" => some .u32
  | "u16" => some .u16
  | "i32" => some .i32
  | "bool" => some .bool
  | "string" => some .string
  | _ => none

/-- What a provider yields. -/
inductive Provision where
  /-- A fixed value. -/
  | value (v : Json)
  /-- A fixed error. -/
  | fail (e : Error)
  /-- `from=` and the scope's 64-bit number. -/
  | fromNumber
  deriving Inhabited

/-- A provider and the note its runs leave. -/
structure Provider where
  /-- What it yields. -/
  yields : Provision
  /-- The note of a run. -/
  note : String
  deriving Inhabited

/-- One scope. -/
structure Scope where
  /-- The parent scope's handle. -/
  parent : Option Nat := none
  /-- The values by type. -/
  values : List (DepType × Json) := []
  /-- The providers by type. -/
  providers : List (DepType × Provider) := []
  deriving Inhabited

/-- Scopes by handle. -/
structure Injectors where
  /-- The scopes, the handle being the index. -/
  scopes : Array Scope := #[]
  deriving Inhabited

namespace Injectors

/-- Adds a scope under a parent; its handle is the former size. -/
def add (s : Injectors) (parent : Option Nat) : Injectors × Nat :=
  (⟨s.scopes.push { parent }⟩, s.scopes.size)

/-- The scope of a handle. -/
def scope (s : Injectors) (id : Nat) : Scope := s.scopes.getD id {}

/-- Replaces an entry of a type in an association list. -/
def setEntry (xs : List (DepType × α)) (t : DepType) (v : α) : List (DepType × α) :=
  if xs.any (·.1 == t) then xs.map fun (k, w) => if k == t then (k, v) else (k, w) else xs ++ [(t, v)]

/-- Stores a value of a type in a scope, replacing the one there. -/
def map (s : Injectors) (id : Nat) (t : DepType) (v : Json) : Injectors :=
  ⟨s.scopes.modify id fun sc => { sc with values := setEntry sc.values t v }⟩

/-- Registers the provider of a type in a scope, replacing the one there. -/
def provide (s : Injectors) (id : Nat) (t : DepType) (p : Provider) : Injectors :=
  ⟨s.scopes.modify id fun sc => { sc with providers := setEntry sc.providers t p }⟩

/-- Whether a type has a value or a provider in a scope or above it. -/
def contains (s : Injectors) (id : Nat) (t : DepType) : Bool :=
  let sc := s.scope id
  if sc.values.any (·.1 == t) || sc.providers.any (·.1 == t) then true
  else
    match sc.parent with
    | some p => if p < id then contains s p t else false
    | none => false
termination_by id

/-- Reads a lookup as a resolution of a type: nothing found is an `Unresolved` error naming
the type. -/
def found (t : DepType) :
    Except Error (Option Json) × Injectors × List String →
      Except Error Json × Injectors × List String
  | (.ok (some v), s, ns) => (.ok v, s, ns)
  | (.ok none, s, ns) => (.error (.unresolved t.typeName), s, ns)
  | (.error e, s, ns) => (.error e, s, ns)

/-- What a provider asking for its scope's 64-bit number makes of that number's resolution:
`from=` and the number, an `Unresolved` error for the number when the value is none, and the
resolution's own error. -/
def fromNumber : Except Error Json × Injectors × List String →
    Except Error Json × Injectors × List String
  | (.ok (.num (.pos n)), s, ns) => (.ok (.str ("from=" ++ toString n)), s, ns)
  | (.ok _, s, ns) => (.error (.unresolved DepType.u64.typeName), s, ns)
  | (.error e, s, ns) => (.error e, s, ns)

/-- Runs what a provider yields, from the scopes `s`; `number` resolves the 64-bit number of
the provider's scope, which only `fromNumber` asks for. -/
def provision (s : Injectors)
    (number : Injectors → Except Error Json × Injectors × List String) :
    Provision → Except Error Json × Injectors × List String
  | .value v => (.ok v, s, [])
  | .fail e => (.error e, s, [])
  | .fromNumber => fromNumber (number s)

/-- Ends the run of a provider of scope `id`: its value is kept among the scope's values, unless
one got there first and is the answer instead, and an error keeps nothing. The provider's note
goes before the notes of its run. -/
def keep (id : Nat) (t : DepType) (note : String) :
    Except Error Json × Injectors × List String →
      Except Error (Option Json) × Injectors × List String
  | (.error e, s, ns) => (.error e, s, note :: ns)
  | (.ok v, s, ns) =>
    match (s.scope id).values.lookup t with
    | some kept => (.ok (some kept), s, note :: ns)
    | none => (.ok (some v), s.map id t v, note :: ns)

/-- Looks a type up from a scope: its value if any, with the scopes (providers that ran keep
their results) and the notes of the providers that ran. -/
def lookup (s : Injectors) (id : Nat) (t : DepType) (fuel : Nat) :
    Except Error (Option Json) × Injectors × List String :=
  match fuel with
  | 0 => (.ok none, s, [])
  | fuel + 1 =>
    let sc := s.scope id
    match sc.values.lookup t with
    | some v => (.ok (some v), s, [])
    | none =>
      match sc.providers.lookup t with
      | some p =>
        keep id t p.note (s.provision (fun s => found .u64 (lookup s id .u64 fuel)) p.yields)
      | none =>
        match sc.parent with
        | some p => if p < id then lookup s p t fuel else (.ok none, s, [])
        | none => (.ok none, s, [])

/-- Resolves a type from a scope; nothing found is an `Unresolved` error. -/
def resolve (s : Injectors) (id : Nat) (t : DepType) : Except Error Json × Injectors × List String :=
  found t (s.lookup id t (2 * s.scopes.size + 4))

/-- The debugging view of a scope. -/
def debugText (s : Injectors) (id : Nat) : String :=
  let sc := s.scope id
  DebugView.record "Injector" [("values", toString sc.values.length),
    ("factories", toString sc.providers.length), ("has_parent", DebugView.bool sc.parent.isSome)]

end Injectors

end Switchyard

/-
Decoding JSON values into domain types.  A record may be given as an object of its fields or as an
array of them in the order of their declaration.
-/
import DebugSession.Json.Basic
import DebugSession.Text.Quoted

namespace DebugSession
namespace Json

open Text.Decimal (render renderInt)

/-- Why a value does not fit the type that is expected of it. -/
inductive Mismatch where
  | wrongType (found expected : String)
  | outOfRange (found expected : String)
  | missingField (name : String)
  | wrongLength (length : Nat) (expected : String)
deriving Repr, DecidableEq, Inhabited

namespace Mismatch

def message : Mismatch → String
  | wrongType found expected => s!"invalid type: {found}, expected {expected}"
  | outOfRange found expected => s!"invalid value: {found}, expected {expected}"
  | missingField name => s!"missing field `{name}`"
  | wrongLength length expected => s!"invalid length {length}, expected {expected}"

end Mismatch

abbrev Decoded (α : Type) := Except Mismatch α

/-- A value as a mismatch names it. -/
def describe : Json → String
  | .null => "null"
  | .bool b => "boolean `" ++ (if b then "true" else "false") ++ "`"
  | .integer i => "integer `" ++ renderInt i ++ "`"
  | .decimal x => "floating point `" ++ x.render ++ "`"
  | .string s => "string " ++ Text.Quoted.quote s
  | .array _ => "sequence"
  | .object _ => "map"

def mismatch {α : Type} (v : Json) (expected : String) : Decoded α :=
  .error (.wrongType v.describe expected)

/-- An integer within bounds, which are those of a word called `name`. -/
def integerIn (low high : Int) (name : String) : Json → Decoded Int
  | .integer i =>
    if low ≤ i ∧ i ≤ high then .ok i
    else .error (.outOfRange (describe (.integer i)) name)
  | v => mismatch v name

def word32 (v : Json) : Decoded UInt32 :=
  (fun i => UInt32.ofNat i.toNat) <$> integerIn 0 0xFFFFFFFF "u32" v

def signed64 : Json → Decoded Int := integerIn (-0x8000000000000000) 0x7FFFFFFFFFFFFFFF "i64"

def text : Json → Decoded String
  | .string s => .ok s
  | v => mismatch v "a string"

def boolean : Json → Decoded Bool
  | .bool b => .ok b
  | v => mismatch v "a boolean"

def any (v : Json) : Decoded Json := .ok v

def list {α : Type} (item : Json → Decoded α) : Json → Decoded (List α)
  | .array vs => vs.mapM item
  | v => mismatch v "a sequence"

/-- Null stands for nothing. -/
def orNull {α : Type} (item : Json → Decoded α) : Json → Decoded (Option α)
  | .null => .ok none
  | v => some <$> item v

structure Field (α : Type) where
  name : String
  decode : Json → Decoded α
  /-- What the field is when an object leaves it out, none if it may not. -/
  absent : Option α := none
  /-- Whether an array may end before the field. -/
  mayEndBefore : Bool := false

namespace Field

def required {α : Type} (name : String) (decode : Json → Decoded α) : Field α :=
  { name, decode }

/-- A field that an object may leave out. -/
def optional {α : Type} (name : String) (decode : Json → Decoded α) : Field (Option α) :=
  { name, decode := orNull decode, absent := some none }

/-- A field that objects and arrays may leave out. -/
def defaulted {α : Type} (name : String) (decode : Json → Decoded α) (default : α) : Field α :=
  { name, decode, absent := some default, mayEndBefore := true }

def optionalDefaulted {α : Type} (name : String) (decode : Json → Decoded α) :
    Field (Option α) :=
  defaulted name (orNull decode) none

end Field

/-- The fields of a record that is built from their values. -/
structure Shape (α : Type) where
  /-- Decodes the member with a key of the record, and only looks whether it fits. -/
  fits : String → Json → Decoded Unit
  count : Nat
  /-- Builds the record from members, all of which fit. -/
  ofMembers : List (String × Json) → Decoded α
  /-- Builds the record from the first items; fails with the number of items if they end before a
  field that needs one. -/
  ofItems : List Json → Except (Mismatch ⊕ Nat) (α × List Json)

namespace Shape

def base {α : Type} (a : α) : Shape α where
  fits _ _ := .ok ()
  count := 0
  ofMembers _ := .ok a
  ofItems items := .ok (a, items)

/-- Adds a field after those of a shape. -/
def field {α β : Type} (s : Shape (α → β)) (f : Field α) : Shape β where
  fits key v := if key = f.name then (fun _ => ()) <$> f.decode v else s.fits key v
  count := s.count + 1
  ofMembers ms := do
    let make ← s.ofMembers ms
    match find? ms f.name with
    | some v => make <$> f.decode v
    | none =>
      match f.absent with
      | some a => .ok (make a)
      | none => .error (.missingField f.name)
  ofItems items := do
    let (make, rest) ← s.ofItems items
    match rest with
    | v :: rest =>
      match f.decode v with
      | .ok a => .ok (make a, rest)
      | .error e => .error (.inl e)
    | [] =>
      match f.mayEndBefore, f.absent with
      | true, some a => .ok (make a, [])
      | _, _ => .error (.inr s.count)

/-- Decodes a record.  The members of an object are looked at in their order first, only then a
field that is missing counts. -/
def decode {α : Type} (s : Shape α) (name : String) : Json → Decoded α
  | .object ms => do
    for (key, v) in ms do
      s.fits key v
    s.ofMembers ms
  | .array items =>
    match s.ofItems items with
    | .ok (a, []) => .ok a
    | .ok (_, _ :: _) => .error (.wrongLength items.length "fewer elements in array")
    | .error (.inl e) => .error e
    | .error (.inr length) =>
      let unit := if s.count = 1 then "element" else "elements"
      let count := render s.count
      .error (.wrongLength length s!"struct {name} with {count} {unit}")
  | v => mismatch v s!"struct {name}"

end Shape

end Json
end DebugSession

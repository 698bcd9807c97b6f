/-
JSON values.  A number keeps whether it was an integer that fits a word or a decimal, and an object
keeps its members in a list whose order is the order in which they are written.
-/
import DebugSession.Json.Double

namespace DebugSession

inductive Json where
  | null
  | bool (b : Bool)
  | integer (i : Int)
  | decimal (x : Json.Double)
  | string (s : String)
  | array (items : List Json)
  | object (members : List (String × Json))
deriving Repr, Inhabited

namespace Json

/-- A member put into a list sorted by key; it takes the place of one with the same key. -/
def insertMember (key : String) (value : Json) :
    List (String × Json) → List (String × Json)
  | [] => [(key, value)]
  | (k, v) :: rest =>
    if key < k then (key, value) :: (k, v) :: rest
    else if key = k then (key, value) :: rest
    else (k, v) :: insertMember key value rest

/-- The members sorted by key, the last of those with the same key. -/
def sortMembers (members : List (String × Json)) : List (String × Json) :=
  members.foldl (fun sorted (k, v) => insertMember k v sorted) []

/-- The object with these members in the order of their keys. -/
def sorted (members : List (String × Json)) : Json := .object (sortMembers members)

def find? (members : List (String × Json)) (key : String) : Option Json :=
  (members.find? fun m => m.1 == key).map Prod.snd

def ofNat (n : Nat) : Json := .integer n

def ofWord (n : UInt32) : Json := .integer n.toNat

end Json
end DebugSession

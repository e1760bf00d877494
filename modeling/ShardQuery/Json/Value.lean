import ShardQuery.Decimal.Digits
import ShardQuery.Binary.Format

namespace ShardQuery

/-- A JSON value; the members of an object stand in the order of the text, repeats included. -/
inductive Json where
  | null
  | bool (b : Bool)
  /-- A number written without point and exponent that eight bytes hold. -/
  | int (i : Int)
  /-- The bit pattern of any other number. -/
  | real (bits : Nat)
  | text (s : String)
  | list (items : List Json)
  | object (members : List (String × Json))
deriving Repr

namespace Json

def ofNat (n : Nat) : Json := int n

def ofOption (f : α → Json) : Option α → Json
  | some a => f a
  | none => null

def texts (ss : List String) : Json := list (ss.map text)

mutual

/-- How deep lists and objects are nested. -/
def depth : Json → Nat
  | list items => depthItems items + 1
  | object members => depthMembers members + 1
  | _ => 0

def depthItems : List Json → Nat
  | [] => 0
  | v :: vs => max (depth v) (depthItems vs)

def depthMembers : List (String × Json) → Nat
  | [] => 0
  | (_, v) :: ms => max (depth v) (depthMembers ms)

end

mutual

def isFinite : Json → Bool
  | real bits => Binary.double.magnitude bits < Binary.double.infinity
  | list items => finiteItems items
  | object members => finiteMembers members
  | _ => true

def finiteItems : List Json → Bool
  | [] => true
  | v :: vs => isFinite v && finiteItems vs

def finiteMembers : List (String × Json) → Bool
  | [] => true
  | (_, v) :: ms => isFinite v && finiteMembers ms

end

mutual

/-- The value in which a repeated name of an object keeps its last value. -/
def lastWins : Json → Json
  | list items => list (lastWinsItems items)
  | object members => object (lastWinsMembers members)
  | v => v

def lastWinsItems : List Json → List Json
  | [] => []
  | v :: vs => lastWins v :: lastWinsItems vs

def lastWinsMembers : List (String × Json) → List (String × Json)
  | [] => []
  | (k, v) :: ms =>
    let rest := lastWinsMembers ms
    if rest.any (·.1 = k) then rest else (k, lastWins v) :: rest

end

end Json

end ShardQuery

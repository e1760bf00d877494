import ShardQuery.Json.Value

namespace ShardQuery.Json

def natBelow? (bound : Nat) : Json → Option Nat
  | int i => if 0 ≤ i ∧ i < bound then some i.toNat else none
  | _ => none

def word? : Json → Option Nat := natBelow? UInt64.size

def text? : Json → Option String
  | text s => some s
  | _ => none

def bool? : Json → Option Bool
  | bool b => some b
  | _ => none

/-- A list whose items all decode. -/
def list? (f : Json → Option α) : Json → Option (List α)
  | list items => items.mapM f
  | _ => none

def option? (f : Json → Option α) : Json → Option (Option α)
  | null => some none
  | v => (f v).map some

/-- The name of a choice: a text, or the only name of an object that holds nothing else. -/
def choice? : Json → Option String
  | text s => some s
  | object [(s, null)] => some s
  | _ => none

/-- The same, where the object may also hold an empty object under the name. -/
def looseChoice? : Json → Option String
  | object [(s, object [])] => some s
  | v => v.choice?

/-- The values of the fields of a record, in order; none where a field is absent. -/
abbrev Fields := List (Option Json)

/-- The value of a field of an object; `none` if it is there twice. -/
def field? (members : List (String × Json)) (name : String) : Option (Option Json) :=
  match members.filter (·.1 = name) with
  | [] => some none
  | [(_, v)] => some (some v)
  | _ => none

/-- The fields of a record: by name from an object, all of them by position from a list. -/
def fields? (names : List String) : Json → Option Fields
  | object members => names.mapM (field? members)
  | list items => if items.length = names.length then some (items.map some) else none
  | _ => none

/-- The fields of a record of which a list may give only the first ones. -/
def leadingFields? (names : List String) : Json → Option Fields
  | object members => names.mapM (field? members)
  | list items =>
    if items.length ≤ names.length then
      some (items.map some ++ List.replicate (names.length - items.length) none)
    else none
  | _ => none

namespace Fields

/-- A field that must be there. -/
def required (fs : Fields) (i : Nat) (f : Json → Option α) : Option α :=
  match fs[i]? with
  | some (some v) => f v
  | _ => none

/-- A field that may be absent or null. -/
def optional (fs : Fields) (i : Nat) (f : Json → Option α) : Option (Option α) :=
  match fs[i]? with
  | some (some v) => option? f v
  | _ => some none

def defaulted (fs : Fields) (i : Nat) (default : α) (f : Json → Option α) : Option α :=
  match fs[i]? with
  | some (some v) => f v
  | _ => some default

end Fields

end ShardQuery.Json

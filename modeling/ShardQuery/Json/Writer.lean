import ShardQuery.Json.Value
import ShardQuery.Binary.Layout

namespace ShardQuery.Json

/-- How a text writes one character. -/
def escaped (c : Char) : List Char :=
  if c = '"' then ['\\', '"']
  else if c = '\\' then ['\\', '\\']
  else if c = '\n' then ['\\', 'n']
  else if c = '\r' then ['\\', 'r']
  else if c = '\t' then ['\\', 't']
  else if c = '\x08' then ['\\', 'b']
  else if c = '\x0c' then ['\\', 'f']
  else if c.toNat < 32 then
    ['\\', 'u', '0', '0', Nat.digitChar (c.toNat / 16), Nat.digitChar (c.toNat % 16)]
  else [c]

def quotedChars (s : String) : List Char := '"' :: (s.toList.flatMap escaped ++ ['"'])

def boolChars (b : Bool) : List Char := (if b then "true" else "false").toList

mutual

/-- The value on one line without spaces. -/
def chars : Json → List Char
  | null => "null".toList
  | bool b => boolChars b
  | int i => Decimal.ofInt i
  | real bits => (Binary.jsonLayout.write Binary.double bits).toList
  | text s => quotedChars s
  | list items => '[' :: (charsItems items ++ [']'])
  | object members => '{' :: (charsMembers members ++ ['}'])

def charsItems : List Json → List Char
  | [] => []
  | [v] => chars v
  | v :: vs => chars v ++ ',' :: charsItems vs

def charsMembers : List (String × Json) → List Char
  | [] => []
  | [(k, v)] => quotedChars k ++ ':' :: chars v
  | (k, v) :: ms => quotedChars k ++ ':' :: chars v ++ ',' :: charsMembers ms

end

def compact (v : Json) : String := String.ofList (chars v)

/-- A new line indented by a number of steps. -/
def newLine (steps : Nat) : List Char := '\n' :: List.replicate (2 * steps) ' '

mutual

/-- The value with a member a line, inside a number of steps. -/
def prettyChars (steps : Nat) : Json → List Char
  | list [] => ['[', ']']
  | list (v :: vs) => '[' :: (prettyItems (steps + 1) (v :: vs) ++ newLine steps ++ [']'])
  | object [] => ['{', '}']
  | object (m :: ms) => '{' :: (prettyMembers (steps + 1) (m :: ms) ++ newLine steps ++ ['}'])
  | null => "null".toList
  | bool b => boolChars b
  | int i => Decimal.ofInt i
  | real bits => (Binary.jsonLayout.write Binary.double bits).toList
  | text s => quotedChars s

def prettyItems (steps : Nat) : List Json → List Char
  | [] => []
  | [v] => newLine steps ++ prettyChars steps v
  | v :: vs => newLine steps ++ prettyChars steps v ++ ',' :: prettyItems steps vs

def prettyMembers (steps : Nat) : List (String × Json) → List Char
  | [] => []
  | [(k, v)] => newLine steps ++ quotedChars k ++ ':' :: ' ' :: prettyChars steps v
  | (k, v) :: ms =>
    newLine steps ++ quotedChars k ++ ':' :: ' ' :: prettyChars steps v ++ ',' ::
      prettyMembers steps ms

end

def pretty (v : Json) : String := String.ofList (prettyChars 0 v)

end ShardQuery.Json

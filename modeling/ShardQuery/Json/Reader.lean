import ShardQuery.Json.Value
import ShardQuery.Binary.Literal

namespace ShardQuery.Json

def isSpace (c : Char) : Bool := c = ' ' || c = '\n' || c = '\t' || c = '\r'

def skipSpace (cs : List Char) : List Char := cs.dropWhile isSpace

def hexValue? (c : Char) : Option Nat :=
  if '0' ≤ c ∧ c ≤ '9' then some (c.toNat - 48)
  else if 'a' ≤ c ∧ c ≤ 'f' then some (c.toNat - 87)
  else if 'A' ≤ c ∧ c ≤ 'F' then some (c.toNat - 55)
  else none

def hexFour? (a b c d : Char) : Option Nat := do
  some (((← hexValue? a) * 16 + (← hexValue? b)) * 256 + (← hexValue? c) * 16 + (← hexValue? d))

def shortEscape? (c : Char) : Option Char :=
  if c = '"' ∨ c = '\\' ∨ c = '/' then some c
  else if c = 'n' then some '\n'
  else if c = 'r' then some '\r'
  else if c = 't' then some '\t'
  else if c = 'b' then some '\x08'
  else if c = 'f' then some '\x0c'
  else none

def pairChar? (high low : Nat) : Option Char :=
  if 0xD800 ≤ high ∧ high < 0xDC00 ∧ 0xDC00 ≤ low ∧ low < 0xE000 then
    some (Char.ofNat ((high - 0xD800) * 1024 + (low - 0xDC00) + 0x10000))
  else none

def singleChar? (n : Nat) : Option Char :=
  if 0xD800 ≤ n ∧ n < 0xE000 then none else some (Char.ofNat n)

/-- A character before a text; what cannot be a character leaves no text. -/
def prepend (x : Option Char) (read : Option (List Char) × List Char) :
    Option (List Char) × List Char :=
  (read.1.bind fun v => x.map (· :: v), read.2)

/--
Reads up to the closing quote of a text; there is no text if half a pair stands in it alone.
-/
def readText? : List Char → Option (Option (List Char) × List Char)
  | [] => none
  | '"' :: rest => some (some [], rest)
  | '\\' :: 'u' :: a :: b :: c :: d :: '\\' :: 'u' :: e :: f :: g :: h :: rest => do
    let n ← hexFour? a b c d
    match singleChar? n with
    | some x => (readText? ('\\' :: 'u' :: e :: f :: g :: h :: rest)).map (prepend (some x))
    | none =>
      let m ← hexFour? e f g h
      (readText? rest).map (prepend (pairChar? n m))
  | '\\' :: 'u' :: a :: b :: c :: d :: rest => do
    let n ← hexFour? a b c d
    (readText? rest).map (prepend (singleChar? n))
  | '\\' :: c :: rest => do
    let x ← shortEscape? c
    (readText? rest).map (prepend (some x))
  | c :: rest =>
    if c.toNat < 32 ∨ c = '\\' then none else (readText? rest).map (prepend (some c))

/-- The digits before the point: a zero alone, or digits that do not start with one. -/
def readWhole? : List Char → Option (List Char × List Char)
  | '0' :: rest => some (['0'], rest)
  | cs =>
    match Binary.spanDigits cs with
    | ([], _) => none
    | span => some span

def readFraction? : List Char → Option (Option (List Char) × List Char)
  | '.' :: rest =>
    match Binary.spanDigits rest with
    | ([], _) => none
    | (ds, rest) => some (some ds, rest)
  | cs => some (none, cs)

def readPower? (negative : Bool) (cs : List Char) : Option (Int × List Char) :=
  match Binary.spanDigits cs with
  | ([], _) => none
  | (ds, rest) =>
    let n : Int := Nat.ofDigitChars 10 ds 0
    some (if negative then -n else n, rest)

/-- The exponent, none without its mark. -/
def readExponent? : List Char → Option (Option Int × List Char)
  | c :: rest =>
    if c = 'e' ∨ c = 'E' then
      match rest with
      | '-' :: rest => (readPower? true rest).map fun (e, r) => (some e, r)
      | '+' :: rest => (readPower? false rest).map fun (e, r) => (some e, r)
      | rest => (readPower? false rest).map fun (e, r) => (some e, r)
    else some (none, c :: rest)
  | [] => some (none, [])

/-- The number of a sign and digits; minus zero and what eight bytes do not hold are reals. -/
def wholeNumber (negative : Bool) (digits : List Char) : Json :=
  let n := Nat.ofDigitChars 10 digits 0
  if negative ∧ 0 < n ∧ n ≤ 9223372036854775808 then int (-(n : Int))
  else if ¬negative ∧ n < UInt64.size then int n
  else real ((Binary.Parts.mk negative digits [] 0).round Binary.double)

def readUnsigned? (negative : Bool) (cs : List Char) : Option (Json × List Char) := do
  let (whole, rest) ← readWhole? cs
  let (fraction, rest) ← readFraction? rest
  let (exponent, rest) ← readExponent? rest
  if fraction.isNone ∧ exponent.isNone then some (wholeNumber negative whole, rest)
  else
    let parts : Binary.Parts := ⟨negative, whole, fraction.getD [], exponent.getD 0⟩
    some (real (parts.round Binary.double), rest)

/-- What stands for a text that is none: a number that is none, which nothing decodes. -/
def unreadable : Json := real Binary.double.quietNaN

def ofText (read : Option (List Char)) : Json :=
  match read with
  | some cs => text (String.ofList cs)
  | none => unreadable

/-- The value of the members of an object that have been read, all with a name. -/
def ofMembers (read : List (Option (List Char) × Json)) : Json :=
  match read.mapM fun (k, v) => k.map fun k => (String.ofList k, v) with
  | some members => object members
  | none => unreadable

mutual

/-- Reads one value; the number of steps is bounded by the fuel. -/
def readValue? (fuel : Nat) (cs : List Char) : Option (Json × List Char) :=
  match fuel with
  | 0 => none
  | fuel + 1 =>
    match skipSpace cs with
    | 'n' :: 'u' :: 'l' :: 'l' :: rest => some (null, rest)
    | 't' :: 'r' :: 'u' :: 'e' :: rest => some (bool true, rest)
    | 'f' :: 'a' :: 'l' :: 's' :: 'e' :: rest => some (bool false, rest)
    | '"' :: rest => (readText? rest).map fun (s, r) => (ofText s, r)
    | '[' :: rest =>
      match skipSpace rest with
      | ']' :: rest => some (list [], rest)
      | rest => (readItems? fuel rest).map fun (vs, r) => (list vs, r)
    | '{' :: rest =>
      match skipSpace rest with
      | '}' :: rest => some (object [], rest)
      | rest => (readMembers? fuel rest).map fun (ms, r) => (ofMembers ms, r)
    | '-' :: rest => readUnsigned? true rest
    | rest => readUnsigned? false rest

def readItems? (fuel : Nat) (cs : List Char) : Option (List Json × List Char) :=
  match fuel with
  | 0 => none
  | fuel + 1 =>
    match readValue? fuel cs with
    | none => none
    | some (v, rest) =>
      match skipSpace rest with
      | ',' :: rest => (readItems? fuel rest).map fun (vs, r) => (v :: vs, r)
      | ']' :: rest => some ([v], rest)
      | _ => none

def readMembers? (fuel : Nat) (cs : List Char) :
    Option (List (Option (List Char) × Json) × List Char) :=
  match fuel with
  | 0 => none
  | fuel + 1 =>
    match skipSpace cs with
    | '"' :: rest =>
      match readText? rest with
      | none => none
      | some (k, rest) =>
        match skipSpace rest with
        | ':' :: rest =>
          match readValue? fuel rest with
          | none => none
          | some (v, rest) =>
            match skipSpace rest with
            | ',' :: rest => (readMembers? fuel rest).map fun (ms, r) => ((k, v) :: ms, r)
            | '}' :: rest => some ([(k, v)], rest)
            | _ => none
        | _ => none
    | _ => none

end

/--
The value that a whole text writes. What is only passed over later need not be readable: its texts
may be none, its numbers too great, and its lists nested as deep as may be.
-/
def readLoose? (s : String) : Option Json :=
  let cs := s.toList
  match readValue? (2 * cs.length + 2) cs with
  | some (v, rest) => if skipSpace rest = [] then some v else none
  | none => none

/-- Lists and objects are nested less deep than this. -/
def depthLimit : Nat := 128

/-- The value that a whole text writes, if all of it is readable. -/
def read? (s : String) : Option Json :=
  (readLoose? s).filter fun v => v.depth < depthLimit && v.isFinite

end ShardQuery.Json

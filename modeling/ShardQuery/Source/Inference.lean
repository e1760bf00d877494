import ShardQuery.Source.Record
import ShardQuery.Query.Parser

namespace ShardQuery.Csv

open Calendar (TimeUnit)

inductive Shape where
  | truth
  | integer
  | real
  | date
  | timestamp (unit : TimeUnit)
  | text
deriving DecidableEq, Repr

/-- The truth words in any case; the long s is a case of s. -/
def isTruth (cs : List Char) : Bool :=
  let word := String.ofList (cs.map fun c => if c = 'ſ' then 's' else c.toLower)
  word = "true" || word = "false"

def withoutMinus : List Char → List Char
  | '-' :: cs => cs
  | cs => cs

def isDigits (cs : List Char) : Bool := cs ≠ [] && cs.all Text.isAnyDigit

/-- The exponent of a real: its mark, an optional sign and digits. -/
def isPower : List Char → Bool
  | c :: '+' :: cs => (c = 'e' || c = 'E') && isDigits cs
  | c :: '-' :: cs => (c = 'e' || c = 'E') && isDigits cs
  | c :: cs => (c = 'e' || c = 'E') && isDigits cs
  | [] => false

/-- A real: digits with a point, or with an exponent, or with both. -/
def isReal (cs : List Char) : Bool :=
  let cs := withoutMinus cs
  let whole := cs.takeWhile Text.isAnyDigit
  match cs.dropWhile Text.isAnyDigit with
  | '.' :: rest =>
    let fraction := rest.takeWhile Text.isAnyDigit
    let tail := rest.dropWhile Text.isAnyDigit
    (whole ≠ [] || fraction ≠ []) && (tail = [] || isPower tail)
  | tail => whole ≠ [] && isPower tail

/-- Whether characters follow a pattern in which `d` stands for any digit. -/
def follows : List Char → List Char → Bool
  | [], cs => cs = []
  | p :: ps, c :: cs => (if p = 'd' then Text.isAnyDigit c else p = c) && follows ps cs
  | _ :: _, [] => false

def isDate (cs : List Char) : Bool := follows "dddd-dd-dd".toList cs

def isDateTime (cs : List Char) : Bool :=
  follows "dddd-dd-ddTdd:dd:dd".toList cs || follows "dddd-dd-dd dd:dd:dd".toList cs

/-- Any text on one line after its first character. -/
def isTail : List Char → Bool
  | [] => true
  | _ :: cs => !cs.contains '\n'

/-- The unit of a timestamp, by the number of its fraction digits. -/
def timestampUnit? (cs : List Char) : Option TimeUnit :=
  if !isDateTime (cs.take 19) then none
  else
    match cs.drop 19 with
    | '.' :: rest =>
      let n := (rest.takeWhile Text.isAnyDigit).length
      if !isTail (rest.dropWhile Text.isAnyDigit) then none
      else if n = 0 then none
      else if n ≤ 3 then some .millisecond
      else if n ≤ 6 then some .microsecond
      else if n ≤ 9 then some .nanosecond
      else none
    | rest =>
      if isTail rest && !rest.head?.any Text.isAnyDigit then some .second else none

/-- The kind of value that a field shows. -/
def shapeOf (field : String) : Shape :=
  let cs := field.toList
  if cs.head? = some '"' then .text
  else if isTruth cs then .truth
  else if isDigits (withoutMinus cs) then
    if 19 ≤ field.utf8ByteSize ∧ (Parser.readInt64? cs).isNone then .text else .integer
  else if isReal cs then .real
  else if isDate cs then .date
  else
    match timestampUnit? cs with
    | some u => .timestamp u
    | none => .text

def finer (u v : TimeUnit) : TimeUnit := if u.perSecond ≤ v.perSecond then v else u

/-- The kind of a column that shows two kinds. -/
def Shape.join (a b : Shape) : Shape :=
  if a = b then a
  else
    match a, b with
    | .integer, .real => .real
    | .real, .integer => .real
    | .date, .timestamp u => .timestamp u
    | .timestamp u, .date => .timestamp u
    | .timestamp u, .timestamp v => .timestamp (finer u v)
    | _, _ => .text

def Shape.type : Shape → DataType
  | truth => .boolean
  | integer => .integer int64
  | real => .float .double
  | date => .date
  | timestamp u => .timestamp u none
  | text => .utf8

/-- The type of a column by its fields; empty ones show nothing. -/
def inferType (fields : List String) : DataType :=
  match (fields.filter (· ≠ "")).map shapeOf with
  | [] => .null
  | s :: ss => (ss.foldl Shape.join s).type

/-- How many records are looked at. -/
def sampleSize : Nat := 1000

/-- The columns of a file: its header, and types by the first records. -/
def inferSchema (records : List Record) : Except QueryError Schema :=
  match records with
  | [] => .ok []
  | header :: rows =>
    match header.mapM id, texts? header.length (rows.take sampleSize) with
    | some names, some sample =>
      .ok (names.mapIdx fun i name => ⟨name, inferType (sample.map (·.getD i "")), true⟩)
    | _, _ => .error .malformedCsv

end ShardQuery.Csv

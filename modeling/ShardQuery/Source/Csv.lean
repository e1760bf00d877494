import ShardQuery.Source.Inference
import ShardQuery.Data.Conversion
import ShardQuery.Error

namespace ShardQuery.Csv

/-- The extension of a file name, which must have something before it. -/
def extension (path : String) : String :=
  let name := path.toList.reverse.takeWhile (· ≠ '/')
  match name.dropWhile (· ≠ '.') with
  | '.' :: _ :: _ => String.ofList (name.takeWhile (· ≠ '.')).reverse
  | _ => ""

/-- What separates the fields of a file, by its extension. -/
def delimiter (path : String) : Char :=
  let ext := Text.lowerAscii (extension path)
  if ext = "tsv" then '\t' else if ext = "psv" then '|' else ','

/-- A field that writes a truth value. -/
def readTruth? (s : String) : Option Bool :=
  let word := Text.lowerAscii s
  if word = "true" then some true else if word = "false" then some false else none

def readValue? (type : DataType) (s : String) : Option Cell :=
  match type with
  | .null => some .null
  | .integer t => (Conversion.readInteger? t s.toList).map .int
  | .float p => (Binary.read? p.format s.toList).map .float
  | .boolean => (readTruth? s).map .bool
  | .text _ => some (.text s)
  | .date => (Calendar.readDay? s.toList).map .int
  | .timestamp u _ => (Conversion.readTimestamp? u s.toList).map .int
  | .decimal _ p s' => (Decimal.readField? p s'.toNat s.toList).map .int
  | _ => none

def isReadable : DataType → Bool
  | .duration _ | .interval _ | .dateTime | .timeOfDay _ | .binary | .integerList => false
  | _ => true

/-- A field as a value of a type; an empty one is null. -/
def readField? (type : DataType) (s : String) : Option Cell :=
  if !isReadable type then none
  else if s = "" then some .null
  else readValue? type s

/-- The rows of a block of records. -/
def readBlock (schema : Schema) (block : List Record) : Except QueryError (List Row) :=
  match texts? schema.length block with
  | none => .error .malformedCsv
  | some texts =>
    match texts.mapM fun fields => (schema.zip fields).mapM fun (f, s) => readField? f.type s with
    | some rows => .ok rows
    | none => .error .unreadableField

/-- How many records make a block. -/
def blockSize : Nat := 1024

def readRows (schema : Schema) (records : List Record) : Except QueryError (List Row) :=
  if records = [] then .ok []
  else do
    let rows ← readBlock schema (records.take blockSize)
    let rest ← readRows schema (records.drop blockSize)
    .ok (rows ++ rest)
termination_by records.length
decreasing_by
  rename_i h
  have := List.length_pos_iff.2 h
  simp only [List.length_drop, blockSize]
  omega

/-- Whether a file's columns are the declared ones in order, by name. -/
def sameLayout (found declared : Schema) : Bool := found.map Field.name = declared.map Field.name

/--
The rows of a file with a header. They are read as the declared types if the header gives the
declared names in order, and else as the types that the fields show.
-/
def read (delimiter : Char) (declared : Schema) (bytes : List UInt8) :
    Except QueryError Batch := do
  let all := records delimiter bytes
  let found ← inferSchema all
  let schema := if sameLayout found declared then declared else found
  let rows ← readRows schema all.tail
  .ok ⟨schema, rows⟩

end ShardQuery.Csv

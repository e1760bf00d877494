import ShardQuery.Calendar.Moment
import ShardQuery.Calendar.Interval
import ShardQuery.Text.Letter
import ShardQuery.Text.Blank

namespace ShardQuery

open Calendar (TimeUnit IntervalUnit)

inductive Width where
  | bits8
  | bits16
  | bits32
  | bits64
deriving DecidableEq, Repr

namespace Width

def bits : Width → Nat
  | bits8 => 8
  | bits16 => 16
  | bits32 => 32
  | bits64 => 64

def all : List Width := [bits8, bits16, bits32, bits64]

end Width

structure IntegerType where
  signed : Bool
  width : Width
deriving DecidableEq, Repr

namespace IntegerType

def least (t : IntegerType) : Int := if t.signed then -(2 ^ (t.width.bits - 1)) else 0

def greatest (t : IntegerType) : Int :=
  if t.signed then 2 ^ (t.width.bits - 1) - 1 else 2 ^ t.width.bits - 1

def holds (t : IntegerType) (i : Int) : Bool := t.least ≤ i && i ≤ t.greatest

def name (t : IntegerType) : String :=
  (if t.signed then "Int" else "UInt") ++ Decimal.natText t.width.bits

def all : List IntegerType :=
  Width.all.map (⟨true, ·⟩) ++ Width.all.map (⟨false, ·⟩)

end IntegerType

def int64 : IntegerType := ⟨true, .bits64⟩

def int32 : IntegerType := ⟨true, .bits32⟩

/-- How a text column is stored; all hold the same texts. -/
inductive TextForm where
  | small
  | large
  | view
deriving DecidableEq, Repr

inductive Precision where
  | half
  | single
  | double
deriving DecidableEq, Repr

/-- The integers that count times of day in a unit; those of the coarse units have four bytes. -/
def clockInteger : TimeUnit → IntegerType
  | .second | .millisecond => int32
  | .microsecond | .nanosecond => int64

/--
The type of stored values. Left out are types that no constant can be compared with: lists of other
items than integers, records, unions, maps, dictionaries, runs, and bytes of a fixed length.
-/
inductive DataType where
  | null
  | integer (t : IntegerType)
  | float (p : Precision)
  | boolean
  | text (form : TextForm)
  | binary
  /-- Days since 1970. -/
  | date
  /-- Milliseconds since 1970. -/
  | dateTime
  | timeOfDay (unit : TimeUnit)
  | timestamp (unit : TimeUnit) (zone : Option String)
  | duration (unit : TimeUnit)
  /-- Lengths of time by the calendar. They are read and compared; no cast shows them or makes them
  of anything but texts. -/
  | interval (unit : IntervalUnit)
  /-- Integers counted in a power of ten; the storage is 128 or 256 bits wide. -/
  | decimal (wide : Bool) (precision : Nat) (scale : Int)
  | integerList
deriving DecidableEq, Repr

namespace DataType

abbrev utf8 : DataType := .text .small

/-- The name under which schemas and messages show the type. -/
def name : DataType → String
  | null => "Null"
  | integer t => t.name
  | float .half => "Float16"
  | float .single => "Float32"
  | float .double => "Float64"
  | boolean => "Boolean"
  | text .small => "Utf8"
  | text .large => "LargeUtf8"
  | text .view => "Utf8View"
  | binary => "Binary"
  | date => "Date32"
  | dateTime => "Date64"
  | timeOfDay u => "Time" ++ Decimal.natText (clockInteger u).width.bits ++ "(" ++ u.name ++ ")"
  | timestamp u none => "Timestamp(" ++ u.name ++ ", None)"
  | timestamp u (some z) => "Timestamp(" ++ u.name ++ ", Some(\"" ++ z ++ "\"))"
  | duration u => "Duration(" ++ u.name ++ ")"
  | interval .yearMonth => "Interval(YearMonth)"
  | interval .dayTime => "Interval(DayTime)"
  | interval .monthDayNano => "Interval(MonthDayNano)"
  | decimal wide p s =>
    (if wide then "Decimal256(" else "Decimal128(") ++ Decimal.natText p ++ ", " ++
      Decimal.intText s ++ ")"
  | integerList =>
    "List(Field \x7b name: \"item\", data_type: Int32, nullable: true, dict_id: 0, " ++
      "dict_is_ordered: false, metadata: \x7b\x7d \x7d)"

def isInteger : DataType → Bool
  | integer _ => true
  | _ => false

def isFloat : DataType → Bool
  | float _ => true
  | _ => false

def isDecimal : DataType → Bool
  | decimal .. => true
  | _ => false

def isNumeric (t : DataType) : Bool := t.isInteger || t.isFloat || t.isDecimal

/-- Dates, times, timestamps, durations and intervals. -/
def isTemporal : DataType → Bool
  | date | dateTime | timeOfDay _ | timestamp .. | duration _ | interval _ => true
  | _ => false

end DataType

inductive ColumnType where
  | integer (t : IntegerType)
  | float32
  | float64
  | boolean
  | date
  | timestamp (unit : TimeUnit)
  | duration (unit : TimeUnit)
  | text
  /-- Whole numbers of up to eighteen digits. -/
  | decimal
deriving DecidableEq, Repr

namespace ColumnType

def all : List ColumnType :=
  IntegerType.all.map integer ++ [float32, float64, boolean, date] ++
    TimeUnit.all.map timestamp ++ TimeUnit.all.map duration ++ [text, decimal]

def stored : ColumnType → DataType
  | integer t => .integer t
  | float32 => .float .single
  | float64 => .float .double
  | boolean => .boolean
  | date => .date
  | timestamp u => .timestamp u none
  | duration u => .duration u
  | text => .utf8
  | decimal => .decimal false 18 0

/-- The type to declare for stored values, if there is one. -/
def ofStored? : DataType → Option ColumnType
  | .integer t => some (integer t)
  | .float .single => some float32
  | .float .double => some float64
  | .boolean => some boolean
  | .date => some date
  | .timestamp u _ => some (timestamp u)
  | .duration u => some (duration u)
  | .text .small => some text
  | .text .large => some text
  | .decimal false _ _ => some decimal
  | _ => none

def name : ColumnType → String
  | integer t => t.name
  | float32 => "Float32"
  | float64 => "Float64"
  | boolean => "Boolean"
  | date => "Date32"
  | timestamp u => "Timestamp" ++ u.name
  | duration u => "Duration" ++ u.name
  | text => "Utf8"
  | decimal => "Decimal64"

def ofName? (s : String) : Option ColumnType := all.find? (·.name = s)

def sourceName : ColumnType → String
  | integer t => Text.lowerAscii t.name
  | float32 => "float32"
  | float64 => "float64"
  | boolean => "boolean"
  | date => "date32"
  | timestamp u => "timestamp[" ++ u.symbol ++ "]"
  | duration u => "timedelta64[" ++ u.symbol ++ "]"
  | text => "str"
  | decimal => "decimal64"

def aliases : List (String × ColumnType) :=
  [("int", integer int32), ("float", float64), ("double", float64), ("bool", boolean),
   ("string", text), ("utf8", text)]

/-- The type of a name for columns of a text file, in any case and with white space around it. -/
def ofSourceName? (s : String) : Option ColumnType :=
  let key := Text.lowerAscii (Text.trim s)
  match all.find? (·.sourceName = key) with
  | some t => some t
  | none => (aliases.find? (·.1 = key)).map (·.2)

theorem ofStored?_stored (t : ColumnType) : ofStored? t.stored = some t := by
  cases t <;> rfl

end ColumnType

end ShardQuery

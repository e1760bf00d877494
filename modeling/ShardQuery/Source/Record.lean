import ShardQuery.Data.Batch

namespace ShardQuery.Csv

/-- The fields of a record; one whose bytes are no text has none. -/
abbrev Record := List (Option String)

/-- The fields of records that are all text and of one length. -/
def texts? (length : Nat) (records : List Record) : Option (List (List String)) :=
  if records.all (·.length = length) then records.mapM (·.mapM id) else none

inductive Place where
  /-- Before the first field of a record. -/
  | line
  | field
  | plain
  | quoted
  /-- After a quote inside quotes. -/
  | closing
deriving DecidableEq, Repr

/-- The reader: its place, and what it has of the field and of the record, both backwards. -/
structure Scan where
  place : Place
  bytes : List UInt8
  fields : Record
deriving DecidableEq, Repr

def Scan.start : Scan := ⟨.line, [], []⟩

/-- The fields with the one just read. -/
def Scan.closed (s : Scan) : Record := String.fromUTF8? ⟨s.bytes.reverse.toArray⟩ :: s.fields

def quote : UInt8 := '"'.toUInt8

def isBreak (b : UInt8) : Bool := b = '\n'.toUInt8 || b = '\r'.toUInt8

def Scan.plainStep (delimiter : UInt8) (s : Scan) (b : UInt8) : Scan × Option Record :=
  if b = delimiter then (⟨.field, [], s.closed⟩, none)
  else if isBreak b then (.start, some s.closed.reverse)
  else (⟨.plain, b :: s.bytes, s.fields⟩, none)

/-- One byte: the reader after it, and the record that it ends, if it ends one. -/
def Scan.step (delimiter : UInt8) (s : Scan) (b : UInt8) : Scan × Option Record :=
  match s.place with
  | .line =>
    if isBreak b then (s, none)
    else if b = quote then (⟨.quoted, [], []⟩, none)
    else s.plainStep delimiter b
  | .field => if b = quote then (⟨.quoted, [], s.fields⟩, none) else s.plainStep delimiter b
  | .plain => s.plainStep delimiter b
  | .quoted =>
    if b = quote then (⟨.closing, s.bytes, s.fields⟩, none)
    else (⟨.quoted, b :: s.bytes, s.fields⟩, none)
  | .closing =>
    if b = quote then (⟨.quoted, quote :: s.bytes, s.fields⟩, none) else s.plainStep delimiter b

def Scan.finish (s : Scan) : List Record :=
  if s.place = .line then [] else [s.closed.reverse]

/--
The records from a place of the reader on. A field may stand between double quotes, inside which a
doubled quote is one quote and line breaks are kept; what follows a closing quote belongs to the
field. Empty lines are no records.
-/
def scan (delimiter : UInt8) (s : Scan) : List UInt8 → List Record
  | [] => s.finish
  | b :: bs =>
    match s.step delimiter b with
    | (s, some record) => record :: scan delimiter s bs
    | (s, none) => scan delimiter s bs

def withoutMark : List UInt8 → List UInt8
  | 0xEF :: 0xBB :: 0xBF :: bs => bs
  | bs => bs

def records (delimiter : Char) (bytes : List UInt8) : List Record :=
  scan delimiter.toUInt8 .start (withoutMark bytes)

end ShardQuery.Csv

import ShardQuery.Cluster.Settings
import ShardQuery.Json.Reader
import ShardQuery.Shell.Display
import ShardQuery.Shell.Failure
import ShardQuery.Source.Files

namespace ShardQuery

structure Preferences where
  workers : Nat := 2
  /-- Whether the time that a query took is told. -/
  showTiming : Bool := true
  /-- How many rows a drawn table shows. -/
  maxRows : Nat := 1000
  format : OutputFormat := .table
  cluster : Settings := .default
deriving DecidableEq, Repr

namespace Preferences

/-- What holds where nothing is set. -/
def default : Preferences := {}

def fieldNames : List String :=
  ["workers", "show_timing", "max_rows", "output_format", "cluster"]

def toJson (p : Preferences) : Json :=
  .object [
    ("workers", .ofNat p.workers),
    ("show_timing", .bool p.showTiming),
    ("max_rows", .ofNat p.maxRows),
    ("output_format", .text p.format.name),
    ("cluster", p.cluster.toJson)]

def ofJson? (j : Json) : Option Preferences := do
  let fs ← j.leadingFields? fieldNames
  some {
    workers := ← fs.defaulted 0 default.workers Json.word?
    showTiming := ← fs.defaulted 1 default.showTiming Json.bool?
    maxRows := ← fs.defaulted 2 default.maxRows Json.word?
    format := ← fs.defaulted 3 default.format fun v => v.choice?.bind OutputFormat.ofName?
    cluster := ← fs.defaulted 4 default.cluster Settings.ofJson? }

def write (p : Preferences) : String := p.toJson.pretty

def read? (text : String) : Option Preferences := (Json.readLoose? text).bind ofJson?

def load (files : FileStore) (path : String) : Except PreferencesError Preferences :=
  match files.lookup path with
  | .missing => .error (.unreadable path "No such file or directory (os error 2)")
  | .directory => .error (.unreadable path "Is a directory (os error 21)")
  | .file content =>
    match content.text? with
    | none => .error (.unreadable path "stream did not contain valid UTF-8")
    | some s =>
      match read? s with
      | some p => .ok p
      | none => .error (.malformed path)

end Preferences

end ShardQuery

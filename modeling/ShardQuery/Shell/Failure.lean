import ShardQuery.Cluster.Failure
import ShardQuery.Shell.Display
import ShardQuery.Table.Reference

namespace ShardQuery

inductive DefinitionError where
  | noEquals (definition : String)
  | noName (definition : String)
  | noFiles (table : String)
  | unsupported (path : String)
  /-- A file of another kind than the first one. -/
  | mixed (table : String) (first other : SourceKind)
deriving DecidableEq, Repr

def DefinitionError.message : DefinitionError → String
  | noEquals definition => "Expected name=path, got '" ++ definition ++ "'"
  | noName definition => "Missing table name in '" ++ definition ++ "'"
  | noFiles table => "No files given for table '" ++ table ++ "'"
  | unsupported path =>
    "Unsupported file format: " ++ path ++ " (use .csv, .tsv, .psv or .parquet)"
  | mixed table first other =>
    "Table '" ++ table ++ "' mixes " ++ first.shown ++ " and " ++ other.shown ++ " files"

inductive PreferencesError where
  /-- The file cannot be read. -/
  | unreadable (path reason : String)
  /-- The file does not hold preferences. -/
  | malformed (path : String)
deriving DecidableEq, Repr

inductive ShellError where
  | definition (e : DefinitionError)
  | preferences (e : PreferencesError)
  | engine (e : QueryError)
  | cluster (e : ClusterError)
  | startup (e : ClusterError)
  /-- A table that was to be there from the start could not be loaded. -/
  | loading (table : String) (e : ClusterError)
  /-- A row cannot be written as a line of fields. -/
  | unwritable (u : Unwritable)
  /-- A command of a session was given something else than its form. -/
  | usage (form : String)
  | unknownCommand (word : String)
deriving DecidableEq, Repr

/-- The causes that an error of an engine tells apart from itself. -/
def QueryError.causes : QueryError → List String
  | io reason => [reason]
  | columnar category => [category]
  | _ => []

/-- What failed and what that was caused by. -/
def QueryError.chain (e : QueryError) : List String := e.message :: e.causes

def ClusterError.chain : ClusterError → List String
  | engine e => (ClusterError.engine e).message :: e.chain
  | e => [e.message]

namespace PreferencesError

def chain : PreferencesError → List String
  | unreadable path reason => ["Cannot read config file " ++ path, reason]
  | malformed path => ["Invalid config file " ++ path]

end PreferencesError

namespace ShellError

def chain : ShellError → List String
  | definition e => [e.message]
  | preferences e => e.chain
  | engine e => e.chain
  | cluster e => e.chain
  | startup e => "Failed to start cluster" :: e.chain
  | loading table e => ("Failed to load table '" ++ table ++ "'") :: e.chain
  | unwritable u => [u.message]
  | usage form => ["Usage: " ++ form]
  | unknownCommand word => ["Unknown command: " ++ word ++ " (try .help)"]

def message (e : ShellError) : String := ": ".intercalate e.chain

end ShellError

end ShardQuery

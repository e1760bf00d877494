namespace ShardQuery

inductive QueryError where
  /-- A query text outside the grammar. -/
  | parse (reason : String)
  | planning (reason : String)
  | execution (reason : String)
  | schema (reason : String)
  | config (reason : String)
  | io (reason : String)
  /-- A failure on columns in memory, named by its category. -/
  | columnar (category : String)
  | parquet (reason : String)
  | typeMismatch (expected found : String)
  | columnNotFound (name : String)
  | tableNotFound (name : String)
  | tableExists (name : String)
  | partition (reason : String)
  /-- Nothing is cached under a message id, or no longer. -/
  | cacheMiss (messageId : String)
  | duplicateMessage (messageId : String)
  | serialization (reason : String)
  | transport (reason : String)
deriving DecidableEq, Repr

namespace QueryError

def message : QueryError → String
  | parse reason => "Parse error: " ++ reason
  | planning reason => "Planning error: " ++ reason
  | execution reason => "Execution error: " ++ reason
  | schema reason => "Schema error: " ++ reason
  | config reason => "Configuration error: " ++ reason
  | io reason => "IO error: " ++ reason
  | columnar category => "Arrow error: " ++ category
  | parquet reason => "Parquet error: " ++ reason
  | typeMismatch expected found => "Type mismatch: expected " ++ expected ++ ", found " ++ found
  | columnNotFound name => "Column not found: " ++ name
  | tableNotFound name => "Table not found: " ++ name
  | tableExists name => "Table already exists: " ++ name
  | partition reason => "Partition error: " ++ reason
  | cacheMiss id => "Stale or unknown correlation: no partition cached under '" ++ id ++ "'"
  | duplicateMessage id => "Partition already cached under '" ++ id ++ "'"
  | serialization reason => "Serialization error: " ++ reason
  | transport reason => "Transport error: " ++ reason

def malformedCsv : QueryError := columnar "Csv error"

def unreadableField : QueryError := columnar "Parser error"

def noCast : QueryError := columnar "Cast error"

def invalidBatch : QueryError := columnar "Invalid argument error"

def missingFile : QueryError := io "No such file or directory (os error 2)"

end QueryError

end ShardQuery

import ShardQuery.Data.Batch
import ShardQuery.Error

namespace ShardQuery

structure ColumnarFile where
  schema : Schema
  groups : List (List Row)
deriving DecidableEq, Repr

inductive FileContent where
  | plain (bytes : List UInt8)
  | columnar (file : ColumnarFile)
deriving DecidableEq, Repr

namespace FileContent

def ofText (s : String) : FileContent := .plain s.toUTF8.toList

def text? : FileContent → Option String
  | plain bytes => String.fromUTF8? ⟨bytes.toArray⟩
  | columnar _ => none

end FileContent

inductive PathEntry where
  | missing
  | directory
  | file (content : FileContent)
deriving DecidableEq, Repr

/-- The files of the working directory by name. -/
structure FileStore where
  files : List (String × FileContent)
deriving DecidableEq, Repr

namespace FileStore

def empty : FileStore := ⟨[]⟩

/-- The path without steps into the same directory at its start. -/
def normal (path : List Char) : List Char :=
  match path with
  | '.' :: '/' :: rest => normal rest
  | cs => cs

/-- The entry at a path of the working directory. -/
def lookup (store : FileStore) (path : String) : PathEntry :=
  let name := normal path.toList
  if path ≠ "" ∧ (name = [] ∨ name = ['.'] ∨ name = ['.', '.'] ∨ name = ['/']) then .directory
  else
    match store.files.lookup (String.ofList name) with
    | some content => .file content
    | none => .missing

end FileStore

end ShardQuery

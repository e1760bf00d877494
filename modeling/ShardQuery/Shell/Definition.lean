import ShardQuery.Shell.Failure
import ShardQuery.Text.Pieces
import ShardQuery.Text.Blank
import ShardQuery.Table.Plan

namespace ShardQuery

namespace TableReference

def kindOf (path : String) : Except DefinitionError SourceKind :=
  match SourceKind.ofPath? path with
  | some kind => .ok kind
  | none => .error (.unsupported path)

/-- Refuses a file that is not of a kind. -/
def checkKind (table : String) (kind : SourceKind) (path : String) :
    Except DefinitionError Unit := do
  let other ← kindOf path
  if other = kind then .ok () else .error (.mixed table kind other)

def ofFiles (name : String) : List String → Except DefinitionError TableReference
  | [] => .error (.noFiles name)
  | path :: paths => do
    let kind ← kindOf path
    paths.forM (checkKind name kind)
    .ok { name, kind, locations := path :: paths }

def listedFiles (paths : String) : List String :=
  ((Text.split ',' paths).map Text.trim).filter (· ≠ "")

def ofDefinition (definition : String) : Except DefinitionError TableReference :=
  match Text.splitFirst? (· = '=') definition.toList with
  | none => .error (.noEquals definition)
  | some (name, paths) =>
    let name := Text.trim (String.ofList name)
    if name = "" then .error (.noName definition)
    else ofFiles name (listedFiles (String.ofList paths))

end TableReference

namespace Slice

/-- The name of the table in a plan for files that belong to no table. -/
def planName : String := "slices"

/-- The plan for files among a number of participants. -/
def planFiles (files : List String) (parts : Nat) : Except ShellError (List Slice) := do
  let table ← (TableReference.ofDefinition (planName ++ "=" ++ Text.join ',' files)).mapError
    .definition
  let planner ← (Planner.create parts).mapError .engine
  (planner.planTable table).mapError .engine

end Slice

end ShardQuery

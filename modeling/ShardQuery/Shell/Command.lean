import ShardQuery.Cluster.Direct
import ShardQuery.Shell.Definition
import ShardQuery.Shell.Preferences
import ShardQuery.Shell.Report
import ShardQuery.Shell.Transcript

namespace ShardQuery

namespace Shell

open Transcript

def openCluster (p : Preferences) (name : String) (files : FileStore) : Transcript Cluster := do
  let c ← ofExcept .startup (Cluster.run p.cluster p.workers [] files)
  say ("✓ Cluster " ++ name ++ " up with " ++ Decimal.natText p.workers ++ " workers\n")
  return c

def loadTable (c : Cluster) (definition : String) : Transcript Cluster := do
  let table ← ofExcept .definition (TableReference.ofDefinition definition)
  let (c, answer) := c.perform (.createFromSource table)
  let _ ← ofExcept (.loading table.name) answer
  say ("✓ Loaded table '" ++ table.name ++ "'\n")
  return c

def loadTables (c : Cluster) (definitions : List String) : Transcript Cluster :=
  definitions.foldlM loadTable c

/-- A cluster with some tables. -/
def openWith (p : Preferences) (name : String) (files : FileStore) (definitions : List String) :
    Transcript Cluster := do
  let c ← openCluster p name files
  loadTables c definitions

def showRows (p : Preferences) (b : Batch) : Transcript Unit := do
  let (text, stop) := b.shown p.format p.maxRows
  say text
  if let some u := stop then fail (.unwritable u)
  if p.showTiming then
    print [.text ("Query time: " ++ Decimal.natText b.size ++ " rows in "), .elapsed, .text "ms\n"]

def runQuery (p : Preferences) (name : String) (files : FileStore) (definitions : List String)
    (sql : String) : Transcript Unit := do
  let c ← openWith p name files definitions
  say "→ Executing query...\n"
  let b ← ofExcept .cluster (c.query sql).2
  showRows p b

def explainQuery (p : Preferences) (name : String) (files : FileStore)
    (definitions : List String) (sql : String) (detailed : Bool) : Transcript Unit := do
  let c ← openWith p name files definitions
  let plan ← ofExcept .cluster (c.explain sql detailed)
  say (plan ++ "\n")

def showSlices (files : List String) (parts : Nat) : Transcript Unit := do
  let slices ← ofExcept id (Slice.planFiles files parts)
  say ("Slice plan: " ++ Decimal.natText files.length ++ " files over " ++
    Decimal.natText parts ++ " participants\n")
  say ((Grid.ofSlices slices).draw ++ "\n")

end Shell

end ShardQuery

import ShardQuery.Shell.Usage
import ShardQuery.Shell.Program

namespace ShardQuery.Main

/-- The store with what is read from a path; a file that cannot be read is not there. -/
def addFile (store : FileStore) (path : String) : IO FileStore := do
  try
    let bytes ← IO.FS.readBinFile path
    return ⟨(String.ofList (FileStore.normal path.toList), .plain bytes.toList) :: store.files⟩
  catch _ => return store

def addFiles (store : FileStore) (paths : List String) : IO FileStore := paths.foldlM addFile store

def timeSince (start : Nat) : IO String := do
  let hundredths := ((← IO.monoNanosNow) - start) / 10000
  return Decimal.natText (hundredths / 100) ++ "." ++
    String.ofList (Decimal.padded 2 (hundredths % 100))

/-- Prints what a command that began at a moment has printed. -/
def printAll (start : Nat) (pieces : List Piece) : IO Unit := do
  for piece in pieces do
    IO.print (piece.shown (← timeSince start))
  (← IO.getStdout).flush

def complain (lines : List String) : IO Unit := lines.forM IO.eprintln

def newName : IO String := do
  let n ← IO.rand 0 (UInt32.size - 1)
  let digits := Nat.toDigits 16 n
  return "cluster-" ++ String.ofList (List.replicate (8 - digits.length) '0' ++ digits)

/-- Answers the lines of standard input up to one that quits, or to its end. -/
partial def converse (s : Session) : IO Flow := do
  let line ← (← IO.getStdin).getLine
  if line = "" then return .continues
  let line := Program.entered line
  let files ← addFiles s.cluster.files (Program.filesOfLine line)
  let start ← IO.monoNanosNow
  let (s, t, flow) := { s with cluster := { s.cluster with files } : Session }.answer line
  printAll start t.printed
  complain ((t.failure?.map ShellError.remark).getD [])
  match flow with
  | .quits => return .quits
  | .continues => converse s

def run (call : Invocation) : IO UInt32 := do
  let files ← addFiles ⟨[]⟩ (Program.namedFiles call)
  let start ← IO.monoNanosNow
  let t := Program.perform (← newName) files call
  printAll start t.printed
  match t.result with
  | .error e =>
    complain e.report
    return 1
  | .ok none => return 0
  | .ok (some s) =>
    IO.print (Program.farewell (← converse s))
    return 0

def start (arguments : List String) : IO UInt32 := do
  match Invocation.read arguments with
  | .error .refused =>
    IO.eprint (Usage.text none)
    return 2
  | .error (.usage action) =>
    IO.print (Usage.text action)
    return 0
  | .error .version =>
    IO.print Usage.version
    return 0
  | .ok call => run call

end ShardQuery.Main

def main (arguments : List String) : IO UInt32 := ShardQuery.Main.start arguments

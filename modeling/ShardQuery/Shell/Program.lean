import ShardQuery.Shell.Arguments
import ShardQuery.Shell.Session
import ShardQuery.Text.Typed

namespace ShardQuery

structure Run where
  /-- What stands on standard output. -/
  printed : List Piece
  /-- The lines on standard error. -/
  errors : List String
  code : Nat
deriving DecidableEq, Repr

namespace ShellError

/-- A cause with its first line after a mark and the others indented by as much. -/
def indented (mark : String) (cause : String) : List String :=
  match Text.split '\n' cause with
  | [] => [mark]
  | first :: rest =>
    let blanks := String.ofList (List.replicate mark.length ' ')
    (mark ++ first) :: rest.map (blanks ++ ·)

/-- The causes of a failure, numbered if there are several. -/
def causeLines : List String → List String
  | [] => []
  | [cause] => "" :: "Caused by:" :: indented "    " cause
  | causes =>
    "" :: "Caused by:" :: causes.zipIdx.flatMap fun (cause, i) =>
      let number := Decimal.natText i
      indented (String.ofList (List.replicate (5 - number.length) ' ') ++ number ++ ": ") cause

/-- The lines by which the program reports the failure that ends it. -/
def report (e : ShellError) : List String :=
  match e.chain with
  | [] => []
  | message :: causes => Text.split '\n' ("Error: " ++ message) ++ causeLines causes

/-- The lines by which a session reports the failure of one of its lines. -/
def remark (e : ShellError) : List String := Text.split '\n' ("Error: " ++ e.message)

end ShellError

namespace Program

open Transcript Shell

/-- What an interactive session begins with. -/
def banner : String :=
  "\n" ++
  "           _      _           _\n" ++
  " ___  __ _| | ___| |_   _ ___| |_ ___ _ __\n" ++
  "/ __|/ _` | |/ __| | | | / __| __/ _ \\ '__|\n" ++
  "\\__ \\ (_| | | (__| | |_| \\__ \\ ||  __/ |\n" ++
  "|___/\\__, |_|\\___|_|\\__,_|___/\\__\\___|_|\n" ++
  "        |_|\n" ++
  "    \n" ++
  "Distributed SQL over Arrow partitions v0.1.0\n"

def greeting : String :=
  "Interactive sqlcluster REPL\nType .help for commands, .quit to exit\n\n"

/-- What a session prints after its last line. -/
def farewell : Flow → String
  | .quits => "Goodbye!\n"
  | .continues => "exit\nGoodbye!\n"

def preferences (files : FileStore) (i : Invocation) : Except ShellError Preferences := do
  let p ← match i.config with
    | some path => (Preferences.load files path).mapError .preferences
    | none => .ok .default
  .ok { p with workers := i.workers.getD p.workers }

def openSession (p : Preferences) (name : String) (files : FileStore) (load : List String) :
    Transcript Session := do
  say banner
  let c ← openWith p name files load
  say greeting
  return ⟨p, name, c⟩

/-- Does what a call asks for; a session that it asks for is only started. -/
def perform (name : String) (files : FileStore) (i : Invocation) :
    Transcript (Option Session) := do
  let p ← ofExcept id (preferences files i)
  match i.purpose with
  | .session load => some <$> openSession p name files load
  | .query load sql output =>
    runQuery { p with format := output.getD p.format } name files load sql
    return none
  | .explain load sql detailed =>
    explainQuery p name files load sql detailed
    return none
  | .slices paths parts =>
    showSlices paths parts
    return none

/-- The run of a session that has been started, on the lines of its input. -/
def converse (printed : List Piece) (s : Session) (lines : List String) : Run :=
  let (ts, flow) := s.answerAll lines
  ⟨printed ++ ts.flatMap Transcript.printed ++ [.text (farewell flow)],
    ts.flatMap fun t => (t.failure?.map ShellError.remark).getD [], 0⟩

def run (name : String) (files : FileStore) (i : Invocation) (lines : List String) : Run :=
  let t := perform name files i
  match t.result with
  | .error e => ⟨t.printed, e.report, 1⟩
  | .ok none => ⟨t.printed, [], 0⟩
  | .ok (some s) => converse t.printed s lines

/-- What a line of input holds without the break at its end and after its backspaces. -/
def entered (line : String) : String :=
  let cs := match line.toList.reverse with
    | '\n' :: cs => cs
    | cs => cs
  let cs := match cs with
    | '\r' :: cs => cs
    | cs => cs
  Text.typed (String.ofList cs.reverse)

/-- The lines of a text as they are entered; a line break at its end begins no line. -/
def linesOf (text : String) : List String :=
  let lines := match (Text.split '\n' text).reverse with
    | "" :: lines => lines.reverse
    | lines => lines.reverse
  lines.map entered

def namedFiles (i : Invocation) : List String :=
  let load := match i.purpose with
    | .session load | .query load _ _ | .explain load _ _ => load
    | .slices .. => []
  i.config.toList ++ load.flatMap definedFiles
where
  /-- The files of a definition, none if it cannot be read. -/
  definedFiles (definition : String) : List String :=
    match TableReference.ofDefinition definition with
    | .ok table => table.locations
    | .error _ => []

def filesOfLine (line : String) : List String :=
  match Line.read line with
  | .command ".load" definition => namedFiles.definedFiles definition
  | _ => []

end Program

end ShardQuery

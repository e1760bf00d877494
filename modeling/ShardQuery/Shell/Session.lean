import ShardQuery.Shell.Command

namespace ShardQuery

structure Session where
  preferences : Preferences
  name : String
  cluster : Cluster

inductive Flow where
  | continues
  | quits
deriving DecidableEq, Repr

/-- A line as a session takes it. -/
inductive Line where
  | blank
  | query (sql : String)
  /-- The first word, and what follows it without white space around it. -/
  | command (word argument : String)
deriving DecidableEq, Repr

namespace Line

def withoutSemicolons (cs : List Char) : List Char := (cs.reverse.dropWhile (· = ';')).reverse

def read (s : String) : Line :=
  match (Text.trim s).toList with
  | [] => blank
  | '.' :: cs =>
    match Text.splitFirst? Text.isBlank ('.' :: cs) with
    | some (word, rest) => command (String.ofList word) (Text.trim (String.ofList rest))
    | none => command (String.ofList ('.' :: cs)) ""
  | cs => query (String.ofList (withoutSemicolons cs))

end Line

namespace Session

open Transcript Shell

def help : Grid :=
  ⟨["Command", "Description"],
    [[".help, .h", "Show this help message"],
      [".quit, .q, .exit", "Stop the cluster and exit"],
      [".tables", "List distributed tables"],
      [".load <name>=<path>[,<path>...]", "Partition CSV or Parquet files into a table"],
      [".describe <table>", "Show table columns"],
      [".drop <table>", "Drop a table on every participant"],
      [".explain [analyze] <query>", "Show the relational plan"],
      [".status", "Show cluster membership and state"],
      [".timing", "Toggle query timing display"],
      [".format <type>", "Set output format (table|json|csv)"],
      [".clear", "Clear the screen"]]⟩

/-- The commands and the form of queries. -/
def helpText : String :=
  help.draw ++ "\n\nSQL:\n  SELECT <columns|*> FROM <table> [WHERE a AND b ...] [LIMIT n]\n\n"

def status (s : Session) : Status :=
  ⟨s.name, s.cluster.phase, s.cluster.settings.protocol, s.cluster.workers.length,
    s.cluster.tokens.issued, s.cluster.members.participants⟩

def tableRow (s : Session) (name : String) : Except ClusterError (List String) := do
  let columns ← s.cluster.describe name
  .ok [name, Decimal.natText columns.length]

def showTables (s : Session) : Transcript Unit := do
  let names ← ofExcept .cluster s.cluster.tableNames
  if names = [] then say "No tables registered\nUse .load name=path to load files\n"
  else
    let rows ← ofExcept .cluster (names.mapM s.tableRow)
    say ((Grid.mk ["Table Name", "Columns"] rows).draw ++ "\n")

def need (form argument : String) : Transcript Unit :=
  if argument = "" then fail (.usage form) else pure ()

def describe (s : Session) (table : String) : Transcript Unit := do
  need ".describe <table_name>" table
  let columns ← ofExcept .cluster (s.cluster.describe table)
  say ("\nTable: " ++ table ++ "\n" ++ (Grid.ofColumns columns).draw ++ "\n")

def explain (s : Session) (argument : String) : Transcript Unit := do
  let (detailed, sql) := match argument.toList with
    | 'a' :: 'n' :: 'a' :: 'l' :: 'y' :: 'z' :: 'e' :: rest =>
      (true, Text.trim (String.ofList rest))
    | _ => (false, argument)
  need ".explain [analyze] <query>" sql
  let plan ← ofExcept .cluster (s.cluster.explain sql detailed)
  say (plan ++ "\n")

def load (s : Session) (definition : String) : Session × Transcript Unit :=
  if definition = "" then (s, fail (.usage ".load <name>=<path>[,<path>...]"))
  else
    match TableReference.ofDefinition definition with
    | .error e => (s, fail (.definition e))
    | .ok table =>
      let (cluster, answer) := s.cluster.perform (.createFromSource table)
      ({ s with cluster }, do
        let _ ← ofExcept .cluster answer
        print [.text ("✓ Loaded table '" ++ table.name ++ "' in "), .elapsed, .text "ms\n"])

def drop (s : Session) (table : String) : Session × Transcript Unit :=
  if table = "" then (s, fail (.usage ".drop <table_name>"))
  else
    let (cluster, answer) := s.cluster.perform (.drop table)
    ({ s with cluster }, do
      let _ ← ofExcept .cluster answer
      say ("✓ Dropped table '" ++ table ++ "'\n"))

def toggleTiming (s : Session) : Session × Transcript Unit :=
  let showTiming := !s.preferences.showTiming
  ({ s with preferences := { s.preferences with showTiming } },
    say (if showTiming then "Timing is now ON\n" else "Timing is now OFF\n"))

def setFormat (s : Session) (name : String) : Session × Transcript Unit :=
  match OutputFormat.ofName? name with
  | none => (s, fail (.usage ".format <table|json|csv>"))
  | some format =>
    ({ s with preferences := { s.preferences with format } },
      say ("Output format set to " ++ name ++ "\n"))

def query (s : Session) (sql : String) : Session × Transcript Unit :=
  let (cluster, answer) := s.cluster.query sql
  ({ s with cluster }, do
    let b ← ofExcept .cluster answer
    showRows s.preferences b)

def quitWords : List String := [".quit", ".q", ".exit"]

/-- Runs a command that does not end the session. -/
def command (s : Session) (word argument : String) : Session × Transcript Unit :=
  if word = ".help" ∨ word = ".h" then (s, say helpText)
  else if word = ".tables" then (s, s.showTables)
  else if word = ".load" then s.load argument
  else if word = ".describe" ∨ word = ".desc" then (s, s.describe argument)
  else if word = ".drop" then s.drop argument
  else if word = ".explain" then (s, s.explain argument)
  else if word = ".status" then (s, say (s.status.grid.draw ++ "\n"))
  else if word = ".timing" then s.toggleTiming
  else if word = ".format" then s.setFormat argument
  else if word = ".clear" then (s, say "\x1b[2J\x1b[1;1H")
  else (s, fail (.unknownCommand word))

/-- Answers a line: the session after it, what it prints, and what follows. -/
def answer (s : Session) (line : String) : Session × Transcript Unit × Flow :=
  match Line.read line with
  | .blank => (s, pure (), .continues)
  | .query sql =>
    let (s, t) := s.query sql
    (s, t, .continues)
  | .command word argument =>
    if quitWords.contains word then (s, pure (), .quits)
    else
      let (s, t) := s.command word argument
      (s, t, .continues)

/-- Answers lines up to one that quits: their transcripts, and whether there was one. -/
def answerAll (s : Session) : List String → List (Transcript Unit) × Flow
  | [] => ([], .continues)
  | line :: lines =>
    match s.answer line with
    | (_, t, .quits) => ([t], .quits)
    | (s, t, .continues) =>
      let (ts, flow) := answerAll s lines
      (t :: ts, flow)

end Session

end ShardQuery

import ShardQuery.Shell.Arguments

namespace ShardQuery

def Action.about : Action → String
  | session => "Start interactive REPL"
  | query => "Load tables and run one query across the cluster"
  | explain => "Show the relational plan of a query"
  | slices => "Show how files would be sliced among participants"

namespace Switch

def about : Switch → String
  | verbose => "Enable verbose logging"
  | config => "Configuration file path (JSON)"
  | workers => "Number of worker processes, overriding the configuration file"
  | load => "Tables to load (format: name=path[,path...])"
  | sql => "SQL query to run"
  | output => "Output format [possible values: table, json, csv]"
  | detailed => "Include the physical plan with row counts"
  | file => "Source files, in order"
  | parts => "Number of participants"
  | help => "Print help"
  | version => "Print version"

/-- The long form with a place for the value. -/
def form (s : Switch) : String :=
  let placeholder := String.ofList (s.name.toList.map Char.toUpper)
  match s.arity with
  | .none => "--" ++ s.name
  | .one => "--" ++ s.name ++ " <" ++ placeholder ++ ">"
  | .many => "--" ++ s.name ++ " <" ++ placeholder ++ ">..."

end Switch

namespace Usage

def version : String := "sqlcluster 0.1.0\n"

/-- Two columns, the first one as wide as its widest text. -/
def columns (rows : List (String × String)) : String :=
  let width := (rows.map (Text.width ·.1)).foldl max 0
  String.join (rows.map fun (a, b) =>
    "  " ++ a ++ String.ofList (List.replicate (width + 2 - Text.width a) ' ') ++ b ++ "\n")

def options (action : Option Action) : String :=
  columns ((Switch.of action).map fun s =>
    ("-" ++ String.singleton s.letter ++ ", " ++ s.form, s.about))

/-- The forms of the options that have to be given. -/
def required : Action → String
  | .session => ""
  | .query | .explain => " " ++ Switch.sql.form
  | .slices => " " ++ Switch.file.form ++ " " ++ Switch.parts.form

def text : Option Action → String
  | none =>
    "sqlcluster - distributed SQL over partitioned Arrow tables\n\n" ++
      "Usage: sqlcluster [OPTIONS] [COMMAND]\n\nCommands:\n" ++
      columns (Action.all.map (fun a => (a.word, a.about)) ++
        [("help", "Print this message or the help of the given subcommand(s)")]) ++
      "\nOptions:\n" ++ options none
  | some action =>
    action.about ++ "\n\nUsage: sqlcluster " ++ action.word ++ " [OPTIONS]" ++ required action ++
      "\n\nOptions:\n" ++ options (some action)

end Usage

end ShardQuery

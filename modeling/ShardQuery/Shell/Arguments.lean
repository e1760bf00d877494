import ShardQuery.Decimal.Digits
import ShardQuery.Shell.Display

namespace ShardQuery

/-- What the program can be asked for. -/
inductive Action where
  /-- An interactive session, also where nothing is asked for. -/
  | session
  | query
  | explain
  | slices
deriving DecidableEq, Repr

namespace Action

def all : List Action := [session, query, explain, slices]

def word : Action → String
  | session => "repl"
  | query => "query"
  | explain => "explain"
  | slices => "slices"

def ofWord? (s : String) : Option Action := all.find? (·.word = s)

end Action

inductive Switch where
  | verbose
  | config
  | workers
  | load
  | sql
  | output
  | detailed
  | file
  | parts
  | help
  | version
deriving DecidableEq, Repr

/-- How many values an option takes. -/
inductive Arity where
  | none
  | one
  /-- All words up to the next option. -/
  | many
deriving DecidableEq, Repr

namespace Switch

def name : Switch → String
  | verbose => "verbose"
  | config => "config"
  | workers => "workers"
  | load => "load"
  | sql => "sql"
  | output => "output"
  | detailed => "detailed"
  | file => "file"
  | parts => "parts"
  | help => "help"
  | version => "version"

def letter : Switch → Char
  | version => 'V'
  | s => s.name.front

def arity : Switch → Arity
  | verbose | detailed | help | version => .none
  | file => .many
  | config | workers | load | sql | output | parts => .one

/-- Whether an option may be given again. -/
def repeats : Switch → Bool
  | load | file => true
  | _ => false

/-- Whether a text is a value of an option. -/
def accepts (s : Switch) (value : String) : Bool :=
  match s with
  | config => value ≠ ""
  | workers | parts => (Decimal.toNatBelow? UInt64.size value.toList).isSome
  | output => (OutputFormat.ofName? value).isSome
  | _ => true

def common : List Switch := [verbose, config, workers, help]

/-- The options that can be given for an action, or before one. -/
def of : Option Action → List Switch
  | Option.none => common ++ [version]
  | some .session => load :: common
  | some .query => [load, sql, output] ++ common
  | some .explain => [load, sql, detailed] ++ common
  | some .slices => [file, parts] ++ common

end Switch

/-- An option that is given, with its values. -/
structure Given where
  switch : Switch
  values : List String
deriving DecidableEq, Repr

/-- Why arguments lead to no run of the program. -/
inductive Halt where
  /-- They do not make sense. -/
  | refused
  /-- The usage is asked for, of the program or of an action. -/
  | usage (action : Option Action)
  | version
deriving DecidableEq, Repr

/-- Arguments that have been read so far. -/
structure Reading where
  /-- The action, once there is one. -/
  action : Option Action := none
  /-- What was given before the action. -/
  outer : List Given := []
  /-- What was given since, the last one first. -/
  given : List Given := []
  /-- Whether the last option given still takes words as values. -/
  isOpen : Bool := false
  /-- Whether two dashes have ended the options. -/
  closed : Bool := false
  /-- Whether the usage is asked for by a word. -/
  asksUsage : Bool := false

namespace Reading

/-- Refuses to go on from an option that has none of its values yet. -/
def settled (r : Reading) : Except Halt Reading :=
  match r.given with
  | g :: _ => if g.values = [] ∧ g.switch.arity ≠ .none then .error .refused
    else .ok { r with isOpen := false }
  | [] => .ok r

/-- Gives an option without values. -/
def give (r : Reading) (s : Switch) : Except Halt Reading := do
  let r ← r.settled
  if s = .help then .error (.usage r.action)
  else if s = .version then .error .version
  else if !s.repeats && r.given.any (·.switch = s) then .error .refused
  else .ok { r with given := ⟨s, []⟩ :: r.given, isOpen := s.arity ≠ .none }

def value (r : Reading) (text : String) : Except Halt Reading :=
  match r.given with
  | [] => .error .refused
  | g :: gs =>
    if g.switch.accepts text then
      .ok { r with given := ⟨g.switch, g.values ++ [text]⟩ :: gs, isOpen := g.switch.arity = .many }
    else .error .refused

def attached (r : Reading) (text : String) : Except Halt Reading := do
  let r ← r.value text
  .ok { r with isOpen := false }

def named (r : Reading) (p : Switch → Bool) : Except Halt Switch :=
  match (Switch.of r.action).find? p with
  | some s => .ok s
  | none => .error .refused

/-- Reads an option by its name, with a value after an equals sign if there is one. -/
def long (r : Reading) (text : List Char) : Except Halt Reading := do
  let (name, attachment) := match Text.splitFirst? (· = '=') text with
    | some (name, value) => (name, some (String.ofList value))
    | none => (text, none)
  let s ← r.named fun s => s.name.toList = name
  match attachment with
  | none => r.give s
  | some value =>
    if s.arity = .none then .error .refused
    else do
      let r ← r.give s
      r.attached value

/-- Reads options by their letters; the rest of the word after one that takes a value is its
value. -/
def short (r : Reading) : List Char → Except Halt Reading
  | [] => .ok r
  | c :: cs => do
    let s ← r.named fun s => s.letter = c
    let r ← r.give s
    if s.arity = .none then short r cs
    else
      match cs with
      | [] => .ok r
      | '=' :: value => r.attached (String.ofList value)
      | value => r.attached (String.ofList value)

def word (r : Reading) (text : String) : Except Halt Reading :=
  if r.isOpen then r.value text
  else
    match r.action, Action.ofWord? text with
    | none, some action => .ok { r with action := some action, outer := r.given, given := [] }
    | none, none => if text = "help" then .ok { r with asksUsage := true } else .error .refused
    | some _, _ => .error .refused

def step (r : Reading) (text : String) : Except Halt Reading :=
  if r.closed then .error .refused
  else if r.asksUsage then r.word text
  else
    match text.toList with
    | ['-', '-'] => do
      let r ← r.settled
      .ok { r with closed := true }
    | '-' :: '-' :: cs => r.long cs
    | ['-'] => r.word text
    | '-' :: cs => r.short cs
    | _ => r.word text

/-- The values of an option; those given for the action go before those given ahead of it. -/
def values (r : Reading) (s : Switch) : List String :=
  let found (gs : List Given) := (gs.reverse.filter (·.switch = s)).flatMap Given.values
  match found r.given with
  | [] => found r.outer
  | vs => vs

def has (r : Reading) (s : Switch) : Bool := r.given.any (·.switch = s)

end Reading

/-- What a call of the program is for. -/
inductive Purpose where
  | session (load : List String)
  | query (load : List String) (sql : String) (output : Option OutputFormat)
  | explain (load : List String) (sql : String) (detailed : Bool)
  | slices (files : List String) (parts : Nat)
deriving DecidableEq, Repr

structure Invocation where
  /-- The file of preferences. -/
  config : Option String
  /-- The number of workers where the preferences are not to say it. -/
  workers : Option Nat
  purpose : Purpose
deriving DecidableEq, Repr

namespace Invocation

def count? (values : List String) : Option Nat :=
  values.head?.bind fun s => Decimal.toNatBelow? UInt64.size s.toList

def purpose? (r : Reading) : Action → Option Purpose
  | .session => some (.session (r.values .load))
  | .query => do
    let sql ← (r.values .sql).head?
    some (.query (r.values .load) sql ((r.values .output).head?.bind OutputFormat.ofName?))
  | .explain => do
    let sql ← (r.values .sql).head?
    some (.explain (r.values .load) sql (r.has .detailed))
  | .slices => do
    let parts ← count? (r.values .parts)
    match r.values .file with
    | [] => none
    | files => some (.slices files parts)

def ofReading (r : Reading) : Except Halt Invocation := do
  let r ← r.settled
  if r.asksUsage then .error (.usage r.action)
  match purpose? r (r.action.getD .session) with
  | some purpose => .ok ⟨(r.values .config).head?, count? (r.values .workers), purpose⟩
  | none => .error .refused

def read (arguments : List String) : Except Halt Invocation := do
  let r ← arguments.foldlM Reading.step {}
  ofReading r

end Invocation

end ShardQuery

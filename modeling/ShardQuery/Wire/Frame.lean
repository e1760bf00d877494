import ShardQuery.Wire.Message
import ShardQuery.Json.Reader
import ShardQuery.Json.Writer

namespace ShardQuery

/-- Why a frame was refused. -/
inductive FrameError where
  /-- No object with one number, so that nobody can be answered. -/
  | unreadable
  /-- No known operation, or wrong fields for it. -/
  | unrecognized (operation : String)
deriving DecidableEq, Repr

def FrameError.message : FrameError → String
  | unreadable => "Unreadable frame"
  | unrecognized operation => "Unrecognized message with operation '" ++ operation ++ "'"

namespace Frame

def write (seq : Nat) (operation : String) (fields : List (String × Json)) : String :=
  (Json.object (("seq", .ofNat seq) :: ("operation", .text operation) :: fields)).compact

/-- A frame taken apart: its number and the other fields. -/
structure Parts where
  seq : Nat
  body : Json
deriving Repr

/-- Takes a frame apart. A repeated field keeps its last value, but the number stands once. -/
def parts? (s : String) : Option Parts := do
  match ← Json.read? s with
  | .object members =>
    let seq ← (← Json.field? members "seq")
    let seq ← seq.word?
    some ⟨seq, (Json.object (members.filter (·.1 ≠ "seq"))).lastWins⟩
  | _ => none

def operation? : Json → Option String
  | .object members => (members.lookup "operation").bind Json.text?
  | _ => none

/--
Reads a frame whose messages are told by their operation and fields. The number is read first, since
a frame with a number can be answered even if its message is unknown.
-/
def read (ofFields? : String → Json → Option α) (s : String) :
    Except FrameError (Nat × Except FrameError α) :=
  match parts? s with
  | none => .error .unreadable
  | some p =>
    let message :=
      match operation? p.body with
      | none => .error (.unrecognized "<missing>")
      | some operation =>
        match ofFields? operation p.body with
        | some m => .ok m
        | none => .error (.unrecognized operation)
    .ok (p.seq, message)

end Frame

namespace Request

def write (seq : Nat) (r : Request) : String := Frame.write seq r.operation r.fields

def read (s : String) : Except FrameError (Nat × Except FrameError Request) :=
  Frame.read ofFields? s

end Request

namespace Reply

def write (seq : Nat) (r : Reply) : String := Frame.write seq r.operation r.fields

def read (s : String) : Except FrameError (Nat × Except FrameError Reply) :=
  Frame.read ofFields? s

end Reply

end ShardQuery

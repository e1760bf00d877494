import ShardQuery.Shell.Failure

namespace ShardQuery

/-- A part of what a command prints. -/
inductive Piece where
  | text (s : String)
  /-- The time that the operation took, in milliseconds. -/
  | elapsed
deriving DecidableEq, Repr

def Piece.shown (time : String) : Piece → String
  | text s => s
  | elapsed => time

/-- What a command has printed, and how it has ended. -/
structure Transcript (α : Type) where
  printed : List Piece
  result : Except ShellError α

namespace Transcript

/-- Goes on with the value of a command, unless it has failed. -/
def andThen (t : Transcript α) (f : α → Transcript β) : Transcript β :=
  match t.result with
  | .ok a => ⟨t.printed ++ (f a).printed, (f a).result⟩
  | .error e => ⟨t.printed, .error e⟩

instance : Monad Transcript where
  pure a := ⟨[], .ok a⟩
  bind := andThen

def print (pieces : List Piece) : Transcript Unit := ⟨pieces, .ok ()⟩

def say (s : String) : Transcript Unit := print [.text s]

def fail (e : ShellError) : Transcript α := ⟨[], .error e⟩

/-- A result that is not printed, its error as one of a command. -/
def ofExcept (f : ε → ShellError) (r : Except ε α) : Transcript α := ⟨[], r.mapError f⟩

def shown (time : String) (t : Transcript α) : String :=
  String.join (t.printed.map (Piece.shown time))

def failure? (t : Transcript α) : Option ShellError :=
  match t.result with
  | .ok _ => none
  | .error e => some e

theorem andThen_assoc (t : Transcript α) (f : α → Transcript β) (g : β → Transcript γ) :
    (t.andThen f).andThen g = t.andThen fun a => (f a).andThen g := by
  cases h : t.result with
  | error e => simp [andThen, h]
  | ok a => cases h' : (f a).result <;> simp [andThen, h, h']

end Transcript

end ShardQuery
